import Kawin.Kasvc.CompletionPort

/-!
# Exactly-once receiving

At any time a context is in one place: free, in the hands of one party, in a pending receive,
or in one packet of the port; or a worker dropped it because the service stopped.  `Located` says
so for every context, and what each place says of the buffer.  A step moves one context
from one place to another and leaves the others where they are (`Elsewhere`).

So no context ever has two receives outstanding, and a message that arrives for a pending receive
is passed on exactly once.  A message that `FilterGetMessage` returns with is never passed on:
`exactlyOnce_iff` says that a run is exact if and only if no such buffer is submitted again.
-/

namespace Kawin.Kasvc

open Transition

/-! ## Places -/

inductive Place
  | free
  | held (i : ℕ)
  | pending
  | queued (packet : Packet)
  /-- its worker left it when the service stopped -/
  | dropped

def Place.receives : Place → ℕ
  | .pending => 1
  | _ => 0

def Place.packets : Place → List Packet
  | .queued packet => [packet]
  | _ => []

/-- A message that arrived for a pending receive was passed on, one that `FilterGetMessage`
returned with was not. -/
def Buffer.Finished : Buffer → Prop
  | .empty => True
  | .message passes synchronous => passes = if synchronous then 0 else 1

def Party.Fits : Party → Buffer → Prop
  | .process _, buffer => buffer = .message 0 false
  | .post _ _, buffer => buffer = .message 0 true
  | _, buffer => buffer.Finished

/-- What the place of a context says of its buffer. -/
def Place.Fits (s : PortMachine) : Place → Buffer → Prop
  | .free, buffer | .dropped, buffer => buffer.Finished
  | .held i, buffer => (s.parties i).Fits buffer
  | .pending, buffer => buffer = .empty
  | .queued packet, buffer => packet.next.Fits buffer

/-- The context is in this place and in no other. -/
structure LocatedAt (s : PortMachine) (c : ℕ) (place : Place) : Prop where
  held : ∀ i, (s.parties i).context? = some c ↔ place = .held i
  outstanding : s.outstanding c = place.receives
  packets : s.packetsOf c = place.packets
  inUse : s.inUse c = false → place = .free
  buffer : place.Fits s (s.buffers c)

structure Located (s : PortMachine) : Prop where
  place : ∀ c, ∃ place, LocatedAt s c place
  submitted : ∀ buffer ∈ s.submitted, buffer.Finished

/-- Nothing about the context has changed. -/
structure Elsewhere (s t : PortMachine) (c : ℕ) : Prop where
  taken : ∀ i, (t.parties i).context? = some c → t.parties i = s.parties i
  kept : ∀ i, (s.parties i).context? = some c → t.parties i = s.parties i
  outstanding : t.outstanding c = s.outstanding c
  packets : t.packetsOf c = s.packetsOf c
  inUse : t.inUse c = s.inUse c
  buffers : t.buffers c = s.buffers c

section

variable {s t : PortMachine} {c d i j : ℕ} {place : Place} {party : Party} {buffer : Buffer}

theorem LocatedAt.elsewhere (h : LocatedAt s c place) (hsame : Elsewhere s t c) :
    LocatedAt t c place where
  held i := by
    rw [← h.held i]
    constructor
    · intro hi
      rwa [← hsame.taken i hi]
    · intro hi
      rwa [hsame.kept i hi]
  outstanding := hsame.outstanding.trans h.outstanding
  packets := hsame.packets.trans h.packets
  inUse hfree := h.inUse (hsame.inUse ▸ hfree)
  buffer := by
    have hbuffer := h.buffer
    rw [hsame.buffers]
    cases place with
    | held i =>
        rw [Place.Fits, hsame.kept i ((h.held i).mpr rfl)]
        exact hbuffer
    | _ => exact hbuffer

/-- One context moves to a new place, all others stay. -/
theorem Located.move (h : Located s) (hc : ∃ place, LocatedAt t c place)
    (hsame : ∀ d, d ≠ c → Elsewhere s t d)
    (hsubmitted : ∀ buffer ∈ t.submitted, buffer.Finished) : Located t where
  place d := by
    by_cases hd : d = c
    · rw [hd]
      exact hc
    · obtain ⟨place, hplace⟩ := h.place d
      exact ⟨place, hplace.elsewhere (hsame d hd)⟩
  submitted := hsubmitted

/-- No context moves. -/
theorem Located.stay (h : Located s) (hsame : ∀ d, Elsewhere s t d)
    (hsubmitted : t.submitted = s.submitted) : Located t where
  place d := by
    obtain ⟨place, hplace⟩ := h.place d
    exact ⟨place, hplace.elsewhere (hsame d)⟩
  submitted := hsubmitted ▸ h.submitted

/-- A party that has its hands on another context before and after its step. -/
theorem update_taken (hparty : party.context? ≠ some d)
    (hj : (Function.update s.parties i party j).context? = some d) :
    Function.update s.parties i party j = s.parties j := by
  by_cases hji : j = i
  · rw [hji, Function.update_self] at hj
    exact absurd hj hparty
  · exact Function.update_of_ne hji _ _

theorem update_kept (hi : (s.parties i).context? ≠ some d)
    (hj : (s.parties j).context? = some d) :
    Function.update s.parties i party j = s.parties j := by
  by_cases hji : j = i
  · rw [hji] at hj
    exact absurd hj hi
  · exact Function.update_of_ne hji _ _

theorem elsewhere_party (hi : (s.parties i).context? ≠ some d) (hparty : party.context? ≠ some d)
    (hparties : t.parties = Function.update s.parties i party)
    (houtstanding : t.outstanding d = s.outstanding d) (hpackets : t.packetsOf d = s.packetsOf d)
    (hinUse : t.inUse d = s.inUse d) (hbuffers : t.buffers d = s.buffers d) : Elsewhere s t d where
  taken j hj := by
    rw [hparties] at hj ⊢
    exact update_taken hparty hj
  kept j hj := by
    rw [hparties]
    exact update_kept hi hj
  outstanding := houtstanding
  packets := hpackets
  inUse := hinUse
  buffers := hbuffers

theorem elsewhere_goto (hi : (s.parties i).context? ≠ some d) (hparty : party.context? ≠ some d) :
    Elsewhere s (s.goto i party) d :=
  elsewhere_party hi hparty rfl rfl rfl rfl rfl

/-- The party is the only one that holds the context. -/
theorem held_goto_of_others (hothers : ∀ j, j ≠ i → (s.parties j).context? ≠ some c)
    (hparty : party.context? = some c) :
    ∀ j, (Function.update s.parties i party j).context? = some c ↔ Place.held i = .held j := by
  intro j
  by_cases hji : j = i
  · rw [hji, Function.update_self]
    exact iff_of_true hparty rfl
  · rw [Function.update_of_ne hji]
    exact iff_of_false (hothers j hji) fun heq => hji (by cases heq; rfl)

/-- The others do not hold what the party holds. -/
theorem others_of_held (h : LocatedAt s c (.held i)) {j : ℕ} (hji : j ≠ i) :
    (s.parties j).context? ≠ some c := by
  rw [Ne, h.held j]
  intro heq
  cases heq
  exact hji rfl

/-- The party goes on holding the context. -/
theorem held_goto (h : LocatedAt s c (.held i)) (hparty : party.context? = some c) :
    ∀ j, (Function.update s.parties i party j).context? = some c ↔ Place.held i = .held j :=
  held_goto_of_others (fun _ => others_of_held h) hparty

/-- The party lets go of the context. -/
theorem not_held_goto (h : LocatedAt s c (.held i)) (hparty : party.context? ≠ some c) :
    ∀ j, (Function.update s.parties i party j).context? ≠ some c := by
  intro j
  by_cases hji : j = i
  · rw [hji, Function.update_self]
    exact hparty
  · rw [Function.update_of_ne hji]
    exact others_of_held h hji

/-- The party takes a context that nobody held. -/
theorem held_goto_take (h : ∀ j, (s.parties j).context? ≠ some c)
    (hparty : party.context? = some c) :
    ∀ j, (Function.update s.parties i party j).context? = some c ↔ Place.held i = .held j :=
  held_goto_of_others (fun j _ => h j) hparty

theorem Located.held (h : Located s) (hi : (s.parties i).context? = some c) :
    LocatedAt s c (.held i) := by
  obtain ⟨place, hplace⟩ := h.place c
  obtain rfl := (hplace.held i).mp hi
  exact hplace

/-- A party has a context: it is in use, and nothing of it is in the kernel or in the port. -/
structure Holds (s : PortMachine) (i c : ℕ) (party : Party) : Prop where
  context : (s.parties i).context? = some c
  buffer : party.Fits (s.buffers c)
  outstanding : s.outstanding c = 0
  packets : s.packetsOf c = []
  inUse : s.inUse c ≠ false

theorem Located.holds (h : Located s) (hpc : s.parties i = party)
    (hparty : party.context? = some c) : Holds s i c party := by
  have hc : (s.parties i).context? = some c := by rw [hpc, hparty]
  have hloc := h.held hc
  have hbuffer := hloc.buffer
  rw [Place.Fits, hpc] at hbuffer
  refine ⟨hc, hbuffer, hloc.outstanding, hloc.packets, fun hfree => ?_⟩
  have hplace := hloc.inUse hfree
  cases hplace

theorem packetsOf_append {packet : Packet} (h : t.packets = s.packets ++ [packet]) :
    t.packetsOf d = s.packetsOf d ++ if packet.context = some d then [packet] else [] := by
  simp [PortMachine.packetsOf, h, List.filter_append, List.filter_singleton]

theorem packetsOf_append_self {packet : Packet} (h : t.packets = s.packets ++ [packet])
    (hcontext : packet.context = some c) (hnone : s.packetsOf c = []) :
    t.packetsOf c = [packet] := by
  rw [packetsOf_append h, hnone, if_pos hcontext, List.nil_append]

theorem packetsOf_append_of_ne {packet : Packet} (h : t.packets = s.packets ++ [packet])
    (hcontext : packet.context ≠ some d) : t.packetsOf d = s.packetsOf d := by
  rw [packetsOf_append h, if_neg hcontext, List.append_nil]

/-! ## Steps -/

/-- A party goes on holding a context, and changes its buffer at most. -/
theorem Located.keep (h : Located s) (hc : (s.parties i).context? = some c)
    (hparty : party.context? = some c)
    (hparties : t.parties = Function.update s.parties i party)
    (houtstanding : t.outstanding = s.outstanding) (hpackets : t.packets = s.packets)
    (hinUse : t.inUse = s.inUse) (hbuffers : ∀ d, d ≠ c → t.buffers d = s.buffers d)
    (hbuffer : party.Fits (t.buffers c))
    (hsubmitted : ∀ buffer ∈ t.submitted, buffer.Finished) : Located t := by
  have hloc := h.held hc
  have hpacketsOf (d : ℕ) : t.packetsOf d = s.packetsOf d := by
    rw [PortMachine.packetsOf, hpackets, PortMachine.packetsOf]
  have hplace : LocatedAt t c (.held i) := by
    constructor
    · rw [hparties]
      exact held_goto hloc hparty
    · rw [houtstanding]
      exact hloc.outstanding
    · rw [hpacketsOf]
      exact hloc.packets
    · rw [hinUse]
      exact hloc.inUse
    · rw [Place.Fits, hparties, Function.update_self]
      exact hbuffer
  refine h.move ⟨.held i, hplace⟩ (fun d hd => ?_) hsubmitted
  have hne : some c ≠ some d := fun heq => hd (Option.some.inj heq).symm
  refine elsewhere_party (hc ▸ hne) (hparty ▸ hne) hparties ?_ (hpacketsOf d) ?_ (hbuffers d hd)
  · rw [houtstanding]
  · rw [hinUse]

/-- A party goes on with the context it holds, or with none. -/
theorem Located.goto (h : Located s) (hcontext : party.context? = (s.parties i).context?)
    (hfits : ∀ c, (s.parties i).context? = some c → (s.parties i).Fits (s.buffers c) →
      party.Fits (s.buffers c)) : Located (s.goto i party) := by
  cases hc : (s.parties i).context? with
  | none =>
      rw [hc] at hcontext
      exact h.stay (fun d => elsewhere_goto (by rw [hc]; simp) (by rw [hcontext]; simp)) rfl
  | some c =>
      rw [hc] at hcontext
      have hbuffer := hfits c hc (h.holds rfl hc).buffer
      exact h.keep hc hcontext rfl rfl rfl rfl (fun _ _ => rfl) hbuffer h.submitted

/-- A party that holds no context goes on without one. -/
theorem Located.goto_idle (h : Located s) (hnone : (s.parties i).context? = none)
    (hparty : party.context? = none) : Located (s.goto i party) := by
  refine h.goto (hparty.trans hnone.symm) fun c hc => ?_
  rw [hnone] at hc
  cases hc

/-- A party that had no context takes one that nobody held. -/
theorem Located.take (h : Located s) (hnone : (s.parties i).context? = none)
    (hparty : party.context? = some c) (hplace : LocatedAt s c place)
    (hheld : ∀ j, place ≠ .held j) (hreceives : place.receives = 0)
    (hparties : t.parties = Function.update s.parties i party)
    (houtstanding : t.outstanding = s.outstanding) (hempty : t.packetsOf c = [])
    (hused : t.inUse c ≠ false) (hbuffers : t.buffers = s.buffers)
    (hbuffer : party.Fits (s.buffers c))
    (hsame : ∀ d, d ≠ c → t.packetsOf d = s.packetsOf d ∧ t.inUse d = s.inUse d)
    (hsubmitted : t.submitted = s.submitted) : Located t := by
  have hnobody : ∀ j, (s.parties j).context? ≠ some c :=
    fun j hj => hheld j ((hplace.held j).mp hj)
  have htaken : LocatedAt t c (.held i) := by
    constructor
    · rw [hparties]
      exact held_goto_take hnobody hparty
    · rw [houtstanding, hplace.outstanding, hreceives]
      rfl
    · exact hempty
    · exact fun hfree => absurd hfree hused
    · rw [Place.Fits, hparties, Function.update_self, hbuffers]
      exact hbuffer
  refine h.move ⟨.held i, htaken⟩ (fun d hd => ?_) (hsubmitted ▸ h.submitted)
  have hne : party.context? ≠ some d := by
    rw [hparty]
    exact fun heq => hd (Option.some.inj heq).symm
  obtain ⟨hp, hu⟩ := hsame d hd
  refine elsewhere_party (by rw [hnone]; simp) hne hparties ?_ hp hu ?_
  · rw [houtstanding]
  · rw [hbuffers]

/-- A party lets go of a context, which moves on to the kernel, to the port or to the free ones. -/
theorem Located.release (h : Located s) (place : Place) (hc : (s.parties i).context? = some c)
    (hparty : party.context? = none)
    (hparties : t.parties = Function.update s.parties i party)
    (houtstanding : t.outstanding c = place.receives) (hpackets : t.packetsOf c = place.packets)
    (hinUse : t.inUse c = false → place = .free) (hheld : ∀ j, place ≠ .held j)
    (hbuffer : place.Fits t (t.buffers c))
    (hsame : ∀ d, d ≠ c → t.outstanding d = s.outstanding d ∧ t.packetsOf d = s.packetsOf d ∧
      t.inUse d = s.inUse d ∧ t.buffers d = s.buffers d)
    (hsubmitted : ∀ buffer ∈ t.submitted, buffer.Finished) : Located t := by
  have hloc := h.held hc
  have hnone : party.context? ≠ some c := by
    rw [hparty]
    simp
  refine h.move ⟨place, fun j => ?_, houtstanding, hpackets, hinUse, hbuffer⟩ (fun d hd => ?_)
    hsubmitted
  · rw [hparties]
    exact iff_of_false (not_held_goto hloc hnone j) (hheld j)
  · obtain ⟨ho, hp, hu, hb⟩ := hsame d hd
    refine elsewhere_party ?_ ?_ hparties ho hp hu hb
    · rw [hc]
      exact fun heq => hd (Option.some.inj heq).symm
    · rw [hparty]
      simp

theorem afterSubmit_context (back : Option ℕ) : (afterSubmit back).context? = none := by
  cases back <;> rfl

/-- `AllocateContext` finds a context that is free. -/
theorem Located.allocate (h : Located s) (hnone : (s.parties i).context? = none) (left : ℕ)
    (hfound : s.freeContext? = some c) :
    Located { s.goto i (.check c (some left)) with inUse := Function.update s.inUse c true } := by
  have hunused : s.inUse c = false := by
    have hfound' := List.find?_some hfound
    simpa using hfound'
  obtain ⟨place, hplace⟩ := h.place c
  obtain rfl := hplace.inUse hunused
  exact h.take hnone rfl hplace (by simp) rfl rfl rfl hplace.packets (by simp) rfl hplace.buffer
    (fun d hd => ⟨rfl, Function.update_of_ne hd _ _⟩) rfl

theorem Located.advance (h : Located s) (hpc : s.parties i = party)
    (hstep : s.advance i party = some t) : Located t := by
  cases party with
  | loop =>
      cases hstep
      refine h.goto_idle (by rw [hpc]; rfl) ?_
      split <;> rfl
  | process c =>
      cases hstep
      have hholds := h.holds hpc rfl
      refine h.keep hholds.context rfl rfl rfl rfl rfl (fun d hd => Function.update_of_ne hd _ _) ?_
        h.submitted
      change Buffer.Finished (Function.update s.buffers c (s.buffers c).pass c)
      rw [Function.update_self, show s.buffers c = .message 0 false from hholds.buffer]
      exact rfl
  | resubmit c =>
      cases hstep
      have hholds := h.holds hpc rfl
      split
      · exact h.goto hholds.context.symm fun d hd hfits => by rw [hpc] at hfits; exact hfits
      · -- the context is dropped
        exact h.release .dropped hholds.context rfl rfl hholds.outstanding hholds.packets
          (fun hfree => absurd hfree hholds.inUse) (by simp) hholds.buffer
          (fun d _ => ⟨rfl, rfl, rfl, rfl⟩) h.submitted
  | check c back =>
      cases hstep
      have hholds := h.holds hpc rfl
      refine h.goto ?_ fun d hd hfits => ?_
      · rw [hholds.context]
        split <;> rfl
      · rw [hpc] at hfits
        split <;> exact hfits
  | post c back =>
      cases hstep
      have hholds := h.holds hpc rfl
      refine h.release (.queued ⟨some c, 0, true⟩) hholds.context (afterSubmit_context back) rfl
        hholds.outstanding (packetsOf_append_self rfl rfl hholds.packets)
        (fun hfree => absurd hfree hholds.inUse) (by simp) ?_
        (fun d hd => ⟨rfl, packetsOf_append_of_ne rfl ?_, rfl, rfl⟩) h.submitted
      · change Buffer.Finished (s.buffers c)
        rw [show s.buffers c = .message 0 true from hholds.buffer]
        exact rfl
      · exact fun heq => hd (Option.some.inj heq).symm
  | free c back =>
      cases hstep
      have hholds := h.holds hpc rfl
      exact h.release .free hholds.context (afterSubmit_context back) rfl hholds.outstanding
        hholds.packets (fun _ => rfl) (by simp) hholds.buffer
        (fun d hd => ⟨rfl, rfl, Function.update_of_ne hd _ _, rfl⟩) h.submitted
  | allocate left =>
      have hnone : (s.parties i).context? = none := by rw [hpc]; rfl
      cases left with
      | zero =>
          cases hstep
          exact h.goto_idle hnone rfl
      | succ left =>
          rw [PortMachine.advance] at hstep
          split at hstep
          · cases hstep
            exact h.goto_idle hnone rfl
          · split at hstep
            · cases hstep
              exact h.goto_idle hnone rfl
            · rename_i c hfound
              cases hstep
              exact h.allocate hnone left hfound
  | dequeue | getMessage | done => cases hstep

/-- A worker takes the oldest packet. -/
theorem Located.dequeue (h : Located s) (hpc : s.parties i = .dequeue) {packet : Packet}
    {rest : List Packet} (hpackets : s.packets = packet :: rest) :
    Located { s.goto i packet.next with packets := rest } := by
  have hnone : (s.parties i).context? = none := by rw [hpc]; rfl
  have hrest (d : ℕ) : s.packetsOf d =
      (if packet.context = some d then [packet] else []) ++
        { s.goto i packet.next with packets := rest }.packetsOf d := by
    simp only [PortMachine.packetsOf, hpackets, List.filter_cons]
    split <;> simp_all
  cases hcontext : packet.context with
  | none =>
      have hnext : packet.next = .loop := by rw [Packet.next, hcontext]
      refine h.stay (fun d => ?_) rfl
      refine elsewhere_party (by rw [hnone]; simp) (by rw [hnext]; simp [Party.context?]) rfl rfl ?_
        rfl rfl
      rw [hrest d, hcontext]
      rfl
  | some c =>
      have hnext : packet.next.context? = some c := by
        rw [Packet.next, hcontext]
        dsimp only
        split <;> rfl
      obtain ⟨place, hplace⟩ := h.place c
      have hqueued := hplace.packets
      rw [hrest c, if_pos hcontext] at hqueued
      -- the packet is where the context is
      cases place with
      | queued packet' =>
          obtain ⟨rfl, hempty⟩ := List.cons.inj hqueued
          refine h.take hnone hnext hplace (by simp) rfl rfl rfl hempty (fun hfree => ?_) rfl
            hplace.buffer (fun d hd => ⟨?_, rfl⟩) rfl
          · have hplace' := hplace.inUse hfree
            cases hplace'
          · have hne : packet.context ≠ some d := by
              rw [hcontext]
              exact fun heq => hd (Option.some.inj heq).symm
            rw [hrest d, if_neg hne]
            rfl
      | _ => cases hqueued

/-- `FilterGetMessage` returns. -/
theorem Located.getMessage (h : Located s) {back : Option ℕ}
    (hpc : s.parties i = .getMessage c back) {result : GetMessageResult}
    (hstep : portStep s (.getMessage i result) = some t) : Located t := by
  have hholds := h.holds hpc rfl
  have hsubmitted : ∀ buffer ∈ s.buffers c :: s.submitted, buffer.Finished :=
    List.forall_mem_cons.mpr ⟨hholds.buffer, h.submitted⟩
  simp only [portStep, hpc] at hstep
  cases result with
  | fails =>
      cases hstep
      exact h.goto hholds.context.symm fun d hd hfits => by rw [hpc] at hfits; exact hfits
  | pending =>
      cases hstep
      refine h.release .pending hholds.context (afterSubmit_context back) rfl ?_ hholds.packets
        (fun hfree => absurd hfree hholds.inUse) (by simp) (Function.update_self ..)
        (fun d hd => ⟨Function.update_of_ne hd _ _, rfl, rfl, Function.update_of_ne hd _ _⟩)
        hsubmitted
      calc Function.update s.outstanding c (s.outstanding c + 1) c
          = s.outstanding c + 1 := Function.update_self ..
        _ = 1 := by rw [hholds.outstanding]
  | succeeds =>
      cases hstep
      exact h.keep hholds.context rfl rfl rfl rfl rfl (fun d hd => Function.update_of_ne hd _ _)
        (Function.update_self ..) hsubmitted

/-- A pending receive is over: its packet goes into the port. -/
theorem Located.complete (h : Located s) {packet : Packet} (hpending : 0 < s.outstanding c)
    (hcontext : packet.context = some c) (hparties : t.parties = s.parties)
    (houtstanding : t.outstanding = Function.update s.outstanding c (s.outstanding c - 1))
    (hpackets : t.packets = s.packets ++ [packet]) (hinUse : t.inUse = s.inUse)
    (hsubmitted : t.submitted = s.submitted) (hbuffers : ∀ d, d ≠ c → t.buffers d = s.buffers d)
    (hfits : s.buffers c = .empty → packet.next.Fits (t.buffers c)) : Located t := by
  obtain ⟨place, hplace⟩ := h.place c
  have hreceives := hplace.outstanding
  cases place with
  | pending =>
      have hone : s.outstanding c = 1 := hreceives
      refine h.move ⟨.queued packet, ?_, ?_, packetsOf_append_self hpackets hcontext hplace.packets,
        fun hfree => ?_, hfits hplace.buffer⟩ (fun d hd => ?_) (hsubmitted ▸ h.submitted)
      · intro j
        rw [hparties, hplace.held j]
        simp
      · rw [houtstanding, Function.update_self, hone]
        rfl
      · rw [hinUse] at hfree
        have hplace' := hplace.inUse hfree
        cases hplace'
      · have hne : packet.context ≠ some d := by
          rw [hcontext]
          exact fun heq => hd (Option.some.inj heq).symm
        refine ⟨fun j _ => by rw [hparties], fun j _ => by rw [hparties], ?_,
          packetsOf_append_of_ne hpackets hne, by rw [hinUse], hbuffers d hd⟩
        rw [houtstanding, Function.update_of_ne hd]
  | _ => exact absurd hreceives (Nat.ne_of_gt hpending)

/-- **Step lemma.** -/
theorem Located.step (h : Located s) {action : PortAction} (hstep : portStep s action = some t) :
    Located t := by
  cases action with
  | advance i => exact h.advance rfl hstep
  | dequeue i =>
      cases hpc : s.parties i with
      | dequeue =>
          cases hpackets : s.packets with
          | nil => simp [portStep, hpc, hpackets] at hstep
          | cons packet rest =>
              simp only [portStep, hpc, hpackets] at hstep
              cases hstep
              exact h.dequeue hpc hpackets
      | _ => simp [portStep, hpc] at hstep
  | timeout i =>
      cases hpc : s.parties i with
      | dequeue =>
          simp only [portStep, hpc] at hstep
          cases hstep
          exact h.goto_idle (by rw [hpc]; rfl) rfl
      | _ => simp [portStep, hpc] at hstep
  | getMessage i result =>
      cases hpc : s.parties i with
      | getMessage c back => exact h.getMessage hpc hstep
      | _ => simp [portStep, hpc] at hstep
  | deliver c bytesTransferred =>
      rw [portStep] at hstep
      split at hstep
      · rename_i hpos
        cases hstep
        refine h.complete hpos.1 rfl rfl rfl rfl rfl rfl (fun d hd => Function.update_of_ne hd _ _)
          fun _ => ?_
        have hnext : Packet.next ⟨some c, bytesTransferred, true⟩ = .process c := by
          simp [Packet.next, hpos.2]
        rw [hnext]
        exact Function.update_self ..
      · cases hstep
  | fail c =>
      rw [portStep] at hstep
      split at hstep
      · rename_i hpos
        cases hstep
        refine h.complete hpos rfl rfl rfl rfl rfl rfl (fun _ _ => rfl) fun hempty => ?_
        change Buffer.Finished (s.buffers c)
        rw [hempty]
        trivial
      · cases hstep
  | stop =>
      cases hstep
      exact h.stay (fun d => ⟨fun _ _ => rfl, fun _ _ => rfl, rfl, rfl, rfl, rfl⟩) rfl
  | postDummy =>
      cases hstep
      exact h.stay (fun d => ⟨fun _ _ => rfl, fun _ _ => rfl, rfl,
        packetsOf_append_of_ne rfl (by simp), rfl, rfl⟩) rfl

theorem init_located (poolSize workerThreadCount concurrentOperations : ℕ) :
    Located (.init poolSize workerThreadCount concurrentOperations) where
  place c := by
    refine ⟨.free, fun i => ?_, rfl, rfl, fun _ => rfl, trivial⟩
    refine iff_of_false ?_ (by simp)
    simp only [PortMachine.init]
    split
    · simp [Party.context?]
    · split <;> simp [Party.context?]
  submitted _ hmem := absurd hmem List.not_mem_nil

/-! ## The law -/

theorem Buffer.Finished.passedOnce_iff (h : buffer.Finished) :
    buffer.PassedOnce ↔ buffer.synchronous = false := by
  cases buffer with
  | empty => exact iff_of_true trivial rfl
  | message passes synchronous =>
      have hpasses : passes = if synchronous then 0 else 1 := h
      subst hpasses
      cases synchronous <;> simp [Buffer.PassedOnce, Buffer.synchronous]

theorem Buffer.Finished.atMostOnce (h : buffer.Finished) : buffer.AtMostOnce := by
  cases buffer with
  | empty => trivial
  | message passes synchronous =>
      have hpasses : passes = if synchronous then 0 else 1 := h
      subst hpasses
      cases synchronous <;> simp [Buffer.AtMostOnce]

theorem Party.Fits.atMostOnce (h : party.Fits buffer) : buffer.AtMostOnce := by
  cases party with
  | process c =>
      obtain rfl : buffer = .message 0 false := h
      exact Nat.zero_le 1
  | post c back =>
      obtain rfl : buffer = .message 0 true := h
      exact Nat.zero_le 1
  | _ => exact Buffer.Finished.atMostOnce h

theorem LocatedAt.atMostOnce (h : LocatedAt s c place) : (s.buffers c).AtMostOnce := by
  have hbuffer := h.buffer
  cases place with
  | free => exact Buffer.Finished.atMostOnce hbuffer
  | held i => exact Party.Fits.atMostOnce hbuffer
  | pending =>
      rw [show s.buffers c = .empty from hbuffer]
      trivial
  | queued packet => exact Party.Fits.atMostOnce hbuffer
  | dropped => exact Buffer.Finished.atMostOnce hbuffer

theorem LocatedAt.outstanding_le (h : LocatedAt s c place) :
    s.outstanding c + (s.packetsOf c).length ≤ 1 := by
  rw [h.outstanding, h.packets]
  cases place <;> simp [Place.receives, Place.packets]

/-- No buffer was submitted whose last receive had succeeded at once. -/
def SubmittedPending (s : PortMachine) : Prop :=
  ∀ buffer ∈ s.submitted, buffer.synchronous = false

theorem Located.exactlyOnce_iff_submittedPending (h : Located s) :
    ExactlyOnce s ↔ SubmittedPending s := by
  constructor
  · exact fun hexact buffer hmem =>
      (h.submitted buffer hmem).passedOnce_iff.mp (hexact.submitted buffer hmem)
  · intro hpending
    constructor
    · exact fun buffer hmem => (h.submitted buffer hmem).passedOnce_iff.mpr (hpending buffer hmem)
    · intro c
      obtain ⟨place, hplace⟩ := h.place c
      exact hplace.atMostOnce
    · intro c
      obtain ⟨place, hplace⟩ := h.place c
      exact hplace.outstanding_le

theorem advance_submitted (hstep : s.advance i party = some t) : t.submitted = s.submitted := by
  cases party with
  | allocate left =>
      cases left with
      | zero =>
          cases hstep
          rfl
      | succ left =>
          rw [PortMachine.advance] at hstep
          split at hstep
          · cases hstep
            rfl
          · split at hstep <;> cases hstep <;> rfl
  | dequeue | getMessage | done => cases hstep
  | _ =>
      cases hstep
      rfl

/-- Only `FilterGetMessage` submits buffers. -/
theorem submitted_of_other {action : PortAction} (hstep : portStep s action = some t)
    (hother : ∀ i result, action ≠ .getMessage i result) : t.submitted = s.submitted := by
  cases action with
  | advance i => exact advance_submitted hstep
  | dequeue i =>
      simp only [portStep] at hstep
      split at hstep <;> cases hstep
      rfl
  | timeout i =>
      simp only [portStep] at hstep
      split at hstep <;> cases hstep
      rfl
  | getMessage i result => exact absurd rfl (hother i result)
  | deliver c bytesTransferred =>
      rw [portStep] at hstep
      split at hstep <;> cases hstep
      rfl
  | fail c =>
      rw [portStep] at hstep
      split at hstep <;> cases hstep
      rfl
  | stop | postDummy =>
      cases hstep
      rfl

/-- What a step does to the submitted buffers. -/
theorem submittedPending_step {action : PortAction} (hstep : portStep s action = some t) :
    SubmittedPending t ↔ SubmittedPending s ∧ NotSynchronous s action := by
  have hother (hsame : t.submitted = s.submitted) (hfree : NotSynchronous s action) :
      SubmittedPending t ↔ SubmittedPending s ∧ NotSynchronous s action := by
    rw [SubmittedPending, hsame]
    exact (and_iff_left hfree).symm
  cases action with
  | getMessage i result =>
      cases hpc : s.parties i with
      | getMessage c back =>
          have hcondition : NotSynchronous s (.getMessage i result) ↔
              result = .fails ∨ (s.buffers c).synchronous = false := by
            simp only [NotSynchronous, hpc]
          rw [hcondition]
          simp only [portStep, hpc] at hstep
          cases result with
          | fails =>
              cases hstep
              simp [SubmittedPending, PortMachine.goto]
          | pending | succeeds =>
              cases hstep
              simp [SubmittedPending, and_comm]
      | _ => simp [portStep, hpc] at hstep
  | _ => exact hother (submitted_of_other hstep (by simp)) trivial

end

/-- **Exactly-once, exactly.**  In a run of the workers every message is passed on exactly once
before its buffer is submitted again, and no context has two receives outstanding, if and only
if no buffer is submitted again whose last receive succeeded at once. -/
theorem exactlyOnce_iff (poolSize workerThreadCount concurrentOperations : ℕ)
    (actions : List PortAction) (s : PortMachine)
    (hsteps : steps portStep (.init poolSize workerThreadCount concurrentOperations) actions =
      some s) :
    ExactlyOnce s ↔ Allowed portStep NotSynchronous
      (.init poolSize workerThreadCount concurrentOperations) actions := by
  have hinit := init_located poolSize workerThreadCount concurrentOperations
  have hlocated : Located s :=
    (reaches_of_steps hsteps).invariant hinit fun _ _ _ h _ hstep => h.step hstep
  have hiff := holds_iff_allowed Located SubmittedPending
    (fun _ _ _ h hstep => ⟨h.step hstep, submittedPending_step hstep⟩) hinit hsteps
  rw [hlocated.exactlyOnce_iff_submittedPending, hiff]
  exact and_iff_right fun _ hmem => absurd hmem List.not_mem_nil

/-- One context and one worker: `Connect` submits a receive, a message arrives, the worker passes it
on and submits the buffer again. -/
private def receiveAndResubmit : List PortAction :=
  [.advance 0, .advance 0, .getMessage 0 .pending, .advance 1, .deliver 0 82, .dequeue 1, .advance 1,
    .advance 1, .advance 1, .getMessage 1 .pending]

/-- The first receive succeeds at once; the worker takes its packet and submits the buffer
again. -/
private def succeedAtOnce : List PortAction :=
  [.advance 0, .advance 0, .getMessage 0 .succeeds, .advance 0, .advance 1, .dequeue 1, .advance 1,
    .advance 1, .getMessage 1 .pending]

/-- Where a run of one worker ends. -/
private def oneWorkerAfter (actions : List PortAction) : PortMachine :=
  (steps portStep (.init 1 1 1) actions).getD (.init 1 1 1)

/-- The theorem at a message that arrives. -/
theorem exactlyOnce_delivered : ExactlyOnce (oneWorkerAfter receiveAndResubmit) ↔
    Allowed portStep NotSynchronous (.init 1 1 1) receiveAndResubmit :=
  exactlyOnce_iff 1 1 1 receiveAndResubmit (oneWorkerAfter receiveAndResubmit) rfl

/-- A message that is there at once is overwritten unread. -/
theorem not_exactlyOnce : ¬∀ poolSize workerThreadCount concurrentOperations actions s,
    steps portStep (.init poolSize workerThreadCount concurrentOperations) actions = some s →
    ExactlyOnce s := by
  intro hexact
  have h := (hexact 1 1 1 succeedAtOnce (oneWorkerAfter succeedAtOnce) rfl).submitted
    (.message 0 true) (by decide)
  exact absurd h (by simp [Buffer.PassedOnce])

end Kawin.Kasvc
