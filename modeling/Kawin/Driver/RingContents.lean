import Kawin.Base.LossyQueue
import Kawin.Base.Recording
import Kawin.Base.TracedMemory
import Kawin.Driver.Accounting

/-!
# The events in the ring

What the ring is for: the events that `ProduceSlot` calls put into it come out of `ConsumeOne`,
unchanged and in the order in which their slots were claimed.  Here this is shown of every orderly
run, whatever the calls do beside one another: the ring is a `LossyQueue`, whose items are the
bytes of the events (`eventsInOrder`).  An event enters the queue with the
compare-exchange that claims its slot, long before its bytes are in the ring; it leaves it when
`ConsumeOne` moves the read head over the slot, with the event in `m_sendBuf` or, if the slot was
poisoned, without.

`Contents s events` is the invariant, for the events by the number of their claim.  Between its copy
and the release of its slot the event stands in the ring (`stored`), since all that is
written meanwhile lies in other regions; and between the copy of the consumer and the return
it stands in the send buffer (`sent`).
-/

namespace Kawin.Driver

open ByteMemory LossyQueue Transition

/-- The bytes of an event. -/
def Payload.toList (event : Payload) : List Byte := firstBytes event.bytes event.size.toNat

/-- What a step does to the queue of events. -/
def ringNotes (s : RingMachine) : RingAction → List (Note (List Byte))
  | .producer i =>
      match s.producers i with
      | .exchange event cur =>
          if s.disp.writeHead = cur ∧ wraps cur (stride event.size) = false then
            [.put event.toPayload.toList]
          else []
      | _ => []
  | .consumer =>
      match s.consumer with
      | .advanceSlot payload => [.got (firstBytes s.disp.sendBuf payload.toNat)]
      | .advancePoisoned _ => [.lost]
      | _ => []
  | .tick | .produce _ _ | .consume => []

/-- The event of the region is in the ring: its call is about to commit it, or has done so. -/
def Copied (s : RingMachine) (k : ℕ) : Prop :=
  s.progress k = .committed ∨ ∃ i f, s.producers i = .commit f ∧ f.index = k

/-- The event at the read head is in the send buffer. -/
def Consumer.copied : Consumer → Prop
  | .freeSlot _ | .advanceSlot _ => True
  | _ => False

/-- `events k` is the event of claim `k`, if that claim is an event slot. -/
structure Contents (s : RingMachine) (events : ℕ → List Byte) : Prop where
  filled : ∀ i f, (s.producers i).fill? = some f → f.kind = .slot →
    f.event.toPayload.toList = events f.index
  sized : ∀ k r, s.claims[k]? = some r → r.kind = .slot → (events k).length = r.payload
  stored : ∀ k r, s.claims[k]? = some r → s.consumed ≤ k →
    (s.consumer.releasing → s.consumed < k) → r.kind = .slot → Copied s k →
    Carries s.disp.ring (payloadOf r.hdr) (events k)
  sent : s.consumer.copied → Carries s.disp.sendBuf 0 (events s.consumed)

/-- The events in the ring, oldest first. -/
def liveEvents (s : RingMachine) (events : ℕ → List Byte) : List (List Byte) :=
  ((s.claims.zipIdx.drop s.consumed).filter fun p => p.1.isSlot).map fun p => events p.2

theorem init_contents (outside : Memory) (freq : UINT64) (events : ℕ → List Byte) :
    Contents (RingMachine.init outside freq) events where
  filled := by simp [RingMachine.init, Producer.fill?]
  sized := by simp [RingMachine.init, RingMachine.claims, Dispatcher.init]
  stored := by simp [RingMachine.init, RingMachine.claims, Dispatcher.init]
  sent := by simp [RingMachine.init, Consumer.copied]

/-! ## Bytes and regions -/

section

variable {s s' : RingMachine} {events : ℕ → List Byte} {i k : ℕ} {f : Fill} {r : Region}

theorem Contents.payload_within (h : Contents s events) (hi : Interleaved s)
    (hr : s.claims[k]? = some r) (hk : s.consumed ≤ k) (hslot : r.kind = .slot) :
    (events k).length + 28 ≤ r.len := by
  rw [h.sized k r hr hslot]
  exact (hi.ordered.shaped r (mem_live_of_getElem? hr hk)).payload_le

/-- A write inside another region, which the ring has not come round to, misses the event. -/
theorem Contents.carries_of_ne (h : Contents s events) (hi : Interleaved s)
    (hr : s.claims[k]? = some r) (hk : s.consumed ≤ k) (hslot : r.kind = .slot) {j : ℕ}
    {q : Region} (hq : s.claims[j]? = some q) (hne : k ≠ j)
    (hlap : s.disp.history.writeTotal ≤ q.start + asyncRingBytes.toNat) {b n : ℕ}
    (hlow : q.hdr ≤ b) (hhigh : b + n ≤ q.hdr + q.len) {source : Memory}
    (hcarries : Carries s.disp.ring (payloadOf r.hdr) (events k)) :
    Carries (copy s.disp.ring b n source) (payloadOf r.hdr) (events k) := by
  have hwithin := h.payload_within hi hr hk hslot
  have hdisj := hi.ordered.disjoint_of_ne hr hk hq hne hlap
  rw [payloadOf_eq] at hcarries ⊢
  exact hcarries.copy_of_disjoint (hdisj.mono (by omega) (by omega) hlow hhigh)

end

/-! ## Steps of the producers -/

/-- The calls and the consumer stand elsewhere, but no new event is in the ring. -/
structure SameContents (s s' : RingMachine) : Prop where
  ring : s'.disp.ring = s.disp.ring
  history : s'.disp.history = s.disp.history
  sendBuf : s'.disp.sendBuf = s.disp.sendBuf
  fills : ∀ i, (s'.producers i).fill? = (s.producers i).fill?
  copied : ∀ k r, s.claims[k]? = some r → r.kind = .slot → Copied s' k → Copied s k
  released : s.consumer.releasing → s'.consumer.releasing
  sent : s'.consumer.copied → s.consumer.copied

section

variable {s s' : RingMachine} {events : ℕ → List Byte} {i k : ℕ} {f : Fill} {r : Region}

theorem Contents.congr (h : Contents s events) (hsame : SameContents s s') :
    Contents s' events := by
  have hclaims : s'.claims = s.claims := congrArg History.claims hsame.history
  have hconsumed : s'.consumed = s.consumed := congrArg History.consumed hsame.history
  refine ⟨?_, ?_, ?_, ?_⟩
  · intro j g hg
    exact h.filled j g ((hsame.fills j).symm.trans hg)
  · rw [hclaims]
    exact h.sized
  · intro k r hr hk hreleasing hslot hcopied
    rw [hclaims] at hr
    rw [hconsumed] at hk hreleasing
    rw [hsame.ring]
    exact h.stored k r hr hk (fun hold => hreleasing (hsame.released hold)) hslot
      (hsame.copied k r hr hslot hcopied)
  · intro hsent
    rw [hsame.sendBuf, hconsumed]
    exact h.sent (hsame.sent hsent)

/-- A call goes on without touching the ring. -/
theorem sameContents_goto (h : Interleaved s) {pc : Producer} {d : Dispatcher}
    (hfill : pc.fill? = (s.producers i).fill?) (hring : d.ring = s.disp.ring)
    (hhistory : d.history = s.disp.history) (hsend : d.sendBuf = s.disp.sendBuf)
    (hpad : ∀ f, pc = .commit f → f.kind = .pad) :
    SameContents s { s.goto i pc with disp := d } where
  ring := hring
  history := hhistory
  sendBuf := hsend
  fills j := by
    by_cases hj : j = i
    · rw [hj, ← hfill]
      exact congrArg Producer.fill? RingMachine.goto_self
    · exact congrArg Producer.fill? (RingMachine.goto_of_ne hj)
  copied := by
    rintro k r hr hslot (hcommitted | ⟨j, f, hf, hindex⟩)
    · exact Or.inl hcommitted
    · refine Or.inr ⟨j, f, ?_, hindex⟩
      by_cases hj : j = i
      · -- a call that is about to commit a pad
        have hpc : pc = .commit f := by
          rw [hj] at hf
          exact RingMachine.goto_self.symm.trans hf
        obtain ⟨q, hq, hof, -⟩ := h.owner i f (by rw [← hfill, hpc]; rfl)
        rw [hindex] at hq
        obtain rfl : q = r := Option.some.inj (hq.symm.trans hr)
        rw [hof.kind, hpad f hpc] at hslot
        cases hslot
      · exact (RingMachine.goto_of_ne hj).symm.trans hf
  released := id
  sent := id

/-- A store for one region brings no other event into the ring. -/
theorem copied_of_write {ring : Memory} {pc : Producer} {k : ℕ} (hk : k ≠ f.index)
    (hcommit : ∀ g, pc = .commit g → g.index = f.index) (h : Copied (s.write i f ring pc) k) :
    Copied s k := by
  rcases h with hcommitted | ⟨j, g, hg, hindex⟩
  · rw [RingMachine.write_progress_of_ne hk] at hcommitted
    exact Or.inl hcommitted
  · by_cases hj : j = i
    · rw [hj, RingMachine.write_self] at hg
      exact absurd (hindex.symm.trans (hcommit g hg)) hk
    · rw [RingMachine.write_of_ne hj] at hg
      exact Or.inr ⟨j, g, hg, hindex⟩

/-- A store to the header of a region leaves the events where they are. -/
theorem Contents.writeField (h : Contents s events) (hi : Interleaved s) {field : Field} {v : ℕ}
    {pc : Producer} (hf : (s.producers i).fill? = some f) (hlap : NotLapped s f.index)
    (hpc : pc.fill? = some f ∨ s.producers i = .commit f ∧ pc.fill? = none)
    (hcommit : ∀ g, pc ≠ .commit g) :
    Contents (s.write i f (field.set s.disp.ring f.hdr v) pc) events := by
  obtain ⟨q, hq, hof, -⟩ := hi.owner i f hf
  have hwithin := field.offset_add_width_le
  have hheader := hof.shaped.header
  have hfills : ∀ {j g},
      ((s.write i f (field.set s.disp.ring f.hdr v) pc).producers j).fill? = some g →
      (s.producers j).fill? = some g :=
    RingMachine.fill_of_write hf (hpc.imp_right And.right)
  refine ⟨fun j g hg => h.filled j g (hfills hg), h.sized, ?_, h.sent⟩
  intro k r hr hk hreleasing hslot hcopied
  -- the event was in the ring before
  have hbefore : Copied s k := by
    by_cases hkf : k = f.index
    · subst hkf
      rcases hcopied with hcommitted | ⟨j, g, hg, hindex⟩
      · rw [RingMachine.write_progress_self] at hcommitted
        rcases hpc with hfilling | ⟨hcommit, -⟩
        · exact absurd hcommitted (progress_ne_of_fill hfilling)
        · exact Or.inr ⟨i, f, hcommit, rfl⟩
      · have hj : j ≠ i := by
          rintro rfl
          exact hcommit g (RingMachine.write_self.symm.trans hg)
        rw [RingMachine.write_of_ne hj] at hg
        exact Or.inr ⟨j, g, hg, hindex⟩
    · exact copied_of_write hkf (fun g hg => absurd hg (hcommit g)) hcopied
  have hcarries := h.stored k r hr hk hreleasing hslot hbefore
  by_cases hkf : k = f.index
  · -- the payload lies behind the header
    subst hkf
    obtain rfl : q = r := Option.some.inj (hq.symm.trans hr)
    rw [payloadOf_eq] at hcarries ⊢
    rw [hof.hdr]
    exact hcarries.copy_of_disjoint (Or.inr (by omega))
  · refine h.carries_of_ne hi hr hk hslot hq hkf (hlap q hq) ?_ ?_ hcarries
    · rw [hof.hdr]
      exact Nat.le_add_right _ _
    · rw [hof.hdr]
      omega

/-- The copy of the payload brings its event into the ring. -/
theorem Contents.copyPayload (h : Contents s events) (hi : Interleaved s)
    (hpc : s.producers i = .copyPayload f) (hlap : NotLapped s f.index) :
    Contents (s.write i f (copy s.disp.ring (payloadOf f.hdr) f.event.size.toNat f.event.bytes)
      (.commit f)) events := by
  have hf : (s.producers i).fill? = some f := by rw [hpc]; rfl
  obtain ⟨q, hq, hof, -, hkind⟩ := hi.owner i f hf
  rw [hpc] at hkind
  have hpayload := hof.payload_le_of_slot hkind
  have hevent : f.event.toPayload.toList = events f.index := h.filled i f hf hkind
  refine ⟨fun j g hg => h.filled j g (RingMachine.fill_of_write hf (Or.inl rfl) hg), h.sized, ?_,
    h.sent⟩
  intro k r hr hk hreleasing hslot hcopied
  by_cases hkf : k = f.index
  · subst hkf
    obtain rfl : q = r := Option.some.inj (hq.symm.trans hr)
    rw [← hevent, hof.hdr]
    exact carries_copy_firstBytes
  · have hbefore : Copied s k := copied_of_write hkf (fun g hg => by cases hg; rfl) hcopied
    refine h.carries_of_ne hi hr hk hslot hq hkf (hlap q hq) ?_ ?_
      (h.stored k r hr hk hreleasing hslot hbefore)
    · rw [payloadOf_eq, hof.hdr]
      exact Nat.le_add_right _ _
    · rw [payloadOf_eq, hof.hdr]
      omega

/-- Behind a claim a region is an older one, or the one that it claims. -/
theorem claims_of_claim {kind : RegionKind} {len payload : UINT32} {pc : Producer} {k : ℕ}
    {r : Region} (hr : (s.claim i kind len payload pc).claims[k]? = some r) :
    s.claims[k]? = some r ∨ k = s.claims.length ∧ r.kind = kind ∧ r.payload = payload.toNat := by
  rw [RingMachine.claim_claims] at hr
  by_cases hk : k < s.claims.length
  · rw [List.getElem?_append_left hk] at hr
    exact Or.inl hr
  · have hlen := (List.getElem?_eq_some_iff.mp hr).1
    rw [List.length_append, List.length_singleton] at hlen
    obtain rfl : k = s.claims.length := by omega
    rw [List.getElem?_concat_length] at hr
    obtain rfl := Option.some.inj hr
    exact Or.inr ⟨rfl, rfl, rfl⟩

/-- A claim brings no event into the ring: nobody has filled the new region yet. -/
theorem copied_of_claim (hi : Interleaved s) {kind : RegionKind} {len payload : UINT32}
    {pc : Producer} (hpc : ∀ g, pc ≠ .commit g) {k : ℕ}
    (h : Copied (s.claim i kind len payload pc) k) : k ≠ s.claims.length ∧ Copied s k := by
  rcases h with hcommitted | ⟨j, g, hg, hindex⟩
  · have hk : k ≠ s.claims.length := by
      rintro rfl
      rw [RingMachine.claim_progress_self] at hcommitted
      cases hcommitted
    rw [RingMachine.claim_progress_of_ne hk] at hcommitted
    exact ⟨hk, Or.inl hcommitted⟩
  · have hj : j ≠ i := by
      rintro rfl
      exact hpc g (RingMachine.claim_self.symm.trans hg)
    rw [RingMachine.claim_of_ne hj] at hg
    obtain ⟨q, hq, -⟩ := hi.owner j g (by rw [hg]; rfl)
    rw [hindex] at hq
    exact ⟨(List.getElem?_eq_some_iff.mp hq).1.ne, Or.inr ⟨j, g, hg, hindex⟩⟩

/-- A claim adds its event, if it is a slot, and no event to those in the ring. -/
theorem Contents.claim (h : Contents s events) (hi : Interleaved s) {kind : RegionKind}
    {len payload : UINT32} {pc : Producer} {events' : ℕ → List Byte}
    (hpc : ∀ g, pc ≠ .commit g)
    (hold : ∀ k < s.claims.length, events' k = events k)
    (hfill : ∀ f, pc.fill? = some f → f.kind = .slot →
      f.event.toPayload.toList = events' f.index)
    (hsize : kind = .slot → (events' s.claims.length).length = payload.toNat) :
    Contents (s.claim i kind len payload pc) events' := by
  have hlt : ∀ {k r}, s.claims[k]? = some r → k < s.claims.length :=
    fun hk => (List.getElem?_eq_some_iff.mp hk).1
  refine ⟨?_, ?_, ?_, ?_⟩
  · intro j g hg hslot
    rcases RingMachine.fill_of_claim hg with ⟨-, hg⟩ | ⟨-, hg⟩
    · exact hfill g hg hslot
    · obtain ⟨r, hr, -⟩ := hi.owner j g hg
      rw [hold _ (hlt hr)]
      exact h.filled j g hg hslot
  · intro k r hr hslot
    rcases claims_of_claim hr with hr | ⟨rfl, rfl, hpayload⟩
    · rw [hold k (hlt hr)]
      exact h.sized k r hr hslot
    · rw [hsize hslot, hpayload]
  · intro k r hr hk hreleasing hslot hcopied
    obtain ⟨hne, hbefore⟩ := copied_of_claim hi hpc hcopied
    have hr : s.claims[k]? = some r := (claims_of_claim hr).resolve_right fun h => hne h.1
    rw [hold k (hlt hr)]
    exact h.stored k r hr hk hreleasing hslot hbefore
  · intro hsent
    have hconsumer : ∃ r, s.Oldest r := by
      obtain ⟨r, hr, -⟩ := hi.oldest fun hbetween => by
        cases hc : s.consumer <;> simp_all [Consumer.between, Consumer.copied]
      exact ⟨r, hr⟩
    obtain ⟨r, hr⟩ := hconsumer
    show Carries s.disp.sendBuf 0 (events' s.consumed)
    rw [hold _ (hlt hr)]
    exact h.sent hsent

end

/-! ## The queue of events -/

section

variable {s s' : RingMachine} {events events' : ℕ → List Byte} {i : ℕ} {r : Region}

theorem liveEvents_congr (hclaims : s'.claims = s.claims) (hconsumed : s'.consumed = s.consumed) :
    liveEvents s' events = liveEvents s events := by
  rw [liveEvents, liveEvents, hclaims, hconsumed]

/-- A claimed slot joins the queue at the back. -/
theorem liveEvents_claim (hi : Interleaved s) {kind : RegionKind} {len payload : UINT32}
    {pc : Producer} (hold : ∀ k < s.claims.length, events' k = events k) :
    liveEvents (s.claim i kind len payload pc) events' =
      liveEvents s events ++ if kind = .slot then [events' s.claims.length] else [] := by
  have hle : s.consumed ≤ s.claims.zipIdx.length := by
    rw [List.length_zipIdx]
    exact hi.ordered.consumed_le
  have hkept : ∀ p ∈ (s.claims.zipIdx.drop s.consumed).filter (fun p => p.1.isSlot),
      events' p.2 = events p.2 := by
    intro p hp
    have hlt := (List.mem_zipIdx (List.mem_of_mem_drop (List.mem_of_mem_filter hp))).2.1
    exact hold p.2 (by omega)
  rw [liveEvents, liveEvents, RingMachine.claim_claims, List.zipIdx_append,
    show (s.claim i kind len payload pc).consumed = s.consumed from rfl,
    List.drop_append_of_le_length hle, List.filter_append, List.map_append,
    List.map_congr_left hkept]
  congr 1
  by_cases hkind : kind = .slot
  · simp [hkind, Region.isSlot]
  · simp [hkind, Region.isSlot]

/-- The oldest region leaves the queue at the front. -/
theorem liveEvents_take (hr : s.Oldest r) (n : UINT32) (pc : Consumer) :
    liveEvents s events =
      (if r.kind = .slot then [events s.consumed] else []) ++ liveEvents (s.take n pc) events := by
  have hlt : s.consumed < s.claims.zipIdx.length := by
    rw [List.length_zipIdx]
    exact (List.getElem?_eq_some_iff.mp hr).1
  have hfront : s.claims.zipIdx[s.consumed] = (r, s.consumed) := by
    rw [List.getElem_zipIdx, Nat.zero_add, (List.getElem?_eq_some_iff.mp hr).2]
  rw [liveEvents, List.drop_eq_getElem_cons hlt, hfront, List.filter_cons]
  by_cases hkind : r.kind = .slot
  · simp [hkind, Region.isSlot, liveEvents, RingMachine.take, RingMachine.claims,
      RingMachine.consumed, Dispatcher.take, Dispatcher.advance]
  · simp [hkind, Region.isSlot, liveEvents, RingMachine.take, RingMachine.claims,
      RingMachine.consumed, Dispatcher.take, Dispatcher.advance]

/-- There are as many events in the queue as live slots in the ring. -/
theorem length_liveEvents (s : RingMachine) (events : ℕ → List Byte) :
    (liveEvents s events).length = liveSlots s.disp := by
  rw [liveEvents, List.length_map, ← List.countP_eq_length_filter]
  calc (s.claims.zipIdx.drop s.consumed).countP (Region.isSlot ∘ Prod.fst)
      = ((s.claims.zipIdx.drop s.consumed).map Prod.fst).countP Region.isSlot :=
        (List.countP_map ..).symm
    _ = liveSlots s.disp := by
        rw [List.map_drop, List.zipIdx_map_fst]
        rfl

/-- The state after a step carries on with the contents, and the queue has done what the step
notes. -/
def CarriesOn (s s' : RingMachine) (events : ℕ → List Byte) (noted : List (Note (List Byte))) :
    Prop :=
  ∃ events', Contents s' events' ∧ ∀ notes, Explains notes (liveEvents s events) →
    Explains (notes ++ noted) (liveEvents s' events')

/-- The queue is left as it is. -/
theorem carriesOn_of_same (h : Contents s' events)
    (hclaims : s'.claims = s.claims) (hconsumed : s'.consumed = s.consumed) :
    CarriesOn s s' events [] := by
  refine ⟨events, h, fun notes hnotes => ?_⟩
  rw [List.append_nil, liveEvents_congr hclaims hconsumed]
  exact hnotes

theorem SameContents.carriesOn (hsame : SameContents s s') (h : Contents s events) :
    CarriesOn s s' events [] :=
  carriesOn_of_same (h.congr hsame) (congrArg History.claims hsame.history)
    (congrArg History.consumed hsame.history)

/-- The compare-exchange of a call puts its event into the queue, or claims the pad before it. -/
theorem Contents.exchange (h : Contents s events) (hi : Interleaved s) {event : Accepted}
    {cur : LONG} (hpc : s.producers i = .exchange event cur) :
    CarriesOn s (exchangeStep s i event cur) events (ringNotes s (.producer i)) := by
  unfold exchangeStep
  dsimp only
  by_cases hcur : s.disp.writeHead = cur
  · rw [if_neg (not_not.mpr hcur)]
    by_cases hwraps : wraps cur (stride event.size) = true
    · -- a pad carries no event
      have hnone : ringNotes s (.producer i) = [] := by simp [ringNotes, hpc, hwraps]
      have hkind : wrapKind cur ≠ .slot := by
        unfold wrapKind
        split
        · exact RegionKind.noConfusion
        · exact RegionKind.noConfusion
      rw [if_pos hwraps, hnone]
      refine ⟨events, ?_, fun notes hnotes => ?_⟩
      · apply h.claim hi
        · intro g
          split
          · exact Producer.noConfusion
          · exact Producer.noConfusion
        · exact fun _ _ => rfl
        · intro f hf hslot
          split at hf
          · obtain rfl := Option.some.inj hf
            cases hslot
          · cases hf
        · exact fun hslot => absurd hslot hkind
      · rw [List.append_nil, liveEvents_claim hi (fun _ _ => rfl), if_neg hkind, List.append_nil]
        exact hnotes
    · have hput : ringNotes s (.producer i) = [.put event.toPayload.toList] := by
        simp [ringNotes, hpc, hcur, hwraps]
      rw [if_neg hwraps, hput]
      refine ⟨Function.update events s.claims.length event.toPayload.toList, ?_,
        fun notes hnotes => ?_⟩
      · apply h.claim hi
        · exact fun g => Producer.noConfusion
        · exact fun k hk => Function.update_of_ne hk.ne ..
        · intro f hf _
          obtain rfl := Option.some.inj hf
          simp
        · intro _
          rw [Function.update_self]
          exact length_firstBytes _ _
      · rw [liveEvents_claim hi fun k hk => Function.update_of_ne hk.ne .., if_pos rfl,
          Function.update_self]
        exact hnotes.put _
  · have hnone : ringNotes s (.producer i) = [] := by simp [ringNotes, hpc, hcur]
    rw [if_pos hcur, hnone]
    exact (sameContents_goto hi (by rw [hpc]; rfl) rfl rfl rfl
      fun f => Producer.noConfusion).carriesOn h

theorem Contents.producer (h : Contents s events) (hi : Interleaved s) {pc : Producer}
    (hpc : s.producers i = pc) (horderly : pc.Orderly s) (hstep : producerStep s i pc = some s') :
    CarriesOn s s' events (ringNotes s (.producer i)) := by
  cases pc with
  | idle | returned => cases hstep
  | exchange event cur =>
      cases hstep
      exact h.exchange hi hpc
  | copyPayload f =>
      cases hstep
      rw [ringNotes, hpc]
      exact carriesOn_of_same (h.copyPayload hi hpc horderly) rfl rfl
  | mark f =>
      cases hstep
      rw [ringNotes, hpc]
      refine carriesOn_of_same (h.writeField hi (by rw [hpc]; rfl) horderly (Or.inl ?_) ?_) rfl rfl
      · split <;> rfl
      · intro g
        split <;> exact Producer.noConfusion
  | store f rest =>
      rw [ringNotes, hpc]
      cases rest with
      | nil =>
          cases hstep
          refine (sameContents_goto hi ?_ rfl rfl rfl ?_).carriesOn h
          · rw [hpc]
            split <;> rfl
          · intro g hg
            split at hg
            · next hpad =>
                obtain rfl := Producer.commit.inj hg
                exact hpad
            · cases hg
      | cons st rest =>
          cases hstep
          exact carriesOn_of_same (h.writeField hi (by rw [hpc]; rfl) horderly (Or.inl rfl)
            fun g => Producer.noConfusion) rfl rfl
  | storeSeq f seq =>
      cases hstep
      rw [ringNotes, hpc]
      exact carriesOn_of_same (h.writeField hi (by rw [hpc]; rfl) horderly (Or.inl rfl)
        fun g => Producer.noConfusion) rfl rfl
  | commit f =>
      cases hstep
      rw [ringNotes, hpc]
      refine carriesOn_of_same (h.writeField hi (by rw [hpc]; rfl) horderly
        (Or.inr ⟨hpc, ?_⟩) ?_) rfl rfl
      · split <;> rfl
      · intro g
        split <;> exact Producer.noConfusion
  | checkSize event =>
      cases hstep
      rw [ringNotes, hpc]
      refine (sameContents_goto hi ?_ rfl rfl rfl ?_).carriesOn h
      · rw [hpc]
        split <;> rfl
      · intro g
        split <;> exact Producer.noConfusion
  | readReadHead event cur =>
      cases hstep
      rw [ringNotes, hpc]
      refine (sameContents_goto hi ?_ rfl rfl rfl ?_).carriesOn h
      · rw [hpc]
        split <;> rfl
      · intro g
        split <;> exact Producer.noConfusion
  | countDropped =>
      cases hstep
      have hsame : SameContents s { s.goto i .returned with
          disp := { s.disp with dropped := s.disp.dropped + 1 } } :=
        sameContents_goto hi (by rw [hpc]; rfl) rfl rfl rfl fun g => Producer.noConfusion
      rw [ringNotes, hpc]
      exact hsame.carriesOn h
  | countEnqueued =>
      cases hstep
      have hsame : SameContents s { s.goto i .returned with
          disp := { s.disp with enqueued := s.disp.enqueued + 1 } } :=
        sameContents_goto hi (by rw [hpc]; rfl) rfl rfl rfl fun g => Producer.noConfusion
      rw [ringNotes, hpc]
      exact hsame.carriesOn h
  | nextSeq f =>
      cases hstep
      have hsame : SameContents s { s.goto i (.storeSeq f (s.disp.seqCounter + 1)) with
          disp := { s.disp with seqCounter := s.disp.seqCounter + 1 } } :=
        sameContents_goto hi (by rw [hpc]; rfl) rfl rfl rfl fun g => Producer.noConfusion
      rw [ringNotes, hpc]
      exact hsame.carriesOn h
  | readWriteHead | queryCounter =>
      cases hstep
      rw [ringNotes, hpc]
      exact (sameContents_goto hi (by rw [hpc]; rfl) rfl rfl rfl
        fun g => Producer.noConfusion).carriesOn h

end

/-! ## Steps of the consumer -/

section

variable {s s' : RingMachine} {events : ℕ → List Byte} {r : Region} {pc pc' : Consumer}

theorem sameContents_consumerGoto (hpc : s.consumer = pc) (hold : ¬ pc.releasing)
    (hnew : pc'.copied → pc.copied) : SameContents s (s.consumerGoto pc') where
  ring := rfl
  history := rfl
  sendBuf := rfl
  fills := fun _ => rfl
  copied := fun _ _ _ _ hcopied => hcopied
  released := fun hreleasing => absurd (hpc ▸ hreleasing) hold
  sent := fun hsent => hpc ▸ hnew hsent

/-- The consumer overwrites the oldest region, and no other event. -/
theorem Contents.release (h : Contents s events) (hi : Interleaved s) (hr : s.Oldest r) {b n : ℕ}
    {source : Memory} (hlow : r.hdr ≤ b) (hhigh : b + n ≤ r.hdr + r.len) (hpc : pc'.releasing)
    (hsent : pc'.copied → s.consumer.copied) :
    Contents (s.release (copy s.disp.ring b n source) pc') events := by
  refine ⟨h.filled, h.sized, ?_, fun hcopied => h.sent (hsent hcopied)⟩
  intro k q hq hk hreleasing hslot hcopied
  have hlt : s.consumed < k := hreleasing hpc
  exact h.carries_of_ne hi hq hk hslot hr hlt.ne' (hi.ordered.notLapped hr le_rfl) hlow hhigh
    (h.stored k q hq hk (fun _ => hlt) hslot hcopied)

/-- The consumer takes the oldest region. -/
theorem Contents.take (h : Contents s events) (n : UINT32) (hpc : ¬ pc'.copied) :
    Contents (s.take n pc') events := by
  refine ⟨h.filled, h.sized, ?_, fun hcopied => absurd hcopied hpc⟩
  intro k q hq hk _ hslot hcopied
  have hlt : s.consumed < k := hk
  exact h.stored k q hq hlt.le (fun _ => hlt) hslot hcopied

/-- The store of `Free` to the header at the read head. -/
theorem Contents.free (h : Contents s events) (hi : Interleaved s) (hr : s.Oldest r)
    (hpc : pc'.releasing) (hsent : pc'.copied → s.consumer.copied) :
    Contents (s.release (Field.state.set s.disp.ring (slotAt s.disp.readHead) slotFree) pc')
      events := by
  have hheader := (hi.shaped_oldest hr).header
  have hwithin := Field.state.offset_add_width_le
  rw [hi.hdr_oldest hr]
  exact h.release hi hr (Nat.le_add_right _ _) (by omega) hpc hsent

/-- The copy of the consumer brings the oldest event into the send buffer. -/
theorem Contents.copySent (h : Contents s events) (hi : Interleaved s) {payload : UINT32}
    (hpc : s.consumer = .copyPayload payload) :
    Contents { s with
      disp := { s.disp with sendBuf := copy s.disp.sendBuf 0 payload.toNat
                              fun k => s.disp.ring (payloadOf (slotAt s.disp.readHead) + k) }
      consumer := .freeSlot payload } events := by
  obtain ⟨r, hr, hcommitted, hpayload, hkind⟩ := hi.oldest_at hpc id
  have hstored := h.stored s.consumed r hr le_rfl (by rw [hpc]; exact False.elim) hkind
    (Or.inl hcommitted)
  refine ⟨h.filled, h.sized, ?_, fun _ => ?_⟩
  · intro k q hq hk _ hslot hcopied
    exact h.stored k q hq hk (by rw [hpc]; exact False.elim) hslot hcopied
  · rw [← hi.hdr_oldest hr] at hstored
    exact hstored.copied (by rw [hpayload, h.sized s.consumed r hr hkind])

theorem Contents.consumer (h : Contents s events) (hi : Interleaved s) (hpc : s.consumer = pc)
    (hstep : consumerStep s pc = some s') : CarriesOn s s' events (ringNotes s .consumer) := by
  cases pc with
  | returned payload => cases hstep
  | readPending | readTick | queryCounter claimedTick =>
      cases hstep
      rw [ringNotes, hpc]
      refine (sameContents_consumerGoto hpc id ?_).carriesOn h
      split <;> exact id
  | readState =>
      cases hstep
      rw [ringNotes, hpc]
      refine (sameContents_consumerGoto hpc id ?_).carriesOn h
      split
      · exact id
      · split <;> exact id
  | readFlags payload =>
      cases hstep
      rw [ringNotes, hpc]
      refine (sameContents_consumerGoto hpc id ?_).carriesOn h
      split <;> exact id
  | readPayload | readStride =>
      cases hstep
      rw [ringNotes, hpc]
      exact SameContents.carriesOn (sameContents_consumerGoto hpc id False.elim) h
  | copyPayload payload =>
      cases hstep
      rw [ringNotes, hpc]
      exact carriesOn_of_same (h.copySent hi hpc) rfl rfl
  | freePad payload | freePoisoned n =>
      cases hstep
      obtain ⟨r, hr, -⟩ := hi.oldest_at hpc id
      rw [ringNotes, hpc]
      exact carriesOn_of_same (h.free hi hr trivial False.elim) rfl rfl
  | freeSlot payload =>
      cases hstep
      obtain ⟨r, hr, -⟩ := hi.oldest_at hpc id
      rw [ringNotes, hpc]
      exact carriesOn_of_same (h.free hi hr trivial (by rw [hpc]; exact id)) rfl rfl
  | zeroSlot n =>
      cases hstep
      obtain ⟨r, hr, -, hn⟩ := hi.oldest_at hpc id
      have hzeroed : poisonZeroed s.disp.readHead n ≤ n.toNat := Nat.min_le_left _ _
      rw [ringNotes, hpc]
      refine carriesOn_of_same (h.release hi hr ?_ ?_ trivial False.elim) rfl rfl
      · exact (hi.hdr_oldest hr).ge
      · rw [hi.hdr_oldest hr]
        omega
  | advancePad payload =>
      cases hstep
      obtain ⟨r, hr, -, -, hkind⟩ := hi.oldest_at hpc id
      rw [ringNotes, hpc]
      refine ⟨events, h.take _ id, fun notes hnotes => ?_⟩
      rw [liveEvents_take hr, if_neg (by rw [hkind]; decide), List.nil_append] at hnotes
      rw [List.append_nil]
      exact hnotes
  | advanceSlot payload =>
      cases hstep
      obtain ⟨r, hr, -, hpayload, hkind⟩ := hi.oldest_at hpc id
      have hsent := h.sent (by rw [hpc]; trivial)
      have hbytes : firstBytes s.disp.sendBuf payload.toNat = events s.consumed := by
        rw [hpayload, ← h.sized s.consumed r hr hkind]
        exact firstBytes_of_carries hsent
      rw [ringNotes, hpc]
      refine ⟨events, h.take _ id, fun notes hnotes => ?_⟩
      rw [liveEvents_take hr, if_pos hkind] at hnotes
      simp only [hbytes]
      exact hnotes.got
  | advancePoisoned n =>
      cases hstep
      obtain ⟨r, hr, hkind, -⟩ := hi.oldest_at hpc id
      rw [ringNotes, hpc]
      refine ⟨events, h.take _ id, fun notes hnotes => ?_⟩
      rw [liveEvents_take hr, if_pos hkind] at hnotes
      exact hnotes.lost
  | countPoisoned =>
      cases hstep
      rw [ringNotes, hpc]
      have hsame : SameContents s (s.consumerGoto .readPending) :=
        sameContents_consumerGoto hpc id id
      exact carriesOn_of_same ⟨h.filled, h.sized, (h.congr hsame).stored, False.elim⟩ rfl rfl
  | advanceFree =>
      obtain ⟨r, _, hproper⟩ := hi.oldest_at hpc id
      exact hproper.elim

end

/-! ## Runs -/

section

variable {s s' : RingMachine} {events : ℕ → List Byte}

/-- **Step lemma for the events.** -/
theorem Contents.step (h : Contents s events) (hi : Interleaved s) {action : RingAction}
    (horderly : Orderly s action) (hstep : ringStep s action = some s') :
    CarriesOn s s' events (ringNotes s action) := by
  cases action with
  | tick =>
      cases hstep
      exact carriesOn_of_same ⟨h.filled, h.sized, h.stored, h.sent⟩ rfl rfl
  | produce i event =>
      obtain ⟨hpc, rfl⟩ := ringStep_produce hstep
      exact (sameContents_goto hi (by rw [hpc]; rfl) rfl rfl rfl
        fun g => Producer.noConfusion).carriesOn h
  | producer i => exact h.producer hi rfl horderly hstep
  | consume =>
      obtain ⟨⟨payload, hpc⟩, rfl⟩ := ringStep_consume hstep
      exact SameContents.carriesOn (sameContents_consumerGoto hpc id False.elim) h
  | consumer => exact h.consumer hi rfl hstep

/-- A step of a call at most puts an event into the queue. -/
theorem ringNotes_producer (s : RingMachine) (i : ℕ) :
    ringNotes s (.producer i) = [] ∨ ∃ item, ringNotes s (.producer i) = [.put item] := by
  cases hpc : s.producers i with
  | exchange event cur =>
      by_cases hclaims : s.disp.writeHead = cur ∧ wraps cur (stride event.size) = false
      · exact Or.inr ⟨event.toPayload.toList, by rw [ringNotes, hpc]; exact if_pos hclaims⟩
      · exact Or.inl (by rw [ringNotes, hpc]; exact if_neg hclaims)
  | _ => exact Or.inl (by rw [ringNotes, hpc])

theorem claim_frame {i : ℕ} {kind : RegionKind} {len payload : UINT32} {pc : Producer} :
    (s.claim i kind len payload pc).disp.poisoned = s.disp.poisoned ∧
      (s.claim i kind len payload pc).disp.sendBuf = s.disp.sendBuf ∧
      (s.claim i kind len payload pc).consumer = s.consumer :=
  ⟨rfl, rfl, rfl⟩

/-- What belongs to the consumer a step of a call leaves alone. -/
theorem producerStep_frame {i : ℕ} {pc : Producer} (hstep : producerStep s i pc = some s') :
    s'.disp.poisoned = s.disp.poisoned ∧ s'.disp.sendBuf = s.disp.sendBuf ∧
      s'.consumer = s.consumer := by
  cases pc with
  | idle | returned => cases hstep
  | exchange event cur =>
      cases hstep
      unfold exchangeStep
      dsimp only
      split
      · exact ⟨rfl, rfl, rfl⟩
      · split
        · exact claim_frame
        · exact claim_frame
  | store f rest =>
      cases rest with
      | nil => cases hstep; exact ⟨rfl, rfl, rfl⟩
      | cons st rest => cases hstep; exact ⟨rfl, rfl, rfl⟩
  | _ => cases hstep; exact ⟨rfl, rfl, rfl⟩

/-- A slot was poisoned and is not counted yet. -/
def Consumer.uncounted : Consumer → ℕ
  | .countPoisoned => 1
  | _ => 0

theorem losses_consumer {notes : List (Note (List Byte))} {pc : Consumer}
    (hlosses : losses notes = s.disp.poisoned + pc.uncounted) (hpc : s.consumer = pc)
    (hstep : consumerStep s pc = some s') :
    losses (notes ++ ringNotes s .consumer) = s'.disp.poisoned + s'.consumer.uncounted := by
  rw [ringNotes, hpc]
  cases pc with
  | returned payload => cases hstep
  | readState =>
      cases hstep
      rw [List.append_nil, hlosses]
      show _ = s.disp.poisoned + Consumer.uncounted _
      split
      · rfl
      · split <;> rfl
  | readPending | readFlags | readTick | queryCounter =>
      cases hstep
      rw [List.append_nil, hlosses]
      show _ = s.disp.poisoned + Consumer.uncounted _
      split <;> rfl
  | advanceSlot payload =>
      cases hstep
      rw [losses_got]
      exact hlosses
  | advancePoisoned n =>
      cases hstep
      rw [losses_lost, hlosses]
      rfl
  | _ =>
      cases hstep
      rw [List.append_nil]
      exact hlosses

/-- The events given up are the poisoned slots. -/
theorem losses_step {notes : List (Note (List Byte))} {action : RingAction}
    (hlosses : losses notes = s.disp.poisoned + s.consumer.uncounted)
    (hstep : ringStep s action = some s') :
    losses (notes ++ ringNotes s action) = s'.disp.poisoned + s'.consumer.uncounted := by
  cases action with
  | tick =>
      cases hstep
      rw [ringNotes, List.append_nil]
      exact hlosses
  | produce i event =>
      obtain ⟨-, rfl⟩ := ringStep_produce hstep
      rw [ringNotes, List.append_nil]
      exact hlosses
  | consume =>
      obtain ⟨⟨payload, hpc⟩, rfl⟩ := ringStep_consume hstep
      rw [hpc] at hlosses
      rw [ringNotes, List.append_nil]
      exact hlosses
  | producer i =>
      have hnone : losses (notes ++ ringNotes s (.producer i)) = losses notes := by
        rcases ringNotes_producer s i with hnotes | ⟨item, hnotes⟩
        · rw [hnotes, List.append_nil]
        · rw [hnotes, losses_put]
      obtain ⟨hpoisoned, -, hconsumer⟩ := producerStep_frame hstep
      rw [hnone, hpoisoned, hconsumer]
      exact hlosses
  | consumer => exact losses_consumer hlosses rfl hstep

/-- What a record says of the queue of events. -/
structure Recorded (s : RingMachine) (notes : List (Note (List Byte))) : Prop where
  interleaved : Interleaved s
  queue : ∃ events, Contents s events ∧ Explains notes (liveEvents s events)
  losses : losses notes = s.disp.poisoned + s.consumer.uncounted

theorem init_recorded (outside : Memory) (freq : UINT64) :
    Recorded (RingMachine.init outside freq) [] where
  interleaved := init_interleaved outside freq
  queue := ⟨fun _ => [], init_contents outside freq _, .nil⟩
  losses := rfl

theorem Recorded.step {notes : List (Note (List Byte))} {action : RingAction}
    (h : Recorded s notes) (horderly : Orderly s action) (hstep : ringStep s action = some s') :
    Recorded s' (notes ++ ringNotes s action) where
  interleaved := h.interleaved.step horderly hstep
  queue := by
    obtain ⟨events, hcontents, hnotes⟩ := h.queue
    obtain ⟨events', hcontents', hon⟩ := hcontents.step h.interleaved horderly hstep
    exact ⟨events', hcontents', hon notes hnotes⟩
  losses := losses_step h.losses hstep

/-- **Run lemma for the events.** -/
theorem recorded_of_run {outside : Memory} {freq : UINT64}
    {q : RingMachine × List (Note (List Byte))}
    (run : RecordedRun ringStep ringNotes Orderly (RingMachine.init outside freq) q) :
    Recorded q.1 q.2 :=
  run.recorded_invariant (init_recorded outside freq) fun _ _ _ _ h horderly hstep =>
    h.step horderly hstep

end

/-- **The ring is a queue of events.**  In every orderly run the payloads that `ConsumeOne` returns
are events whose slots were claimed, byte for byte, in the order of their claims and each at most
once; every claimed event was returned, was poisoned or is in the ring; and where nothing was
poisoned, none is left out. -/
theorem eventsInOrder (outside : Memory) (freq : UINT64)
    (q : RingMachine × List (Note (List Byte)))
    (run : RecordedRun ringStep ringNotes Orderly (RingMachine.init outside freq) q) :
    (gots q.2).Sublist (puts q.2) ∧
      (puts q.2).length = (gots q.2).length + (q.1.disp.poisoned + q.1.consumer.uncounted) +
        liveSlots q.1.disp ∧
      (q.1.disp.poisoned + q.1.consumer.uncounted = 0 → gots q.2 <+: puts q.2) := by
  obtain ⟨-, ⟨events, -, hexplains⟩, hlosses⟩ := recorded_of_run run
  refine ⟨hexplains.gots_sublist, ?_, fun hnone => ?_⟩
  · rw [hexplains.length_puts, hlosses, length_liveEvents]
  · exact ⟨_, hexplains.gots_append (hlosses.trans hnone)⟩

/-- Two calls beside each other, the later one done first, and a `ConsumeOne`. -/
private def overtaken : List RingAction :=
  [.produce 0 (hundredBytes 7), .produce 1 (twoHundredBytes 8)] ++
    List.replicate 4 (.producer 0) ++ List.replicate 17 (.producer 1) ++
    List.replicate 13 (.producer 0) ++ [RingAction.consume] ++ List.replicate 7 RingAction.consumer

theorem eventsInOrder_overtaken : ∃ q : RingMachine × List (Note (List Byte)),
    gots q.2 = [List.replicate 100 7] ∧ (puts q.2).length = 2 ∧ (gots q.2).Sublist (puts q.2) := by
  have hfacts : (steps (recording ringStep ringNotes) (RingMachine.init (fun _ => 0) 10000000, [])
      overtaken).map (fun q => (gots q.2, (puts q.2).length)) =
      some ([List.replicate 100 7], 2) := by decide +kernel
  obtain ⟨q, hq, hfacts⟩ := Option.map_eq_some_iff.mp hfacts
  obtain ⟨hgots, hputs⟩ := Prod.mk.inj hfacts
  have run : RecordedRun ringStep ringNotes Orderly (RingMachine.init (fun _ => 0) 10000000) q :=
    run_of_steps (by decide +kernel) hq
  exact ⟨q, hgots, hputs, (eventsInOrder (fun _ => 0) 10000000 q run).1⟩

end Kawin.Driver
