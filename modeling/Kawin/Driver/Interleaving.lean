import Kawin.Driver.RingMachine
import Kawin.Driver.RingInvariant

/-!
# What every interleaving keeps

`Interleaved s` is the invariant of the orderly steps.  The ring is `Ordered`; every
filling call owns exactly one region, whose progress is the one its place in
the source tells (`owner`, `unique`), and every region short of `Committed` has such
a call (`owned`); the header of every live region shows its progress (`headers`),
but for the one the consumer has begun to overwrite; and the consumer acts on the
oldest live region with values that belong to it (`consumer`).

The steps fall into six shapes, each with one lemma: a call goes on without touching
the ring (`goto`), stores to its region (`write`) or claims one (`claim`), and the
consumer goes on (`consumerGoto`), overwrites the oldest region (`release`) or takes
it (`take`).
-/

namespace Kawin.Driver

open ByteMemory CircularBuffer Transition

/-! ## Regions and their producers -/

def Fill.len (f : Fill) : UINT32 := if f.kind = .pad then spaceToEnd f.cur else stride f.event.size

def Fill.payload (f : Fill) : UINT32 :=
  if f.kind = .pad then spaceToEnd f.cur - sizeofSlotHeader else f.event.size

/-- `r` is the region that `f` fills. -/
structure Fill.Of (f : Fill) (r : Region) : Prop where
  shaped : r.Shaped
  cur : f.cur = BitVec.ofNat 32 r.start
  kind : r.kind = f.kind
  len : r.len = f.len.toNat
  payload : r.payload = f.payload.toNat

theorem Fill.Of.hdr {f : Fill} {r : Region} (h : f.Of r) : f.hdr = r.hdr := by
  rw [Fill.hdr, h.cur, slotAt_start]

theorem Region.Shaped.slot_of_not_pad {r : Region} (h : r.Shaped) (hpad : r.kind ≠ .pad) :
    r.kind = .slot := by
  have hnotTail := h.notTail
  cases hkind : r.kind with
  | slot => rfl
  | pad => exact absurd hkind hpad
  | tail => exact absurd hkind hnotTail

theorem Fill.Of.slot_of_not_pad {f : Fill} {r : Region} (h : f.Of r) (hpad : f.kind ≠ .pad) :
    f.kind = .slot := by
  have hslot := h.shaped.slot_of_not_pad
  rw [h.kind] at hslot
  exact hslot hpad

/-- The payload of a slot lies behind its header. -/
theorem Fill.Of.payload_le_of_slot {f : Fill} {r : Region} (h : f.Of r) (hslot : f.kind = .slot) :
    f.event.size.toNat + 28 ≤ r.len := by
  have hpayload := h.payload
  rw [Fill.payload, if_neg (by rw [hslot]; decide)] at hpayload
  rw [← hpayload]
  exact h.shaped.payload_le

/-- The tick in the header of `r`: zero for a pad, and for a slot the frequency of the counter. -/
def TickOk (freqHz : UINT64) (r : Region) (v : ℕ) : Prop :=
  if r.kind = .pad then v = 0 else v = freqHz.toNat

/-- The header of `r` shows its progress. -/
def RegionOk (tickOk : ℕ → Prop) (m : Memory) (r : Region) : Progress → Prop
  | .claimed => True
  | .filling unset =>
      HeaderAt tickOk m r (unset ++ [.state]) ∧ Field.state.get m r.hdr = slotClaimed
  | .committed => HeaderAt tickOk m r []

section RegionOk

variable {tickOk : ℕ → Prop} {m : Memory} {r : Region} {p : Progress}

/-- A copy that misses the header leaves the progress it shows. -/
theorem RegionOk.copy_of_disjoint {source : Memory} {b n : ℕ} (h : RegionOk tickOk m r p)
    (hdisj : Disjoint r.hdr 28 b n) : RegionOk tickOk (copy m b n source) r p := by
  cases p with
  | claimed => trivial
  | filling unset =>
      refine ⟨h.1.copy_of_disjoint hdisj, ?_⟩
      rw [Field.get_copy_of_disjoint _ _ _ hdisj]
      exact h.2
  | committed => exact HeaderAt.copy_of_disjoint h hdisj

/-- A field whose final value is stored can be read. -/
theorem RegionOk.get (h : RegionOk tickOk m r p) {field : Field} (hfield : field ≠ .state)
    (hholds : p.Holds field) : r.Expects tickOk field (field.get m r.hdr) := by
  cases p with
  | claimed => exact hholds.elim
  | filling unset =>
      apply h.1 field
      rw [List.mem_append, List.mem_singleton, not_or]
      exact ⟨hholds, hfield⟩
  | committed => exact h field (List.not_mem_nil)

end RegionOk

/-- What the values a filling call carries must be. -/
def Producer.Proper (tickOk : ℕ → Prop) (r : Region) : Producer → Prop
  | .queryCounter f | .nextSeq f | .storeSeq f _ | .copyPayload f => f.kind = .slot
  | .store _ rest => ∀ st ∈ rest,
      st.1 ≠ .state ∧ st.2 < 256 ^ st.1.width ∧ r.Expects tickOk st.1 st.2
  | _ => True

/-! ## The consumer -/

/-- The consumer acts on no region. -/
def Consumer.between : Consumer → Prop
  | .returned _ | .readPending | .countPoisoned => True
  | _ => False

/-- What the values the consumer carries must be when `r` is the oldest live region. -/
def Consumer.Proper (front : Progress) (r : Region) : Consumer → Prop
  | .readPayload => front = .committed
  | .readFlags payload => front = .committed ∧ payload.toNat = r.payload
  | .freePad payload | .advancePad payload =>
      front = .committed ∧ payload.toNat = r.payload ∧ r.kind = .pad
  | .copyPayload payload | .freeSlot payload | .advanceSlot payload =>
      front = .committed ∧ payload.toNat = r.payload ∧ r.kind = .slot
  | .queryCounter _ | .readStride => r.kind = .slot
  | .zeroSlot n | .freePoisoned n | .advancePoisoned n => r.kind = .slot ∧ n.toNat = r.len
  | .advanceFree => False
  | _ => True

/-- What it carries stays right while its region stays committed. -/
theorem Consumer.Proper.mono {front front' : Progress} {r : Region} {pc : Consumer}
    (hfront : front = .committed → front' = .committed) (h : pc.Proper front r) :
    pc.Proper front' r := by
  cases pc with
  | readPayload => exact hfront h
  | readFlags => exact ⟨hfront h.1, h.2⟩
  | freePad | advancePad | copyPayload | freeSlot | advanceSlot => exact ⟨hfront h.1, h.2⟩
  | _ => exact h

/-- `r` is the oldest live region. -/
def RingMachine.Oldest (s : RingMachine) (r : Region) : Prop := s.claims[s.consumed]? = some r

def ConsumerOk (s : RingMachine) : Prop :=
  s.consumer.between ∨
    ∃ r, s.Oldest r ∧ s.consumer.Proper s.front r

/-! ## The invariant -/

structure Interleaved (s : RingMachine) : Prop where
  ordered : Ordered s.disp
  owner : ∀ i f, (s.producers i).fill? = some f → ∃ r, s.claims[f.index]? = some r ∧ f.Of r ∧
    s.progress f.index = (s.producers i).progress ∧
    (s.producers i).Proper (TickOk s.freqHz r) r
  unique : ∀ i j f g, (s.producers i).fill? = some f → (s.producers j).fill? = some g →
    f.index = g.index → i = j
  owned : ∀ k < s.claims.length, s.progress k ≠ .committed →
    ∃ i f, (s.producers i).fill? = some f ∧ f.index = k
  headers : ∀ k r, s.claims[k]? = some r → s.consumed ≤ k →
    (s.consumer.releasing → s.consumed < k) →
    RegionOk (TickOk s.freqHz r) s.disp.ring r (s.progress k)
  consumer : ConsumerOk s

theorem init_interleaved (outside : Memory) (freq : UINT64) :
    Interleaved (RingMachine.init outside freq) where
  ordered := init_ordered outside freq
  owner := by simp [RingMachine.init, Producer.fill?]
  unique := by simp [RingMachine.init, Producer.fill?]
  owned := by simp [RingMachine.init, RingMachine.claims, Dispatcher.init]
  headers := by simp [RingMachine.init, RingMachine.claims, Dispatcher.init]
  consumer := Or.inl trivial

/-! ## Places of regions -/

section

variable {d : Dispatcher} {j k : ℕ} {q r : Region}

theorem mem_live_of_getElem? (hr : d.history.claims[k]? = some r) (hk : d.history.consumed ≤ k) :
    r ∈ d.history.live := by
  obtain ⟨hlt, rfl⟩ := List.getElem?_eq_some_iff.mp hr
  apply List.mem_of_getElem? (i := k - d.history.consumed)
  rw [History.live, List.getElem?_drop, Nat.add_sub_cancel' hk]
  exact List.getElem?_eq_getElem hlt

theorem live_of_oldest (hr : d.history.claims[d.history.consumed]? = some r) :
    ∃ rest, d.history.live = r :: rest := by
  obtain ⟨hlt, rfl⟩ := List.getElem?_eq_some_iff.mp hr
  exact ⟨_, List.drop_eq_getElem_cons hlt⟩

theorem oldest_of_live (hlive : d.history.live ≠ []) :
    ∃ r, d.history.claims[d.history.consumed]? = some r := by
  by_contra hnone
  have : d.history.claims[d.history.consumed]? = none := by
    cases hget : d.history.claims[d.history.consumed]? with
    | none => rfl
    | some r => exact absurd ⟨r, hget⟩ hnone
  exact hlive (List.drop_eq_nil_of_le (List.getElem?_eq_none_iff.mp this))

/-- Regions lie in the order they were claimed in. -/
theorem Ordered.start_le (h : Ordered d) (hq : d.history.claims[j]? = some q)
    (hr : d.history.claims[k]? = some r) (hjk : j < k) (hk : d.history.consumed ≤ k) :
    q.start + q.len ≤ r.start := by
  by_cases hj : d.history.consumed ≤ j
  · -- both are live
    obtain ⟨hjlt, rfl⟩ := List.getElem?_eq_some_iff.mp hq
    obtain ⟨hklt, rfl⟩ := List.getElem?_eq_some_iff.mp hr
    have hpair := List.pairwise_iff_getElem.mp h.tiles.pairwise (j - d.history.consumed)
      (k - d.history.consumed) (by rw [History.live, List.length_drop]; omega)
      (by rw [History.live, List.length_drop]; omega) (by omega)
    simpa only [History.live, List.getElem_drop, Nat.add_sub_cancel' hj,
      Nat.add_sub_cancel' hk] using hpair
  · -- `q` is behind the read head
    have hmem : q ∈ d.history.claims.take d.history.consumed := by
      apply List.mem_of_getElem? (i := j)
      rw [List.getElem?_take, if_pos (by omega), hq]
    calc q.start + q.len
        ≤ d.history.readTotal := h.behind q hmem
      _ ≤ r.start := (h.tiles.bounds r (mem_live_of_getElem? hr hk)).1

/-- A live region is disjoint from every other region that the ring has not come round to. -/
theorem Ordered.disjoint_of_ne (h : Ordered d) (hq : d.history.claims[j]? = some q)
    (hj : d.history.consumed ≤ j) (hr : d.history.claims[k]? = some r) (hne : j ≠ k)
    (hlap : d.history.writeTotal ≤ r.start + asyncRingBytes.toNat) :
    Disjoint q.hdr q.len r.hdr r.len := by
  have hroom := h.room
  have hqb := h.tiles.bounds q (mem_live_of_getElem? hq hj)
  rcases Nat.lt_or_gt_of_ne hne with hlt | hgt
  · have hrb := h.tiles.bounds r (mem_live_of_getElem? hr (hj.trans hlt.le))
    exact disjoint_of_le (h.start_le hq hr hlt (hj.trans hlt.le))
      (by rw [asyncRingBytes_toNat]; omega)
  · exact (disjoint_of_le (h.start_le hr hq hgt hj) (by omega)).symm

/-- The ring has not come round to a live region. -/
theorem Ordered.notLapped (h : Ordered d) (hr : d.history.claims[k]? = some r)
    (hk : d.history.consumed ≤ k) : d.history.writeTotal ≤ r.start + asyncRingBytes.toNat := by
  have hroom := h.room
  have hbounds := h.tiles.bounds r (mem_live_of_getElem? hr hk)
  rw [asyncRingBytes_toNat]
  omega

end

/-! ## The shapes of a step -/

section

variable {s : RingMachine} {i : ℕ} {f : Fill}

/-- The clock and the counters outside the ring may change. -/
theorem Interleaved.congr (h : Interleaved s) {d : Dispatcher} {clock : ℕ}
    (hordered : Ordered d) (hring : d.ring = s.disp.ring)
    (hclaims : d.history.claims = s.disp.history.claims)
    (hconsumed : d.history.consumed = s.disp.history.consumed) :
    Interleaved { s with disp := d, clock := clock } where
  ordered := hordered
  owner := by
    intro j g hg
    obtain ⟨r, hr, hrest⟩ := h.owner j g hg
    refine ⟨r, ?_, hrest⟩
    rw [RingMachine.claims, hclaims]
    exact hr
  unique := h.unique
  owned := by
    rw [RingMachine.claims, hclaims]
    exact h.owned
  headers := by
    intro k r hr hk hreleasing
    rw [RingMachine.claims, hclaims] at hr
    rw [RingMachine.consumed, hconsumed] at hk hreleasing
    rw [hring]
    exact h.headers k r hr hk hreleasing
  consumer := by
    rcases h.consumer with hbetween | ⟨r, hr, hproper⟩
    · exact Or.inl hbetween
    · refine Or.inr ⟨r, ?_, ?_⟩
      · rw [RingMachine.Oldest, RingMachine.claims, RingMachine.consumed, hclaims, hconsumed]
        exact hr
      · rw [RingMachine.front, RingMachine.consumed, hconsumed]
        exact hproper

/-- Nothing is said about the send buffer and the counters. -/
theorem Interleaved.withCounters (h : Interleaved s) (sendBuf : Memory) (seqCounter : LONG)
    (enqueued dropped poisoned : ℕ) :
    Interleaved { s with disp :=
      { s.disp with sendBuf := sendBuf, seqCounter := seqCounter, enqueued := enqueued,
                    dropped := dropped, poisoned := poisoned } } :=
  h.congr (h.ordered.withCounters sendBuf seqCounter enqueued dropped poisoned)
    rfl rfl rfl

/-- A call goes on without touching the ring. -/
theorem Interleaved.goto (h : Interleaved s) {pc : Producer}
    (hfill : pc.fill? = (s.producers i).fill?)
    (hproper : ∀ f r, pc.fill? = some f → f.Of r →
      (s.producers i).Proper (TickOk s.freqHz r) r →
      pc.progress = (s.producers i).progress ∧ pc.Proper (TickOk s.freqHz r) r) :
    Interleaved (s.goto i pc) := by
  have hfills : ∀ j, ((s.goto i pc).producers j).fill? = (s.producers j).fill? := by
    intro j
    by_cases hj : j = i
    · rw [hj, RingMachine.goto_self, hfill]
    · rw [RingMachine.goto_of_ne hj]
  refine ⟨h.ordered, ?_, ?_, ?_, h.headers, h.consumer⟩
  · intro j f hf
    obtain ⟨r, hr, hof, hprogress, hold⟩ := h.owner j f (hfills j ▸ hf)
    refine ⟨r, hr, hof, ?_⟩
    by_cases hj : j = i
    · subst hj
      rw [RingMachine.goto_self] at hf ⊢
      obtain ⟨hnew, hpc⟩ := hproper f r hf hof hold
      exact ⟨hprogress.trans hnew.symm, hpc⟩
    · rw [RingMachine.goto_of_ne hj]
      exact ⟨hprogress, hold⟩
  · intro j j' f g hf hg
    exact h.unique j j' f g (hfills j ▸ hf) (hfills j' ▸ hg)
  · intro k hk hprogress
    obtain ⟨j, f, hf, hindex⟩ := h.owned k hk hprogress
    exact ⟨j, f, (hfills j).trans hf, hindex⟩

/-- A call that fills no region goes on. -/
theorem Interleaved.goto_idle (h : Interleaved s) {pc : Producer}
    (hold : (s.producers i).fill? = none) (hpc : pc.fill? = none) : Interleaved (s.goto i pc) :=
  h.goto (hpc.trans hold.symm) fun f r hf => by rw [hpc] at hf; cases hf

/-- A call stores to its region, which the ring has not come round to. -/
theorem Interleaved.write (h : Interleaved s) {r : Region} {b n : ℕ} {source : Memory}
    {pc : Producer} (hf : (s.producers i).fill? = some f) (hr : s.claims[f.index]? = some r)
    (hlap : NotLapped s f.index) (hlow : r.hdr ≤ b) (hhigh : b + n ≤ r.hdr + r.len)
    (hpc : pc.fill? = some f ∨ pc.fill? = none ∧ pc.progress = .committed)
    (hproper : pc.Proper (TickOk s.freqHz r) r)
    (hself : RegionOk (TickOk s.freqHz r) s.disp.ring r (s.producers i).progress →
      RegionOk (TickOk s.freqHz r) (copy s.disp.ring b n source) r pc.progress) :
    Interleaved (s.write i f (copy s.disp.ring b n source) pc) := by
  obtain ⟨r', hr', hof, hprogress, _⟩ := h.owner i f hf
  obtain rfl : r' = r := Option.some.inj (hr'.symm.trans hr)
  -- a call other than `i` fills another region
  have hne : ∀ j g, j ≠ i → (s.producers j).fill? = some g → g.index ≠ f.index :=
    fun j g hj hg hindex => hj (h.unique j i g f hg hf hindex)
  have hfills : ∀ {j g},
      ((s.write i f (copy s.disp.ring b n source) pc).producers j).fill? = some g →
      (s.producers j).fill? = some g :=
    RingMachine.fill_of_write hf (hpc.imp_right And.left)
  refine
    { ordered := h.ordered.withRing _, owner := ?owner, unique := ?unique, owned := ?owned
      headers := ?headers, consumer := ?consumer }
  case owner =>
    intro j g hg
    have hold := hfills hg
    by_cases hj : j = i
    · obtain rfl : f = g := Option.some.inj (hf.symm.trans (hj ▸ hold))
      refine ⟨r', hr, hof, ?_⟩
      rw [hj, RingMachine.write_self, RingMachine.write_progress_self]
      exact ⟨rfl, hproper⟩
    · obtain ⟨q, hq, hqof, hqprogress, hqproper⟩ := h.owner j g hold
      refine ⟨q, hq, hqof, ?_⟩
      rw [RingMachine.write_of_ne hj, RingMachine.write_progress_of_ne (hne j g hj hold)]
      exact ⟨hqprogress, hqproper⟩
  case unique =>
    intro j j' g g' hg hg'
    exact h.unique j j' g g' (hfills hg) (hfills hg')
  case owned =>
    intro k hk hnot
    by_cases hkf : k = f.index
    · subst hkf
      rcases hpc with hpc | ⟨_, hcommitted⟩
      · refine ⟨i, f, ?_, rfl⟩
        rw [RingMachine.write_self, hpc]
      -- a committed region needs no call
      · rw [RingMachine.write_progress_self] at hnot
        exact absurd hcommitted hnot
    · rw [RingMachine.write_progress_of_ne hkf] at hnot
      obtain ⟨j, g, hg, hindex⟩ := h.owned k hk hnot
      refine ⟨j, g, ?_, hindex⟩
      by_cases hj : j = i
      · subst hj
        rw [hf] at hg
        cases hg
        exact absurd hindex.symm hkf
      · rw [RingMachine.write_of_ne hj, hg]
  case headers =>
    intro k q hq hk hreleasing
    by_cases hkf : k = f.index
    · subst hkf
      obtain rfl : r' = q := Option.some.inj (hr.symm.trans hq)
      have := h.headers f.index r' hr hk hreleasing
      rw [hprogress] at this
      rw [RingMachine.write_progress_self]
      exact hself this
    -- the ring has not come round to the region of `f`, so the store misses this one
    · have hdisj := h.ordered.disjoint_of_ne hq hk hr hkf (hlap r' hr)
      have hheader := (h.ordered.shaped q (mem_live_of_getElem? hq hk)).header
      rw [RingMachine.write_progress_of_ne hkf]
      exact (h.headers k q hq hk hreleasing).copy_of_disjoint
        (hdisj.mono le_rfl (by omega) hlow hhigh)
  case consumer =>
    rcases h.consumer with hbetween | ⟨q, hq, hqproper⟩
    · exact Or.inl hbetween
    -- the front the consumer relies on is committed, so no call fills it
    · refine Or.inr ⟨q, hq, hqproper.mono fun hfront => ?_⟩
      have hkf : s.consumed ≠ f.index := by
        intro hkf
        rw [RingMachine.front, hkf, hprogress] at hfront
        exact progress_ne_of_fill hf hfront
      exact (RingMachine.write_progress_of_ne hkf).trans hfront

/-- A call claims the region it is to fill. -/
theorem Interleaved.claim (h : Interleaved s) {kind : RegionKind} {len payload : UINT32}
    (hi : (s.producers i).fill? = none) (hindex : f.index = s.claims.length)
    (hof : f.Of (claimedRegion s.disp kind len payload)) (hroom : LeavesRoom s len) :
    Interleaved (s.claim i kind len payload (.mark f)) := by
  have hlast : (s.claim i kind len payload (.mark f)).claims[s.claims.length]? =
      some (claimedRegion s.disp kind len payload) := List.getElem?_concat_length
  have hkept : ∀ {k}, k < s.claims.length →
      (s.claim i kind len payload (.mark f)).claims[k]? = s.claims[k]? :=
    fun hk => List.getElem?_append_left hk
  have hlt : ∀ {k r}, s.claims[k]? = some r → k < s.claims.length :=
    fun hk => (List.getElem?_eq_some_iff.mp hk).1
  -- a call other than `i` fills an older region
  have hfills : ∀ {j g}, ((s.claim i kind len payload (.mark f)).producers j).fill? = some g →
      j = i ∧ f = g ∨ j ≠ i ∧ (s.producers j).fill? = some g :=
    fun hg => (RingMachine.fill_of_claim hg).imp_left (And.imp_right Option.some.inj)
  have hordered : Ordered (s.disp.claim kind len payload) :=
    h.ordered.claim hof.shaped hroom
  refine
    { ordered := hordered, owner := ?owner, unique := ?unique, owned := ?owned
      headers := ?headers, consumer := ?consumer }
  case owner =>
    intro j g hg
    rcases hfills hg with ⟨rfl, rfl⟩ | ⟨hj, hg⟩
    · refine ⟨_, hindex ▸ hlast, hof, ?_⟩
      rw [hindex, RingMachine.claim_progress_self, RingMachine.claim_self]
      exact ⟨rfl, trivial⟩
    · obtain ⟨r, hr, hrof, hprogress, hproper⟩ := h.owner j g hg
      refine ⟨r, (hkept (hlt hr)).trans hr, hrof, ?_⟩
      rw [RingMachine.claim_of_ne hj, RingMachine.claim_progress_of_ne (hlt hr).ne]
      exact ⟨hprogress, hproper⟩
  case unique =>
    intro j j' g g' hg hg' heq
    rcases hfills hg with ⟨rfl, rfl⟩ | ⟨hj, hold⟩ <;>
      rcases hfills hg' with ⟨rfl, rfl⟩ | ⟨hj', hold'⟩
    · rfl
    · obtain ⟨r, hr, _⟩ := h.owner j' g' hold'
      have := hlt hr
      omega
    · obtain ⟨r, hr, _⟩ := h.owner j g hold
      have := hlt hr
      omega
    · exact h.unique j j' g g' hold hold' heq
  case owned =>
    intro k hk hnot
    by_cases hkl : k = s.claims.length
    · refine ⟨i, f, ?_, hindex.trans hkl.symm⟩
      rw [RingMachine.claim_self, Producer.fill?]
    · rw [RingMachine.claim_progress_of_ne hkl] at hnot
      rw [RingMachine.claim_claims, List.length_append, List.length_singleton] at hk
      obtain ⟨j, g, hg, hgk⟩ := h.owned k (by omega) hnot
      refine ⟨j, g, ?_, hgk⟩
      rw [RingMachine.claim_of_ne, hg]
      rintro rfl
      rw [hi] at hg
      cases hg
  case headers =>
    intro k r hr hk hreleasing
    by_cases hkl : k = s.claims.length
    · rw [hkl, RingMachine.claim_progress_self]
      trivial
    · have hlen := (List.getElem?_eq_some_iff.mp hr).1
      rw [RingMachine.claim_claims, List.length_append, List.length_singleton] at hlen
      rw [hkept (by omega)] at hr
      rw [RingMachine.claim_progress_of_ne hkl]
      exact h.headers k r hr hk hreleasing
  case consumer =>
    rcases h.consumer with hbetween | ⟨r, hr, hproper⟩
    · exact Or.inl hbetween
    · refine Or.inr ⟨r, (hkept (hlt hr)).trans hr, ?_⟩
      exact hproper.mono (RingMachine.claim_progress_of_ne (hlt hr).ne).trans

/-- The consumer goes on without touching the ring. -/
theorem Interleaved.consumerGoto (h : Interleaved s) {pc : Consumer}
    (hold : ¬ s.consumer.releasing)
    (hok : ConsumerOk (s.consumerGoto pc)) : Interleaved (s.consumerGoto pc) :=
  ⟨h.ordered, h.owner, h.unique, h.owned,
    fun k r hr hk _ => h.headers k r hr hk fun hreleasing => absurd hreleasing hold, hok⟩

/-- The consumer overwrites the oldest region. -/
theorem Interleaved.release (h : Interleaved s) {r : Region} {b n : ℕ} {source : Memory}
    {pc : Consumer} (hr : s.Oldest r) (hlow : r.hdr ≤ b) (hhigh : b + n ≤ r.hdr + r.len)
    (hpc : pc.releasing) (hproper : pc.Proper s.front r) :
    Interleaved (s.release (copy s.disp.ring b n source) pc) := by
  refine ⟨h.ordered.withRing _, h.owner, h.unique, h.owned, ?_, Or.inr ⟨r, hr, hproper⟩⟩
  intro k q hq hk hreleasing
  -- the header being overwritten is exempt; the others lie outside the store
  have hlt : s.consumed < k := hreleasing hpc
  have hdisj := h.ordered.disjoint_of_ne hq hk hr hlt.ne'
    (h.ordered.notLapped hr le_rfl)
  have hheader := (h.ordered.shaped q (mem_live_of_getElem? hq hk)).header
  exact (h.headers k q hq hk fun _ => hlt).copy_of_disjoint
    (hdisj.mono le_rfl (by omega) hlow hhigh)

/-- The consumer takes the oldest region. -/
theorem Interleaved.take (h : Interleaved s) {r : Region} {n : UINT32} {pc : Consumer}
    (hr : s.Oldest r) (hn : n.toNat = r.len) (hpc : pc.between) : Interleaved (s.take n pc) := by
  obtain ⟨rest, hlive⟩ := live_of_oldest hr
  refine ⟨h.ordered.take hlive hn, h.owner, h.unique, h.owned, ?_, Or.inl hpc⟩
  intro k q hq hk _
  have hlt : s.consumed < k := hk
  exact h.headers k q hq hlt.le fun _ => hlt

end

/-! ## Steps of the producers -/

section

variable {s s' : RingMachine} {i : ℕ}

/-- A store to one field of the header that a call fills. -/
theorem Interleaved.writeField (h : Interleaved s) {f : Fill} {field : Field} {v : ℕ}
    {pc : Producer} (hf : (s.producers i).fill? = some f) (hlap : NotLapped s f.index)
    (hpc : pc.fill? = some f ∨ pc.fill? = none ∧ pc.progress = .committed)
    (hnew : ∀ r, f.Of r → (s.producers i).Proper (TickOk s.freqHz r) r →
      pc.Proper (TickOk s.freqHz r) r ∧
      (RegionOk (TickOk s.freqHz r) s.disp.ring r (s.producers i).progress →
        RegionOk (TickOk s.freqHz r) (field.set s.disp.ring r.hdr v) r pc.progress)) :
    Interleaved (s.write i f (field.set s.disp.ring f.hdr v) pc) := by
  obtain ⟨r, hr, hof, _, hproper⟩ := h.owner i f hf
  obtain ⟨hpcproper, hself⟩ := hnew r hof hproper
  have hwithin := field.offset_add_width_le
  have hheader := hof.shaped.header
  rw [hof.hdr]
  exact h.write hf hr hlap (Nat.le_add_right _ _) (by omega) hpc hpcproper hself

/-- The stores between `Claimed` and `Committed` leave `state` alone. -/
theorem filling_store {tickOk : ℕ → Prop} {m : Memory} {r : Region} {field : Field} {v : ℕ}
    {unset : List Field} (h : RegionOk tickOk m r (.filling (field :: unset)))
    (hfield : field ≠ .state) (hv : v < 256 ^ field.width) (hexpects : r.Expects tickOk field v) :
    RegionOk tickOk (field.set m r.hdr v) r (.filling unset) := by
  have hheader : HeaderAt tickOk m r (field :: (unset ++ [.state])) := h.1
  refine ⟨hheader.store hv hexpects, ?_⟩
  rw [Field.get_set_of_ne _ _ _ hfield.symm]
  exact h.2

/-- No field of a pad header is left out. -/
theorem mem_padStores (space : UINT32) (last : List Field) (g : Field) :
    g ∈ (padStores space).map Prod.fst ++ last ++ [.state] := by
  cases g <;> simp [padStores]

theorem padStores_proper {freqHz : UINT64} {f : Fill} {r : Region} (hof : f.Of r)
    (hpad : f.kind = .pad) :
    (Producer.store f (padStores (spaceToEnd f.cur))).Proper (TickOk freqHz r) r := by
  have hlen := hof.len
  have hpayload := hof.payload
  rw [Fill.len, if_pos hpad] at hlen
  rw [Fill.payload, if_pos hpad] at hpayload
  have hkind : r.kind = .pad := hof.kind.trans hpad
  have htick : TickOk freqHz r 0 := by
    rw [TickOk, if_pos hkind]
  intro st hst
  refine ⟨?_, padStores_expects hkind hlen hpayload htick st hst⟩
  simp only [padStores, List.mem_cons, List.not_mem_nil, or_false] at hst
  rcases hst with rfl | rfl | rfl | rfl | rfl | rfl <;> simp

theorem slotStores_proper {s : RingMachine} {f : Fill} {r : Region} (hof : f.Of r)
    (hslot : f.kind = .slot) :
    (Producer.store f (slotStores f.event.size (stride f.event.size) s.now)).Proper
      (TickOk s.freqHz r) r := by
  have hne : f.kind ≠ .pad := by rw [hslot]; decide
  have hlen := hof.len
  have hpayload := hof.payload
  rw [Fill.len, if_neg hne] at hlen
  rw [Fill.payload, if_neg hne] at hpayload
  have hkind : r.kind = .slot := hof.kind.trans hslot
  have htick : TickOk s.freqHz r s.now.toNat := by
    rw [TickOk, if_neg (by rw [hkind]; decide)]
    rfl
  intro st hst
  refine ⟨?_, slotStores_expects hkind hlen hpayload htick st hst⟩
  simp only [slotStores, List.mem_cons, List.not_mem_nil, or_false] at hst
  rcases hst with rfl | rfl | rfl | rfl | rfl <;> simp

end

end Kawin.Driver
