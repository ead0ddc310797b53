import Kawin.Driver.ClaimTiling

/-!
# Every orderly step keeps the invariant

One lemma for each store of a producer and for its compare-exchange, one for each read of the
consumer; together they give the run lemma `OrderlyRun.interleaved`.
-/

namespace Kawin.Driver

open ByteMemory CircularBuffer Transition

/-! ## Producers -/

section

variable {s s' : RingMachine} {i : ℕ}

theorem Interleaved.exchange (h : Interleaved s) {event : Accepted} {cur : LONG}
    (hpc : s.producers i = .exchange event cur)
    (horderly : (Producer.exchange event cur).Orderly s) :
    Interleaved (exchangeStep s i event cur) := by
  have hidle : (s.producers i).fill? = none := by rw [hpc]; rfl
  unfold exchangeStep
  by_cases hcur : s.disp.writeHead = cur
  · subst hcur
    have hroom := horderly rfl
    simp only [ne_eq, not_true_eq_false, if_false]
    by_cases hwraps : wraps s.disp.writeHead (stride event.size) = true
    -- a wrap that leaves a header's room claims the tail as a pad
    · rw [if_pos hwraps] at hroom ⊢
      obtain ⟨hroom, hheader⟩ := hroom
      have hkind : wrapKind s.disp.writeHead = .pad := by
        unfold wrapKind
        rw [if_pos hheader]
      rw [hkind, if_pos hheader]
      exact h.claim hidle rfl (h.ordered.headAligned.pad_of event _ hwraps hheader) hroom
    · rw [if_neg hwraps] at hroom ⊢
      exact h.claim hidle rfl
        (h.ordered.headAligned.slot_of event _ (Bool.eq_false_iff.mpr hwraps)) hroom
  · simp only [ne_eq, hcur, not_false_eq_true, if_true]
    exact h.goto_idle hidle rfl

/-- The first store, of `Claimed`: from here on the header has its fields, all but those to
come. -/
theorem Interleaved.mark (h : Interleaved s) {f : Fill} (hpc : s.producers i = .mark f)
    (horderly : (Producer.mark f).Orderly s) (hstep : producerStep s i (.mark f) = some s') :
    Interleaved s' := by
  cases hstep
  have hf : (s.producers i).fill? = some f := by rw [hpc]; rfl
  by_cases hpad : f.kind = .pad
  · rw [if_pos hpad]
    refine h.writeField hf horderly (Or.inl rfl) fun r hof _ =>
      ⟨padStores_proper hof hpad, fun _ => ⟨headerAt_of_all fun g => ?_, ?_⟩⟩
    · exact mem_padStores _ _ g
    · exact Field.get_set _ _ _ (by simp [slotClaimed, Field.width])
  · rw [if_neg hpad]
    refine h.writeField hf horderly (Or.inl rfl) fun r hof _ =>
      ⟨hof.slot_of_not_pad hpad, fun _ => ⟨headerAt_of_all fun g => ?_, ?_⟩⟩
    · cases g <;> simp
    · exact Field.get_set _ _ _ (by simp [slotClaimed, Field.width])

/-- A store of a header field between `Claimed` and `Committed`, or the end of these stores. -/
theorem Interleaved.store (h : Interleaved s) {f : Fill} {rest : List (Field × ℕ)}
    (hpc : s.producers i = .store f rest) (horderly : (Producer.store f rest).Orderly s)
    (hstep : producerStep s i (.store f rest) = some s') : Interleaved s' := by
  cases rest with
  | nil =>
      cases hstep
      by_cases hpad : f.kind = .pad
      · rw [if_pos hpad]
        refine h.goto (by rw [hpc]; rfl) fun g r _ _ _ => ⟨?_, trivial⟩
        rw [hpc]
        simp [Producer.progress, Fill.last, hpad]
      · rw [if_neg hpad]
        refine h.goto (by rw [hpc]; rfl) fun g r hg hof _ => ?_
        obtain rfl : f = g := Option.some.inj hg
        refine ⟨?_, hof.slot_of_not_pad hpad⟩
        rw [hpc]
        simp [Producer.progress, Fill.last, hpad]
  | cons st rest =>
      cases hstep
      have hf : (s.producers i).fill? = some f := by rw [hpc]; rfl
      refine h.writeField hf horderly (Or.inl rfl) fun r hof hproper => ?_
      rw [hpc] at hproper ⊢
      obtain ⟨hfield, hv, hexpects⟩ := hproper st (List.mem_cons_self ..)
      exact ⟨fun st' hst' => hproper st' (List.mem_cons_of_mem _ hst'),
        fun hok => filling_store hok hfield hv hexpects⟩

/-- The payload goes behind the header, inside the region. -/
theorem Interleaved.copyPayload (h : Interleaved s) {f : Fill}
    (hpc : s.producers i = .copyPayload f) (horderly : (Producer.copyPayload f).Orderly s)
    (hstep : producerStep s i (.copyPayload f) = some s') : Interleaved s' := by
  cases hstep
  have hf : (s.producers i).fill? = some f := by rw [hpc]; rfl
  obtain ⟨r, hr, hof, _, hslot⟩ := h.owner i f hf
  rw [hpc] at hslot
  have hpayload := hof.payload_le_of_slot hslot
  rw [hof.hdr, payloadOf_eq]
  refine h.write hf hr horderly (by omega) (by omega) (Or.inl rfl) trivial fun hok => ?_
  rw [hpc] at hok
  exact hok.copy_of_disjoint (Or.inl le_rfl)

/-- The last store, of `Committed`: the call lets go of its region. -/
theorem Interleaved.commit (h : Interleaved s) {f : Fill} (hpc : s.producers i = .commit f)
    (horderly : (Producer.commit f).Orderly s) (hstep : producerStep s i (.commit f) = some s') :
    Interleaved s' := by
  cases hstep
  have hf : (s.producers i).fill? = some f := by rw [hpc]; rfl
  have hdone : ∀ pc : Producer, pc = (if f.kind = .pad then .readWriteHead f.event
      else .countEnqueued) → pc.fill? = none ∧ pc.progress = .committed ∧
      ∀ tickOk r, pc.Proper tickOk r := by
    rintro pc rfl
    split <;> exact ⟨rfl, rfl, fun _ _ => trivial⟩
  obtain ⟨hnone, hcommitted, hproper⟩ := hdone _ rfl
  refine h.writeField hf horderly (Or.inr ⟨hnone, hcommitted⟩) fun r hof _ =>
    ⟨hproper _ _, fun hok => ?_⟩
  rw [hpc] at hok
  rw [hcommitted]
  exact HeaderAt.store hok.1 (by simp [slotCommitted, Field.width]) rfl

theorem Interleaved.producer (h : Interleaved s) {pc : Producer} (hpc : s.producers i = pc)
    (horderly : pc.Orderly s) (hstep : producerStep s i pc = some s') : Interleaved s' := by
  cases pc with
  | idle | returned => cases hstep
  | checkSize event =>
      cases hstep
      exact h.goto_idle (by rw [hpc]; rfl) (by split <;> rfl)
  | countDropped | countEnqueued =>
      cases hstep
      have hgoto : Interleaved (s.goto i .returned) := h.goto_idle (by rw [hpc]; rfl) rfl
      exact hgoto.withCounters _ _ _ _ _
  | readWriteHead event =>
      cases hstep
      exact h.goto_idle (by rw [hpc]; rfl) rfl
  | readReadHead event cur =>
      cases hstep
      exact h.goto_idle (by rw [hpc]; rfl) (by split <;> rfl)
  | exchange event cur =>
      cases hstep
      exact h.exchange hpc horderly
  | mark f => exact h.mark hpc horderly hstep
  | queryCounter f =>
      cases hstep
      refine h.goto (by rw [hpc]; rfl) fun g r hg hof hslot => ?_
      obtain rfl : f = g := Option.some.inj hg
      rw [hpc] at hslot ⊢
      refine ⟨?_, slotStores_proper hof hslot⟩
      simp [Producer.progress, slotStores, Fill.last, show f.kind = .slot from hslot]
  | store f rest => exact h.store hpc horderly hstep
  | nextSeq f =>
      cases hstep
      have hgoto : Interleaved (s.goto i (.storeSeq f (s.disp.seqCounter + 1))) :=
        h.goto (by rw [hpc]; rfl) fun g r hg hof hproper => by
          rw [hpc] at hproper ⊢
          exact ⟨rfl, hproper⟩
      exact hgoto.withCounters _ _ _ _ _
  | storeSeq f seq =>
      cases hstep
      have hf : (s.producers i).fill? = some f := by rw [hpc]; rfl
      refine h.writeField hf horderly (Or.inl rfl) fun r hof hproper => ?_
      rw [hpc] at hproper ⊢
      exact ⟨hproper, fun hok => filling_store hok (by decide) seq.isLt trivial⟩
  | copyPayload f => exact h.copyPayload hpc horderly hstep
  | commit f => exact h.commit hpc horderly hstep

end

/-! ## The consumer -/

section

variable {s s' : RingMachine} {r : Region}

theorem Interleaved.hdr_oldest (h : Interleaved s) (hr : s.Oldest r) :
    slotAt s.disp.readHead = r.hdr := by
  obtain ⟨rest, hlive⟩ := live_of_oldest hr
  exact (h.ordered.hdr_head hlive).symm

theorem Interleaved.shaped_oldest (h : Interleaved s) (hr : s.Oldest r) : r.Shaped :=
  h.ordered.shaped r (mem_live_of_getElem? hr le_rfl)

/-- Until the consumer overwrites it, the header at the read head shows its progress. -/
theorem Interleaved.front_ok (h : Interleaved s) (hr : s.Oldest r)
    (hnot : ¬ s.consumer.releasing) : RegionOk (TickOk s.freqHz r) s.disp.ring r s.front :=
  h.headers s.consumed r hr le_rfl fun hreleasing => absurd hreleasing hnot

theorem Interleaved.oldest (h : Interleaved s) (hnot : ¬ s.consumer.between) :
    ∃ r, s.Oldest r ∧ s.consumer.Proper s.front r :=
  h.consumer.resolve_left hnot

/-- The same, by where the consumer stands. -/
theorem Interleaved.oldest_at (h : Interleaved s) {pc : Consumer} (hpc : s.consumer = pc)
    (hnot : ¬ pc.between) : ∃ r, s.Oldest r ∧ pc.Proper s.front r := by
  subst hpc
  exact h.oldest hnot

/-- The tick of the region at the read head, once its producer has stored it. -/
theorem Interleaved.tick_of_holds (h : Interleaved s) (hr : s.Oldest r)
    (hnot : ¬ s.consumer.releasing) (hholds : s.front.Holds .claimedTick) :
    TickOk s.freqHz r (Field.claimedTick.get s.disp.ring (slotAt s.disp.readHead)) := by
  rw [h.hdr_oldest hr]
  exact (h.front_ok hr hnot).get (by decide) hholds

/-- The consumer, not yet overwriting, goes on with the oldest region. -/
theorem Interleaved.consumerNext (h : Interleaved s) {pc pc' : Consumer} (hpc : s.consumer = pc)
    (hold : ¬ pc.releasing) (hr : s.Oldest r)
    (hproper : pc'.Proper s.front r) :
    Interleaved (s.consumerGoto pc') := by
  subst hpc
  exact h.consumerGoto hold (Or.inr ⟨r, hr, hproper⟩)

/-- The consumer, not yet overwriting, leaves the ring alone. -/
theorem Interleaved.consumerLeaves (h : Interleaved s) {pc pc' : Consumer} (hpc : s.consumer = pc)
    (hold : ¬ pc.releasing) (hbetween : pc'.between) : Interleaved (s.consumerGoto pc') := by
  subst hpc
  exact h.consumerGoto hold (Or.inl hbetween)

/-- The consumer stores `Free` to the oldest region. -/
theorem Interleaved.free (h : Interleaved s) {pc : Consumer} (hr : s.Oldest r)
    (hpc : pc.releasing) (hproper : pc.Proper s.front r) :
    Interleaved (s.release (Field.state.set s.disp.ring (slotAt s.disp.readHead) slotFree) pc) := by
  have hheader := (h.shaped_oldest hr).header
  have hwithin := Field.state.offset_add_width_le
  rw [h.hdr_oldest hr]
  exact h.release hr (Nat.le_add_right _ _) (by omega) hpc hproper

theorem Region.Shaped.payload_lt (h : r.Shaped) : r.payload < 2 ^ 32 := by
  have := h.payload_le
  have := h.quarter
  omega

/-- The stride of a payload size is the length of its region. -/
theorem Region.Shaped.stride_of_payload (h : r.Shaped) {payload : UINT32}
    (hpayload : payload.toNat = r.payload) : (stride payload).toNat = r.len := by
  rw [← h.stride_payload, ← hpayload, BitVec.ofNat_toNat, BitVec.setWidth_eq]

/-- The stored stride of a slot passes the test of the poison branch. -/
theorem Region.Shaped.poisonStride_len (h : r.Shaped) :
    (poisonStride (BitVec.ofNat 32 r.len)).toNat = r.len := by
  have hheader := h.header
  have hquarter := h.quarter
  have haligned := h.lenAligned
  have hlen : (BitVec.ofNat 32 r.len).toNat = r.len := by
    rw [BitVec.toNat_ofNat]
    omega
  have hrange : BitVec.ofNat 32 r.len ≥ sizeofSlotHeader ∧
      BitVec.ofNat 32 r.len ≤ asyncRingBytes / 4#32 := by
    constructor
    · rw [ge_iff_le, BitVec.le_def, hlen, sizeofSlotHeader_toNat]
      omega
    · rw [BitVec.le_def, hlen, show (asyncRingBytes / 4#32).toNat = 65536 from rfl]
      omega
  calc (poisonStride (BitVec.ofNat 32 r.len)).toNat
      = (alignUp (BitVec.ofNat 32 r.len)).toNat := by rw [poisonStride, if_pos hrange]
    _ = (r.len + 7) / 8 * 8 := by rw [alignUp_toNat (by omega), hlen]
    _ = r.len := by omega

/-! ### The reads of the consumer -/

theorem Interleaved.readPending (h : Interleaved s) (hpc : s.consumer = .readPending)
    (hstep : consumerStep s .readPending = some s') : Interleaved s' := by
  cases hstep
  by_cases hused : usedBytes s.disp.writeHead s.disp.readHead = 0
  · rw [if_pos hused]
    exact h.consumerLeaves hpc id trivial
  · rw [if_neg hused]
    rw [h.ordered.usedBytes_eq_zero_iff] at hused
    obtain ⟨r, hr⟩ := oldest_of_live hused
    exact h.consumerNext hpc id hr trivial

/-- The `state` read is that of the oldest region, whatever its progress. -/
theorem Interleaved.readState (h : Interleaved s) (hpc : s.consumer = .readState)
    (horderly : Consumer.readState.Orderly s) (hstep : consumerStep s .readState = some s') :
    Interleaved s' := by
  cases hstep
  obtain ⟨r, hr, _⟩ := h.oldest_at hpc id
  have hfront := h.front_ok hr (by rw [hpc]; exact id)
  refine h.consumerNext hpc id hr ?_
  rw [Consumer.Orderly, h.hdr_oldest hr] at horderly
  rw [h.hdr_oldest hr]
  cases hprogress : s.front with
  | claimed =>
      -- the producer has stored nothing: an earlier lap left `Claimed` here
      rw [horderly hprogress]
      trivial
  | filling unset =>
      rw [hprogress] at hfront
      rw [hfront.2]
      trivial
  | committed =>
      rw [hprogress] at hfront
      have hstate : Field.state.get s.disp.ring r.hdr = slotCommitted :=
        hfront .state (List.not_mem_nil)
      rw [if_pos hstate]
      rfl

theorem Interleaved.readPayload (h : Interleaved s) (hpc : s.consumer = .readPayload)
    (hstep : consumerStep s .readPayload = some s') : Interleaved s' := by
  cases hstep
  obtain ⟨r, hr, hcommitted⟩ := h.oldest_at hpc id
  have hcommitted : s.front = .committed := hcommitted
  have hfront := h.front_ok hr (by rw [hpc]; exact id)
  rw [hcommitted] at hfront
  have hpayload : Field.payloadBytes.get s.disp.ring r.hdr = r.payload :=
    hfront .payloadBytes (List.not_mem_nil)
  refine h.consumerNext hpc id hr ⟨hcommitted, ?_⟩
  rw [h.hdr_oldest hr, field32, hpayload, BitVec.toNat_ofNat,
    Nat.mod_eq_of_lt (h.shaped_oldest hr).payload_lt]

/-- The `flags` of a committed region tell a pad from a slot. -/
theorem Interleaved.readFlags (h : Interleaved s) {payload : UINT32}
    (hpc : s.consumer = .readFlags payload)
    (hstep : consumerStep s (.readFlags payload) = some s') :
    Interleaved s' := by
  cases hstep
  obtain ⟨r, hr, hcommitted, hpayload⟩ := h.oldest_at hpc id
  have hfront := h.front_ok hr (by rw [hpc]; exact id)
  rw [hcommitted] at hfront
  have hflags : Field.flags.get s.disp.ring r.hdr = r.flags :=
    hfront .flags (List.not_mem_nil)
  refine h.consumerNext hpc id hr ?_
  rw [h.hdr_oldest hr, hflags]
  cases hkind : r.kind with
  | pad =>
      rw [if_pos (by rw [Region.flags, if_pos hkind])]
      exact ⟨hcommitted, hpayload, hkind⟩
  | slot =>
      rw [if_neg (by rw [Region.flags, if_neg (by rw [hkind]; decide)]; decide)]
      exact ⟨hcommitted, hpayload, hkind⟩
  | tail => exact absurd hkind (h.shaped_oldest hr).notTail

/-- A region whose tick is not zero is a slot. -/
theorem Interleaved.readTick (h : Interleaved s) (hpc : s.consumer = .readTick)
    (horderly : Consumer.readTick.Orderly s) (hstep : consumerStep s .readTick = some s') :
    Interleaved s' := by
  cases hstep
  obtain ⟨r, hr, _⟩ := h.oldest_at hpc id
  have hr' : s.oldest? = some r := hr
  by_cases hzero : BitVec.ofNat 64
      (Field.claimedTick.get s.disp.ring (slotAt s.disp.readHead)) = 0
  · rw [if_neg (not_not.mpr hzero)]
    exact h.consumerLeaves hpc id trivial
  · rw [if_pos hzero]
    refine h.consumerNext hpc id hr ((h.shaped_oldest hr).slot_of_not_pad fun hpad => hzero ?_)
    -- the tick of a pad is zero
    rcases horderly (by rw [hr', Option.map_some, hpad]) with hholds | hleft
    · have htick := h.tick_of_holds hr (by rw [hpc]; exact id) hholds
      rw [TickOk, if_pos hpad] at htick
      rw [htick]
      rfl
    · rw [hleft]
      rfl

/-- The stride that is read, stored or left by an earlier lap, is that of the oldest region. -/
theorem Interleaved.readStride (h : Interleaved s) (hpc : s.consumer = .readStride)
    (horderly : Consumer.readStride.Orderly s) (hstep : consumerStep s .readStride = some s') :
    Interleaved s' := by
  cases hstep
  obtain ⟨r, hr, hkind⟩ := h.oldest_at hpc id
  have hlen : Field.strideBytes.get s.disp.ring (slotAt s.disp.readHead) = r.len := by
    rcases horderly with hholds | hleft
    · have hfront := h.front_ok hr (by rw [hpc]; exact id)
      rw [h.hdr_oldest hr]
      exact hfront.get (by decide) hholds
    · rw [RingMachine.oldest?, show s.claims[s.consumed]? = some r from hr] at hleft
      exact Option.some.inj hleft
  refine h.consumerNext hpc id hr ⟨hkind, ?_⟩
  rw [field32, hlen]
  exact (h.shaped_oldest hr).poisonStride_len

theorem Interleaved.consumer_step (h : Interleaved s) {pc : Consumer} (hpc : s.consumer = pc)
    (horderly : pc.Orderly s) (hstep : consumerStep s pc = some s') : Interleaved s' := by
  cases pc with
  | returned payload => cases hstep
  | readPending => exact h.readPending hpc hstep
  | readState => exact h.readState hpc horderly hstep
  | readPayload => exact h.readPayload hpc hstep
  | readFlags payload => exact h.readFlags hpc hstep
  | readTick => exact h.readTick hpc horderly hstep
  | readStride => exact h.readStride hpc horderly hstep
  | copyPayload payload =>
      cases hstep
      obtain ⟨r, hr, hproper⟩ := h.oldest_at hpc id
      have hgoto : Interleaved (s.consumerGoto (.freeSlot payload)) :=
        h.consumerNext hpc id hr hproper
      exact hgoto.withCounters _ _ _ _ _
  | freePad payload | freeSlot payload | freePoisoned n =>
      cases hstep
      obtain ⟨r, hr, hproper⟩ := h.oldest_at hpc id
      exact h.free hr trivial hproper
  | advancePad payload | advanceSlot payload =>
      cases hstep
      obtain ⟨r, hr, _, hpayload, _⟩ := h.oldest_at hpc id
      exact h.take hr ((h.shaped_oldest hr).stride_of_payload hpayload) trivial
  | queryCounter claimedTick =>
      cases hstep
      obtain ⟨r, hr, hkind⟩ := h.oldest_at hpc id
      by_cases hexpired : s.disp.expired claimedTick s.now = true
      · rw [if_pos hexpired]
        exact h.consumerNext hpc id hr hkind
      · rw [if_neg hexpired]
        exact h.consumerLeaves hpc id trivial
  | zeroSlot n =>
      cases hstep
      obtain ⟨r, hr, hproper⟩ := h.oldest_at hpc id
      have hzeroed : poisonZeroed s.disp.readHead n ≤ n.toNat := Nat.min_le_left _ _
      have hn := hproper.2
      rw [h.hdr_oldest hr]
      exact h.release hr le_rfl (by omega) trivial hproper
  | advancePoisoned n =>
      cases hstep
      obtain ⟨r, hr, hproper⟩ := h.oldest_at hpc id
      exact h.take hr hproper.2 trivial
  | countPoisoned =>
      cases hstep
      have hgoto : Interleaved (s.consumerGoto .readPending) :=
        h.consumerLeaves hpc id trivial
      exact hgoto.withCounters _ _ _ _ _
  | advanceFree =>
      -- an orderly consumer never finds a free slot
      obtain ⟨r, _, hproper⟩ := h.oldest_at hpc id
      exact hproper.elim

/-- **Step lemma for the machine.** -/
theorem Interleaved.step (h : Interleaved s) {action : RingAction} (horderly : Orderly s action)
    (hstep : ringStep s action = some s') : Interleaved s' := by
  cases action with
  | tick =>
      cases hstep
      exact h.congr h.ordered rfl rfl rfl
  | produce i event =>
      obtain ⟨hpc, rfl⟩ := ringStep_produce hstep
      exact h.goto_idle (by rw [hpc]; rfl) rfl
  | producer i => exact h.producer rfl horderly hstep
  | consume =>
      obtain ⟨⟨payload, hpc⟩, rfl⟩ := ringStep_consume hstep
      exact h.consumerGoto (by rw [hpc]; exact id) (Or.inl trivial)
  | consumer => exact h.consumer_step rfl horderly hstep

/-- **Run lemma.** -/
theorem OrderlyRun.interleaved {outside : Memory} {freq : UINT64}
    (run : OrderlyRun outside freq s) : Interleaved s :=
  run.invariant (init_interleaved outside freq) fun _ _ _ h horderly hstep =>
    h.step horderly hstep

end

end Kawin.Driver
