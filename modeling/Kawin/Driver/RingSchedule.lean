import Kawin.Driver.ClaimTiling
import Kawin.Driver.RingCalls

/-!
# Calls without interference

`produceSlot` and `consumeOne` run a call from beginning to end; the machine cuts it into steps,
with those of others in between.  Here the two are put together: a call that nobody interrupts does
in its steps what the function says (`run_produce`, `run_consumeLoop`), so a sequence of complete
calls does what the machine does when it takes the steps of these calls one call after the other
(`calls_scheduled`).  They agree up to the ghosts of the history.
-/

namespace Kawin.Driver

open ByteMemory Transition

/-! ## The members of the dispatcher -/

/-- The dispatchers differ at most in their history. -/
structure SameMembers (d e : Dispatcher) : Prop where
  ring : d.ring = e.ring
  writeHead : d.writeHead = e.writeHead
  readHead : d.readHead = e.readHead
  seqCounter : d.seqCounter = e.seqCounter
  sendBuf : d.sendBuf = e.sendBuf
  qpcFreqMs : d.qpcFreqMs = e.qpcFreqMs
  enqueued : d.enqueued = e.enqueued
  dropped : d.dropped = e.dropped
  poisoned : d.poisoned = e.poisoned

theorem SameMembers.refl (d : Dispatcher) : SameMembers d d :=
  ⟨rfl, rfl, rfl, rfl, rfl, rfl, rfl, rfl, rfl⟩

/-! ## A call of `ProduceSlot` alone -/

/-- Only call `i` takes steps. -/
structure Alone (i : ℕ) (s t : RingMachine) : Prop where
  steps : ∃ k, steps ringStep s (.replicate k (.producer i)) = some t
  others : ∀ j, j ≠ i → t.producers j = s.producers j
  consumer : t.consumer = s.consumer
  now : t.now = s.now

namespace Alone

variable {i : ℕ} {s t u : RingMachine} {pc : Producer}

theorem refl (i : ℕ) (s : RingMachine) : Alone i s s := ⟨⟨0, rfl⟩, fun _ _ => rfl, rfl, rfl⟩

theorem trans (first : Alone i s t) (second : Alone i t u) : Alone i s u where
  steps := steps_replicate_trans first.steps second.steps
  others j hj := (second.others j hj).trans (first.others j hj)
  consumer := second.consumer.trans first.consumer
  now := second.now.trans first.now

/-- One step of the call. -/
theorem step (hpc : s.producers i = pc) (hstep : producerStep s i pc = some t) : Alone i s t where
  steps := by
    refine steps_replicate_one ?_
    rw [ringStep, hpc]
    exact hstep
  others j hj := producers_of_ne hstep hj
  consumer := by
    rcases producerStep_cases hstep with
      ⟨_, _, rfl, _⟩ | ⟨_, _, _, _, rfl, _⟩ | ⟨_, _, _, _, rfl, _⟩ <;> rfl
  now := by
    rcases producerStep_cases hstep with
      ⟨_, _, rfl, _⟩ | ⟨_, _, _, _, rfl, _⟩ | ⟨_, _, _, _, rfl, _⟩ <;> rfl

/-- A step and what follows it. -/
theorem head (hpc : s.producers i = pc) (hstep : producerStep s i pc = some t)
    (rest : Alone i t u) : Alone i s u :=
  (step hpc hstep).trans rest

end Alone

section

variable {i : ℕ} {s : RingMachine} {f : Fill}

/-- The stores to a header, one after the other. -/
theorem run_stores (stores : List (Field × ℕ)) :
    ∀ {s : RingMachine}, s.producers i = .store f stores → ∃ t, Alone i s t ∧
      t.producers i = .store f [] ∧
      t.disp = { s.disp with ring := storeAll s.disp.ring f.hdr stores } := by
  induction stores with
  | nil => exact fun {s} hpc => ⟨s, .refl i s, hpc, rfl⟩
  | cons st rest ih =>
      intro s hpc
      obtain ⟨t, halone, hend, hdisp⟩ := @ih (s.write i f (st.1.set s.disp.ring f.hdr st.2)
        (.store f rest)) RingMachine.write_self
      exact ⟨t, halone.head hpc rfl, hend, hdisp⟩

/-- A call fills the pad that it claimed, and comes round again. -/
theorem run_pad (hkind : f.kind = .pad) (hpc : s.producers i = .mark f) :
    ∃ t, Alone i s t ∧ t.producers i = .readWriteHead f.event ∧
      t.disp = { s.disp with ring := writePad s.disp.ring f.hdr (spaceToEnd f.cur) } := by
  obtain ⟨t, halone, hstored, hdisp⟩ := @run_stores i f (padStores (spaceToEnd f.cur))
    (s.write i f (Field.state.set s.disp.ring f.hdr slotClaimed)
      (.store f (padStores (spaceToEnd f.cur)))) RingMachine.write_self
  have hmark : producerStep s i (.mark f) =
      some (s.write i f (Field.state.set s.disp.ring f.hdr slotClaimed)
        (.store f (padStores (spaceToEnd f.cur)))) := by
    rw [producerStep, if_pos hkind]
  have hlast : producerStep t i (.store f []) = some (t.goto i (.commit f)) := by
    rw [producerStep, if_pos hkind]
  have hcommit : producerStep (t.goto i (.commit f)) i (.commit f) =
      some ((t.goto i (.commit f)).write i f (Field.state.set t.disp.ring f.hdr slotCommitted)
        (.readWriteHead f.event)) := by
    rw [producerStep, if_pos hkind]
    rfl
  refine ⟨_, (halone.head hpc hmark).trans
    ((Alone.step hstored hlast).trans (.step RingMachine.goto_self hcommit)),
    RingMachine.write_self, ?_⟩
  show { t.disp with ring := Field.state.set t.disp.ring f.hdr slotCommitted } = _
  rw [hdisp]
  rfl

/-- A call fills the slot that it claimed, and returns. -/
theorem run_slot (hkind : f.kind ≠ .pad) (hpc : s.producers i = .mark f) :
    ∃ t, Alone i s t ∧ t.producers i = .returned ∧
      t.disp = { s.disp with
        ring := writeSlot s.disp.ring f.hdr f.event.bytes f.event.size (stride f.event.size)
          s.now (s.disp.seqCounter + 1)
        seqCounter := s.disp.seqCounter + 1
        enqueued := s.disp.enqueued + 1 } := by
  have hmark : producerStep s i (.mark f) = some (s.write i f
      (Field.state.set s.disp.ring f.hdr slotClaimed) (.queryCounter f)) := by
    rw [producerStep, if_neg hkind]
  obtain ⟨t, halone, hstored, hdisp⟩ := @run_stores i f
    (slotStores f.event.size (stride f.event.size) s.now)
    ((s.write i f (Field.state.set s.disp.ring f.hdr slotClaimed) (.queryCounter f)).goto i
      (.store f (slotStores f.event.size (stride f.event.size) s.now))) RingMachine.goto_self
  have hlast : producerStep t i (.store f []) = some (t.goto i (.nextSeq f)) := by
    rw [producerStep, if_neg hkind]
  have hcommit : ∀ u : RingMachine, producerStep u i (.commit f) = some (u.write i f
      (Field.state.set u.disp.ring f.hdr slotCommitted) .countEnqueued) := by
    intro u
    rw [producerStep, if_neg hkind]
  have hbegin : Alone i s (t.goto i (.nextSeq f)) :=
    (Alone.step hpc hmark).trans
      (((Alone.step RingMachine.write_self rfl).trans halone).trans (.step hstored hlast))
  refine ⟨_, hbegin.trans (.head RingMachine.goto_self rfl (.head RingMachine.goto_self rfl
    (.head RingMachine.write_self rfl (.head RingMachine.write_self (hcommit _)
      (.step RingMachine.write_self rfl))))), RingMachine.goto_self, ?_⟩
  show { t.disp with
    ring := Field.state.set (copy (Field.seqNum.set t.disp.ring f.hdr (t.disp.seqCounter + 1).toNat)
      (payloadOf f.hdr) f.event.size.toNat f.event.bytes) f.hdr slotCommitted
    seqCounter := t.disp.seqCounter + 1
    enqueued := t.disp.enqueued + 1 } = _
  rw [hdisp]
  rfl

end

section

variable {i : ℕ} {s : RingMachine} {d d' : Dispatcher} {event : Accepted} {payload : Payload}

/-- What the claim loop comes to: the event is dropped and the call has returned, or its slot is
claimed and not yet filled. -/
def Claims (i : ℕ) (event : Accepted) (t : RingMachine) : Option LONG → Prop
  | none => t.producers i = .returned
  | some claimed => ∃ index, t.producers i = .mark ⟨event, .slot, claimed, index⟩

theorem SameMembers.claim {kind kind' : RegionKind} {n payload payload' : UINT32}
    {e : Dispatcher} (h : SameMembers d e) :
    SameMembers (d.claim kind n payload) (e.claim kind' n payload') :=
  ⟨h.ring, congrArg (· + n) h.writeHead, h.readHead, h.seqCounter, h.sendBuf, h.qpcFreqMs,
    h.enqueued, h.dropped, h.poisoned⟩

theorem SameMembers.withRing {m m' : Memory} {e : Dispatcher} (h : SameMembers d e)
    (hring : m = m') : SameMembers { d with ring := m } { e with ring := m' } :=
  ⟨hring, h.writeHead, h.readHead, h.seqCounter, h.sendBuf, h.qpcFreqMs, h.enqueued, h.dropped,
    h.poisoned⟩

theorem SameMembers.recordCount {e : Dispatcher} (h : SameMembers d e) :
    SameMembers d e.recordCount :=
  ⟨h.ring, h.writeHead, h.readHead, h.seqCounter, h.sendBuf, h.qpcFreqMs, h.enqueued, h.dropped,
    h.poisoned⟩

/-- A call reads the heads, and has room. -/
theorem run_heads (hpc : s.producers i = .readWriteHead event)
    (hroom : lacksRoom s.disp.writeHead s.disp.readHead (stride event.size) ≠ true) :
    ∃ t, Alone i s t ∧ t.producers i = .exchange event s.disp.writeHead ∧ t.disp = s.disp := by
  have hread : producerStep (s.goto i (.readReadHead event s.disp.writeHead)) i
      (.readReadHead event s.disp.writeHead) =
      some ((s.goto i (.readReadHead event s.disp.writeHead)).goto i
        (.exchange event s.disp.writeHead)) := by
    rw [producerStep]
    exact congrArg (fun pc => some (RingMachine.goto _ i pc)) (if_neg hroom)
  exact ⟨_, .head hpc rfl (.step RingMachine.goto_self hread), RingMachine.goto_self, rfl⟩

/-- A call claims the rest of the ring, fills it if a header fits, and comes round again. -/
theorem run_wrap (hpc : s.producers i = .exchange event s.disp.writeHead)
    (hwraps : wraps s.disp.writeHead (stride event.size) = true) (hsame : SameMembers s.disp d) :
    ∃ t, Alone i s t ∧ t.producers i = .readWriteHead event ∧ SameMembers t.disp d.wrap := by
  have hexchange : ∀ pc, (if spaceToEnd s.disp.writeHead ≥ sizeofSlotHeader then
        Producer.mark ⟨event, .pad, s.disp.writeHead, s.claims.length⟩
      else .readWriteHead event) = pc →
      producerStep s i (.exchange event s.disp.writeHead) =
        some (s.claim i (wrapKind s.disp.writeHead) (spaceToEnd s.disp.writeHead)
          (spaceToEnd s.disp.writeHead - sizeofSlotHeader) pc) := by
    rintro pc rfl
    rw [producerStep, exchangeStep, if_neg (not_not_intro rfl), if_pos hwraps]
  unfold Dispatcher.wrap
  dsimp only
  rw [← hsame.writeHead]
  by_cases hheader : spaceToEnd s.disp.writeHead ≥ sizeofSlotHeader
  · have hfirst := hexchange _ (if_pos hheader)
    obtain ⟨t, halone, hend, hdisp⟩ := @run_pad i (s.claim i (wrapKind s.disp.writeHead)
      (spaceToEnd s.disp.writeHead) (spaceToEnd s.disp.writeHead - sizeofSlotHeader)
      (.mark ⟨event, .pad, s.disp.writeHead, s.claims.length⟩))
      ⟨event, .pad, s.disp.writeHead, s.claims.length⟩ rfl RingMachine.claim_self
    refine ⟨t, .head hpc hfirst halone, hend, ?_⟩
    rw [hdisp, if_pos hheader]
    refine hsame.claim.withRing ?_
    rw [RingMachine.claim, claim_ring, claim_ring, hsame.ring]
    rfl
  · refine ⟨_, .step hpc (hexchange _ (if_neg hheader)), RingMachine.claim_self, ?_⟩
    rw [if_neg hheader]
    exact hsame.claim

/-- **The claim loop alone.** -/
theorem run_claimLoop (fuel : ℕ) : ∀ {s : RingMachine} {d : Dispatcher} {result : Option LONG},
    SameMembers s.disp d → s.producers i = .readWriteHead event →
    claimLoop event.size fuel d = some (d', result) →
    ∃ t, Alone i s t ∧ Claims i event t result ∧ SameMembers t.disp d' := by
  induction fuel with
  | zero =>
      intro s d result _ _ hloop
      cases hloop
  | succ fuel ih =>
      intro s d result hsame hpc hloop
      have hheads : lacksRoom s.disp.writeHead s.disp.readHead (stride event.size) =
          lacksRoom d.writeHead d.readHead (stride event.size) := by
        rw [hsame.writeHead, hsame.readHead]
      by_cases hroom : lacksRoom d.writeHead d.readHead (stride event.size) = true
      · rw [claimLoop_full fuel hroom] at hloop
        cases hloop
        have hfull : producerStep (s.goto i (.readReadHead event s.disp.writeHead)) i
            (.readReadHead event s.disp.writeHead) =
            some ((s.goto i (.readReadHead event s.disp.writeHead)).goto i .countDropped) := by
          rw [producerStep]
          exact congrArg (fun pc => some (RingMachine.goto _ i pc)) (if_pos (hheads.trans hroom))
        refine ⟨_, .head hpc rfl (.head RingMachine.goto_self hfull
          (.step RingMachine.goto_self rfl)), RingMachine.goto_self, ?_⟩
        exact ⟨hsame.ring, hsame.writeHead, hsame.readHead, hsame.seqCounter, hsame.sendBuf,
          hsame.qpcFreqMs, hsame.enqueued, congrArg (· + 1) hsame.dropped, hsame.poisoned⟩
      · have hfits : lacksRoom s.disp.writeHead s.disp.readHead (stride event.size) ≠ true := by
          rw [hheads]
          exact hroom
        obtain ⟨t, hread, hexchange, hdisp⟩ := run_heads hpc hfits
        rw [← hdisp] at hsame hexchange
        by_cases hwraps : wraps d.writeHead (stride event.size) = true
        · rw [claimLoop_wraps fuel hroom hwraps] at hloop
          have htail : wraps t.disp.writeHead (stride event.size) = true := by
            rw [hsame.writeHead]
            exact hwraps
          obtain ⟨u, hwrap, hagain, hsame⟩ := run_wrap hexchange htail hsame.recordCount
          obtain ⟨v, hrest, hclaims, hend⟩ := ih hsame hagain hloop
          exact ⟨v, hread.trans (hwrap.trans hrest), hclaims, hend⟩
        · rw [claimLoop_fits fuel hroom hwraps] at hloop
          cases hloop
          have hclaim : producerStep t i (.exchange event t.disp.writeHead) =
              some (t.claim i .slot (stride event.size) event.size
                (.mark ⟨event, .slot, t.disp.writeHead, t.claims.length⟩)) := by
            rw [producerStep, exchangeStep, if_neg (not_not_intro rfl), hsame.writeHead,
              if_neg hwraps]
          refine ⟨_, hread.trans (.step hexchange hclaim), ⟨t.claims.length, ?_⟩,
            hsame.recordCount.claim⟩
          rw [← hsame.writeHead]
          exact RingMachine.claim_self

/-- **A call of `ProduceSlot` alone** does what the function says. -/
theorem run_produce {status : NTSTATUS} (hsame : SameMembers s.disp d)
    (hpc : s.producers i = .checkSize payload)
    (hcall : produceSlot d payload.bytes payload.size s.now = some (d', status)) :
    ∃ t, Alone i s t ∧ t.producers i = .returned ∧ SameMembers t.disp d' := by
  have hcheck : ∀ pc, (if h : payload.size ≤ maxPayload then Producer.readWriteHead ⟨payload, h⟩
      else .countDropped) = pc →
      producerStep s i (.checkSize payload) = some (s.goto i pc) := by
    rintro pc rfl
    rfl
  by_cases hlarge : payload.size > maxPayload
  · rw [produceSlot, if_pos hlarge] at hcall
    cases hcall
    have hdrop := hcheck .countDropped (dif_neg (BitVec.not_le.mpr hlarge))
    refine ⟨_, .head hpc hdrop (.step RingMachine.goto_self rfl), RingMachine.goto_self, ?_⟩
    exact ⟨hsame.ring, hsame.writeHead, hsame.readHead, hsame.seqCounter, hsame.sendBuf,
      hsame.qpcFreqMs, hsame.enqueued, congrArg (· + 1) hsame.dropped, hsame.poisoned⟩
  · have hfits : payload.size ≤ maxPayload := BitVec.not_lt.mp hlarge
    rw [produceSlot, if_neg hlarge] at hcall
    have hbegin : Alone i s (s.goto i (.readWriteHead ⟨payload, hfits⟩)) :=
      .step hpc (hcheck _ (dif_pos hfits))
    cases hloop : claimLoop payload.size 2 d with
    | none =>
        rw [hloop] at hcall
        cases hcall
    | some result =>
        obtain ⟨e, claimed⟩ := result
        obtain ⟨t, hclaim, hclaims, hsame⟩ := @run_claimLoop i e ⟨payload, hfits⟩ 2
          (s.goto i (.readWriteHead ⟨payload, hfits⟩)) d claimed hsame RingMachine.goto_self hloop
        rw [hloop] at hcall
        cases claimed with
        | none =>
            cases hcall
            exact ⟨t, hbegin.trans hclaim, hclaims, hsame⟩
        | some claimed =>
            obtain ⟨index, hmark⟩ := hclaims
            cases hcall
            obtain ⟨u, hslot, hend, hdisp⟩ := @run_slot i t
              ⟨⟨payload, hfits⟩, .slot, claimed, index⟩ RegionKind.noConfusion hmark
            have hnow : t.now = s.now := hclaim.now
            refine ⟨u, hbegin.trans (hclaim.trans hslot), hend, ?_⟩
            rw [hdisp, hnow, hsame.ring, hsame.seqCounter]
            exact ⟨rfl, hsame.writeHead, hsame.readHead, rfl, hsame.sendBuf, hsame.qpcFreqMs,
              congrArg (· + 1) hsame.enqueued, hsame.dropped, hsame.poisoned⟩

end

/-! ## A call of `ConsumeOne` alone -/

/-- Only the consumer takes steps. -/
structure ConsumerAlone (s t : RingMachine) : Prop where
  steps : ∃ k, steps ringStep s (.replicate k .consumer) = some t
  producers : t.producers = s.producers
  now : t.now = s.now

namespace ConsumerAlone

variable {s t u : RingMachine} {pc : Consumer}

theorem trans (first : ConsumerAlone s t) (second : ConsumerAlone t u) : ConsumerAlone s u where
  steps := steps_replicate_trans first.steps second.steps
  producers := second.producers.trans first.producers
  now := second.now.trans first.now

theorem step (hpc : s.consumer = pc) (hstep : consumerStep s pc = some t) : ConsumerAlone s t where
  steps := by
    refine steps_replicate_one ?_
    rw [ringStep, hpc]
    exact hstep
  producers := (consumerStep_sameClaims hstep).producers
  now := (consumerStep_sameClaims hstep).freqHz

theorem head (hpc : s.consumer = pc) (hstep : consumerStep s pc = some t)
    (rest : ConsumerAlone t u) : ConsumerAlone s u :=
  (step hpc hstep).trans rest

end ConsumerAlone

section

variable {s : RingMachine} {d d' : Dispatcher} {payload : UINT32} {now : UINT64}

/-- The size that the header at the read head gives. -/
def Dispatcher.frontPayload (d : Dispatcher) : UINT32 :=
  field32 d.ring (slotAt d.readHead) .payloadBytes

/-- The tick in the header at the read head. -/
def Dispatcher.frontTick (d : Dispatcher) : UINT64 :=
  BitVec.ofNat 64 (Field.claimedTick.get d.ring (slotAt d.readHead))

/-- The stride by which the slot at the read head is skipped if it is poisoned. -/
def Dispatcher.frontStride (d : Dispatcher) : UINT32 :=
  poisonStride (field32 d.ring (slotAt d.readHead) .strideBytes)

/-- A committed pad is freed and taken. -/
def Dispatcher.freePad (d : Dispatcher) : Dispatcher :=
  (d.setField (slotAt d.readHead) .state slotFree).take (stride d.frontPayload)

/-- The payload of a committed slot is copied, and the slot freed and taken. -/
def Dispatcher.takeSlot (d : Dispatcher) : Dispatcher :=
  ({ d with
    sendBuf := copy d.sendBuf 0 d.frontPayload.toNat fun k =>
      d.ring (payloadOf (slotAt d.readHead) + k) }.setField (slotAt d.readHead) .state
    slotFree).take (stride d.frontPayload)

/-- A poisoned slot is zeroed, freed and skipped. -/
def Dispatcher.skipPoisoned (d : Dispatcher) : Dispatcher :=
  let n := d.frontStride
  let zeroed := { d with ring := zero d.ring (slotAt d.readHead) (poisonZeroed d.readHead n) }
  let skipped := (zeroed.setField (slotAt d.readHead) .state slotFree).take n
  { skipped with poisoned := skipped.poisoned + 1 }

namespace SameMembers

variable {e : Dispatcher}

theorem recordHeaderRead (h : SameMembers d e) : SameMembers d e.recordHeaderRead :=
  ⟨h.ring, h.writeHead, h.readHead, h.seqCounter, h.sendBuf, h.qpcFreqMs, h.enqueued, h.dropped,
    h.poisoned⟩

theorem advance (h : SameMembers d e) (n : UINT32) : SameMembers (d.advance n) (e.advance n) :=
  ⟨h.ring, h.writeHead, congrArg (· + n) h.readHead, h.seqCounter, h.sendBuf, h.qpcFreqMs,
    h.enqueued, h.dropped, h.poisoned⟩

theorem freePad (h : SameMembers d e) : SameMembers d.freePad e.freePad := by
  unfold Dispatcher.freePad Dispatcher.frontPayload Dispatcher.setField
  rw [h.ring, h.readHead]
  exact ⟨rfl, h.writeHead, rfl, h.seqCounter, h.sendBuf, h.qpcFreqMs, h.enqueued, h.dropped,
    h.poisoned⟩

theorem takeSlot (h : SameMembers d e) : SameMembers d.takeSlot e.takeSlot := by
  unfold Dispatcher.takeSlot Dispatcher.frontPayload Dispatcher.setField
  rw [h.ring, h.readHead, h.sendBuf]
  exact ⟨rfl, h.writeHead, rfl, h.seqCounter, rfl, h.qpcFreqMs, h.enqueued, h.dropped,
    h.poisoned⟩

theorem skipPoisoned (h : SameMembers d e) : SameMembers d.skipPoisoned e.skipPoisoned := by
  unfold Dispatcher.skipPoisoned Dispatcher.frontStride Dispatcher.setField
  rw [h.ring, h.readHead]
  exact ⟨rfl, h.writeHead, rfl, h.seqCounter, h.sendBuf, h.qpcFreqMs, h.enqueued, h.dropped,
    congrArg (· + 1) h.poisoned⟩

end SameMembers

/-- A call of `ConsumeOne` finds a committed pad, frees it and comes round again. -/
theorem run_freePad (hpc : s.consumer = .readState)
    (hstate : Field.state.get s.disp.ring (slotAt s.disp.readHead) = slotCommitted)
    (hflags : Field.flags.get s.disp.ring (slotAt s.disp.readHead) = padFlag) :
    ∃ t, ConsumerAlone s t ∧ t.consumer = .readPending ∧ t.disp = s.disp.freePad := by
  have hread : consumerStep s .readState = some (s.consumerGoto .readPayload) := by
    rw [consumerStep]
    exact congrArg (fun pc => some (s.consumerGoto pc)) (if_pos hstate)
  have hpad : consumerStep (s.consumerGoto (.readFlags s.disp.frontPayload))
      (.readFlags s.disp.frontPayload) = some (s.consumerGoto (.freePad s.disp.frontPayload)) := by
    rw [consumerStep]
    exact congrArg (fun pc => some (s.consumerGoto pc)) (if_pos hflags)
  exact ⟨_, .head hpc hread (.head rfl rfl (.head rfl hpad (.head rfl rfl (.step rfl rfl)))),
    rfl, rfl⟩

/-- A call of `ConsumeOne` finds a committed slot, copies its payload and returns. -/
theorem run_takeSlot (hpc : s.consumer = .readState)
    (hstate : Field.state.get s.disp.ring (slotAt s.disp.readHead) = slotCommitted)
    (hflags : Field.flags.get s.disp.ring (slotAt s.disp.readHead) ≠ padFlag) :
    ∃ t, ConsumerAlone s t ∧ t.consumer = .returned s.disp.frontPayload ∧
      t.disp = s.disp.takeSlot := by
  have hread : consumerStep s .readState = some (s.consumerGoto .readPayload) := by
    rw [consumerStep]
    exact congrArg (fun pc => some (s.consumerGoto pc)) (if_pos hstate)
  have hslot : consumerStep (s.consumerGoto (.readFlags s.disp.frontPayload))
      (.readFlags s.disp.frontPayload) =
      some (s.consumerGoto (.copyPayload s.disp.frontPayload)) := by
    rw [consumerStep]
    exact congrArg (fun pc => some (s.consumerGoto pc)) (if_neg hflags)
  exact ⟨_, .head hpc hread (.head rfl rfl (.head rfl hslot (.head rfl rfl (.head rfl rfl
    (.step rfl rfl))))), rfl, rfl⟩

/-- A call of `ConsumeOne` finds a claimed slot that has not timed out, and returns. -/
theorem run_waits (hpc : s.consumer = .readState)
    (hstate : Field.state.get s.disp.ring (slotAt s.disp.readHead) = slotClaimed)
    (hwaits : ¬(s.disp.frontTick ≠ 0 ∧ s.disp.expired s.disp.frontTick s.now)) :
    ∃ t, ConsumerAlone s t ∧ t.consumer = .returned 0 ∧ t.disp = s.disp := by
  have hread : consumerStep s .readState = some (s.consumerGoto .readTick) := by
    rw [consumerStep]
    dsimp only
    rw [hstate]
    rfl
  by_cases htick : s.disp.frontTick ≠ 0
  · have hquery : consumerStep (s.consumerGoto .readTick) .readTick = some
        ((s.consumerGoto .readTick).consumerGoto (.queryCounter s.disp.frontTick)) := by
      rw [consumerStep]
      exact congrArg (fun pc => some ((s.consumerGoto .readTick).consumerGoto pc)) (if_pos htick)
    have hnot : ¬s.disp.expired s.disp.frontTick s.now = true :=
      fun hexpired => hwaits ⟨htick, hexpired⟩
    have hreturn : consumerStep (s.consumerGoto (.queryCounter s.disp.frontTick))
        (.queryCounter s.disp.frontTick) = some (s.consumerGoto (.returned 0)) := by
      rw [consumerStep]
      exact congrArg (fun pc => some (s.consumerGoto pc)) (if_neg hnot)
    exact ⟨_, .head hpc hread (.head rfl hquery (.step rfl hreturn)), rfl, rfl⟩
  · have hreturn : consumerStep (s.consumerGoto .readTick) .readTick = some
        ((s.consumerGoto .readTick).consumerGoto (.returned 0)) := by
      rw [consumerStep]
      exact congrArg (fun pc => some ((s.consumerGoto .readTick).consumerGoto pc)) (if_neg htick)
    exact ⟨_, .head hpc hread (.step rfl hreturn), rfl, rfl⟩

/-- A call of `ConsumeOne` gives up a claimed slot that has timed out, and comes round again. -/
theorem run_poison (hpc : s.consumer = .readState)
    (hstate : Field.state.get s.disp.ring (slotAt s.disp.readHead) = slotClaimed)
    (htick : s.disp.frontTick ≠ 0)
    (hexpired : s.disp.expired s.disp.frontTick s.now = true) :
    ∃ t, ConsumerAlone s t ∧ t.consumer = .readPending ∧ t.disp = s.disp.skipPoisoned := by
  have hread : consumerStep s .readState = some (s.consumerGoto .readTick) := by
    rw [consumerStep]
    dsimp only
    rw [hstate]
    rfl
  have hquery : consumerStep (s.consumerGoto .readTick) .readTick = some
      (s.consumerGoto (.queryCounter s.disp.frontTick)) := by
    rw [consumerStep]
    exact congrArg (fun pc => some (s.consumerGoto pc)) (if_pos htick)
  have hgivesUp : consumerStep (s.consumerGoto (.queryCounter s.disp.frontTick))
      (.queryCounter s.disp.frontTick) = some (s.consumerGoto .readStride) := by
    rw [consumerStep]
    exact congrArg (fun pc => some (s.consumerGoto pc)) (if_pos hexpired)
  exact ⟨_, .head hpc hread (.head rfl hquery (.head rfl hgivesUp (.head rfl rfl (.head rfl rfl
    (.head rfl rfl (.head rfl rfl (.step rfl rfl))))))), rfl, rfl⟩

/-- A call of `ConsumeOne` finds a slot that is neither committed nor claimed. -/
theorem run_advanceFree (hpc : s.consumer = .readState)
    (hcommitted : Field.state.get s.disp.ring (slotAt s.disp.readHead) ≠ slotCommitted)
    (hclaimed : Field.state.get s.disp.ring (slotAt s.disp.readHead) ≠ slotClaimed) :
    ∃ t, ConsumerAlone s t ∧ t.consumer = .returned 0 ∧
      t.disp = s.disp.advance (alignUp sizeofSlotHeader) := by
  have hread : consumerStep s .readState = some (s.consumerGoto .advanceFree) := by
    rw [consumerStep]
    exact congrArg (fun pc => some (s.consumerGoto pc))
      ((if_neg hcommitted).trans (if_neg hclaimed))
  exact ⟨_, .head hpc hread (.step rfl rfl), rfl, rfl⟩

theorem consumeLoop_waits (fuel : ℕ) (h : usedBytes d.writeHead d.readHead ≠ 0)
    (hstate : Field.state.get d.ring (slotAt d.readHead) = slotClaimed)
    (hwaits : ¬(d.frontTick ≠ 0 ∧ d.expired d.frontTick now)) :
    consumeLoop (fun _ => now) (fuel + 1) d = some (d.recordCount.recordHeaderRead, 0) := by
  have hnot : slotClaimed ≠ slotCommitted := by decide
  rw [consumeLoop, if_neg h]
  simp only [recordCount_readHead, recordHeaderRead_ring, recordCount_ring, hstate, hnot, if_false,
    if_true]
  exact if_neg hwaits

theorem consumeLoop_poison (fuel : ℕ) (h : usedBytes d.writeHead d.readHead ≠ 0)
    (hstate : Field.state.get d.ring (slotAt d.readHead) = slotClaimed)
    (hgivesUp : d.frontTick ≠ 0 ∧ d.expired d.frontTick now) :
    consumeLoop (fun _ => now) (fuel + 1) d =
      consumeLoop (fun _ => now) fuel d.recordCount.recordHeaderRead.skipPoisoned := by
  have hnot : slotClaimed ≠ slotCommitted := by decide
  rw [consumeLoop, if_neg h]
  simp only [recordCount_readHead, recordHeaderRead_ring, recordCount_ring, hstate, hnot, if_false,
    if_true]
  exact if_pos hgivesUp

theorem consumeLoop_free (fuel : ℕ) (h : usedBytes d.writeHead d.readHead ≠ 0)
    (hcommitted : Field.state.get d.ring (slotAt d.readHead) ≠ slotCommitted)
    (hclaimed : Field.state.get d.ring (slotAt d.readHead) ≠ slotClaimed) :
    consumeLoop (fun _ => now) (fuel + 1) d =
      some (d.recordCount.recordHeaderRead.advance (alignUp sizeofSlotHeader), 0) := by
  rw [consumeLoop, if_neg h]
  simp only [recordCount_readHead, recordHeaderRead_ring, recordCount_ring, hcommitted, hclaimed,
    if_false]

/-- What a round of `ConsumeOne` comes to: the call has returned, or it comes round again. -/
def RoundEnds (now : UINT64) (fuel : ℕ) (d : Dispatcher) (t : RingMachine) : Prop :=
  (∃ e payload, consumeLoop (fun _ => now) (fuel + 1) d = some (e, payload) ∧
    t.consumer = .returned payload ∧ SameMembers t.disp e) ∨
  ∃ e, consumeLoop (fun _ => now) (fuel + 1) d = consumeLoop (fun _ => now) fuel e ∧
    t.consumer = .readPending ∧ SameMembers t.disp e

theorem round_committed (fuel : ℕ) (hsame : SameMembers s.disp d) (hpc : s.consumer = .readState)
    (hpending : usedBytes d.writeHead d.readHead ≠ 0)
    (hcommitted : Field.state.get d.ring (slotAt d.readHead) = slotCommitted) :
    ∃ t, ConsumerAlone s t ∧ RoundEnds now fuel d t := by
  have hrecorded : SameMembers s.disp d.recordCount.recordHeaderRead :=
    hsame.recordCount.recordHeaderRead
  have hstate : Field.state.get s.disp.ring (slotAt s.disp.readHead) = slotCommitted := by
    rw [hsame.ring, hsame.readHead, hcommitted]
  by_cases hpad : Field.flags.get d.ring (slotAt d.readHead) = padFlag
  · have hflags : Field.flags.get s.disp.ring (slotAt s.disp.readHead) = padFlag := by
      rw [hsame.ring, hsame.readHead, hpad]
    obtain ⟨t, hfree, hend, hdisp⟩ := run_freePad hpc hstate hflags
    refine ⟨t, hfree, Or.inr ⟨d.recordCount.recordHeaderRead.freePad,
      consumeLoop_pad fuel hpending hcommitted hpad, hend, ?_⟩⟩
    rw [hdisp]
    exact hrecorded.freePad
  · have hflags : Field.flags.get s.disp.ring (slotAt s.disp.readHead) ≠ padFlag := by
      rw [hsame.ring, hsame.readHead]
      exact hpad
    have hpayload : s.disp.frontPayload = d.frontPayload := by
      rw [Dispatcher.frontPayload, hsame.ring, hsame.readHead, Dispatcher.frontPayload]
    obtain ⟨t, htake, hend, hdisp⟩ := run_takeSlot hpc hstate hflags
    refine ⟨t, htake, Or.inl ⟨d.recordCount.recordHeaderRead.takeSlot, d.frontPayload,
      consumeLoop_slot fuel hpending hcommitted hpad, ?_, ?_⟩⟩
    · rw [hend, hpayload]
    · rw [hdisp]
      exact hrecorded.takeSlot

theorem round_claimed (fuel : ℕ) (hsame : SameMembers s.disp d) (hpc : s.consumer = .readState)
    (hnow : s.now = now) (hpending : usedBytes d.writeHead d.readHead ≠ 0)
    (hclaimed : Field.state.get d.ring (slotAt d.readHead) = slotClaimed) :
    ∃ t, ConsumerAlone s t ∧ RoundEnds now fuel d t := by
  have hrecorded : SameMembers s.disp d.recordCount.recordHeaderRead :=
    hsame.recordCount.recordHeaderRead
  have hstate : Field.state.get s.disp.ring (slotAt s.disp.readHead) = slotClaimed := by
    rw [hsame.ring, hsame.readHead, hclaimed]
  have htick : s.disp.frontTick = d.frontTick := by
    rw [Dispatcher.frontTick, hsame.ring, hsame.readHead, Dispatcher.frontTick]
  have hexpired : s.disp.expired s.disp.frontTick s.now =
      d.expired d.frontTick now := by
    rw [htick, hnow, Dispatcher.expired, Dispatcher.ticksToMs, hsame.qpcFreqMs,
      Dispatcher.expired, Dispatcher.ticksToMs]
  have hagree : (s.disp.frontTick ≠ 0 ∧ s.disp.expired s.disp.frontTick s.now = true) ↔
      (d.frontTick ≠ 0 ∧ d.expired d.frontTick now = true) := by
    rw [hexpired, htick]
  by_cases hgivesUp : d.frontTick ≠ 0 ∧ d.expired d.frontTick now
  · have hfound := hagree.mpr hgivesUp
    obtain ⟨t, hskip, hend, hdisp⟩ := run_poison hpc hstate hfound.1 hfound.2
    refine ⟨t, hskip, Or.inr ⟨d.recordCount.recordHeaderRead.skipPoisoned,
      consumeLoop_poison fuel hpending hclaimed hgivesUp, hend, ?_⟩⟩
    rw [hdisp]
    exact hrecorded.skipPoisoned
  · obtain ⟨t, hwait, hend, hdisp⟩ := run_waits hpc hstate (mt hagree.mp hgivesUp)
    refine ⟨t, hwait, Or.inl ⟨d.recordCount.recordHeaderRead, 0,
      consumeLoop_waits fuel hpending hclaimed hgivesUp, hend, ?_⟩⟩
    rw [hdisp]
    exact hrecorded

theorem round_free (fuel : ℕ) (hsame : SameMembers s.disp d) (hpc : s.consumer = .readState)
    (hpending : usedBytes d.writeHead d.readHead ≠ 0)
    (hcommitted : Field.state.get d.ring (slotAt d.readHead) ≠ slotCommitted)
    (hclaimed : Field.state.get d.ring (slotAt d.readHead) ≠ slotClaimed) :
    ∃ t, ConsumerAlone s t ∧ RoundEnds now fuel d t := by
  have hnot : ∀ v, Field.state.get d.ring (slotAt d.readHead) ≠ v →
      Field.state.get s.disp.ring (slotAt s.disp.readHead) ≠ v := by
    intro v hv
    rw [hsame.ring, hsame.readHead]
    exact hv
  obtain ⟨t, hadvance, hend, hdisp⟩ := run_advanceFree hpc (hnot _ hcommitted) (hnot _ hclaimed)
  refine ⟨t, hadvance, Or.inl ⟨_, 0, consumeLoop_free fuel hpending hcommitted hclaimed, hend, ?_⟩⟩
  rw [hdisp]
  exact hsame.recordCount.recordHeaderRead.advance _

/-- **A round of `ConsumeOne` alone.** -/
theorem run_round (fuel : ℕ) (hsame : SameMembers s.disp d) (hpc : s.consumer = .readPending)
    (hnow : s.now = now) :
    ∃ t, ConsumerAlone s t ∧ RoundEnds now fuel d t := by
  have hheads : usedBytes s.disp.writeHead s.disp.readHead = usedBytes d.writeHead d.readHead := by
    rw [hsame.writeHead, hsame.readHead]
  by_cases hpending : usedBytes d.writeHead d.readHead = 0
  · have hreturn : consumerStep s .readPending = some (s.consumerGoto (.returned 0)) := by
      rw [consumerStep]
      exact congrArg (fun pc => some (s.consumerGoto pc)) (if_pos (hheads.trans hpending))
    refine ⟨_, .step hpc hreturn, Or.inl ⟨d.recordCount, 0, ?_, rfl, hsame.recordCount⟩⟩
    rw [consumeLoop, if_pos hpending]
  · have hbegin : consumerStep s .readPending = some (s.consumerGoto .readState) := by
      rw [consumerStep]
      refine congrArg (fun pc => some (s.consumerGoto pc)) (if_neg ?_)
      rw [hheads]
      exact hpending
    have hround : ∃ t, ConsumerAlone (s.consumerGoto .readState) t ∧ RoundEnds now fuel d t := by
      by_cases hcommitted : Field.state.get d.ring (slotAt d.readHead) = slotCommitted
      · exact round_committed fuel hsame rfl hpending hcommitted
      · by_cases hclaimed : Field.state.get d.ring (slotAt d.readHead) = slotClaimed
        · exact round_claimed fuel hsame rfl hnow hpending hclaimed
        · exact round_free fuel hsame rfl hpending hcommitted hclaimed
    obtain ⟨t, hrest, hends⟩ := hround
    exact ⟨t, .head hpc hbegin hrest, hends⟩

/-- **A call of `ConsumeOne` alone** does what the function says. -/
theorem run_consumeLoop (fuel : ℕ) : ∀ {s : RingMachine} {d : Dispatcher},
    SameMembers s.disp d → s.consumer = .readPending → s.now = now →
    consumeLoop (fun _ => now) fuel d = some (d', payload) →
    ∃ t, ConsumerAlone s t ∧ t.consumer = .returned payload ∧ SameMembers t.disp d' := by
  induction fuel with
  | zero =>
      intro s d _ _ _ hloop
      cases hloop
  | succ fuel ih =>
      intro s d hsame hpc hnow hloop
      obtain ⟨t, hround, ⟨e, returned, hreturns, hend, hsame⟩ | ⟨e, hgoes, hend, hsame⟩⟩ :=
        run_round fuel hsame hpc hnow
      · rw [hreturns] at hloop
        cases hloop
        exact ⟨t, hround, hend, hsame⟩
      · rw [hgoes] at hloop
        obtain ⟨u, hrest, hend, hsame⟩ := ih hsame hend (hround.now.trans hnow) hloop
        exact ⟨u, hround.trans hrest, hend, hsame⟩

end

/-! ## Sequences of calls -/

/-- `Enqueue` hands no empty event to `ProduceSlot`. -/
def Call.NonEmpty : Call → Prop
  | .produce _ size => 0 < size.toNat
  | .consume => True

instance Call.decidableNonEmpty : ∀ call : Call, Decidable call.NonEmpty
  | .produce _ size => Nat.decLt 0 size.toNat
  | .consume => .isTrue trivial

/-- The steps of the calls, one call after the other: no call begins before the last one has taken
all its steps.  The calls of `ProduceSlot` are numbered from `n` on. -/
inductive OneByOne : ℕ → List Call → List RingAction → Prop
  | nil {n : ℕ} : OneByOne n [] []
  | produce {n k : ℕ} {event : Payload} {calls : List Call} {schedule : List RingAction}
      (rest : OneByOne (n + 1) calls schedule) :
      OneByOne n (.produce event.bytes event.size :: calls)
        (.produce n event :: (List.replicate k (.producer n) ++ schedule))
  | consume {n k : ℕ} {calls : List Call} {schedule : List RingAction}
      (rest : OneByOne n calls schedule) :
      OneByOne n (.consume :: calls) (.consume :: (List.replicate k .consumer ++ schedule))

/-- How many of the calls are calls of `ProduceSlot`. -/
def produceCalls : List Call → ℕ
  | [] => 0
  | .produce _ _ :: calls => produceCalls calls + 1
  | .consume :: calls => produceCalls calls

/-- The first `n` calls of `ProduceSlot` have returned, and no call is under way. -/
structure Quiet (n : ℕ) (s : RingMachine) : Prop where
  returned : ∀ i < n, s.producers i = .returned
  fresh : ∀ i, n ≤ i → s.producers i = .idle
  consumer : ∃ payload, s.consumer = .returned payload

theorem quiet_init (outside : Memory) (freqHz : UINT64) :
    Quiet 0 (RingMachine.init outside freqHz) :=
  ⟨fun _ hi => absurd hi (Nat.not_lt_zero _), fun _ _ => rfl, 0, rfl⟩

section

variable {n : ℕ} {s : RingMachine} {d d' : Dispatcher}

/-- The next call of `ProduceSlot`, alone. -/
theorem Quiet.produce (h : Quiet n s) (hsame : SameMembers s.disp d) (event : Payload)
    {status : NTSTATUS} (hcall : produceSlot d event.bytes event.size s.now = some (d', status)) :
    ∃ t k, steps ringStep s (.produce n event :: .replicate k (.producer n)) = some t ∧
      Quiet (n + 1) t ∧ SameMembers t.disp d' ∧ t.now = s.now := by
  have hbegin : ringStep s (.produce n event) = some (s.goto n (.checkSize event)) := by
    rw [ringStep, h.fresh n le_rfl]
  obtain ⟨t, halone, hend, hsame⟩ := @run_produce n (s.goto n (.checkSize event)) d d' event status
    hsame RingMachine.goto_self hcall
  obtain ⟨k, hsteps⟩ := halone.steps
  have hothers : ∀ j, j ≠ n → t.producers j = s.producers j := by
    intro j hj
    rw [halone.others j hj]
    exact RingMachine.goto_of_ne hj
  refine ⟨t, k, ?_, ⟨?_, ?_, ?_⟩, hsame, halone.now⟩
  · rw [steps, hbegin, Option.bind_some, hsteps]
  · intro i hi
    rcases Nat.lt_succ_iff_lt_or_eq.mp hi with hlt | rfl
    · rw [hothers i hlt.ne]
      exact h.returned i hlt
    · exact hend
  · intro i hi
    rw [hothers i (Nat.lt_of_succ_le hi).ne']
    exact h.fresh i (Nat.le_of_succ_le hi)
  · rw [halone.consumer]
    exact h.consumer

/-- A call of `ConsumeOne`, alone. -/
theorem Quiet.consume (h : Quiet n s) (hsame : SameMembers s.disp d) {payload : UINT32}
    (hcall : consumeOne d s.now = some (d', payload)) :
    ∃ t k, steps ringStep s (.consume :: .replicate k .consumer) = some t ∧
      Quiet n t ∧ SameMembers t.disp d' ∧ t.now = s.now := by
  obtain ⟨last, hlast⟩ := h.consumer
  have hbegin : ringStep s .consume = some (s.consumerGoto .readPending) := by
    rw [ringStep, hlast]
  obtain ⟨t, halone, hend, hsame⟩ := @run_consumeLoop d' payload s.now _
    (s.consumerGoto .readPending) d hsame rfl rfl hcall
  obtain ⟨k, hsteps⟩ := halone.steps
  refine ⟨t, k, ?_, ⟨?_, ?_, payload, hend⟩, hsame, halone.now⟩
  · rw [steps, hbegin, Option.bind_some, hsteps]
  · intro i hi
    rw [halone.producers]
    exact h.returned i hi
  · intro i hi
    rw [halone.producers]
    exact h.fresh i hi

end

/-- **Run lemma.**  Complete calls are steps of the machine, one call after the other. -/
theorem Quiet.calls {freqHz : UINT64} {calls : List Call}
    (hnonempty : ∀ call ∈ calls, call.NonEmpty) :
    ∀ {n : ℕ} {s : RingMachine} {d d' : Dispatcher}, Quiet n s → SameMembers s.disp d →
      s.now = freqHz → steps (Call.run freqHz) d calls = some d' →
      ∃ schedule t, OneByOne n calls schedule ∧ steps ringStep s schedule = some t ∧
        Quiet (n + produceCalls calls) t ∧ SameMembers t.disp d' := by
  induction calls with
  | nil =>
      intro n s d d' h hsame _ hsteps
      cases hsteps
      exact ⟨[], s, .nil, rfl, h, hsame⟩
  | cons call rest ih =>
      intro n s d d' h hsame hnow hsteps
      subst hnow
      obtain ⟨e, hcall, hrest⟩ := Option.bind_eq_some_iff.mp hsteps
      have hrestNonEmpty : ∀ call ∈ rest, call.NonEmpty := fun call hmem =>
        hnonempty call (.tail _ hmem)
      cases call with
      | produce bytes size =>
          obtain ⟨⟨_, status⟩, hproduce, rfl⟩ := Option.map_eq_some_iff.mp hcall
          let event : Payload := ⟨bytes, size, hnonempty _ (.head _)⟩
          obtain ⟨t, k, hfirst, hquiet, hsame, hnow⟩ := h.produce hsame event hproduce
          obtain ⟨schedule, u, horder, hmore, hend⟩ := ih hrestNonEmpty hquiet hsame hnow hrest
          refine ⟨_, u, @OneByOne.produce n k event rest schedule horder, ?_, ?_⟩
          · exact steps_trans hfirst hmore
          · rw [produceCalls, Nat.add_comm _ 1, ← Nat.add_assoc]
            exact hend
      | consume =>
          obtain ⟨⟨_, payload⟩, hconsume, rfl⟩ := Option.map_eq_some_iff.mp hcall
          obtain ⟨t, k, hfirst, hquiet, hsame, hnow⟩ := h.consume hsame hconsume
          obtain ⟨schedule, u, horder, hmore, hend⟩ := ih hrestNonEmpty hquiet hsame hnow hrest
          exact ⟨_, u, .consume (k := k) horder, steps_trans hfirst hmore, hend⟩

/-- **Calls without interference.**  What complete calls of `ProduceSlot` and `ConsumeOne` do one
after the other, the machine does when it takes the steps of these calls, one call after the other:
it comes to the same ring, heads, counters and send buffer, with every call returned. -/
theorem calls_scheduled (outside : Memory) (freqHz : UINT64) {calls : List Call} {d : Dispatcher}
    (hnonempty : ∀ call ∈ calls, call.NonEmpty)
    (hcalls : steps (Call.run freqHz) (Dispatcher.init outside freqHz) calls = some d) :
    ∃ schedule s, OneByOne 0 calls schedule ∧
      steps ringStep (RingMachine.init outside freqHz) schedule = some s ∧
      Quiet (produceCalls calls) s ∧ SameMembers s.disp d := by
  have h := Quiet.calls hnonempty (quiet_init outside freqHz)
    (SameMembers.refl (Dispatcher.init outside freqHz)) rfl hcalls
  rwa [Nat.zero_add] at h

/-- An event is written and consumed, and a second one is dropped as too large: the schedule begins
with the first event, both calls of `ProduceSlot` return, and the ring holds nothing. -/
theorem calls_scheduled_writtenAndDropped : ∃ schedule s,
    OneByOne 0 [.produce (fun _ => 65) 300, .consume, .produce (fun _ => 66) 65509, .consume]
      schedule ∧
    steps ringStep (RingMachine.init (fun _ => 0) 10000000) schedule = some s ∧
    Quiet 2 s ∧ s.disp.writeHead = 328 ∧ s.disp.readHead = 328 ∧ s.disp.sendBuf 299 = 65 ∧
    s.disp.enqueued = 1 ∧ s.disp.dropped = 1 := by
  have hcalls : ((steps (Call.run 10000000) (Dispatcher.init (fun _ => 0) 10000000)
      [.produce (fun _ => 65) 300, .consume, .produce (fun _ => 66) 65509, .consume]).map fun d =>
        (d.writeHead, d.readHead, d.sendBuf 299, d.enqueued, d.dropped)) =
      some (328, 328, 65, 1, 1) := by
    decide +kernel
  obtain ⟨d, hd, hmembers⟩ := Option.map_eq_some_iff.mp hcalls
  obtain ⟨schedule, s, horder, hsteps, hquiet, hsame⟩ :=
    calls_scheduled (fun _ => 0) 10000000 (by decide) hd
  simp only [Prod.mk.injEq] at hmembers
  obtain ⟨hwrite, hread, hsent, henqueued, hdropped⟩ := hmembers
  refine ⟨schedule, s, horder, hsteps, hquiet, ?_, ?_, ?_, ?_, ?_⟩
  · rw [hsame.writeHead, hwrite]
  · rw [hsame.readHead, hread]
  · rw [hsame.sendBuf, hsent]
  · rw [hsame.enqueued, henqueued]
  · rw [hsame.dropped, hdropped]

end Kawin.Driver
