import Kawin.Driver.LateProducers
import Kawin.Driver.RingProgress
import Kawin.Driver.Unload

/-!
# The worker drains the ring

The worker leaves its drain loop only when `ConsumeOne` finds nothing, and calls that passed the
`m_active` check may still be writing into the ring.  The loop ends all the same once no more calls
pass the check: those that have take so many steps and no more (`RingMachine.left`), each of them
can make no more headers busy than there are, and each round of the worker frees a header that it
found busy.

The rank of the dispatcher (`DispatcherMachine.left`) counts the headers that are not `Free`, less
the one that the worker has found busy and is about to free, prices each at what a round of the
worker costs, and each step of a call at what it would cost to drain a ring full of them.
-/

namespace Kawin.Driver

open ByteMemory Transition Crew

/-! ## The consumer -/

/-- `ConsumeOne` has found the header at the read head busy, and has not freed it yet. -/
def Consumer.sawBusy : Consumer → Bool
  | .readPayload | .readFlags _ | .freePad _ | .copyPayload _ | .freeSlot _ | .readTick
  | .queryCounter _ | .readStride | .zeroSlot _ | .freePoisoned _ => true
  | _ => false

/-- How many steps are left to the worker inside `ConsumeOne` if it finds no other header busy.
What it returns is sent before it comes round again. -/
def Consumer.left : Consumer → ℕ
  | .returned payload => if payload = 0 then 2 else 16
  | .readPending => 7
  | .readState => 6
  | .readPayload | .readTick => 21
  | .readFlags _ | .queryCounter _ => 20
  | .copyPayload _ | .readStride => 19
  | .freeSlot _ | .zeroSlot _ => 18
  | .advanceSlot _ | .freePoisoned _ => 17
  | .freePad _ => 9
  | .advancePad _ => 8
  | .advancePoisoned _ => 12
  | .countPoisoned => 11
  | .advanceFree => 3

/-- The header at the read head, by number. -/
def RingMachine.frontHeader (s : RingMachine) : ℕ := slotAt s.disp.readHead / 8

/-- The busy headers, without the one that `ConsumeOne` has found busy. -/
def RingMachine.unseen (s : RingMachine) : Finset ℕ :=
  if s.consumer.sawBusy then (busyHeaders s.disp.ring).erase s.frontHeader
  else busyHeaders s.disp.ring

/-- The stride by which `ConsumeOne` is skipping a poisoned slot. -/
def Consumer.skips : Consumer → Option UINT32
  | .zeroSlot n | .freePoisoned n | .advancePoisoned n => some n
  | _ => none

/-- The read head stays aligned: it moves by multiples of the alignment. -/
structure ReadAligned (s : RingMachine) : Prop where
  readHead : 8 ∣ s.disp.readHead.toNat
  skips : ∀ n, s.consumer.skips = some n → 8 ∣ n.toNat

section

variable {s s' : RingMachine} {m m' : Memory}

theorem readAligned_init (outside : Memory) (freq : UINT64) :
    ReadAligned (RingMachine.init outside freq) where
  readHead := Nat.dvd_zero 8
  skips _ h := by cases h

theorem ReadAligned.congr (h : ReadAligned s) (hread : s'.disp.readHead = s.disp.readHead)
    (hskips : ∀ n, s'.consumer.skips = some n → s.consumer.skips = some n) : ReadAligned s' where
  readHead := by
    rw [hread]
    exact h.readHead
  skips n hn := h.skips n (hskips n hn)

/-- The read head moves on, and nothing is being skipped. -/
theorem ReadAligned.moves (h : ReadAligned s) {n : UINT32} (hn : 8 ∣ n.toNat)
    (hread : s'.disp.readHead = s.disp.readHead + n) (hskips : s'.consumer.skips = none) :
    ReadAligned s' where
  readHead := by
    rw [hread]
    exact add_aligned h.readHead hn
  skips _ hsome := by
    rw [hskips] at hsome
    cases hsome

theorem ReadAligned.consumer (h : ReadAligned s) {pc : Consumer} (hpc : s.consumer = pc)
    (hstep : consumerStep s pc = some s') : ReadAligned s' := by
  have hskips := h.skips
  rw [hpc] at hskips
  cases pc with
  | returned payload => cases hstep
  | advancePad payload | advanceSlot payload =>
      cases hstep
      exact h.moves (alignUp_aligned _) rfl rfl
  | advanceFree =>
      cases hstep
      exact h.moves (alignUp_aligned _) rfl rfl
  | advancePoisoned n =>
      cases hstep
      exact h.moves (hskips n rfl) rfl rfl
  | readStride =>
      cases hstep
      refine ⟨h.readHead, fun n hn => ?_⟩
      cases hn
      exact poisonStride_aligned _
  | zeroSlot n | freePoisoned n =>
      cases hstep
      exact ⟨h.readHead, hskips⟩
  | readPending | readState | readFlags payload | readTick | queryCounter tick =>
      cases hstep
      refine ⟨h.readHead, fun n hn => ?_⟩
      dsimp only [RingMachine.consumerGoto] at hn
      split_ifs at hn <;> cases hn
  | _ =>
      cases hstep
      exact ⟨h.readHead, hskips⟩

theorem claim_readHead (i : ℕ) (kind : RegionKind) (len payload : UINT32) (pc : Producer) :
    (s.claim i kind len payload pc).disp.readHead = s.disp.readHead := rfl

/-- A `ProduceSlot` call leaves the read head alone. -/
theorem producerStep_readHead {i : ℕ} {pc : Producer} (hstep : producerStep s i pc = some s') :
    s'.disp.readHead = s.disp.readHead := by
  cases pc with
  | idle | returned => cases hstep
  | exchange event cur =>
      cases hstep
      unfold exchangeStep
      dsimp only
      split
      · rfl
      · split
        · exact claim_readHead ..
        · exact claim_readHead ..
  | store f rest =>
      cases rest with
      | nil =>
          cases hstep
          rfl
      | cons st rest =>
          cases hstep
          rfl
  | _ =>
      cases hstep
      rfl

theorem ReadAligned.step (h : ReadAligned s) {action : RingAction}
    (hstep : ringStep s action = some s') : ReadAligned s' := by
  cases action with
  | tick =>
      cases hstep
      exact h.congr rfl fun _ hn => hn
  | produce i event =>
      obtain ⟨_, rfl⟩ := ringStep_produce hstep
      exact h.congr rfl fun _ hn => hn
  | producer i =>
      refine h.congr (producerStep_readHead hstep) fun n hn => ?_
      rwa [(producerStep_consumer hstep).1] at hn
  | consume =>
      obtain ⟨_, rfl⟩ := ringStep_consume hstep
      exact ⟨h.readHead, fun _ hn => by cases hn⟩
  | consumer => exact h.consumer rfl hstep

/-- What is left to the worker inside `ConsumeOne`. -/
def RingMachine.drainLeft (s : RingMachine) : ℕ := 16 * s.unseen.card + s.consumer.left

theorem unseen_of_saw (h : s.consumer.sawBusy = true) :
    s.unseen = (busyHeaders s.disp.ring).erase s.frontHeader := if_pos h

theorem unseen_of_not (h : s.consumer.sawBusy = false) : s.unseen = busyHeaders s.disp.ring :=
  if_neg (by rw [h]; exact Bool.false_ne_true)

theorem frontHeader_spec (h : ReadAligned s) :
    8 * s.frontHeader = slotAt s.disp.readHead ∧ s.frontHeader < asyncRingBytes.toNat / 8 := by
  have haligned := slotAt_aligned h.readHead
  have hslot := slotAt_toNat s.disp.readHead
  rw [asyncRingBytes_toNat] at hslot ⊢
  unfold RingMachine.frontHeader
  omega

theorem card_unseen_le (s : RingMachine) : s.unseen.card ≤ 32768 := by
  have hbusy := card_busyHeaders_le s.disp.ring
  rw [asyncRingBytes_toNat] at hbusy
  unfold RingMachine.unseen
  split
  · exact (Finset.card_le_card (Finset.erase_subset _ _)).trans hbusy
  · exact hbusy

/-- A header that is found busy is one of those that are. -/
theorem card_erase_front (h : ReadAligned s)
    (hbusy : Field.state.get s.disp.ring (slotAt s.disp.readHead) ≠ slotFree) :
    ((busyHeaders s.disp.ring).erase s.frontHeader).card + 1 = (busyHeaders s.disp.ring).card := by
  obtain ⟨hfront, hlt⟩ := frontHeader_spec h
  apply Finset.card_erase_add_one
  rw [mem_busyHeaders, hfront]
  exact ⟨hlt, hbusy⟩

/-- Where the front header is freed it need not be left out any more. -/
theorem busyHeaders_freed (h : ReadAligned s)
    (hfrees : FreesHeader m m' (slotAt s.disp.readHead)) :
    busyHeaders m' ⊆ (busyHeaders m).erase s.frontHeader := by
  obtain ⟨hfront, _⟩ := frontHeader_spec h
  intro k hk
  obtain ⟨hlt, hstate⟩ := mem_busyHeaders.mp hk
  refine Finset.mem_erase.mpr ⟨?_, mem_busyHeaders.mpr ⟨hlt, hfrees.others k hstate⟩⟩
  rintro rfl
  rw [hfront] at hstate
  exact hstate hfrees.freed

section

variable {pc pc' : Consumer}

/-- The worker goes on without touching the ring, and has seen as much as before. -/
theorem drain_goes (hring : s'.disp.ring = s.disp.ring)
    (hread : s'.disp.readHead = s.disp.readHead)
    (hsaw : s'.consumer.sawBusy = s.consumer.sawBusy)
    (hless : s'.consumer.left < s.consumer.left) : s'.drainLeft < s.drainLeft := by
  have hunseen : s'.unseen = s.unseen := by
    cases hbefore : s.consumer.sawBusy with
    | false => rw [unseen_of_not hbefore, unseen_of_not (hsaw.trans hbefore), hring]
    | true =>
        rw [unseen_of_saw hbefore, unseen_of_saw (hsaw.trans hbefore), hring,
          RingMachine.frontHeader, hread, RingMachine.frontHeader]
  unfold RingMachine.drainLeft
  rw [hunseen]
  omega

/-- The worker moves the read head, with no header in view. -/
theorem drain_moves (hring : s'.disp.ring = s.disp.ring)
    (hbefore : s.consumer.sawBusy = false) (hafter : s'.consumer.sawBusy = false)
    (hless : s'.consumer.left < s.consumer.left) : s'.drainLeft < s.drainLeft := by
  unfold RingMachine.drainLeft
  rw [unseen_of_not hbefore, unseen_of_not hafter, hring]
  omega

/-- The worker finds the front header busy. -/
theorem drain_found (h : ReadAligned s)
    (hbusy : Field.state.get s.disp.ring (slotAt s.disp.readHead) ≠ slotFree)
    (hbefore : s.consumer.sawBusy = false) (hafter : pc'.sawBusy = true)
    (hless : pc'.left < s.consumer.left + 16) : (s.consumerGoto pc').drainLeft < s.drainLeft := by
  have hcard := card_erase_front h hbusy
  have hseen : (s.consumerGoto pc').unseen = (busyHeaders s.disp.ring).erase s.frontHeader :=
    unseen_of_saw hafter
  have hunseen := unseen_of_not hbefore
  have hpc : (s.consumerGoto pc').consumer = pc' := rfl
  unfold RingMachine.drainLeft
  rw [hseen, hunseen, hpc]
  omega

/-- The worker leaves the front header as it is. -/
theorem drain_returns (hafter : pc'.sawBusy = false) (hless : pc'.left + 16 < s.consumer.left) :
    (s.consumerGoto pc').drainLeft < s.drainLeft := by
  have hcard := Finset.pred_card_le_card_erase (s := busyHeaders s.disp.ring) (a := s.frontHeader)
  have hunseen : (s.consumerGoto pc').unseen = busyHeaders s.disp.ring := unseen_of_not hafter
  have hmost : (busyHeaders s.disp.ring).card ≤ s.unseen.card + 1 := by
    unfold RingMachine.unseen
    split
    · omega
    · omega
  have hpc : (s.consumerGoto pc').consumer = pc' := rfl
  unfold RingMachine.drainLeft
  rw [hunseen, hpc]
  omega

/-- The worker frees the front header. -/
theorem drain_frees (h : ReadAligned s) (hbefore : s.consumer.sawBusy = true)
    (hafter : pc'.sawBusy = false) (hless : pc'.left < s.consumer.left) :
    (s.release (Field.state.set s.disp.ring (slotAt s.disp.readHead) slotFree) pc').drainLeft <
      s.drainLeft := by
  have hfreed := freesHeader_set s.disp.ring (slotAt_aligned h.readHead)
  have hcard := Finset.card_le_card (busyHeaders_freed h hfreed)
  have hpc : (s.release (Field.state.set s.disp.ring (slotAt s.disp.readHead) slotFree)
      pc').consumer = pc' := rfl
  have hunseen : (s.release (Field.state.set s.disp.ring (slotAt s.disp.readHead) slotFree)
      pc').unseen = busyHeaders (Field.state.set s.disp.ring (slotAt s.disp.readHead) slotFree) :=
    unseen_of_not hafter
  have hseen := unseen_of_saw hbefore
  unfold RingMachine.drainLeft
  rw [hunseen, hseen, hpc]
  omega

/-- Zeroing a poisoned slot makes no header busy. -/
theorem drain_zeroes (h : ReadAligned s) {n : UINT32} (hpc : s.consumer = .zeroSlot n) :
    (s.release (zero s.disp.ring (slotAt s.disp.readHead) (poisonZeroed s.disp.readHead n))
      (.freePoisoned n)).drainLeft < s.drainLeft := by
  have hn : 8 ∣ n.toNat := by
    apply h.skips
    rw [hpc]
    rfl
  have hblock := poisonZeroed_aligned h.readHead hn
  have hbusy : busyHeaders (zero s.disp.ring (slotAt s.disp.readHead)
      (poisonZeroed s.disp.readHead n)) ⊆ busyHeaders s.disp.ring := by
    intro k hk
    obtain ⟨hlt, hstate⟩ := mem_busyHeaders.mp hk
    exact mem_busyHeaders.mpr ⟨hlt, state_zero (slotAt_aligned h.readHead) hblock hstate⟩
  have hsaw : s.consumer.sawBusy = true := by
    rw [hpc]
    rfl
  have hcard := Finset.card_le_card (Finset.erase_subset_erase s.frontHeader hbusy)
  have hunseen : (s.release (zero s.disp.ring (slotAt s.disp.readHead)
      (poisonZeroed s.disp.readHead n)) (.freePoisoned n)).unseen =
      (busyHeaders (zero s.disp.ring (slotAt s.disp.readHead)
        (poisonZeroed s.disp.readHead n))).erase s.frontHeader := unseen_of_saw rfl
  have hleft : (s.release (zero s.disp.ring (slotAt s.disp.readHead)
      (poisonZeroed s.disp.readHead n)) (.freePoisoned n)).consumer.left = 17 := rfl
  have hbefore : s.consumer.left = 18 := by
    rw [hpc]
    rfl
  unfold RingMachine.drainLeft
  rw [unseen_of_saw hsaw, hunseen, hleft, hbefore]
  omega

/-- **Step lemma for the consumer.** -/
theorem drain_consumer (h : ReadAligned s) (hpc : s.consumer = pc)
    (hstep : consumerStep s pc = some s') : s'.drainLeft < s.drainLeft := by
  have hgoes : ∀ {pc'}, pc'.sawBusy = pc.sawBusy → pc'.left < pc.left →
      (s.consumerGoto pc').drainLeft < s.drainLeft := by
    rw [← hpc]
    exact fun hsaw hless => drain_goes rfl rfl hsaw hless
  have hfrees : ∀ {pc'}, pc.sawBusy = true → pc'.sawBusy = false → pc'.left < pc.left →
      (s.release (Field.state.set s.disp.ring (slotAt s.disp.readHead) slotFree) pc').drainLeft <
        s.drainLeft := by
    rw [← hpc]
    exact fun hbefore hafter hless => drain_frees h hbefore hafter hless
  cases pc with
  | returned payload => cases hstep
  | readPending =>
      cases hstep
      split
      · exact hgoes rfl (by decide)
      · exact hgoes rfl (by decide)
  | readState =>
      cases hstep
      have hfound : ∀ {pc'}, Field.state.get s.disp.ring (slotAt s.disp.readHead) ≠ slotFree →
          pc'.sawBusy = true → pc'.left < 22 → (s.consumerGoto pc').drainLeft < s.drainLeft :=
        fun hbusy hafter hless => drain_found h hbusy (by rw [hpc]; rfl) hafter
          (by rw [hpc]; exact hless)
      split
      · next hcommitted =>
          exact hfound (by rw [hcommitted]; decide) rfl (by decide)
      · split
        · next hclaimed => exact hfound (by rw [hclaimed]; decide) rfl (by decide)
        · exact hgoes rfl (by decide)
  | readPayload =>
      cases hstep
      exact hgoes rfl (by simp [Consumer.left])
  | readFlags payload =>
      cases hstep
      split
      · exact hgoes rfl (by simp [Consumer.left])
      · exact hgoes rfl (by simp [Consumer.left])
  | freePad payload | freeSlot payload | freePoisoned n =>
      cases hstep
      exact hfrees rfl rfl (by simp [Consumer.left])
  | copyPayload payload =>
      cases hstep
      exact drain_goes rfl rfl (by rw [hpc]; rfl) (by rw [hpc]; simp [Consumer.left])
  | advancePad payload | advancePoisoned n =>
      cases hstep
      refine drain_moves rfl (by rw [hpc]; rfl) rfl ?_
      rw [hpc]
      simp [Consumer.left, RingMachine.take]
  | advanceSlot payload =>
      cases hstep
      refine drain_moves rfl (by rw [hpc]; rfl) rfl ?_
      rw [hpc]
      dsimp only [RingMachine.take, Consumer.left]
      split
      · decide
      · decide
  | readTick =>
      cases hstep
      split
      · exact hgoes rfl (by simp [Consumer.left])
      · exact drain_returns rfl (by rw [hpc]; simp [Consumer.left])
  | queryCounter tick =>
      cases hstep
      split
      · exact hgoes rfl (by simp [Consumer.left])
      · exact drain_returns rfl (by rw [hpc]; simp [Consumer.left])
  | readStride =>
      cases hstep
      exact hgoes rfl (by simp [Consumer.left])
  | zeroSlot n =>
      cases hstep
      exact drain_zeroes h hpc
  | countPoisoned =>
      cases hstep
      exact drain_goes rfl rfl (by rw [hpc]; rfl) (by rw [hpc]; exact (by decide : 7 < 11))
  | advanceFree =>
      cases hstep
      exact drain_moves rfl (by rw [hpc]; rfl) rfl (by rw [hpc]; exact (by decide : 2 < 3))

end

end

/-! ## The worker -/

/-- How many steps are left to the worker outside `ConsumeOne` if it finds no header busy. -/
def Worker.left (stopping : Bool) : Worker → ℕ
  | .exited | .consuming => 0
  | .cycleEnd => 1
  | .waiting => if stopping then 8 else 0
  | .checkPort _ => 15
  | .snapshot _ => 14
  | .send _ _ => 13
  | .sending _ => 12
  | .resetTimeouts _ | .countTimeout => 11
  | .sendReturned _ => 10
  | .countDropped => 8

def Enqueuer.left : Enqueuer → ℕ
  | .outside => 0
  | .prepare _ => 1

namespace DispatcherMachine

/-- What is left to the worker; as long as it has not seen the stop event it waits once more. -/
def workerLeft (s : DispatcherMachine) : ℕ :=
  (if s.worker = .consuming then s.ring.drainLeft
    else 16 * (busyHeaders s.ring.disp.ring).card + s.worker.left s.stopping) +
    if s.stopping then 0 else 10

/-- What is left to the first `n` calls. -/
def callsLeft (n : ℕ) (s : DispatcherMachine) : ℕ :=
  s.ring.left n + held (Finset.range n) Enqueuer.left s.enqueuers

/-- The rank: a step of a call costs the worker no more than a ring full of busy headers. -/
def left (n : ℕ) (s : DispatcherMachine) : ℕ := s.callsLeft n * 524800 + s.workerLeft

end DispatcherMachine

section

variable {n : ℕ} {s s' : DispatcherMachine}

theorem workerLeft_le (s : DispatcherMachine) : s.workerLeft ≤ 524319 := by
  have hunseen := card_unseen_le s.ring
  have hbusy := card_busyHeaders_le s.ring.disp.ring
  have hconsumer : s.ring.consumer.left ≤ 21 := by
    cases s.ring.consumer with
    | returned payload =>
        dsimp only [Consumer.left]
        split
        · decide
        · decide
    | _ => simp [Consumer.left]
  have hworker : s.worker.left s.stopping ≤ 15 := by
    cases s.worker with
    | waiting =>
        dsimp only [Worker.left]
        split
        · decide
        · decide
    | _ => simp [Worker.left]
  rw [asyncRingBytes_toNat] at hbusy
  unfold DispatcherMachine.workerLeft RingMachine.drainLeft
  split
  · split
    · omega
    · omega
  · split
    · omega
    · omega

/-- A step of a call pays for all that it leaves to the worker. -/
theorem left_call (hcalls : s'.callsLeft n < s.callsLeft n) : s'.left n < s.left n := by
  have hworker := workerLeft_le s'
  unfold DispatcherMachine.left
  omega

theorem workerLeft_consuming (h : s.worker = .consuming) :
    s.workerLeft = s.ring.drainLeft + if s.stopping then 0 else 10 := by
  rw [DispatcherMachine.workerLeft, if_pos h]

theorem workerLeft_outside (h : s.worker ≠ .consuming) :
    s.workerLeft = 16 * (busyHeaders s.ring.disp.ring).card + s.worker.left s.stopping +
      if s.stopping then 0 else 10 := by
  rw [DispatcherMachine.workerLeft, if_neg h]

/-- The worker calls `ConsumeOne` again. -/
theorem workerLeft_consume (s : DispatcherMachine) : s.consume.workerLeft =
    16 * (busyHeaders s.ring.disp.ring).card + 7 + if s.stopping then 0 else 10 := by
  have hdrain : s.consume.ring.drainLeft = 16 * (busyHeaders s.ring.disp.ring).card + 7 := rfl
  rw [workerLeft_consuming rfl, hdrain]
  rfl

/-- The worker goes on outside `ConsumeOne`. -/
theorem workerLeft_goes (hworker : s.worker ≠ .consuming) (hworker' : s'.worker ≠ .consuming)
    (hring : s'.ring.disp.ring = s.ring.disp.ring) (hstopping : s'.stopping = s.stopping)
    (hless : s'.worker.left s.stopping < s.worker.left s.stopping) :
    s'.workerLeft < s.workerLeft := by
  rw [workerLeft_outside hworker, workerLeft_outside hworker', hring, hstopping]
  omega

/-- The worker takes what `ConsumeOne` returned. -/
theorem workerLeft_takes {bytes : UINT32} (hworker : s.worker = .consuming)
    (hreturned : s.ring.consumer = .returned bytes) :
    (s.workerGoto (if bytes = 0 then .cycleEnd else .checkPort bytes)).workerLeft <
      s.workerLeft := by
  have hunseen : s.ring.unseen = busyHeaders s.ring.disp.ring :=
    unseen_of_not (by rw [hreturned]; rfl)
  rw [workerLeft_consuming hworker, RingMachine.drainLeft, hunseen, hreturned]
  by_cases hbytes : bytes = 0
  · rw [if_pos hbytes, workerLeft_outside (fun h => by cases h), Consumer.left, if_pos hbytes]
    exact Nat.add_lt_add_right (Nat.add_lt_add_left (by decide : 1 < 2) _) _
  · rw [if_neg hbytes, workerLeft_outside (fun h => by cases h), Consumer.left, if_neg hbytes]
    exact Nat.add_lt_add_right (Nat.add_lt_add_left (by decide : 15 < 16) _) _

/-- The worker comes round again. -/
theorem workerLeft_again (hworker : s.worker ≠ .consuming)
    (hless : 7 < s.worker.left s.stopping) : s.consume.workerLeft < s.workerLeft := by
  rw [workerLeft_consume, workerLeft_outside hworker]
  omega

/-- **Step lemma for the worker.** -/
theorem workerLeft_worker (h : ReadAligned s.ring) {pc : Worker} (hpc : s.worker = pc)
    (hstep : workerStep s pc = some s') : s'.workerLeft < s.workerLeft := by
  have hgoes : ∀ pc', s'.worker = pc' → s'.ring.disp.ring = s.ring.disp.ring →
      s'.stopping = s.stopping → pc ≠ .consuming ∧ pc' ≠ .consuming ∧
      pc'.left s.stopping < pc.left s.stopping → s'.workerLeft < s.workerLeft := by
    rintro pc' rfl hring hstopping ⟨hworker, hworker', hless⟩
    rw [← hpc] at hworker hless
    exact workerLeft_goes hworker hworker' hring hstopping hless
  cases pc with
  | waiting | sending port | exited => cases hstep
  | consuming =>
      rcases workerStep_consuming hstep with ⟨bytes, hreturned, rfl⟩ | ⟨ring, hring, rfl⟩
      · exact workerLeft_takes hpc hreturned
      · have hdrain := drain_consumer h rfl hring
        rw [workerLeft_consuming hpc, workerLeft_consuming (s := { s with ring := ring }) hpc]
        exact Nat.add_lt_add_right hdrain _
  | checkPort bytes =>
      cases hstep
      by_cases hport : s.clientPort.isSome = true
      · exact hgoes (.snapshot bytes) (if_pos hport) rfl rfl (by simp [Worker.left])
      · exact hgoes .countDropped (if_neg hport) rfl rfl (by simp [Worker.left])
  | countDropped =>
      cases hstep
      have hdropped : s.drop.worker = .countDropped := hpc
      exact workerLeft_again (by rw [hdropped]; simp) (by rw [hdropped]; exact Nat.lt_succ_self 7)
  | snapshot bytes =>
      rcases workerStep_snapshot hstep with ⟨_, rfl⟩ | ⟨port, _, rfl⟩
      · exact hgoes (.sendReturned statusPortDisconnected) rfl rfl rfl (by simp [Worker.left])
      · exact hgoes (.send port bytes) rfl rfl rfl (by simp [Worker.left])
  | send port bytes =>
      cases hstep
      exact hgoes (.sending port) rfl rfl rfl (by simp [Worker.left])
  | resetTimeouts status =>
      cases hstep
      exact hgoes (.sendReturned status) rfl rfl rfl (by simp [Worker.left])
  | countTimeout =>
      cases hstep
      exact hgoes (.sendReturned statusTimeout) rfl rfl rfl (by simp [Worker.left])
  | sendReturned status =>
      rcases workerStep_sendReturned hstep with rfl | rfl
      · exact workerLeft_again (by rw [hpc]; simp) (by rw [hpc]; exact (by decide : 7 < 10))
      · exact hgoes .cycleEnd rfl rfl rfl (by simp [Worker.left])
  | cycleEnd =>
      cases hstep
      by_cases hstopping : s.stopping = true
      · exact hgoes .exited (if_pos hstopping) rfl rfl (by simp [Worker.left])
      · exact hgoes .waiting (if_neg hstopping) rfl rfl (by simp [Worker.left, hstopping])

end

/-! ## What a step of the dispatcher does to the ring -/

/-- The ring stays as it is, up to its counters and the beginning of a `ConsumeOne`. -/
structure RingKept (r r' : RingMachine) : Prop where
  producers : r'.producers = r.producers
  writeHead : r'.disp.writeHead = r.disp.writeHead
  readHead : r'.disp.readHead = r.disp.readHead
  skips : ∀ n, r'.consumer.skips = some n → r.consumer.skips = some n

theorem RingKept.refl (r : RingMachine) : RingKept r r := ⟨rfl, rfl, rfl, fun _ hn => hn⟩

/-- A `ConsumeOne` begins. -/
theorem RingKept.begins {r r' : RingMachine} (hproducers : r'.producers = r.producers)
    (hwrite : r'.disp.writeHead = r.disp.writeHead) (hread : r'.disp.readHead = r.disp.readHead)
    (hconsumer : r'.consumer = .readPending) : RingKept r r' :=
  ⟨hproducers, hwrite, hread, fun n hn => by rw [hconsumer] at hn; cases hn⟩

/-- The ring takes a step, or is kept. -/
structure RingGoes (s s' : DispatcherMachine) : Prop where
  ring : RingKept s.ring s'.ring ∨ ∃ action, ringStep s.ring action = some s'.ring
  passed : s.passed ≤ s'.passed
  stopEvent : s.stopEvent = true → s'.stopEvent = true

section

variable {s s' : DispatcherMachine}

theorem RingGoes.kept (hring : s'.ring = s.ring) (hpassed : s'.passed = s.passed)
    (hstop : s'.stopEvent = s.stopEvent) : RingGoes s s' :=
  ⟨Or.inl (hring ▸ RingKept.refl s.ring), hpassed ▸ le_rfl, hstop ▸ id⟩

theorem workerStep_ringGoes {pc : Worker} (hstep : workerStep s pc = some s') : RingGoes s s' := by
  cases pc with
  | waiting | sending port | exited => cases hstep
  | consuming =>
      rcases workerStep_consuming hstep with ⟨_, _, rfl⟩ | ⟨ring, hring, rfl⟩
      · exact .kept rfl rfl rfl
      · exact ⟨Or.inr ⟨.consumer, hring⟩, le_rfl, id⟩
  | countDropped =>
      cases hstep
      exact ⟨Or.inl (.begins rfl rfl rfl rfl), le_rfl, id⟩
  | snapshot bytes =>
      rcases workerStep_snapshot hstep with ⟨_, rfl⟩ | ⟨_, _, rfl⟩
      · exact .kept rfl rfl rfl
      · exact .kept rfl rfl rfl
  | sendReturned status =>
      rcases workerStep_sendReturned hstep with rfl | rfl
      · exact ⟨Or.inl (.begins rfl rfl rfl rfl), le_rfl, id⟩
      · exact .kept rfl rfl rfl
  | _ =>
      cases hstep
      exact .kept rfl rfl rfl

theorem dispatcherStep_ringGoes {action : DispatcherAction}
    (hstep : dispatcherStep s action = some s') : RingGoes s s' := by
  cases action with
  | tick =>
      cases hstep
      exact ⟨Or.inr ⟨.tick, rfl⟩, le_rfl, id⟩
  | enqueue request =>
      cases hstep
      unfold enqueueStep
      split
      · exact ⟨Or.inl (.refl s.ring), Nat.le_succ _, id⟩
      · exact .kept rfl rfl rfl
  | enqueuer i =>
      rcases enqueuerStep_cases hstep with ⟨_, _, rfl⟩ | ⟨event, _, hidle, rfl⟩
      · exact ⟨Or.inl ⟨rfl, rfl, rfl, fun _ hn => hn⟩, le_rfl, id⟩
      · have hbegins : ringStep s.ring (.produce i event) =
            some (s.ring.goto i (.checkSize event)) := by
          rw [ringStep, hidle]
        exact ⟨Or.inr ⟨_, hbegins⟩, le_rfl, id⟩
  | producer i =>
      obtain ⟨ring, hring, rfl⟩ := Option.map_eq_some_iff.mp hstep
      exact ⟨Or.inr ⟨.producer i, hring⟩, le_rfl, id⟩
  | wake =>
      obtain ⟨_, rfl⟩ := dispatcherStep_wake hstep
      exact ⟨Or.inl (.begins rfl rfl rfl rfl), le_rfl, id⟩
  | worker => exact workerStep_ringGoes hstep
  | sendReturns status =>
      obtain ⟨_, rfl⟩ := dispatcherStep_sendReturns hstep
      exact .kept rfl rfl rfl
  | connect port =>
      obtain ⟨_, _, rfl⟩ := dispatcherStep_connect hstep
      exact .kept rfl rfl rfl
  | disconnect =>
      obtain ⟨_, rfl⟩ := dispatcherStep_disconnect hstep
      exact .kept rfl rfl rfl
  | link =>
      generalize hpc : s.link = pc at hstep
      rw [dispatcherStep, hpc] at hstep
      cases pc with
      | disconnected | connected => cases hstep
      | _ =>
          cases hstep
          exact .kept rfl rfl rfl
  | deactivate =>
      cases hstep
      exact .kept rfl rfl rfl
  | stop =>
      cases hstep
      exact ⟨Or.inl (.refl s.ring), le_rfl, fun _ => rfl⟩

theorem RingGoes.aligned (h : RingGoes s s') (haligned : ReadAligned s.ring) :
    ReadAligned s'.ring := by
  rcases h.ring with hkept | ⟨action, hstep⟩
  · exact haligned.congr hkept.readHead hkept.skips
  · exact haligned.step hstep

/-- Nothing gives more to do to the calls inside `ProduceSlot`. -/
theorem RingGoes.left_le (h : RingGoes s s') {n : ℕ} (hwithin : s.ring.Within n) :
    s'.ring.left n ≤ s.ring.left n := by
  rcases h.ring with hkept | ⟨action, hstep⟩
  · unfold RingMachine.left RingMachine.claimsLeft
    rw [hkept.producers, hkept.writeHead]
  · have hless := left_step hwithin hstep
    omega

end

/-! ## The rank of a dispatcher that is being stopped -/

/-- The calls are among the first `n`, and no other passes the `m_active` check any more. -/
structure Winding (n : ℕ) (s : DispatcherMachine) : Prop where
  active : s.active = false
  stopEvent : s.stopEvent = true
  enqueuers : ∀ i, n ≤ i → s.enqueuers i = .outside
  producers : s.ring.Within n
  aligned : ReadAligned s.ring

section

variable {n : ℕ} {s s' : DispatcherMachine}

/-- The calls after a step; none begins. -/
theorem Winding.calls (h : Winding n s) {action : DispatcherAction}
    (hstep : dispatcherStep s action = some s') :
    s'.active = false ∧ (∀ i, n ≤ i → s'.enqueuers i = .outside) ∧ s'.ring.Within n := by
  have hsame : SameCalls s s' →
      s'.active = false ∧ (∀ i, n ≤ i → s'.enqueuers i = .outside) ∧ s'.ring.Within n := by
    intro hcalls
    unfold RingMachine.Within
    rw [hcalls.active, hcalls.enqueuers, hcalls.producers]
    exact ⟨h.active, h.enqueuers, h.producers⟩
  cases action with
  | enqueue request =>
      cases hstep
      rw [enqueueStep, h.active]
      exact ⟨h.active, h.enqueuers, h.producers⟩
  | enqueuer j =>
      have hpc : s.enqueuers j ≠ .outside := by
        intro houtside
        rw [dispatcherStep, houtside] at hstep
        cases hstep
      have hother : ∀ i, n ≤ i → i ≠ j := by
        rintro i hi rfl
        exact hpc (h.enqueuers i hi)
      rcases enqueuerStep_cases hstep with ⟨_, _, rfl⟩ | ⟨event, _, _, rfl⟩
      · exact ⟨h.active, fun i hi => (Function.update_of_ne (hother i hi) ..).trans
          (h.enqueuers i hi), h.producers⟩
      · exact ⟨h.active, fun i hi => (Function.update_of_ne (hother i hi) ..).trans
          (h.enqueuers i hi), fun i hi => (RingMachine.goto_of_ne (hother i hi)).trans
          (h.producers i hi)⟩
  | producer j =>
      obtain ⟨ring, hring, rfl⟩ := Option.map_eq_some_iff.mp hstep
      exact ⟨h.active, h.enqueuers,
        @RingMachine.Within.step n s.ring ring (.producer j) h.producers trivial hring⟩
  | deactivate =>
      cases hstep
      exact ⟨rfl, h.enqueuers, h.producers⟩
  | _ => exact hsame (dispatcherStep_sameCalls (by simp) (by simp) (by simp) (by simp) hstep)

theorem Winding.step (h : Winding n s) {action : DispatcherAction}
    (hstep : dispatcherStep s action = some s') : Winding n s' := by
  have hring := dispatcherStep_ringGoes hstep
  obtain ⟨hactive, henqueuers, hproducers⟩ := h.calls hstep
  exact ⟨hactive, hring.stopEvent h.stopEvent, henqueuers, hproducers, hring.aligned h.aligned⟩

/-- A step of a call, of the worker or of `FltSendMessage`. -/
def DispatcherAction.works : DispatcherAction → Bool
  | .enqueuer _ | .producer _ | .wake | .worker | .sendReturns _ => true
  | _ => false

/-- The calls and the worker stay where they are. -/
theorem left_kept (hring : s'.ring = s.ring) (henqueuers : s'.enqueuers = s.enqueuers)
    (hworker : s'.worker = s.worker) (hstopping : s'.stopping = s.stopping) :
    s'.left n ≤ s.left n := by
  unfold DispatcherMachine.left DispatcherMachine.callsLeft DispatcherMachine.workerLeft
  rw [hring, henqueuers, hworker, hstopping]

/-- The clock bounds nothing. -/
theorem left_tick (clock : ℕ) :
    ({ s with ring := { s.ring with clock := clock } } : DispatcherMachine).left n = s.left n := rfl

theorem left_link {pc : Link} (hstep : linkStep s pc = some s') : s'.left n ≤ s.left n := by
  cases pc with
  | disconnected | connected => cases hstep
  | _ =>
      cases hstep
      exact left_kept rfl rfl rfl rfl

/-- The worker goes on, and the calls stay where they are. -/
theorem left_worker (hcalls : SameCalls s s') (hring : s'.ring.left n ≤ s.ring.left n)
    (hless : s'.workerLeft < s.workerLeft) : s'.left n < s.left n := by
  unfold DispatcherMachine.left DispatcherMachine.callsLeft
  rw [hcalls.enqueuers]
  omega

theorem Winding.left_enqueuer (h : Winding n s) {i : ℕ}
    (hstep : enqueuerStep s i (s.enqueuers i) = some s') : s'.left n < s.left n := by
  have hpc : ∃ request, s.enqueuers i = .prepare request := by
    rcases enqueuerStep_cases hstep with ⟨request, hpc, _⟩ | ⟨event, hpc, _⟩
    · exact ⟨request, hpc⟩
    · exact ⟨_, hpc⟩
  have hi : i ∈ Finset.range n := by
    obtain ⟨request, hpc⟩ := hpc
    rw [Finset.mem_range]
    by_contra hi
    rw [h.enqueuers i (not_lt.mp hi)] at hpc
    cases hpc
  have hheld := @held_update _ _ _ _ _ (Finset.range n) i Enqueuer.left s.enqueuers .outside hi
  have hone : (s.enqueuers i).left = 1 := by
    obtain ⟨request, hpc⟩ := hpc
    rw [hpc]
    rfl
  have hzero : Enqueuer.left .outside = 0 := rfl
  have hring := (@dispatcherStep_ringGoes s s' (.enqueuer i) hstep).left_le h.producers
  apply left_call
  have henqueuers : s'.enqueuers = Function.update s.enqueuers i .outside := by
    rcases enqueuerStep_cases hstep with ⟨_, _, rfl⟩ | ⟨_, _, _, rfl⟩
    · rfl
    · rfl
  unfold DispatcherMachine.callsLeft
  rw [henqueuers]
  omega

theorem Winding.left_producer (h : Winding n s) {i : ℕ}
    (hstep : dispatcherStep s (.producer i) = some s') : s'.left n < s.left n := by
  obtain ⟨ring, hring, rfl⟩ := Option.map_eq_some_iff.mp hstep
  have hless := left_step h.producers hring
  have hone : RingAction.ofCall (.producer i) = true := rfl
  rw [hone, Bool.toNat_true] at hless
  apply left_call
  unfold DispatcherMachine.callsLeft
  dsimp only
  omega

/-- The wait of the worker ends, and it sees the stop event. -/
theorem workerLeft_wake (hstop : s.stopEvent = true) (hwaiting : s.worker = .waiting) :
    ({ s.consume with stopping := s.stopping || s.stopEvent } : DispatcherMachine).workerLeft <
      s.workerLeft := by
  have hdrain : s.consume.ring.drainLeft = 16 * (busyHeaders s.ring.disp.ring).card + 7 := rfl
  have houtside : s.worker ≠ .consuming := by
    rw [hwaiting]
    simp
  rw [workerLeft_outside houtside, workerLeft_consuming rfl, hwaiting, hdrain, hstop, Bool.or_true,
    Worker.left]
  cases s.stopping with
  | false =>
      simp only [Bool.false_eq_true, if_false, if_true]
      omega
  | true =>
      simp only [if_true]
      omega

theorem afterSend_left (stopping : Bool) (status : NTSTATUS) :
    afterSend status ≠ .consuming ∧ (afterSend status).left stopping ≤ 11 := by
  unfold afterSend
  split
  · exact ⟨by simp, le_rfl⟩
  · split
    · exact ⟨by simp, le_rfl⟩
    · exact ⟨by simp, Nat.le_succ 10⟩

/-- **Step lemma.** -/
theorem Winding.left_step (h : Winding n s) {action : DispatcherAction}
    (hstep : dispatcherStep s action = some s') :
    s'.left n + action.works.toNat ≤ s.left n := by
  have hring := (dispatcherStep_ringGoes hstep).left_le h.producers
  have hidle : ∀ works, works = false → s'.left n ≤ s.left n →
      s'.left n + works.toNat ≤ s.left n := by
    rintro _ rfl hkept
    rw [Bool.toNat_false, Nat.add_zero]
    exact hkept
  cases action with
  | enqueuer i => exact h.left_enqueuer hstep
  | producer i => exact h.left_producer hstep
  | worker =>
      exact left_worker (workerStep_sameCalls hstep) hring (workerLeft_worker h.aligned rfl hstep)
  | wake =>
      obtain ⟨hwaiting, rfl⟩ := dispatcherStep_wake hstep
      exact left_worker ⟨rfl, rfl, rfl, rfl, rfl⟩ hring (workerLeft_wake h.stopEvent hwaiting)
  | sendReturns status =>
      obtain ⟨⟨port, hsending⟩, rfl⟩ := dispatcherStep_sendReturns hstep
      obtain ⟨hafter, hleft⟩ := afterSend_left s.stopping status
      refine left_worker ⟨rfl, rfl, rfl, rfl, rfl⟩ hring ?_
      refine workerLeft_goes (by rw [hsending]; simp) hafter rfl rfl ?_
      rw [hsending]
      exact Nat.lt_succ_of_le hleft
  | tick =>
      cases hstep
      exact hidle _ rfl (left_tick _).le
  | enqueue request =>
      cases hstep
      rw [enqueueStep, h.active] at hidle ⊢
      exact hidle _ rfl (left_kept rfl rfl rfl rfl)
  | connect port =>
      obtain ⟨_, _, rfl⟩ := dispatcherStep_connect hstep
      exact hidle _ rfl (left_kept rfl rfl rfl rfl)
  | disconnect =>
      obtain ⟨_, rfl⟩ := dispatcherStep_disconnect hstep
      exact hidle _ rfl (left_kept rfl rfl rfl rfl)
  | link => exact hidle _ rfl (left_link hstep)
  | deactivate | stop =>
      cases hstep
      exact hidle _ rfl (left_kept rfl rfl rfl rfl)

end

end Kawin.Driver
