import Kawin.Driver.DispatcherMachine
import Mathlib.Algebra.BigOperators.Group.Finset.Basic
import Mathlib.Algebra.Order.BigOperators.Group.Finset

/-!
# Accounting for events

Every `Enqueue` call that passes the `m_active` check owes one event to the books.  The
debt moves with the event: from the call to the slot it claims, from the slot to the
worker that takes it, and from the worker to `m_dropped` or to the client.  `Books`
says that the sum never changes; what leaves it is counted in the ghost `lost`.

Three steps lose an event.  `FltSendMessage` may fail with a status other than a
timeout, which ends the drain cycle; the client may disconnect between the port check
and the copy of the port; and a send may time out, which `NT_SUCCESS` takes for a
success, since `STATUS_TIMEOUT` is not negative.
-/

namespace Kawin.Driver

open ByteMemory Transition

/-! ## Who owes an event -/

/-- An event slot, as opposed to a pad. -/
def Region.isSlot (r : Region) : Bool := r.kind = .slot

/-- The number of live event slots, committed or not. -/
def liveSlots (d : Dispatcher) : ℕ := d.history.live.countP Region.isSlot

/-- A call filling a pad still has its event; once its slot is claimed the slot has it. -/
def Fill.owes (f : Fill) : ℕ := if f.kind = .pad then 1 else 0

def Producer.owes : Producer → ℕ
  | .idle | .countEnqueued | .returned => 0
  | .checkSize _ | .countDropped | .readWriteHead _ | .readReadHead _ _ | .exchange _ _ => 1
  | .mark f | .queryCounter f | .store f _ | .nextSeq f | .storeSeq f _ | .copyPayload f
  | .commit f => f.owes

def Enqueuer.owes : Enqueuer → ℕ
  | .outside => 0
  | .prepare _ => 1

def Consumer.owes : Consumer → ℕ
  | .returned payload => if payload = 0 then 0 else 1
  | .countPoisoned => 1
  | _ => 0

/-- What the worker owes; inside `ConsumeOne` it is what the consumer owes. -/
def Worker.owes (consumer : Consumer) : Worker → ℕ
  | .consuming => consumer.owes
  | .checkPort _ | .countDropped | .snapshot _ | .send _ _ | .sending _ => 1
  | _ => 0

/-- What call `i` owes. -/
def DispatcherMachine.callOwes (s : DispatcherMachine) (i : ℕ) : ℕ :=
  (s.enqueuers i).owes + (s.ring.producers i).owes

/-- What the calls owe together. -/
def DispatcherMachine.callsOwe (s : DispatcherMachine) : ℕ :=
  ∑ i ∈ Finset.range s.calls, s.callOwes i

/-- The sum over the calls changes by what one call's share changes. -/
theorem sum_range_of_ne {f g : ℕ → ℕ} {n i : ℕ} (hi : i < n) (h : ∀ j, j ≠ i → g j = f j) :
    (∑ j ∈ Finset.range n, g j) + f i = (∑ j ∈ Finset.range n, f j) + g i := by
  have hmem : i ∈ Finset.range n := Finset.mem_range.mpr hi
  have hrest : ∑ j ∈ (Finset.range n).erase i, g j = ∑ j ∈ (Finset.range n).erase i, f j :=
    Finset.sum_congr rfl fun j hj => h j (Finset.ne_of_mem_erase hj)
  rw [← Finset.add_sum_erase _ _ hmem, ← Finset.add_sum_erase _ f hmem, hrest]
  omega

/-! ## The ring keeps its share -/

/-- What the ring has on the books: counted events and live slots. -/
def ringShare (d : Dispatcher) : ℕ := d.dropped + d.poisoned + liveSlots d

section

variable {s s' : RingMachine} {i : ℕ}

theorem ringShare_claim (h : Ordered s.disp) (kind : RegionKind) (len payload : UINT32) :
    ringShare (s.disp.claim kind len payload) =
      ringShare s.disp + if kind = .slot then 1 else 0 := by
  have hlive := h.live_claim kind len payload
  unfold ringShare liveSlots
  rw [hlive, List.countP_append, List.countP_singleton, claimedRegion, Region.isSlot,
    Dispatcher.claim, ← Nat.add_assoc]
  simp only [decide_eq_true_eq]

theorem ringShare_take {r : Region} (hr : s.Oldest r) (n : UINT32) :
    ringShare (s.disp.take n) + (if r.kind = .slot then 1 else 0) = ringShare s.disp := by
  obtain ⟨rest, hlive⟩ := live_of_oldest hr
  unfold ringShare liveSlots
  rw [live_take, hlive, List.tail_cons, List.countP_cons]
  simp only [Region.isSlot, decide_eq_true_eq]
  exact Nat.add_assoc _ _ _

theorem owes_after_wrap {c : Prop} [Decidable c] (f : Fill) (event : Accepted)
    (hpad : f.kind = .pad) :
    (if c then Producer.mark f else .readWriteHead event).owes = 1 := by
  split
  · exact if_pos hpad
  · rfl

theorem goto_share {pc pc' : Producer} (howes : pc'.owes = pc.owes) :
    ringShare (s.goto i pc').disp + ((s.goto i pc').producers i).owes =
        ringShare s.disp + pc.owes ∧
      (∀ j, j ≠ i → (s.goto i pc').producers j = s.producers j) ∧
      (s.goto i pc').consumer = s.consumer := by
  refine ⟨?_, fun j hj => RingMachine.goto_of_ne hj, rfl⟩
  rw [RingMachine.goto_self, howes]
  rfl

theorem write_share {f : Fill} {m : Memory} {pc pc' : Producer} (howes : pc'.owes = pc.owes) :
    ringShare (s.write i f m pc').disp + ((s.write i f m pc').producers i).owes =
        ringShare s.disp + pc.owes ∧
      (∀ j, j ≠ i → (s.write i f m pc').producers j = s.producers j) ∧
      (s.write i f m pc').consumer = s.consumer := by
  refine ⟨?_, fun j hj => RingMachine.write_of_ne hj, rfl⟩
  rw [RingMachine.write_self, howes]
  rfl

/-- A step of a call moves its event, if at all, to the ring's share. -/
theorem producerStep_share (h : Ordered s.disp) {pc : Producer}
    (hstep : producerStep s i pc = some s') :
    ringShare s'.disp + (s'.producers i).owes = ringShare s.disp + pc.owes ∧
      (∀ j, j ≠ i → s'.producers j = s.producers j) ∧ s'.consumer = s.consumer := by
  cases pc with
  | idle | returned => cases hstep
  | countDropped =>
      -- the event goes from the call to the count of dropped events
      cases hstep
      refine ⟨?_, fun j hj => RingMachine.goto_of_ne hj, rfl⟩
      rw [RingMachine.goto_self]
      simp only [ringShare, liveSlots, Producer.owes, RingMachine.goto]
      omega
  | exchange event cur =>
      -- a slot takes the event with it, a pad leaves it with the call
      cases hstep
      unfold exchangeStep
      dsimp only
      split
      · exact goto_share rfl
      · split
        · refine ⟨?_, fun j hj => RingMachine.claim_of_ne hj, RingMachine.claim_consumer⟩
          have hkind : wrapKind cur ≠ .slot := by
            unfold wrapKind
            split <;> nofun
          rw [RingMachine.claim_self, owes_after_wrap _ _ rfl, RingMachine.claim,
            ringShare_claim h, if_neg hkind]
          rfl
        · refine ⟨?_, fun j hj => RingMachine.claim_of_ne hj, RingMachine.claim_consumer⟩
          rw [RingMachine.claim_self, RingMachine.claim, ringShare_claim h]
          rfl
  | checkSize | readReadHead =>
      cases hstep
      exact goto_share (by split <;> rfl)
  | mark f =>
      cases hstep
      exact write_share (by split <;> rfl)
  | store f rest =>
      cases rest with
      | nil =>
          cases hstep
          exact goto_share (by split <;> rfl)
      | cons st rest =>
          cases hstep
          exact write_share rfl
  | commit f =>
      cases hstep
      exact write_share (by split <;> simp_all [Producer.owes, Fill.owes])
  | readWriteHead | queryCounter | nextSeq | countEnqueued =>
      cases hstep
      exact goto_share rfl
  | storeSeq | copyPayload =>
      cases hstep
      exact write_share rfl

theorem consumerGoto_share {pc pc' : Consumer} (h : pc'.owes = pc.owes) :
    ringShare (s.consumerGoto pc').disp + (s.consumerGoto pc').consumer.owes =
      ringShare s.disp + pc.owes ∧ (s.consumerGoto pc').producers = s.producers :=
  ⟨congrArg _ h, rfl⟩

/-- A step of the consumer moves an event, if at all, between the ring's share and its own. -/
theorem consumerStep_share (h : Interleaved s) {pc : Consumer} (hpc : s.consumer = pc)
    (hstep : consumerStep s pc = some s') :
    ringShare s'.disp + s'.consumer.owes = ringShare s.disp + pc.owes ∧
      s'.producers = s.producers := by
  cases pc with
  | returned => cases hstep
  | advancePad payload =>
      cases hstep
      obtain ⟨r, hr, hproper⟩ := h.oldest_at hpc id
      have hshare := ringShare_take hr (stride payload)
      rw [hproper.2.2] at hshare
      exact ⟨hshare, rfl⟩
  | advanceSlot payload =>
      cases hstep
      obtain ⟨r, hr, hproper⟩ := h.oldest_at hpc id
      obtain ⟨_, hpayload, hkind⟩ := hproper
      have hshare := ringShare_take hr (stride payload)
      rw [hkind] at hshare
      have hpos := (h.shaped_oldest hr).nonempty hkind
      -- a slot's payload is not empty, so the worker takes the return for an event
      have hne : payload ≠ 0 := by
        rintro rfl
        rw [← hpayload] at hpos
        exact absurd hpos (by decide)
      refine ⟨?_, rfl⟩
      have howes : (Consumer.returned payload).owes = 1 := if_neg hne
      show ringShare (s.disp.take (stride payload)) + (Consumer.returned payload).owes = _
      rw [howes]
      exact hshare
  | advancePoisoned n =>
      cases hstep
      obtain ⟨r, hr, hproper⟩ := h.oldest_at hpc id
      have hshare := ringShare_take hr n
      rw [hproper.1] at hshare
      exact ⟨hshare, rfl⟩
  | advanceFree =>
      obtain ⟨r, _, hproper⟩ := h.oldest_at hpc id
      exact hproper.elim
  | countPoisoned =>
      cases hstep
      refine ⟨?_, rfl⟩
      simp only [ringShare, liveSlots, Consumer.owes, RingMachine.consumerGoto]
      omega
  | readPending | readFlags | readTick | queryCounter =>
      cases hstep
      exact consumerGoto_share (by split <;> rfl)
  | readState =>
      cases hstep
      exact consumerGoto_share (by split <;> [rfl; (split <;> rfl)])
  | _ => cases hstep; exact ⟨rfl, rfl⟩

end

/-! ## The books -/

structure Books (s : DispatcherMachine) : Prop where
  ring : Interleaved s.ring
  balance : s.passed = s.delivered + s.lost + ringShare s.ring.disp +
    s.worker.owes s.ring.consumer + s.callsOwe
  fresh : ∀ i, s.calls ≤ i → s.enqueuers i = .outside ∧ s.ring.producers i = .idle
  between : s.worker ≠ .consuming → ∃ payload, s.ring.consumer = .returned payload
  noTimeout : s.worker ≠ .countTimeout

theorem init_books (outside : Memory) (freq : UINT64) :
    Books (DispatcherMachine.init outside freq) where
  ring := init_interleaved outside freq
  balance := rfl
  fresh := fun _ _ => ⟨rfl, rfl⟩
  between := fun _ => ⟨0, rfl⟩
  noTimeout := nofun

/-- What the ring must be like before a step of the dispatcher. -/
def RingOrderly (s : DispatcherMachine) : DispatcherAction → Prop
  | .producer i => Orderly s.ring (.producer i)
  | .worker => s.worker = .consuming → Orderly s.ring .consumer
  | _ => True

section

variable {s s' : DispatcherMachine} {i : ℕ}

/-- One call's debt changes. -/
theorem callsOwe_of_ne (hcalls : s'.calls = s.calls) (hi : i < s.calls)
    (hne : ∀ j, j ≠ i → s'.callOwes j = s.callOwes j) :
    s'.callsOwe + s.callOwes i = s.callsOwe + s'.callOwes i := by
  unfold DispatcherMachine.callsOwe
  rw [hcalls]
  exact sum_range_of_ne hi hne

theorem drop_interleaved (h : Interleaved s.ring) : Interleaved s.drop.ring :=
  h.withCounters _ _ _ _ _

theorem ringShare_drop : ringShare s.drop.ring.disp = ringShare s.ring.disp + 1 := by
  simp only [ringShare, liveSlots, DispatcherMachine.drop]
  omega

/-- Neither the calls nor the ring are touched. -/
theorem Books.congr (h : Books s) (hring : s'.ring = s.ring)
    (henqueuers : s'.enqueuers = s.enqueuers)
    (hcalls : s'.calls = s.calls) (hpassed : s'.passed = s.passed)
    (hbalance : s'.delivered + s'.lost + s'.worker.owes s.ring.consumer =
      s.delivered + s.lost + s.worker.owes s.ring.consumer)
    (hbetween : s'.worker ≠ .consuming → s.worker ≠ .consuming ∨
      ∃ payload, s.ring.consumer = .returned payload)
    (hno : s'.worker ≠ .countTimeout) : Books s' where
  ring := hring ▸ h.ring
  balance := by
    have hbooks := h.balance
    have hsum : s'.callsOwe = s.callsOwe := by
      simp only [DispatcherMachine.callsOwe, DispatcherMachine.callOwes, hcalls, henqueuers, hring]
    rw [hpassed, hring, hsum]
    omega
  fresh := by
    rw [hcalls, henqueuers, hring]
    exact h.fresh
  between := by
    intro hnot
    rw [hring]
    rcases hbetween hnot with hold | hreturned
    · exact h.between hold
    · exact hreturned
  noTimeout := hno

/-- The worker, owing nothing, calls `ConsumeOne`. -/
theorem Books.consume (h : Books s) (hold : s.worker ≠ .consuming)
    (howes : s.worker.owes s.ring.consumer = 0) : Books s.consume where
  ring := by
    obtain ⟨payload, hreturned⟩ := h.between hold
    exact h.ring.consumerGoto (by rw [hreturned]; exact id) (Or.inl trivial)
  balance := by
    have hbooks := h.balance
    rw [howes] at hbooks
    exact hbooks
  fresh := h.fresh
  between := fun hnot => absurd rfl hnot
  noTimeout := nofun

theorem Books.accept (h : Books s) (request : Request) : Books (s.accept request) := by
  obtain ⟨_, hidle⟩ := h.fresh s.calls le_rfl
  have hsum : (s.accept request).callsOwe = s.callsOwe + 1 := by
    unfold DispatcherMachine.callsOwe DispatcherMachine.accept
    rw [Finset.sum_range_succ]
    congr 1
    · refine Finset.sum_congr rfl fun j hj => ?_
      have hne : j ≠ s.calls := (Finset.mem_range.mp hj).ne
      simp only [DispatcherMachine.callOwes, Function.update_of_ne hne]
    · simp only [DispatcherMachine.callOwes, Function.update_self, hidle]
      rfl
  refine ⟨h.ring, ?_, ?_, h.between, h.noTimeout⟩
  · have hbooks := h.balance
    rw [hsum]
    show s.passed + 1 = s.delivered + s.lost + ringShare s.ring.disp +
      s.worker.owes s.ring.consumer + (s.callsOwe + 1)
    omega
  · intro j hj
    have hlt : s.calls + 1 ≤ j := hj
    obtain ⟨houtside, hid⟩ := h.fresh j (by omega)
    exact ⟨(Function.update_of_ne (by omega) ..).trans houtside, hid⟩

theorem Books.refuse (h : Books s) : Books s.refuse := by
  obtain ⟨houtside, hidle⟩ := h.fresh s.calls le_rfl
  have hsum : s.refuse.callsOwe = s.callsOwe := by
    have hzero : s.refuse.callOwes s.calls = 0 := by
      simp only [DispatcherMachine.callOwes, DispatcherMachine.refuse, houtside, hidle]
      rfl
    unfold DispatcherMachine.callsOwe
    rw [show s.refuse.calls = s.calls + 1 from rfl, Finset.sum_range_succ, hzero]
    rfl
  refine ⟨h.ring, ?_, fun j hj => h.fresh j (Nat.le_of_succ_le hj), h.between, h.noTimeout⟩
  rw [hsum]
  exact h.balance

/-- Call `i` goes on, moving its event between its own share and the ring's. -/
theorem Books.call (h : Books s) {ring : RingMachine} {enqueuers : ℕ → Enqueuer}
    (hi : i < s.calls) (hring : Interleaved ring) (hconsumer : ring.consumer = s.ring.consumer)
    (henqueuers : ∀ j, j ≠ i → enqueuers j = s.enqueuers j)
    (hproducers : ∀ j, j ≠ i → ring.producers j = s.ring.producers j)
    (hshare : ringShare ring.disp + ((enqueuers i).owes + (ring.producers i).owes) =
      ringShare s.ring.disp + s.callOwes i) :
    Books { s with ring := ring, enqueuers := enqueuers } := by
  have hothers : ∀ j, j ≠ i → ({ s with ring := ring, enqueuers := enqueuers } :
      DispatcherMachine).callOwes j = s.callOwes j := fun j hj => by
    simp only [DispatcherMachine.callOwes, henqueuers j hj, hproducers j hj]
  have hsum := @callsOwe_of_ne s { s with ring := ring, enqueuers := enqueuers } i rfl hi hothers
  have hbooks := h.balance
  refine ⟨hring, ?_, ?_, ?_, h.noTimeout⟩
  · have hnew : ({ s with ring := ring, enqueuers := enqueuers } : DispatcherMachine).callOwes i =
        (enqueuers i).owes + (ring.producers i).owes := rfl
    show s.passed = s.delivered + s.lost + ringShare ring.disp + s.worker.owes ring.consumer + _
    rw [hconsumer]
    omega
  · intro j hj
    have hne : j ≠ i := by
      rintro rfl
      exact absurd hi (Nat.not_lt.mpr hj)
    obtain ⟨houtside, hidle⟩ := h.fresh j hj
    exact ⟨(henqueuers j hne).trans houtside, (hproducers j hne).trans hidle⟩
  · show s.worker ≠ .consuming → ∃ payload, ring.consumer = .returned payload
    rw [hconsumer]
    exact h.between

theorem Books.lt_calls_of_prepare (h : Books s) {request : Request}
    (hpc : s.enqueuers i = .prepare request) : i < s.calls := by
  by_contra hge
  rw [(h.fresh i (Nat.le_of_not_lt hge)).1] at hpc
  cases hpc

theorem Books.enqueuer (h : Books s) {pc : Enqueuer} (hpc : s.enqueuers i = pc)
    (hstep : enqueuerStep s i pc = some s') : Books s' := by
  have houtside : ∀ j, j ≠ i → Function.update s.enqueuers i .outside j = s.enqueuers j :=
    fun j hj => Function.update_of_ne hj ..
  rcases enqueuerStep_cases hstep with ⟨request, rfl, rfl⟩ | ⟨event, rfl, hidle, rfl⟩
  · have howes : s.callOwes i = 1 + (s.ring.producers i).owes := by
      rw [DispatcherMachine.callOwes, hpc, Enqueuer.owes]
    have hcall := h.call (h.lt_calls_of_prepare hpc) (drop_interleaved h.ring) rfl houtside
      (fun _ _ => rfl) (by
        rw [Function.update_self, ringShare_drop, howes]
        simp only [Enqueuer.owes, DispatcherMachine.drop]
        omega)
    exact hcall
  · have hring : Interleaved (s.ring.goto i (.checkSize event)) :=
      h.ring.goto_idle (by rw [hidle]; rfl) rfl
    have hcall := h.call (h.lt_calls_of_prepare hpc) hring rfl houtside
      (fun j hj => RingMachine.goto_of_ne hj) (by
        rw [Function.update_self, RingMachine.goto_self, DispatcherMachine.callOwes, hpc, hidle]
        rfl)
    exact hcall

theorem Books.producer (h : Books s) {ring : RingMachine}
    (horderly : Orderly s.ring (.producer i))
    (hstep : ringStep s.ring (.producer i) = some ring) : Books { s with ring := ring } := by
  have hi : i < s.calls := by
    by_contra hge
    rw [ringStep, (h.fresh i (Nat.le_of_not_lt hge)).2] at hstep
    cases hstep
  obtain ⟨hshare, hne, hconsumer⟩ := producerStep_share h.ring.ordered hstep
  refine h.call hi (h.ring.step horderly hstep) hconsumer (fun _ _ => rfl) hne ?_
  rw [DispatcherMachine.callOwes]
  omega

theorem moved_share {p d l a b c x y : ℕ} (h : p = d + l + a + c + x) (hshare : b + y = a + c) :
    p = d + l + b + y + x := by omega

/-- The consumer goes on inside `ConsumeOne`. -/
theorem Books.consumer (h : Books s) {ring : RingMachine} (hpc : s.worker = .consuming)
    (horderly : RingOrderly s .worker) (hring : ringStep s.ring .consumer = some ring) :
    Books { s with ring := ring } := by
  obtain ⟨hshare, hproducers⟩ := consumerStep_share h.ring rfl hring
  have hsum : ({ s with ring := ring } : DispatcherMachine).callsOwe = s.callsOwe := by
    simp only [DispatcherMachine.callsOwe, DispatcherMachine.callOwes, hproducers]
  refine ⟨h.ring.step (horderly hpc) hring, ?_, ?_, fun hnot => absurd hpc hnot, h.noTimeout⟩
  · have hbooks := h.balance
    rw [hpc] at hbooks
    rw [hsum]
    show s.passed = s.delivered + s.lost + ringShare ring.disp + s.worker.owes ring.consumer +
      s.callsOwe
    rw [hpc]
    exact moved_share hbooks hshare
  · intro j hj
    obtain ⟨houtside, hidle⟩ := h.fresh j hj
    exact ⟨houtside, (congrFun hproducers j).trans hidle⟩

/-- The worker counts its event as dropped. -/
theorem Books.dropped (h : Books s) (hpc : s.worker = .countDropped) :
    Books { s.drop with worker := .waiting } := by
  refine ⟨drop_interleaved h.ring, ?_, h.fresh, fun _ => h.between (by rw [hpc]; nofun), nofun⟩
  have hbooks := h.balance
  rw [hpc] at hbooks
  show s.passed = s.delivered + s.lost + ringShare s.drop.ring.disp + 0 + s.callsOwe
  exact moved_share hbooks (by rw [ringShare_drop]; rfl)

theorem afterConsume_owes (bytes : UINT32) (consumer : Consumer) :
    (if bytes = 0 then Worker.cycleEnd else .checkPort bytes).owes consumer =
      (Consumer.returned bytes).owes := by
  by_cases hbytes : bytes = 0
  · rw [if_pos hbytes, Consumer.owes, if_pos hbytes]
    rfl
  · rw [if_neg hbytes, Consumer.owes, if_neg hbytes]
    rfl

theorem afterConsume_ne_countTimeout (bytes : UINT32) :
    (if bytes = 0 then Worker.cycleEnd else .checkPort bytes) ≠ .countTimeout := by
  split <;> nofun

/-- The worker, not calling `ConsumeOne`, goes on with as much as it had. -/
theorem Books.workerNext (h : Books s) {pc : Worker} (hpc : s.worker = pc)
    (hout : pc ≠ .consuming) (hring : s'.ring = s.ring) (henqueuers : s'.enqueuers = s.enqueuers)
    (hcalls : s'.calls = s.calls) (hpassed : s'.passed = s.passed)
    (hbalance : s'.delivered + s'.lost + s'.worker.owes s.ring.consumer =
      s.delivered + s.lost + pc.owes s.ring.consumer)
    (hno : s'.worker ≠ .countTimeout) : Books s' := by
  subst hpc
  exact h.congr hring henqueuers hcalls hpassed hbalance (fun _ => Or.inl hout) hno

/-- The worker goes on, and owes what it owed. -/
theorem Books.workerGoto (h : Books s) {pc next : Worker} (hpc : s.worker = pc)
    (hout : pc ≠ .consuming) (howes : next.owes s.ring.consumer = pc.owes s.ring.consumer)
    (hno : next ≠ .countTimeout) : Books (s.workerGoto next) :=
  h.workerNext hpc hout rfl rfl rfl rfl (congrArg (s.delivered + s.lost + ·) howes) hno

theorem Books.worker (h : Books s) {pc : Worker} (hpc : s.worker = pc)
    (horderly : RingOrderly s .worker) (hstep : workerStep s pc = some s') : Books s' := by
  cases pc with
  | waiting | sending | exited => cases hstep
  | consuming =>
      rcases workerStep_consuming hstep with ⟨bytes, hreturned, rfl⟩ | ⟨ring, hring, rfl⟩
      · -- the call of `ConsumeOne` is over, and its event is the worker's
        have howes : s.worker.owes s.ring.consumer = (Consumer.returned bytes).owes := by
          rw [hpc, hreturned]
          rfl
        exact h.congr rfl rfl rfl rfl (congrArg _ ((afterConsume_owes bytes _).trans howes.symm))
          (fun _ => Or.inr ⟨bytes, hreturned⟩) (afterConsume_ne_countTimeout bytes)
      · exact h.consumer hpc horderly hring
  | checkPort bytes =>
      cases hstep
      apply h.workerGoto hpc (by rintro ⟨⟩)
      · split <;> rfl
      · split <;> rintro ⟨⟩
  | countDropped =>
      cases hstep
      exact (h.dropped hpc).consume (by rintro ⟨⟩) rfl
  | snapshot bytes =>
      rcases workerStep_snapshot hstep with ⟨_, rfl⟩ | ⟨_, _, rfl⟩
      · exact h.workerNext hpc (by rintro ⟨⟩) rfl rfl rfl rfl rfl (by rintro ⟨⟩)
      · exact h.workerGoto hpc (by rintro ⟨⟩) rfl (by rintro ⟨⟩)
  | send port bytes =>
      cases hstep
      exact h.workerGoto hpc (by rintro ⟨⟩) rfl (by rintro ⟨⟩)
  | resetTimeouts status =>
      cases hstep
      exact h.workerNext hpc (by rintro ⟨⟩) rfl rfl rfl rfl rfl (by rintro ⟨⟩)
  | countTimeout => exact absurd hpc h.noTimeout
  | sendReturned status =>
      rcases workerStep_sendReturned hstep with rfl | rfl
      · exact h.consume (by rw [hpc]; rintro ⟨⟩) (by rw [hpc]; rfl)
      · exact h.workerGoto hpc (by rintro ⟨⟩) rfl (by rintro ⟨⟩)
  | cycleEnd =>
      cases hstep
      apply h.workerGoto hpc (by rintro ⟨⟩)
      · split <;> rfl
      · split <;> rintro ⟨⟩

theorem afterSend_owes (status : NTSTATUS) (consumer : Consumer) :
    (afterSend status).owes consumer = 0 := by
  unfold afterSend
  split
  · rfl
  · split <;> rfl

/-- A message is delivered or lost. -/
theorem delivered_or_lost (b : Bool) (d l : ℕ) :
    d + b.toNat + (l + (!b).toNat) + 0 = d + l + 1 := by
  cases b <;> simp <;> omega

/-- **Step lemma for the books.** -/
theorem Books.step (h : Books s) {action : DispatcherAction} (horderly : RingOrderly s action)
    (hstep : dispatcherStep s action = some s') : Books s' := by
  cases action with
  | tick =>
      cases hstep
      exact ⟨h.ring.congr h.ring.ordered rfl rfl rfl, h.balance, h.fresh,
        h.between, h.noTimeout⟩
  | enqueue request =>
      cases hstep
      unfold enqueueStep
      split
      · exact h.accept request
      · exact h.refuse
  | enqueuer i => exact h.enqueuer rfl hstep
  | producer i =>
      obtain ⟨ring, hring, rfl⟩ := Option.map_eq_some_iff.mp hstep
      exact h.producer horderly hring
  | wake =>
      obtain ⟨hpc, rfl⟩ := dispatcherStep_wake hstep
      have hconsume := h.consume (by rw [hpc]; nofun) (by rw [hpc]; rfl)
      exact ⟨hconsume.ring, hconsume.balance, hconsume.fresh, hconsume.between,
        hconsume.noTimeout⟩
  | worker => exact h.worker rfl horderly hstep
  | sendReturns status =>
      obtain ⟨⟨port, hpc⟩, rfl⟩ := dispatcherStep_sendReturns hstep
      refine h.congr rfl rfl rfl rfl ?_ (fun _ => Or.inl (by rw [hpc]; nofun))
        (afterSend_ne_countTimeout status)
      rw [hpc, show (sendReturns s status).worker.owes s.ring.consumer = 0 from
        afterSend_owes status _]
      exact delivered_or_lost (delivers status) s.delivered s.lost
  | connect port =>
      obtain ⟨_, _, rfl⟩ := dispatcherStep_connect hstep
      exact h.congr rfl rfl rfl rfl rfl Or.inl h.noTimeout
  | disconnect =>
      obtain ⟨_, rfl⟩ := dispatcherStep_disconnect hstep
      exact h.congr rfl rfl rfl rfl rfl Or.inl h.noTimeout
  | link =>
      cases hpc : s.link <;> simp only [dispatcherStep, linkStep, hpc] at hstep <;> cases hstep <;>
        exact h.congr rfl rfl rfl rfl rfl Or.inl h.noTimeout
  | deactivate | stop =>
      cases hstep
      exact h.congr rfl rfl rfl rfl rfl Or.inl h.noTimeout

end

/-! ## Quiescent states -/

def Producer.midCall : Producer → Bool
  | .idle | .returned => false
  | _ => true

def Enqueuer.midCall : Enqueuer → Bool
  | .outside => false
  | .prepare _ => true

/-- No producer is mid-call, and the worker is idle. -/
structure Quiescent (s : DispatcherMachine) : Prop where
  calls : ∀ i < s.calls, (s.enqueuers i).midCall = false ∧ (s.ring.producers i).midCall = false
  worker : s.worker = .waiting ∨ s.worker = .exited

/-- The number of committed event slots that the consumer has not taken. -/
def committedSlots (s : RingMachine) : ℕ :=
  (s.claims.zipIdx.drop s.consumed).countP fun p => p.1.isSlot && (s.progress p.2 = .committed)

/-- Every event is delivered, counted, or in the ring. -/
def Balanced (s : DispatcherMachine) : Prop :=
  s.passed = s.delivered + s.ring.disp.dropped + s.ring.disp.poisoned + committedSlots s.ring

/-- The worker is about to copy the port in `SendOne`. -/
def Worker.copiesPort : Worker → Bool
  | .snapshot _ => true
  | _ => false

/-- What keeps a step from losing an event: every message that is sent reaches the client, and
the client does not disconnect between the port check and the copy of the port. -/
def EventKept (s : DispatcherMachine) : DispatcherAction → Prop
  | .sendReturns status => delivers status = true
  | .worker => s.worker.copiesPort = true → s.clientPort.isSome = true
  | _ => True

instance (s : DispatcherMachine) (action : DispatcherAction) : Decidable (EventKept s action) := by
  cases action <;> (unfold EventKept; infer_instance)

instance (s : DispatcherMachine) (action : DispatcherAction) :
    Decidable (RingOrderly s action) := by
  cases action <;> (unfold RingOrderly; infer_instance)

section

variable {s s' : DispatcherMachine}

theorem Producer.fill?_of_not_midCall {pc : Producer} (h : pc.midCall = false) :
    pc.fill? = none := by
  cases pc <;> first | rfl | cases h

theorem Producer.owes_of_not_midCall {pc : Producer} (h : pc.midCall = false) : pc.owes = 0 := by
  cases pc <;> first | rfl | cases h

theorem Enqueuer.owes_of_not_midCall {pc : Enqueuer} (h : pc.midCall = false) : pc.owes = 0 := by
  cases pc <;> first | rfl | cases h

/-- Between calls every region is committed. -/
theorem Books.committed (h : Books s) (hquiet : Quiescent s) {k : ℕ}
    (hk : k < s.ring.claims.length) : s.ring.progress k = .committed := by
  by_contra hnot
  obtain ⟨i, f, hf, _⟩ := h.ring.owned k hk hnot
  by_cases hi : i < s.calls
  · rw [Producer.fill?_of_not_midCall (hquiet.calls i hi).2] at hf
    cases hf
  · rw [(h.fresh i (Nat.le_of_not_lt hi)).2] at hf
    cases hf

theorem Books.committedSlots_eq (h : Books s) (hquiet : Quiescent s) :
    committedSlots s.ring = liveSlots s.ring.disp := by
  have hall : ∀ p ∈ s.ring.claims.zipIdx.drop s.ring.consumed,
      (p.1.isSlot && decide (s.ring.progress p.2 = .committed)) = true ↔ p.1.isSlot = true := by
    intro p hp
    have hlt := (List.mem_zipIdx (List.mem_of_mem_drop hp)).2.1
    rw [h.committed hquiet (by omega), decide_eq_true rfl, Bool.and_true]
  calc committedSlots s.ring
      = (s.ring.claims.zipIdx.drop s.ring.consumed).countP (Region.isSlot ∘ Prod.fst) :=
        List.countP_congr hall
    _ = ((s.ring.claims.zipIdx.map Prod.fst).drop s.ring.consumed).countP Region.isSlot := by
        rw [← List.map_drop, List.countP_map]
    _ = liveSlots s.ring.disp := by
        rw [List.zipIdx_map_fst]
        rfl

/-- At a quiescent point the law fails by exactly the number of lost events. -/
theorem Books.passed_eq (h : Books s) (hquiet : Quiescent s) :
    s.passed = s.delivered + s.ring.disp.dropped + s.ring.disp.poisoned + committedSlots s.ring +
      s.lost := by
  have hcalls : s.callsOwe = 0 := by
    refine Finset.sum_eq_zero fun i hi => ?_
    obtain ⟨houtside, hreturned⟩ := hquiet.calls i (Finset.mem_range.mp hi)
    rw [DispatcherMachine.callOwes, Enqueuer.owes_of_not_midCall houtside,
      Producer.owes_of_not_midCall hreturned, Nat.zero_add]
  have hworker : s.worker.owes s.ring.consumer = 0 := by
    rcases hquiet.worker with hpc | hpc <;> rw [hpc] <;> rfl
  have hbooks := h.balance
  rw [hcalls, hworker, ringShare, ← h.committedSlots_eq hquiet] at hbooks
  omega

theorem workerStep_lost {pc : Worker} (hpc : s.worker = pc) (hkept : EventKept s .worker)
    (hstep : workerStep s pc = some s') : s'.lost = s.lost := by
  cases pc with
  | waiting | sending | exited => cases hstep
  | consuming =>
      rcases workerStep_consuming hstep with ⟨_, _, rfl⟩ | ⟨_, _, rfl⟩ <;> rfl
  | snapshot bytes =>
      rw [EventKept, hpc] at hkept
      rcases workerStep_snapshot hstep with ⟨hgone, rfl⟩ | ⟨_, _, rfl⟩
      · rw [hgone] at hkept
        exact absurd (hkept rfl) (by decide)
      · rfl
  | sendReturned status =>
      rcases workerStep_sendReturned hstep with rfl | rfl <;> rfl
  | _ => cases hstep; rfl

theorem dispatcherStep_lost {action : DispatcherAction} (hkept : EventKept s action)
    (hstep : dispatcherStep s action = some s') : s'.lost = s.lost := by
  cases action with
  | tick => cases hstep; rfl
  | enqueue request =>
      cases hstep
      unfold enqueueStep
      split <;> rfl
  | enqueuer i =>
      rcases enqueuerStep_cases hstep with ⟨_, _, rfl⟩ | ⟨_, _, _, rfl⟩ <;> rfl
  | producer i =>
      obtain ⟨ring, _, rfl⟩ := Option.map_eq_some_iff.mp hstep
      rfl
  | wake =>
      obtain ⟨_, rfl⟩ := dispatcherStep_wake hstep
      rfl
  | worker => exact workerStep_lost rfl hkept hstep
  | sendReturns status =>
      obtain ⟨_, rfl⟩ := dispatcherStep_sendReturns hstep
      have hdelivered : delivers status = true := hkept
      simp [sendReturns, hdelivered]
  | connect port =>
      obtain ⟨_, _, rfl⟩ := dispatcherStep_connect hstep
      rfl
  | disconnect =>
      obtain ⟨_, rfl⟩ := dispatcherStep_disconnect hstep
      rfl
  | link =>
      cases hpc : s.link <;> simp only [dispatcherStep, linkStep, hpc] at hstep <;> cases hstep <;>
        rfl
  | deactivate | stop => cases hstep; rfl

end

/-- **Event accounting.** -/
theorem balanced_of_eventKept (outside : Memory) (freq : UINT64) (s : DispatcherMachine)
    (run : Run dispatcherStep (fun s action => RingOrderly s action ∧ EventKept s action)
      (DispatcherMachine.init outside freq) s) (hquiet : Quiescent s) : Balanced s := by
  have hinv : Books s ∧ s.lost = 0 := by
    refine @Run.invariant _ _ _ _ _ _ (fun s => Books s ∧ s.lost = 0) run
      ⟨init_books outside freq, rfl⟩ ?_
    rintro t action u ⟨hbooks, hlost⟩ ⟨horderly, hkept⟩ hstep
    exact ⟨hbooks.step horderly hstep, (dispatcherStep_lost hkept hstep).trans hlost⟩
  have hpassed := hinv.1.passed_eq hquiet
  rw [hinv.2] at hpassed
  exact hpassed

/-- An `Enqueue` call that runs to its end. -/
private def wholeCall (i : ℕ) : List DispatcherAction :=
  [.enqueue (.serialized (hundredBytes 7)), .enqueuer i] ++ List.replicate 17 (.producer i)

/-- Up to the call of `FltSendMessage`. -/
private def takeEvent : List DispatcherAction := [.wake] ++ List.replicate 11 .worker

/-- One event is delivered, one finds no buffer, one stays in the ring. -/
private def threeEvents : List DispatcherAction :=
  [DispatcherAction.connect 1, .link] ++ wholeCall 0 ++ takeEvent ++
    [DispatcherAction.sendReturns statusSuccess] ++ List.replicate 5 DispatcherAction.worker ++
    [DispatcherAction.enqueue .noBuffer, .enqueuer 1] ++ wholeCall 2

theorem balanced_three_events : ∃ s, steps dispatcherStep
    (DispatcherMachine.init (fun _ => 0) 10000000) threeEvents = some s ∧ s.passed = 3 ∧
    s.delivered = 1 ∧ Balanced s := by
  have hfacts : (steps dispatcherStep (DispatcherMachine.init (fun _ => 0) 10000000)
      threeEvents).map (fun s => (s.passed, s.delivered, s.worker, decide (∀ i < s.calls,
        (s.enqueuers i).midCall = false ∧ (s.ring.producers i).midCall = false))) =
      some (3, 1, .waiting, true) := by decide +kernel
  obtain ⟨s, hs, hfacts⟩ := Option.map_eq_some_iff.mp hfacts
  simp only [Prod.mk.injEq, decide_eq_true_eq] at hfacts
  obtain ⟨hpassed, hdelivered, hworker, hcalls⟩ := hfacts
  exact ⟨s, hs, hpassed, hdelivered, balanced_of_eventKept (fun _ => 0) 10000000 s
    (run_of_steps (by decide +kernel) hs) ⟨hcalls, Or.inl hworker⟩⟩

/-- A send that times out: the event is neither delivered nor counted. -/
theorem not_balanced_after_timeout : ¬ ∀ s : DispatcherMachine,
    DispatcherRun (fun _ => 0) 10000000 s → Quiescent s → Balanced s := by
  intro hbalanced
  have hfacts : (steps dispatcherStep (DispatcherMachine.init (fun _ => 0) 10000000)
      ([.connect 1, .link] ++ wholeCall 0 ++ takeEvent ++ [.sendReturns statusTimeout] ++
        List.replicate 5 .worker)).map (fun s => (s.worker, decide (∀ i < s.calls,
        (s.enqueuers i).midCall = false ∧ (s.ring.producers i).midCall = false),
        [s.passed, s.delivered, s.ring.disp.dropped, s.ring.disp.poisoned,
          committedSlots s.ring])) = some (.waiting, true, [1, 0, 0, 0, 0]) := by decide +kernel
  obtain ⟨s, hs, hfacts⟩ := Option.map_eq_some_iff.mp hfacts
  simp only [Prod.mk.injEq, decide_eq_true_eq, List.cons.injEq, and_true] at hfacts
  obtain ⟨hworker, hcalls, hpassed, hdelivered, hdropped, hpoisoned, hslots⟩ := hfacts
  have := hbalanced s (reaches_of_steps hs) ⟨hcalls, Or.inl hworker⟩
  rw [Balanced, hpassed, hdelivered, hdropped, hpoisoned, hslots] at this
  exact absurd this (by decide)

end Kawin.Driver
