import Kawin.Kasvc.ThreadSafeQueue

/-!
# No wake-up is lost

`ThreadSafeQueue` notifies one thread for each item it adds and for each place it frees, and all
threads when it is closed or cleared.  A notification can be spent on a thread that finds nothing
when it resumes, because a third thread came first; that thread then sleeps again while
others were never notified.

`NoLostWakeup` counts: while a thread sleeps, the threads notified and not yet resumed
are at least as many as the items, or as the free places.  A late arrival that takes an item
lowers that count by one, and so does a thread that resumes with an item; one that resumes
without finds a count of zero.
-/

namespace Kawin.Kasvc

open Monitor Monitor.CondVar Transition

variable {T : Type}

/-- Whoever sleeps has as many notified threads before it as there are items, or free places;
once the queue is closed nobody sleeps. -/
structure NoLostWakeup (q : ThreadSafeQueue T) : Prop where
  notEmpty : q.cvNotEmpty.sleeping ≠ [] → q.queue.length ≤ q.cvNotEmpty.notified.length
  notFull : q.cvNotFull.sleeping ≠ [] → q.maxSize - q.queue.length ≤ q.cvNotFull.notified.length
  closed : q.closed = true → q.cvNotEmpty.sleeping = [] ∧ q.cvNotFull.sleeping = []

/-- A thread sleeps on its condition only while the condition is false, or while some thread has
been notified and is due to resume. -/
structure SleepsForReason (q : ThreadSafeQueue T) : Prop where
  notEmpty : q.cvNotEmpty.sleeping ≠ [] → q.itemOrClosed = true → q.cvNotEmpty.notified ≠ []
  notFull : q.cvNotFull.sleeping ≠ [] → q.roomOrClosed = true → q.cvNotFull.notified ≠ []

theorem NoLostWakeup.sleepsForReason {q : ThreadSafeQueue T} (h : NoLostWakeup q) :
    SleepsForReason q where
  notEmpty hsleeping hready := by
    rw [ThreadSafeQueue.itemOrClosed, Bool.or_eq_true] at hready
    rcases hready with hitem | hclosed
    · have hle := h.notEmpty hsleeping
      have hpos : q.queue ≠ [] := by simpa using hitem
      rw [← List.length_pos_iff] at hpos ⊢
      exact Nat.lt_of_lt_of_le hpos hle
    · exact absurd (h.closed hclosed).1 hsleeping
  notFull hsleeping hready := by
    rw [ThreadSafeQueue.roomOrClosed, Bool.or_eq_true, decide_eq_true_eq] at hready
    rcases hready with hroom | hclosed
    · have hle := h.notFull hsleeping
      rw [← List.length_pos_iff]
      omega
    · exact absurd (h.closed hclosed).2 hsleeping

theorem init_noLostWakeup (maxSize : ℕ) :
    NoLostWakeup (.init maxSize : ThreadSafeQueue T) where
  notEmpty hsleeping := absurd rfl hsleeping
  notFull hsleeping := absurd rfl hsleeping
  closed _ := ⟨rfl, rfl⟩

section

variable {q q' : ThreadSafeQueue T} {t woken : ℕ} {expired : Bool}

/-- A push tests its condition.  The thread may come from a wait, and then it has used up the
notification of one place. -/
theorem noLostWakeup_checkPush {job : PushJob T}
    (h : q.checkPush t job expired woken = some q')
    (hempty : q.cvNotEmpty.Covers q.queue.length)
    (hfull : q.cvNotFull.Covers (q.maxSize - q.queue.length - 1))
    (hclosed : q.closed = true → q.cvNotEmpty.sleeping = [] ∧ q.cvNotFull.sleeping = []) :
    NoLostWakeup q' := by
  rcases checkPush_cases h with ⟨hopen, _, cv, hcv, rfl⟩ | ⟨hrefused, rfl⟩ | ⟨hopen, hnoroom, rfl⟩
  · -- the new item takes the place and has its own notification
    refine ⟨?_, ?_, fun hc => absurd (hopen.symm.trans hc) (by simp)⟩
    · rw [List.length_append]
      exact hempty.notifyOne hcv
    · rw [List.length_append, Nat.sub_add_eq]
      exact hfull
  · refine ⟨hempty, fun hsleeping => ?_, hclosed⟩
    rcases hrefused with hc | hnoroom
    · exact absurd (hclosed hc).2 hsleeping
    · rw [Nat.sub_eq_zero_of_le hnoroom]
      exact Nat.zero_le _
  · refine ⟨hempty, fun _ => ?_, fun hc => absurd (hopen.symm.trans hc) (by simp)⟩
    rw [Nat.sub_eq_zero_of_le hnoroom]
    exact Nat.zero_le _

/-- A pop tests its condition. -/
theorem noLostWakeup_checkPop {job : PopJob} (h : q.checkPop t job expired woken = some q')
    (hempty : q.cvNotEmpty.Covers (q.queue.length - 1))
    (hfull : q.cvNotFull.Covers (q.maxSize - q.queue.length))
    (hclosed : q.closed = true → q.cvNotEmpty.sleeping = [] ∧ q.cvNotFull.sleeping = []) :
    NoLostWakeup q' := by
  rcases checkPop_cases h with ⟨item, rest, cv, hqueue, hcv, rfl⟩ | ⟨hnone, rfl⟩ |
    ⟨hnone, hopen, rfl⟩
  · -- one item less, one place more, and a notification for the place
    rw [hqueue, List.length_cons] at hempty hfull
    refine ⟨hempty, ?_, fun hc => ?_⟩
    · exact (hfull.notifyOne hcv).mono (by simp only; omega)
    · exact ⟨(hclosed hc).1, sleeping_of_notifyOne (hclosed hc).2 hcv⟩
  · exact ⟨fun _ => by simp [hnone], hfull, hclosed⟩
  · exact ⟨fun _ => by simp [hnone], hfull, fun hc => absurd (hopen.symm.trans hc) (by simp)⟩

/-- **Step lemma.** -/
theorem NoLostWakeup.step {action : QueueAction T} (h : NoLostWakeup q)
    (hstep : queueStep q action = some q') : NoLostWakeup q' := by
  have hempty : q.cvNotEmpty.Covers q.queue.length := h.notEmpty
  have hfull : q.cvNotFull.Covers (q.maxSize - q.queue.length) := h.notFull
  cases action with
  | push t job woken =>
      simp only [queueStep] at hstep
      split at hstep
      · cases hstep
      · exact noLostWakeup_checkPush hstep hempty (hfull.mono (Nat.sub_le _ 1)) h.closed
  | pop t job woken =>
      simp only [queueStep] at hstep
      split at hstep
      · cases hstep
      · exact noLostWakeup_checkPop hstep (hempty.mono (Nat.sub_le _ 1)) hfull h.closed
  | rousePush t =>
      obtain ⟨cv, hcv, rfl⟩ := Option.map_eq_some_iff.mp hstep
      refine ⟨hempty, hfull.rouse hcv, fun hc => ?_⟩
      rw [sleeping_of_rouse (h.closed hc).2] at hcv
      cases hcv
  | rousePop t =>
      obtain ⟨cv, hcv, rfl⟩ := Option.map_eq_some_iff.mp hstep
      refine ⟨hempty.rouse hcv, hfull, fun hc => ?_⟩
      rw [sleeping_of_rouse (h.closed hc).1] at hcv
      cases hcv
  | resumePush t expired woken =>
      obtain ⟨w, cv, hcv, hcheck⟩ := resumePush_cases hstep
      refine noLostWakeup_checkPush hcheck hempty (hfull.resume hcv) fun hc => ?_
      exact ⟨(h.closed hc).1, sleeping_of_resume (h.closed hc).2 hcv⟩
  | resumePop t expired woken =>
      obtain ⟨w, cv, hcv, hcheck⟩ := resumePop_cases hstep
      refine noLostWakeup_checkPop hcheck (hempty.resume hcv) hfull fun hc => ?_
      exact ⟨sleeping_of_resume (h.closed hc).1 hcv, (h.closed hc).2⟩
  | close =>
      cases hstep
      exact ⟨fun hsleeping => absurd rfl hsleeping, fun hsleeping => absurd rfl hsleeping,
        fun _ => ⟨rfl, rfl⟩⟩
  | clear =>
      cases hstep
      exact ⟨fun _ => Nat.zero_le _, fun hsleeping => absurd rfl hsleeping,
        fun hc => ⟨(h.closed hc).1, rfl⟩⟩

end

/-- **No lost wake-up**, in every state of every run. -/
theorem noLostWakeup_of_reaches (maxSize : ℕ) (q : ThreadSafeQueue T)
    (run : Reaches queueStep (.init maxSize) q) : NoLostWakeup q ∧ SleepsForReason q := by
  have h : NoLostWakeup q :=
    run.invariant (init_noLostWakeup maxSize) fun _ _ _ hinv _ hstep => hinv.step hstep
  exact ⟨h, h.sleepsForReason⟩

/-- Two pops wait; one is notified of an item, which a third pop takes before it resumes. -/
private def itemTakenFirst : ThreadSafeQueue ℕ :=
  ⟨⟨[⟨1, ⟨false⟩⟩], [⟨0, ⟨false⟩⟩], []⟩, .idle, [], 4, false, [.pop (some 7), .push 7 true]⟩

private def takeItemFirst : List (QueueAction ℕ) :=
  [.pop 0 ⟨false⟩ 0, .pop 1 ⟨false⟩ 0, .push 2 ⟨7, false⟩ 0, .pop 3 ⟨true⟩ 0]

/-- The theorem at that run. -/
theorem noLostWakeup_item_taken_first :
    NoLostWakeup itemTakenFirst ∧ SleepsForReason itemTakenFirst :=
  noLostWakeup_of_reaches 4 itemTakenFirst (reaches_of_steps
    (show steps queueStep (.init 4) takeItemFirst = some itemTakenFirst from rfl))

end Kawin.Kasvc
