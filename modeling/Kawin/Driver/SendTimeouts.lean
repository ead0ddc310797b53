import Kawin.Driver.DispatcherMachine

/-!
# Send timeouts

`SendOne` and the drain loop of `WorkerLoop` sort the status of `FltSendMessage` twice, each time
with `NT_SUCCESS` before the comparison with `STATUS_TIMEOUT`.  `STATUS_TIMEOUT` is 0x102, which is
not negative, so `NT_SUCCESS` holds of it and neither comparison ever succeeds: a timeout clears
`m_sendTimeouts` instead of counting, and its event is not counted as dropped.

`sendOne` and `drainEvent` are the two pieces of code for one event; the worker of
`DispatcherMachine` runs them step by step (`drainEvent_steps`).  With a client connected they
change nothing at all (`drainEvents_connected`), so that the counts are right exactly as long as no
send times out (`timeoutsRecognised_iff`).  Nor does any other interleaving of the dispatcher ever
count a timeout (`sendTimeouts_eq_zero`).
-/

namespace Kawin.Driver

open Transition

/-- The members that sending an event works on. -/
structure Sender where
  clientPort : Option Port
  sendTimeouts : ULONG
  dropped : ℕ
  deriving DecidableEq

/-- `SendOne`, where `FltSendMessage` returns `status`. -/
def sendOne (s : Sender) (status : NTSTATUS) : NTSTATUS × Sender :=
  match s.clientPort with
  | none => (statusPortDisconnected, s)
  | some _ =>
      if ntSuccess status then (status, { s with sendTimeouts := 0 })
      else if status = statusTimeout then
        let timeouts := s.sendTimeouts + 1
        (status, { s with sendTimeouts := if timeouts ≥ asyncMaxSendTimeouts then 0 else timeouts })
      else (status, s)

/-- The drain loop of `WorkerLoop` with the event that `ConsumeOne` returned: whether the loop goes
on, and what it leaves. -/
def drainEvent (s : Sender) (status : NTSTATUS) : Bool × Sender :=
  if s.clientPort.isNone then (true, { s with dropped := s.dropped + 1 })
  else
    let sent := sendOne s status
    if ntSuccess sent.1 then (true, sent.2)
    else if sent.1 = statusTimeout then (true, { sent.2 with dropped := sent.2.dropped + 1 })
    else (false, sent.2)

/-- One event after the other.  Where the loop ends, `WorkerLoop` begins it again. -/
def drainEvents (s : Sender) (statuses : List NTSTATUS) : Sender :=
  statuses.foldl (fun s status => (drainEvent s status).2) s

/-! ## The counts -/

/-- The timeouts since the last delivered message, or since the last
`ASYNC_MAX_SEND_TIMEOUTS` of them. -/
def countTimeouts (timeouts : ℕ) (status : NTSTATUS) : ℕ :=
  if status = statusTimeout then
    if timeouts + 1 ≥ asyncMaxSendTimeouts.toNat then 0 else timeouts + 1
  else if delivers status then 0
  else timeouts

/-- After each send, `m_sendTimeouts` is the number of timeouts. -/
def TimeoutsCounted (s : Sender) (statuses : List NTSTATUS) : Prop :=
  ∀ k, (drainEvents s (statuses.take k)).sendTimeouts.toNat =
    (statuses.take k).foldl countTimeouts 0

/-- After each send, every event that timed out has been added to `m_dropped`. -/
def TimeoutsDropped (s : Sender) (statuses : List NTSTATUS) : Prop :=
  ∀ k, (drainEvents s (statuses.take k)).dropped =
    s.dropped + (statuses.take k).count statusTimeout

/-- Send timeouts are recognised. -/
def TimeoutsRecognised (s : Sender) (statuses : List NTSTATUS) : Prop :=
  TimeoutsCounted s statuses ∧ TimeoutsDropped s statuses

section

variable {s : Sender} {port : Port} {dropped : ℕ} {status : NTSTATUS} {statuses : List NTSTATUS}

/-- Without a client the event is counted as dropped. -/
theorem drainEvent_none (hport : s.clientPort = none) :
    drainEvent s status = (true, { s with dropped := s.dropped + 1 }) := by
  unfold drainEvent
  rw [hport, Option.isNone_none, if_pos rfl]

/-- A success, timeouts included, clears the count. -/
theorem drainEvent_success (hport : s.clientPort = some port) (hsuccess : ntSuccess status) :
    drainEvent s status = (true, { s with sendTimeouts := 0 }) := by
  have hsent : sendOne s status = (status, { s with sendTimeouts := 0 }) := by
    unfold sendOne
    simp only [hport, hsuccess, if_true]
  unfold drainEvent
  simp only [hport, hsent, hsuccess, Option.isNone_some, Bool.false_eq_true, if_false, if_true]

/-- A failure ends the loop: it cannot be a timeout. -/
theorem drainEvent_failure (hport : s.clientPort = some port) (hfailure : ¬ ntSuccess status) :
    drainEvent s status = (false, s) := by
  have hnot : status ≠ statusTimeout := by
    rintro rfl
    exact hfailure ntSuccess_timeout
  have hsent : sendOne s status = (status, s) := by
    unfold sendOne
    simp only [hport, hfailure, hnot, Bool.false_eq_true, if_false]
  unfold drainEvent
  simp only [hport, hsent, hfailure, hnot, Option.isNone_some, Bool.false_eq_true, if_false]

/-- **Step lemma.**  Whatever the send returns, it leaves a connected client and a count of zero as
they were, and drops nothing. -/
theorem drainEvent_connected :
    (drainEvent ⟨some port, 0, dropped⟩ status).2 = ⟨some port, 0, dropped⟩ := by
  by_cases hsuccess : ntSuccess status
  · rw [drainEvent_success rfl hsuccess]
  · rw [drainEvent_failure rfl hsuccess]

/-- **Run lemma.** -/
theorem drainEvents_connected :
    drainEvents ⟨some port, 0, dropped⟩ statuses = ⟨some port, 0, dropped⟩ := by
  induction statuses with
  | nil => rfl
  | cons status rest ih =>
      unfold drainEvents at ih ⊢
      rw [List.foldl_cons, drainEvent_connected, ih]

theorem foldl_countTimeouts (h : statusTimeout ∉ statuses) :
    statuses.foldl countTimeouts 0 = 0 := by
  induction statuses with
  | nil => rfl
  | cons status rest ih =>
      obtain ⟨hne, hrest⟩ := not_or.mp (fun hor => h (List.mem_cons.mpr hor))
      have hzero : countTimeouts 0 status = 0 := by
        unfold countTimeouts
        rw [if_neg (Ne.symm hne), ite_self]
      rw [List.foldl_cons, hzero, ih hrest]

/-- The count is right exactly if there is nothing to count. -/
theorem timeoutsCounted_iff :
    TimeoutsCounted ⟨some port, 0, dropped⟩ statuses ↔ statusTimeout ∉ statuses := by
  unfold TimeoutsCounted
  simp only [drainEvents_connected]
  constructor
  · intro hcounted hmem
    obtain ⟨before, after, rfl⟩ := List.append_of_mem hmem
    have hbefore : before.foldl countTimeouts 0 = 0 := by
      have hcount := hcounted before.length
      rw [List.take_left] at hcount
      exact hcount.symm
    -- the timeout brings the count from zero to one
    have hcount := hcounted (before.length + 1)
    rw [List.take_length_add_append, List.foldl_append, hbefore, List.take_succ_cons,
      List.take_zero] at hcount
    exact absurd hcount (by decide)
  · intro hnone k
    exact (foldl_countTimeouts fun hmem => hnone (List.mem_of_mem_take hmem)).symm

theorem timeoutsDropped_iff :
    TimeoutsDropped ⟨some port, 0, dropped⟩ statuses ↔ statusTimeout ∉ statuses := by
  unfold TimeoutsDropped
  simp only [drainEvents_connected]
  constructor
  · intro hdropped hmem
    have hcount := hdropped statuses.length
    rw [List.take_length] at hcount
    have hpos := List.count_pos_iff.mpr hmem
    omega
  · intro hnone k
    rw [List.count_eq_zero_of_not_mem fun hmem => hnone (List.mem_of_mem_take hmem), Nat.add_zero]

/-- **Timeouts are recognised exactly where there are none.** -/
theorem timeoutsRecognised_iff (port : Port) (dropped : ℕ) (statuses : List NTSTATUS) :
    TimeoutsRecognised ⟨some port, 0, dropped⟩ statuses ↔ statusTimeout ∉ statuses := by
  unfold TimeoutsRecognised
  rw [timeoutsCounted_iff, timeoutsDropped_iff, and_self]

end

/-- The first send of a client times out. -/
theorem timeout_not_recognised : ¬ ∀ (port : Port) (dropped : ℕ) (statuses : List NTSTATUS),
    TimeoutsRecognised ⟨some port, 0, dropped⟩ statuses := by
  intro hall
  have hcount := (hall 7 0 [statusTimeout]).1 1
  exact absurd hcount (by decide)

/-! ## The worker of the machine -/

/-- What sending works on, in the machine. -/
def DispatcherMachine.sender (s : DispatcherMachine) : Sender :=
  ⟨s.clientPort, s.sendTimeouts, s.ring.disp.dropped⟩

section

variable {s s' : DispatcherMachine} {port : Port} {bytes : UINT32}

/-- With a client, the worker comes to call `FltSendMessage`. -/
theorem steps_sending (hworker : s.worker = .checkPort bytes) (hport : s.clientPort = some port) :
    steps dispatcherStep s [.worker, .worker, .worker] = some (s.workerGoto (.sending port)) := by
  simp [steps, dispatcherStep, workerStep, hworker, hport, DispatcherMachine.workerGoto]

/-- **The machine runs this code.**  From the port check on, the worker and the return of
`FltSendMessage` lead to what `drainEvent` leaves, and the worker goes on or ends the cycle. -/
theorem drainEvent_steps (s : DispatcherMachine) (status : NTSTATUS)
    (hworker : s.worker = .checkPort bytes) :
    ∃ t, Reaches dispatcherStep s t ∧ t.sender = (drainEvent s.sender status).2 ∧
      t.worker = if (drainEvent s.sender status).1 then .consuming else .cycleEnd := by
  cases hport : s.clientPort with
  | none =>
      have hsteps : steps dispatcherStep s [.worker, .worker] =
          some (s.workerGoto .countDropped).drop.consume := by
        simp [steps, dispatcherStep, workerStep, hworker, hport, DispatcherMachine.workerGoto]
      refine ⟨_, reaches_of_steps hsteps, ?_, ?_⟩
      · rw [drainEvent_none hport]
        rfl
      · rw [drainEvent_none hport]
        rfl
  | some port =>
      have hsending := reaches_of_steps (steps_sending hworker hport)
      by_cases hsuccess : ntSuccess status
      · have hsteps : steps dispatcherStep (s.workerGoto (.sending port))
            [.sendReturns status, .worker, .worker] =
            some { sendReturns s status with sendTimeouts := 0 }.consume := by
          simp [steps, dispatcherStep, workerStep, sendReturns, afterSend, hsuccess,
            DispatcherMachine.workerGoto, DispatcherMachine.consume]
        refine ⟨_, hsending.trans (reaches_of_steps hsteps), ?_, ?_⟩
        · rw [drainEvent_success hport hsuccess]
          rfl
        · rw [drainEvent_success hport hsuccess]
          rfl
      · have hnot : status ≠ statusTimeout := by
          rintro rfl
          exact hsuccess ntSuccess_timeout
        have hsteps : steps dispatcherStep (s.workerGoto (.sending port))
            [.sendReturns status, .worker] =
            some ((sendReturns s status).workerGoto .cycleEnd) := by
          simp [steps, dispatcherStep, workerStep, sendReturns, afterSend, hsuccess, hnot,
            DispatcherMachine.workerGoto]
        refine ⟨_, hsending.trans (reaches_of_steps hsteps), ?_, ?_⟩
        · rw [drainEvent_failure hport hsuccess]
          rfl
        · rw [drainEvent_failure hport hsuccess]
          rfl

/-! ## Every interleaving -/

/-- No timeout has been counted, and none is about to be. -/
structure Uncounted (s : DispatcherMachine) : Prop where
  sendTimeouts : s.sendTimeouts = 0
  worker : s.worker ≠ .countTimeout

theorem Uncounted.workerStep {pc : Worker} (h : Uncounted s) (hpc : s.worker = pc)
    (hstep : workerStep s pc = some s') : Uncounted s' := by
  cases pc with
  | waiting | sending | exited => cases hstep
  | consuming =>
      rcases workerStep_consuming hstep with ⟨bytes, _, rfl⟩ | ⟨ring, _, rfl⟩
      · refine ⟨h.sendTimeouts, ?_⟩
        change (if bytes = 0 then Worker.cycleEnd else .checkPort bytes) ≠ .countTimeout
        split <;> simp
      · exact ⟨h.sendTimeouts, h.worker⟩
  | checkPort bytes =>
      cases hstep
      refine ⟨h.sendTimeouts, ?_⟩
      change (if s.clientPort.isSome then Worker.snapshot bytes else .countDropped) ≠ .countTimeout
      split <;> simp
  | countDropped =>
      cases hstep
      exact ⟨h.sendTimeouts, by simp [DispatcherMachine.consume]⟩
  | snapshot bytes =>
      rcases workerStep_snapshot hstep with ⟨_, rfl⟩ | ⟨port, _, rfl⟩
      · exact ⟨h.sendTimeouts, by simp [DispatcherMachine.workerGoto]⟩
      · exact ⟨h.sendTimeouts, by simp [DispatcherMachine.workerGoto]⟩
  | send port bytes =>
      cases hstep
      exact ⟨h.sendTimeouts, by simp [DispatcherMachine.workerGoto]⟩
  | resetTimeouts status =>
      cases hstep
      exact ⟨rfl, by simp [DispatcherMachine.workerGoto]⟩
  | countTimeout => exact absurd hpc h.worker
  | sendReturned status =>
      rcases workerStep_sendReturned hstep with rfl | rfl
      · exact ⟨h.sendTimeouts, by simp [DispatcherMachine.consume]⟩
      · exact ⟨h.sendTimeouts, by simp [DispatcherMachine.workerGoto]⟩
  | cycleEnd =>
      cases hstep
      refine ⟨h.sendTimeouts, ?_⟩
      change (if s.stopping then Worker.exited else .waiting) ≠ .countTimeout
      split <;> simp

theorem Uncounted.linkStep {pc : Link} (h : Uncounted s) (hstep : linkStep s pc = some s') :
    Uncounted s' := by
  cases pc with
  | disconnected | connected => cases hstep
  | connecting | disconnecting =>
      cases hstep
      exact ⟨rfl, h.worker⟩
  | closing =>
      cases hstep
      exact ⟨h.sendTimeouts, h.worker⟩

/-- **Step lemma.** -/
theorem Uncounted.step {action : DispatcherAction} (h : Uncounted s)
    (hstep : dispatcherStep s action = some s') : Uncounted s' := by
  cases action with
  | tick | producer =>
      rw [dispatcherStep] at hstep
      obtain ⟨ring, _, rfl⟩ := Option.map_eq_some_iff.mp hstep
      exact ⟨h.sendTimeouts, h.worker⟩
  | enqueue request =>
      cases hstep
      unfold enqueueStep
      split
      · exact ⟨h.sendTimeouts, h.worker⟩
      · exact ⟨h.sendTimeouts, h.worker⟩
  | enqueuer i =>
      rcases enqueuerStep_cases hstep with ⟨_, _, rfl⟩ | ⟨_, _, _, rfl⟩
      · exact ⟨h.sendTimeouts, h.worker⟩
      · exact ⟨h.sendTimeouts, h.worker⟩
  | wake =>
      obtain ⟨_, rfl⟩ := dispatcherStep_wake hstep
      exact ⟨h.sendTimeouts, by simp [DispatcherMachine.consume]⟩
  | worker => exact h.workerStep rfl hstep
  | sendReturns status =>
      obtain ⟨_, rfl⟩ := dispatcherStep_sendReturns hstep
      exact ⟨h.sendTimeouts, afterSend_ne_countTimeout status⟩
  | connect port =>
      obtain ⟨_, _, rfl⟩ := dispatcherStep_connect hstep
      exact ⟨h.sendTimeouts, h.worker⟩
  | disconnect =>
      obtain ⟨_, rfl⟩ := dispatcherStep_disconnect hstep
      exact ⟨h.sendTimeouts, h.worker⟩
  | link => exact h.linkStep hstep
  | deactivate | stop =>
      cases hstep
      exact ⟨h.sendTimeouts, h.worker⟩

/-- **No run of the dispatcher ever counts a timeout**, however many of its sends time out. -/
theorem sendTimeouts_eq_zero {outside : ByteMemory.Memory} {freq : UINT64}
    (run : DispatcherRun outside freq s) : s.sendTimeouts = 0 := by
  have hinit : Uncounted (DispatcherMachine.init outside freq) := ⟨rfl, by
    simp [DispatcherMachine.init]⟩
  exact (run.invariant hinit fun _ _ _ h _ hstep => h.step hstep).sendTimeouts

end

end Kawin.Driver
