import Kawin.Kasvc.FilterPort

/-!
# Starting and stopping the service

`Start` connects the event receiver and `Stop` disconnects it.  `Disconnect` closes the event queue,
which belongs to the communicator and lives as long as it; `Connect` creates everything else
anew, and no code opens a queue again.  After a restart every message is received, parsed
and thrown away.
-/

namespace Kawin.Kasvc

open BoundedFifo Transition

structure MonitoringService where
  receiver : Communicator
  running : Bool
  workerThreadsCount : ℕ
  workerThreads : ℕ

/-- Every call of the system succeeds. -/
def ConnectOutcome.success : ConnectOutcome := ⟨0, none, fun _ => true, fun _ => true⟩

namespace MonitoringService

/-- The constructor. -/
def construct (config : IOCPConfig) (workerThreadsCount : ℕ) : MonitoringService :=
  ⟨.construct config, false, workerThreadsCount, 0⟩

/-- `Start`. -/
def start (s : MonitoringService) (outcome : ConnectOutcome) :
    Except String Unit × MonitoringService :=
  if s.running then (.error "Service already running", s)
  else
    match s.receiver.connect outcome with
    | (.error message, receiver) => (.error message, { s with receiver := receiver })
    | (.ok (), receiver) =>
        (.ok (), { s with receiver := receiver, running := true
                          workerThreads := s.workerThreads + s.workerThreadsCount })

/-- `Stop`. -/
def stop (s : MonitoringService) : MonitoringService :=
  if !s.running then s
  else { s with running := false, workerThreads := 0, receiver := s.receiver.disconnect }

/-- The queue of parsed events. -/
def eventQueue (s : MonitoringService) : Fifo Event := s.receiver.path.eventQueue

end MonitoringService

inductive ServiceAction
  | start
  | stop
  /-- a worker of the receiver handles a message -/
  | complete (c : Completion)
  /-- `ReceiveEvent` -/
  | receiveEvent

section

variable (platform : Platform)

def serviceStep (s : MonitoringService) : ServiceAction → Option MonitoringService
  | .start => some (s.start .success).2
  | .stop => some s.stop
  | .complete c =>
      if s.receiver.isConnected then
        some { s with receiver.path := processCompletedIo platform s.receiver.path c }
      else none
  | .receiveEvent =>
      some { s with receiver.path.eventQueue := s.receiver.path.eventQueue.take.2 }

/-- While the queue is below its capacity, the event of a message that can be parsed is queued, and
`ReceiveEvent` returns it after the events before it. -/
def AcceptsParsed (s : MonitoringService) : Prop :=
  s.eventQueue.content.length < maxEventQueueSize → ∀ c event, c.parsed platform = .ok event →
    (processCompletedIo platform s.receiver.path c).queued = s.receiver.path.queued ++ [event] ∧
    (((fun q : Fifo Event => q.take.2)^[s.eventQueue.content.length])
      (processCompletedIo platform s.receiver.path c).eventQueue).take.1 = some event

end

/-- `Stop` is only called on a service that does not run. -/
def NotStopped (s : MonitoringService) (action : ServiceAction) : Prop :=
  action = .stop → s.running = false

/-! ## The queue over restarts -/

/-- A running service is connected. -/
structure Connected (s : MonitoringService) : Prop where
  receiver : StoppedIfClosed s.receiver
  running : s.running = true → s.receiver.isConnected = true

section

variable {platform : Platform} {s t : MonitoringService} {c : Completion}

theorem construct_connected (config : IOCPConfig) (n : ℕ) : Connected (.construct config n) where
  receiver _ := rfl
  running h := by cases h

/-- A `Connect` for which every call succeeds connects, and leaves the queue alone. -/
theorem connect_success {r : Communicator} (h : StoppedIfClosed r) :
    (r.connect .success).1 = .ok () ∧ (r.connect .success).2.isConnected = true ∧
      (r.connect .success).2.path = r.path := by
  by_cases hconnected : r.isConnected = true
  · rw [Communicator.connect, if_pos hconnected]
    exact ⟨rfl, hconnected, rfl⟩
  · rw [Bool.not_eq_true] at hconnected
    rcases @connect_cases r .success hconnected (h hconnected) with ⟨hport, -⟩ | ⟨hiocp, -⟩ |
      ⟨-, -, ⟨i, -, hfails⟩, -, -⟩ | ⟨-, hok, ready, honly, -, hsame⟩
    · cases hport
    · exact absurd rfl hiocp
    · cases hfails
    · refine ⟨hok, ?_, ?_⟩
      · rw [hsame.isConnected, honly.eq]
        rfl
      · rw [hsame.eq, honly.eq]
        rfl

theorem disconnect_closed {r : Communicator} (h : r.isConnected = true) :
    r.disconnect.path.eventQueue.closed = true := by
  rw [Communicator.disconnect, h]
  rfl

theorem Connected.start (h : Connected s) :
    Connected (s.start .success).2 ∧ (s.start .success).2.eventQueue = s.eventQueue := by
  rw [MonitoringService.start]
  split
  · exact ⟨h, rfl⟩
  · obtain ⟨hok, hconnected, hpath⟩ := connect_success h.receiver
    have hstopped : StoppedIfClosed (s.receiver.connect .success).2 :=
      h.receiver.step (show connectStep s.receiver (.connect .success) = _ from rfl)
    revert hok hconnected hpath hstopped
    cases s.receiver.connect .success with
    | mk result receiver =>
        rintro rfl hconnected hpath hstopped
        exact ⟨⟨hstopped, fun _ => hconnected⟩, congrArg ReceivePath.eventQueue hpath⟩

theorem Connected.stop (h : Connected s) : Connected s.stop ∧
    (s.stop.eventQueue.closed = true ↔ s.eventQueue.closed = true ∨ s.running = true) := by
  rw [MonitoringService.stop]
  by_cases hrunning : s.running = true
  · rw [if_neg (by simp [hrunning])]
    have hstopped : StoppedIfClosed s.receiver.disconnect :=
      h.receiver.step (show connectStep s.receiver .disconnect = _ from rfl)
    refine ⟨⟨hstopped, fun hc => by cases hc⟩, ?_⟩
    exact iff_of_true (disconnect_closed (h.running hrunning)) (.inr hrunning)
  · rw [if_pos (by simpa using hrunning)]
    exact ⟨h, by simp [hrunning]⟩

/-- The queue is closed by a `Stop` of the running service and by nothing else. -/
theorem Connected.step {action : ServiceAction} (h : Connected s)
    (hstep : serviceStep platform s action = some t) : Connected t ∧
      (t.eventQueue.closed = false ↔ s.eventQueue.closed = false ∧ NotStopped s action) := by
  have hother (hne : action ≠ .stop) (hsame : t.eventQueue.closed = s.eventQueue.closed) :
      t.eventQueue.closed = false ↔ s.eventQueue.closed = false ∧ NotStopped s action := by
    rw [hsame, NotStopped]
    simp [hne]
  cases action with
  | start =>
      cases hstep
      exact ⟨h.start.1, hother (by simp) (congrArg Fifo.closed h.start.2)⟩
  | stop =>
      cases hstep
      refine ⟨h.stop.1, ?_⟩
      rw [← Bool.not_eq_true, h.stop.2, NotStopped]
      simp
  | complete c =>
      rw [serviceStep] at hstep
      split at hstep
      · cases hstep
        refine ⟨⟨h.receiver, h.running⟩, hother (by simp) ?_⟩
        exact Fifo.offer_closed
      · cases hstep
  | receiveEvent =>
      cases hstep
      exact ⟨⟨h.receiver, h.running⟩, hother (by simp) rfl⟩

/-- A file event without paths. -/
private def fileMessage : Completion where
  buffer := fun i => if i = 28 then 2 else 0
  bytesTransferred := 65
  latency := 1
  unassigned := .hostLog
  defaulted := ⟨.hostLog, .fileEvent, 0, 0, false, .file ⟨.create, 0, [], []⟩⟩

private theorem fileMessage_parsed (platform : Platform) : ∃ event,
    fileMessage.parsed platform = .ok event := ⟨_, rfl⟩

/-- Parsed events are accepted exactly while the queue is open, unless it is full. -/
theorem acceptsParsed_iff_open : AcceptsParsed platform s ↔
    s.eventQueue.closed = false ∨ maxEventQueueSize ≤ s.eventQueue.content.length := by
  constructor
  · intro h
    by_contra hnot
    rw [not_or, Bool.not_eq_false, Nat.not_le] at hnot
    obtain ⟨event, hparsed⟩ := fileMessage_parsed platform
    have hqueued := (h hnot.2 fileMessage event hparsed).1
    have hrefused : s.receiver.path.eventQueue.accepts maxEventQueueSize = false := by
      rw [Fifo.accepts, show s.receiver.path.eventQueue.closed = true from hnot.1]
      rfl
    rw [processCompletedIo, Fifo.offer_of_not_accepts hrefused] at hqueued
    simp at hqueued
  · rintro (hopen | hfull) hroom c event hparsed
    · have haccepts : s.receiver.path.eventQueue.accepts maxEventQueueSize = true :=
        Fifo.accepts_iff.mpr ⟨hopen, hroom⟩
      have hevent : c.event platform = event := by
        rw [Completion.event, hparsed, queuedEvent]
      refine ⟨?_, ?_⟩
      · rw [processCompletedIo, Fifo.offer_of_accepts haccepts, hevent]
        rfl
      · rw [processCompletedIo, hevent]
        exact Fifo.take_of_accepts haccepts
    · exact absurd hroom (Nat.not_lt.mpr hfull)

end

/-- **The restart law, exactly.**  While the service runs, parsed events are accepted if and only
if no earlier `Stop` stopped it, or the queue is full. -/
theorem acceptsParsed_iff (platform : Platform) (config : IOCPConfig) (workerThreadsCount : ℕ)
    (actions : List ServiceAction) (s : MonitoringService)
    (hsteps :
      steps (serviceStep platform) (.construct config workerThreadsCount) actions = some s) :
    (s.running = true → AcceptsParsed platform s) ↔
      s.running = false ∨ Allowed (serviceStep platform) NotStopped
        (.construct config workerThreadsCount) actions ∨
        maxEventQueueSize ≤ s.eventQueue.content.length := by
  have hopen : s.eventQueue.closed = false ↔ Allowed (serviceStep platform) NotStopped
      (.construct config workerThreadsCount) actions := by
    have hiff := holds_iff_allowed Connected (fun s => s.eventQueue.closed = false)
      (fun _ _ _ h hstep => h.step hstep) (construct_connected config workerThreadsCount) hsteps
    exact hiff.trans (and_iff_right rfl)
  rw [acceptsParsed_iff_open, hopen]
  cases s.running <;> simp

private def oneWorker : IOCPConfig := ⟨1, 2, 4096, 4⟩

/-- The service after its first start. -/
private def started : MonitoringService :=
  ((MonitoringService.construct oneWorker 1).start .success).2

/-- The theorem at a first start. -/
theorem acceptsParsed_started :
    (started.running = true → AcceptsParsed asciiPlatform started) ↔
      started.running = false ∨ Allowed (serviceStep asciiPlatform) NotStopped
        (.construct oneWorker 1) [.start] ∨
        maxEventQueueSize ≤ started.eventQueue.content.length :=
  acceptsParsed_iff asciiPlatform oneWorker 1 [.start] started rfl

/-- The service after a stop and a second start. -/
private def restarted : MonitoringService := (started.stop.start .success).2

/-- The restarted service runs, and accepts nothing. -/
theorem not_acceptsParsed : ¬∀ platform config workerThreadsCount actions s,
    steps (serviceStep platform) (.construct config workerThreadsCount) actions = some s →
    s.running = true → AcceptsParsed platform s := by
  intro haccepts
  have h := haccepts asciiPlatform oneWorker 1 [.start, .stop, .start] restarted rfl rfl
  rcases acceptsParsed_iff_open.mp h with hopen | hfull
  · exact absurd hopen (by decide)
  · exact absurd hfull (by decide)

end Kawin.Kasvc
