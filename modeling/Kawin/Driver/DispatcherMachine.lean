import Kawin.Driver.OrderlySteps

/-!
# The dispatcher with its worker and its client

The whole `AsyncEventDispatcher` step by step: `Enqueue` calls, which end in the
`ProduceSlot` calls of `RingMachine`; the worker of `WorkerLoop`, whose `ConsumeOne` is the
consumer of `RingMachine`; `SendOne`; and the two callbacks of the communication port,
`ScannerPortConnect` and `ScannerPortDisconnect`.

The sections under `m_portLock` are one step each.  `FltSendMessage` is two, a call and
a return, so that a disconnect can fall between them; its status comes from outside.
The wait of the worker ends after `ASYNC_IDLE_TIMEOUT_MS` at the latest, so it may wake
in any state and `m_dataReady` decides nothing.

A client port is named by a number that stands for one connection: the Filter Manager
does not hand out a port again that it has closed.
-/

namespace Kawin.Driver

open ByteMemory Transition

/-- A client port. -/
abbrev Port := ℕ

/-- What becomes of an event between the `m_active` check and `ProduceSlot`. -/
inductive Request
  /-- `Buffer` could not be allocated -/
  | noBuffer
  /-- `SerializeFileEvent` failed -/
  | notSerialized
  | serialized (event : Payload)

/-- Where an `Enqueue` call stands outside `ProduceSlot`. -/
inductive Enqueuer
  | outside
  /-- past the `m_active` check -/
  | prepare (request : Request)

/-- Where the worker stands in `WorkerLoop` and `SendOne`. -/
inductive Worker
  | waiting
  /-- inside `ConsumeOne` -/
  | consuming
  | checkPort (bytes : UINT32)
  | countDropped
  /-- in `SendOne`, about to copy `m_clientPort` -/
  | snapshot (bytes : UINT32)
  /-- about to call `FltSendMessage` -/
  | send (port : Port) (bytes : UINT32)
  | sending (port : Port)
  | resetTimeouts (status : NTSTATUS)
  | countTimeout
  | sendReturned (status : NTSTATUS)
  | cycleEnd
  | exited
  deriving DecidableEq

/-- Where the port callbacks stand. -/
inductive Link
  | disconnected
  /-- in `ScannerPortConnect`, about to call `OnClientConnected` -/
  | connecting (port : Port)
  | connected
  /-- in `ScannerPortDisconnect`, about to call `OnClientDisconnected` -/
  | disconnecting
  /-- in `ScannerPortDisconnect`, about to call `FltCloseClientPort` -/
  | closing
  deriving DecidableEq

structure DispatcherMachine where
  ring : RingMachine
  /-- `m_active` -/
  active : Bool
  /-- `m_stopEvent` is signalled -/
  stopEvent : Bool
  enqueuers : ℕ → Enqueuer
  /-- how many `Enqueue` calls have begun -/
  calls : ℕ
  worker : Worker
  stopping : Bool
  clientPort : Option Port
  sendTimeouts : ULONG
  link : Link
  /-- `g_ScannerData.ClientPort` -/
  scannerPort : Option Port
  /-- the ports `FltCloseClientPort` has closed -/
  closed : List Port
  /-- how many `Enqueue` calls passed the `m_active` check -/
  passed : ℕ
  /-- how many messages the client received -/
  delivered : ℕ
  /-- how many events were given up without a trace -/
  lost : ℕ

/-- The message reached the client. -/
def delivers (status : NTSTATUS) : Bool := ntSuccess status && status != statusTimeout

namespace DispatcherMachine

/-- The dispatcher after `Initialize`. -/
def init (outside : Memory) (freqHz : UINT64) : DispatcherMachine where
  ring := RingMachine.init outside freqHz
  active := true
  stopEvent := false
  enqueuers := fun _ => .outside
  calls := 0
  worker := .waiting
  stopping := false
  clientPort := none
  sendTimeouts := 0
  link := .disconnected
  scannerPort := none
  closed := []
  passed := 0
  delivered := 0
  lost := 0

def workerGoto (s : DispatcherMachine) (pc : Worker) : DispatcherMachine := { s with worker := pc }

/-- The worker calls `ConsumeOne`. -/
def consume (s : DispatcherMachine) : DispatcherMachine :=
  { s with ring := s.ring.consumerGoto .readPending, worker := .consuming }

/-- `InterlockedAdd64(&m_dropped, 1)`. -/
def drop (s : DispatcherMachine) : DispatcherMachine :=
  { s with ring.disp.dropped := s.ring.disp.dropped + 1 }

def enqueuerGoto (s : DispatcherMachine) (i : ℕ) (pc : Enqueuer) : DispatcherMachine :=
  { s with enqueuers := Function.update s.enqueuers i pc }

end DispatcherMachine

/-- An `Enqueue` call passes the `m_active` check. -/
def DispatcherMachine.accept (s : DispatcherMachine) (request : Request) : DispatcherMachine :=
  { s with
    enqueuers := Function.update s.enqueuers s.calls (.prepare request)
    calls := s.calls + 1
    passed := s.passed + 1 }

/-- An `Enqueue` call returns `STATUS_UNSUCCESSFUL`. -/
def DispatcherMachine.refuse (s : DispatcherMachine) : DispatcherMachine :=
  { s with calls := s.calls + 1 }

/-- An `Enqueue` call begins with the `m_active` check. -/
def enqueueStep (s : DispatcherMachine) (request : Request) : DispatcherMachine :=
  if s.active then s.accept request else s.refuse

/-- The rest of an `Enqueue` call up to `ProduceSlot`. -/
def enqueuerStep (s : DispatcherMachine) (i : ℕ) : Enqueuer → Option DispatcherMachine
  | .outside => none
  | .prepare .noBuffer | .prepare .notSerialized => some (s.enqueuerGoto i .outside).drop
  | .prepare (.serialized event) =>
      (ringStep s.ring (.produce i event)).map fun ring =>
        { s.enqueuerGoto i .outside with ring := ring }

/-- The next step of the worker. -/
def workerStep (s : DispatcherMachine) : Worker → Option DispatcherMachine
  | .waiting | .sending _ | .exited => none
  | .consuming =>
      match s.ring.consumer with
      | .returned bytes => some (s.workerGoto (if bytes = 0 then .cycleEnd else .checkPort bytes))
      | _ => (ringStep s.ring .consumer).map fun ring => { s with ring := ring }
  | .checkPort bytes =>
      some (s.workerGoto (if s.clientPort.isSome then .snapshot bytes else .countDropped))
  | .countDropped => some s.drop.consume
  | .snapshot bytes =>
      match s.clientPort with
      | none =>
          -- the client left after the port check: the event is in no count
          let s := s.workerGoto (.sendReturned statusPortDisconnected)
          some { s with lost := s.lost + 1 }
      | some port => some (s.workerGoto (.send port bytes))
  | .send port _ => some (s.workerGoto (.sending port))
  | .resetTimeouts status =>
      let s := s.workerGoto (.sendReturned status)
      some { s with sendTimeouts := 0 }
  | .countTimeout =>
      let timeouts := s.sendTimeouts + 1
      let s := s.workerGoto (.sendReturned statusTimeout)
      -- the port is kept, only the count starts over
      some { s with sendTimeouts := if timeouts ≥ asyncMaxSendTimeouts then 0 else timeouts }
  | .sendReturned status =>
      if ntSuccess status then some s.consume
      else if status = statusTimeout then some (s.workerGoto .countDropped)
      else some (s.workerGoto .cycleEnd)
  | .cycleEnd => some (s.workerGoto (if s.stopping then .exited else .waiting))

/-- The branch of `SendOne` that a status takes. -/
def afterSend (status : NTSTATUS) : Worker :=
  if ntSuccess status then .resetTimeouts status
  else if status = statusTimeout then .countTimeout
  else .sendReturned status

/-- `FltSendMessage` returns. -/
def sendReturns (s : DispatcherMachine) (status : NTSTATUS) : DispatcherMachine :=
  { s with
    worker := afterSend status
    delivered := s.delivered + (delivers status).toNat
    lost := s.lost + (!delivers status).toNat }

/-- The next step of a port callback. -/
def linkStep (s : DispatcherMachine) : Link → Option DispatcherMachine
  | .disconnected | .connected => none
  | .connecting port =>
      some { s with clientPort := some port, sendTimeouts := 0, link := .connected }
  | .disconnecting => some { s with clientPort := none, sendTimeouts := 0, link := .closing }
  | .closing =>
      some { s with
        closed := s.scannerPort.toList ++ s.closed
        scannerPort := none
        link := .disconnected }

inductive DispatcherAction
  | tick
  | enqueue (request : Request)
  | enqueuer (i : ℕ)
  | producer (i : ℕ)
  /-- the wait of the worker ends -/
  | wake
  | worker
  | sendReturns (status : NTSTATUS)
  /-- a client connects, on a port not yet closed -/
  | connect (port : Port)
  | disconnect
  | link
  /-- `Uninitialize` clears `m_active` -/
  | deactivate
  /-- `Uninitialize` sets `m_stopEvent` -/
  | stop

def dispatcherStep (s : DispatcherMachine) : DispatcherAction → Option DispatcherMachine
  | .tick => (ringStep s.ring .tick).map fun ring => { s with ring := ring }
  | .enqueue request => some (enqueueStep s request)
  | .enqueuer i => enqueuerStep s i (s.enqueuers i)
  | .producer i => (ringStep s.ring (.producer i)).map fun ring => { s with ring := ring }
  | .wake =>
      match s.worker with
      | .waiting =>
          let s := s.consume
          some { s with stopping := s.stopping || s.stopEvent }
      | _ => none
  | .worker => workerStep s s.worker
  | .sendReturns status =>
      match s.worker with
      | .sending _ => some (sendReturns s status)
      | _ => none
  | .connect port =>
      match s.link with
      | .disconnected =>
          if port ∈ s.closed then none
          else some { s with scannerPort := some port, link := .connecting port }
      | _ => none
  | .disconnect =>
      match s.link with
      | .connected => some { s with link := .disconnecting }
      | _ => none
  | .link => linkStep s s.link
  | .deactivate => some { s with active := false }
  | .stop => some { s with stopEvent := true }

/-! ## What a step says of the state before it -/

section

variable {s s' : DispatcherMachine} {i : ℕ} {status : NTSTATUS} {port : Port}

/-- An `Enqueue` call past the `m_active` check drops its event or hands it to `ProduceSlot`. -/
theorem enqueuerStep_cases {pc : Enqueuer} (hstep : enqueuerStep s i pc = some s') :
    (∃ request, pc = .prepare request ∧ s' = (s.enqueuerGoto i .outside).drop) ∨
    ∃ event, pc = .prepare (.serialized event) ∧ s.ring.producers i = .idle ∧
      s' = { s.enqueuerGoto i .outside with ring := s.ring.goto i (.checkSize event) } := by
  cases pc with
  | outside => cases hstep
  | prepare request =>
      cases request with
      | noBuffer | notSerialized =>
          cases hstep
          exact Or.inl ⟨_, rfl, rfl⟩
      | serialized event =>
          obtain ⟨ring, hring, rfl⟩ := Option.map_eq_some_iff.mp hstep
          obtain ⟨hidle, rfl⟩ := ringStep_produce hring
          exact Or.inr ⟨event, rfl, hidle, rfl⟩

/-- The worker takes what `ConsumeOne` returned, or lets it run on. -/
theorem workerStep_consuming (hstep : workerStep s .consuming = some s') :
    (∃ bytes, s.ring.consumer = .returned bytes ∧
      s' = s.workerGoto (if bytes = 0 then .cycleEnd else .checkPort bytes)) ∨
    ∃ ring, ringStep s.ring .consumer = some ring ∧ s' = { s with ring := ring } := by
  rw [workerStep] at hstep
  split at hstep
  · next bytes hreturned =>
      cases hstep
      exact Or.inl ⟨bytes, hreturned, rfl⟩
  · obtain ⟨ring, hring, rfl⟩ := Option.map_eq_some_iff.mp hstep
    exact Or.inr ⟨ring, hring, rfl⟩

/-- The worker finds the client gone, or takes its port. -/
theorem workerStep_snapshot {bytes : UINT32} (hstep : workerStep s (.snapshot bytes) = some s') :
    (s.clientPort = none ∧
      s' = { s.workerGoto (.sendReturned statusPortDisconnected) with lost := s.lost + 1 }) ∨
    ∃ port, s.clientPort = some port ∧ s' = s.workerGoto (.send port bytes) := by
  rw [workerStep] at hstep
  split at hstep
  · next hgone =>
      cases hstep
      exact Or.inl ⟨hgone, rfl⟩
  · next port hport =>
      cases hstep
      exact Or.inr ⟨port, hport, rfl⟩

/-- `STATUS_TIMEOUT` is a success code. -/
theorem ntSuccess_timeout : ntSuccess statusTimeout = true := rfl

/-- So the branch of the drain loop for it is never taken. -/
theorem workerStep_sendReturned (hstep : workerStep s (.sendReturned status) = some s') :
    s' = s.consume ∨ s' = s.workerGoto .cycleEnd := by
  rw [workerStep] at hstep
  split at hstep
  · cases hstep
    exact Or.inl rfl
  · next hfail =>
      split at hstep
      · next htimeout =>
          rw [htimeout] at hfail
          exact absurd ntSuccess_timeout hfail
      · cases hstep
        exact Or.inr rfl

/-- Nor is that of `SendOne`. -/
theorem afterSend_ne_countTimeout (status : NTSTATUS) : afterSend status ≠ .countTimeout := by
  unfold afterSend
  split
  · intro heq
    cases heq
  · next hfail =>
      split
      · next htimeout =>
          rw [htimeout] at hfail
          exact absurd ntSuccess_timeout hfail
      · intro heq
        cases heq

theorem dispatcherStep_wake (hstep : dispatcherStep s .wake = some s') :
    s.worker = .waiting ∧ s' = { s.consume with stopping := s.stopping || s.stopEvent } := by
  rw [dispatcherStep] at hstep
  split at hstep
  · next hwaiting =>
      cases hstep
      exact ⟨hwaiting, rfl⟩
  · cases hstep

theorem dispatcherStep_sendReturns (hstep : dispatcherStep s (.sendReturns status) = some s') :
    (∃ port, s.worker = .sending port) ∧ s' = sendReturns s status := by
  rw [dispatcherStep] at hstep
  split at hstep
  · next port hsending =>
      cases hstep
      exact ⟨⟨port, hsending⟩, rfl⟩
  · cases hstep

theorem dispatcherStep_connect (hstep : dispatcherStep s (.connect port) = some s') :
    s.link = .disconnected ∧ port ∉ s.closed ∧
      s' = { s with scannerPort := some port, link := .connecting port } := by
  rw [dispatcherStep] at hstep
  split at hstep
  · next hlink =>
      split at hstep
      · cases hstep
      · next hopen =>
          cases hstep
          exact ⟨hlink, hopen, rfl⟩
  · cases hstep

theorem dispatcherStep_disconnect (hstep : dispatcherStep s .disconnect = some s') :
    s.link = .connected ∧ s' = { s with link := .disconnecting } := by
  rw [dispatcherStep] at hstep
  split at hstep
  · next hlink =>
      cases hstep
      exact ⟨hlink, rfl⟩
  · cases hstep

end

/-- A run of the dispatcher from `Initialize`. -/
abbrev DispatcherRun (outside : Memory) (freq : UINT64) : DispatcherMachine → Prop :=
  Reaches dispatcherStep (DispatcherMachine.init outside freq)

end Kawin.Driver
