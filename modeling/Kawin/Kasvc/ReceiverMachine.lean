import Kawin.Kasvc.FilterPort
import Kawin.Kasvc.ReceiveOnce

/-!
# The receiver and its threads

`FilterPort` has `Connect` and `Disconnect` as one step each, and `CompletionPort` has the threads
between the two.  Here they are put together: a thread that calls `Connect` and `Disconnect`, one
call at a time and as often as it likes, the workers that these calls start and join, and the
Filter Manager.

`Connect` is one step until it has started the workers, since nobody else is there until then; the
first receives it submits beside them, as party 0 of the `PortMachine`.  `Disconnect` takes its
steps one by one, and between any two of them the workers go on.

What a step can do is in `ReceiverMove`, with `PartyMove` for the threads and `CallMove` for the
calls.
-/

namespace Kawin.Kasvc

open Transition

/-! ## The machine -/

/-- Where the thread that calls `Connect` and `Disconnect` stands. -/
inductive ReceiverControl
  | idle
  /-- `Connect`, until party 0 has submitted the first receives -/
  | submitting
  /-- `Disconnect`, before `running_ = false` -/
  | clearing
  /-- before `CancelIoEx` -/
  | cancelling
  /-- in the loop that posts a dummy packet for every worker -/
  | posting (left : ℕ)
  /-- in the loop that joins the workers -/
  | joining (joined : ℕ)
  | closingCompletionPort
  | closingFilterPort
  | freeing
  /-- before `event_queue_.Close()` -/
  | closingQueue
  deriving DecidableEq

/-- The communicator and its threads.  `running_` is in both and the `in_use` flags are those of
`port`; a context is its index in the pool. -/
structure Receiver where
  comm : Communicator
  port : PortMachine
  control : ReceiverControl

inductive ReceiverAction
  /-- a call of `Connect`, and what the system answers -/
  | connect (outcome : ConnectOutcome)
  /-- a call of `Disconnect` -/
  | disconnect
  /-- the next step of the call -/
  | control
  /-- a step of a worker, of party 0 or of the Filter Manager -/
  | port (action : PortAction)

/-- Before the first `Connect` there are no threads. -/
def PortMachine.unused : PortMachine :=
  { PortMachine.init 0 0 0 with running := false, parties := fun _ => .done }

/-- The party that takes the step. -/
def PortAction.party? : PortAction → Option ℕ
  | .advance i | .dequeue i | .timeout i | .getMessage i _ => some i
  | .deliver _ _ | .fail _ | .stop | .postDummy => none

/-- The context whose receive the Filter Manager completes. -/
def PortAction.completes? : PortAction → Option ℕ
  | .deliver c _ | .fail c => some c
  | .advance _ | .dequeue _ | .timeout _ | .getMessage _ _ | .stop | .postDummy => none

namespace Receiver

def construct (config : IOCPConfig) : Receiver := ⟨.construct config, .unused, .idle⟩

/-- `Connect`, without the submission of the first receives.  A new pool and new threads come with a
new completion port. -/
def connect (s : Receiver) (outcome : ConnectOutcome) : Receiver :=
  let comm := (s.comm.connect { outcome with submits := fun _ => false }).2
  if comm.isConnected && !s.comm.isConnected then
    ⟨comm, .init comm.contextPool.length comm.workerThreads comm.config.concurrentOperations,
      .submitting⟩
  else { s with comm }

/-- The next step of `Connect` or `Disconnect`. -/
def advance (s : Receiver) : ReceiverControl → Option Receiver
  | .idle => none
  | .submitting => if s.port.parties 0 = .done then some { s with control := .idle } else none
  | .clearing =>
      (portStep s.port .stop).map fun port =>
        ⟨{ s.comm with running := false }, port, .cancelling⟩
  -- when the cancelled receives fail is left to the Filter Manager
  | .cancelling => some { s with control := .posting s.comm.workerThreads }
  | .posting 0 => some { s with control := .joining 0 }
  | .posting (left + 1) =>
      (portStep s.port .postDummy).map fun port => { s with port, control := .posting left }
  | .joining joined =>
      if joined = s.comm.workerThreads then
        some { s with comm := { s.comm with workerThreads := 0 }, control := .closingCompletionPort }
      else if s.port.parties (joined + 1) = .done then
        some { s with control := .joining (joined + 1) }
      else none
  | .closingCompletionPort =>
      some { s with comm := s.comm.closeCompletionPort, control := .closingFilterPort }
  -- an assumption about Windows: closing the handle ends the receives that are pending on it
  | .closingFilterPort =>
      some { s with
        comm := s.comm.closeFilterPort
        port := { s.port with outstanding := fun _ => 0 }
        control := .freeing }
  | .freeing =>
      some { s with
        comm := s.comm.freePool
        port := { s.port with inUse := fun _ => false }
        control := .closingQueue }
  | .closingQueue =>
      some { s with
        comm := { s.comm with
          path := { s.comm.path with eventQueue := s.comm.path.eventQueue.close } }
        control := .idle }

end Receiver

def receiverStep (s : Receiver) : ReceiverAction → Option Receiver
  | .connect outcome => if s.control = .idle then some (s.connect outcome) else none
  | .disconnect =>
      if s.control = .idle then
        some (if s.comm.isConnected then { s with control := .clearing } else s)
      else none
  | .control => s.advance s.control
  | .port action =>
      if action.party?.isSome || action.completes?.isSome then
        (portStep s.port action).map fun port => { s with port }
      else none

/-! ## What a step uses -/

namespace Receiver

/-- The handles that a step passes to the system. -/
def handlesUsed (s : Receiver) : ReceiverAction → List (Option ℕ)
  | .connect _ | .disconnect => []
  | .control =>
      match s.control with
      | .cancelling | .closingFilterPort => [s.comm.filterPort]
      | .posting (_ + 1) | .closingCompletionPort => [s.comm.iocpHandle]
      | _ => []
  | .port (.advance i) =>
      match s.port.parties i with
      -- `SendReply`
      | .process _ => [s.comm.filterPort]
      | .post _ _ => [s.comm.iocpHandle]
      | _ => []
  | .port (.dequeue _) | .port (.timeout _) => [s.comm.iocpHandle]
  | .port (.getMessage _ _) | .port (.deliver _ _) | .port (.fail _) => [s.comm.filterPort]
  | .port .stop | .port .postDummy => []

/-- The contexts that a step reads or writes, the kernel's completions included. -/
def contextsUsed (s : Receiver) : ReceiverAction → List ℕ
  | .port (.advance i) | .port (.getMessage i _) => (s.port.parties i).context?.toList
  | .port (.deliver c _) | .port (.fail c) => [c]
  | .connect _ | .disconnect | .control | .port _ => []

/-- What a step uses is there: the handles are open, the contexts are in the pool, and their buffers
are allocated. -/
structure Sound (s : Receiver) (action : ReceiverAction) : Prop where
  handles : ∀ handle ∈ s.handlesUsed action, ∃ h ∈ s.comm.openHandles, handle = some h
  contexts : ∀ c ∈ s.contextsUsed action, ∃ context ∈ s.comm.contextPool,
    s.comm.contextPool[c]? = some context ∧ context.messageBuffer ∈ s.comm.buffers

end Receiver

/-! ## What a party can do -/

/-- The step of a party, by where it stands. -/
inductive PartyMove (s : PortMachine) (i : ℕ) : Party → PortMachine → Prop
  | run (hrunning : s.running = true) : PartyMove s i .loop (s.goto i .dequeue)
  | leave (hstopped : s.running = false) : PartyMove s i .loop (s.goto i .done)
  | take {packet : Packet} {rest : List Packet} (hpackets : s.packets = packet :: rest) :
      PartyMove s i .dequeue { s.goto i packet.next with packets := rest }
  | timeout : PartyMove s i .dequeue (s.goto i .loop)
  | pass (c : ℕ) : PartyMove s i (.process c)
      { s.goto i (.resubmit c) with buffers := Function.update s.buffers c (s.buffers c).pass }
  | again (c : ℕ) (hrunning : s.running = true) :
      PartyMove s i (.resubmit c) (s.goto i (.check c none))
  | drop (c : ℕ) (hstopped : s.running = false) : PartyMove s i (.resubmit c) (s.goto i .loop)
  | connected (c : ℕ) (back : Option ℕ) (hrunning : s.running = true) :
      PartyMove s i (.check c back) (s.goto i (.getMessage c back))
  | refused (c : ℕ) (back : Option ℕ) (hstopped : s.running = false) :
      PartyMove s i (.check c back) (s.goto i (.free c back))
  | failed (c : ℕ) (back : Option ℕ) :
      PartyMove s i (.getMessage c back) (s.goto i (.free c back))
  | pending (c : ℕ) (back : Option ℕ) : PartyMove s i (.getMessage c back)
      { s.goto i (afterSubmit back) with
        outstanding := Function.update s.outstanding c (s.outstanding c + 1)
        buffers := Function.update s.buffers c .empty
        submitted := s.buffers c :: s.submitted }
  | succeeded (c : ℕ) (back : Option ℕ) : PartyMove s i (.getMessage c back)
      { s.goto i (.post c back) with
        buffers := Function.update s.buffers c (.message 0 true)
        submitted := s.buffers c :: s.submitted }
  | post (c : ℕ) (back : Option ℕ) : PartyMove s i (.post c back)
      { s.goto i (afterSubmit back) with packets := s.packets ++ [⟨some c, 0, true⟩] }
  | free (c : ℕ) (back : Option ℕ) : PartyMove s i (.free c back)
      { s.goto i (afterSubmit back) with inUse := Function.update s.inUse c false }
  | submittedAll : PartyMove s i (.allocate 0) (s.goto i .done)
  | skip (left : ℕ) (hnone : s.running = false ∨ s.freeContext? = none) :
      PartyMove s i (.allocate (left + 1)) (s.goto i (.allocate left))
  | allocate (left c : ℕ) (hrunning : s.running = true) (hfree : s.freeContext? = some c) :
      PartyMove s i (.allocate (left + 1))
        { s.goto i (.check c (some left)) with inUse := Function.update s.inUse c true }

section

variable {s t : PortMachine} {i : ℕ} {action : PortAction}

theorem partyMove_advance {pc : Party} (hstep : s.advance i pc = some t) : PartyMove s i pc t := by
  cases pc with
  | loop =>
      cases hstep
      cases hrunning : s.running with
      | true => exact .run hrunning
      | false => exact .leave hrunning
  | process c =>
      cases hstep
      exact .pass c
  | resubmit c =>
      cases hstep
      cases hrunning : s.running with
      | true => exact .again c hrunning
      | false => exact .drop c hrunning
  | check c back =>
      cases hstep
      cases hrunning : s.running with
      | true => exact .connected c back hrunning
      | false => exact .refused c back hrunning
  | post c back =>
      cases hstep
      exact .post c back
  | free c back =>
      cases hstep
      exact .free c back
  | allocate left =>
      cases left with
      | zero =>
          cases hstep
          exact .submittedAll
      | succ left =>
          rw [PortMachine.advance] at hstep
          cases hrunning : s.running with
          | false =>
              rw [hrunning] at hstep
              cases hstep
              exact .skip left (.inl hrunning)
          | true =>
              rw [hrunning] at hstep
              cases hfree : s.freeContext? with
              | none =>
                  rw [hfree] at hstep
                  cases hstep
                  exact .skip left (.inr hfree)
              | some c =>
                  rw [hfree] at hstep
                  cases hstep
                  exact .allocate left c hrunning hfree
  | dequeue | getMessage _ _ | done => cases hstep

/-- **Step lemma for the parties.** -/
theorem partyMove_of_step (hparty : action.party? = some i) (hstep : portStep s action = some t) :
    PartyMove s i (s.parties i) t := by
  cases action with
  | advance j =>
      cases hparty
      exact partyMove_advance hstep
  | dequeue j =>
      cases hparty
      rw [portStep] at hstep
      split at hstep
      · next packet rest hpc hpackets =>
          rw [hpc]
          cases hstep
          exact .take hpackets
      · cases hstep
  | timeout j =>
      cases hparty
      rw [portStep] at hstep
      split at hstep
      · next hpc =>
          rw [hpc]
          cases hstep
          exact .timeout
      · cases hstep
  | getMessage j result =>
      cases hparty
      rw [portStep] at hstep
      split at hstep
      · next c back hpc =>
          rw [hpc]
          cases result with
          | fails =>
              cases hstep
              exact .failed c back
          | pending =>
              cases hstep
              exact .pending c back
          | succeeds =>
              cases hstep
              exact .succeeded c back
      · cases hstep
  | deliver _ _ | fail _ | stop | postDummy => cases hparty

/-- The Filter Manager completes a receive on the context. -/
def PortMachine.completed (s : PortMachine) (c : ℕ) (packet : Packet) (buffers : ℕ → Buffer) :
    PortMachine :=
  { s with
    outstanding := Function.update s.outstanding c (s.outstanding c - 1)
    buffers := buffers
    packets := s.packets ++ [packet] }

/-- **Step lemma for the Filter Manager.** -/
theorem completed_of_step {c : ℕ} (haction : action.completes? = some c)
    (hstep : portStep s action = some t) : 0 < s.outstanding c ∧
      ∃ packet buffers, packet.context = some c ∧ t = s.completed c packet buffers := by
  cases action with
  | deliver d bytesTransferred =>
      cases haction
      rw [portStep] at hstep
      split at hstep
      · next hpending =>
          cases hstep
          exact ⟨hpending.1, _, _, rfl, rfl⟩
      · cases hstep
  | fail d =>
      cases haction
      rw [portStep] at hstep
      split at hstep
      · next hpending =>
          cases hstep
          exact ⟨hpending, _, _, rfl, rfl⟩
      · cases hstep
  | advance _ | dequeue _ | timeout _ | getMessage _ _ | stop | postDummy => cases haction

end

/-! ## What a call can do -/

/-- The step of `Connect` or `Disconnect`, by where it stands. -/
inductive CallMove (s : Receiver) : ReceiverControl → Receiver → Prop
  | submitted (hdone : s.port.parties 0 = .done) :
      CallMove s .submitting { s with control := .idle }
  | clear : CallMove s .clearing
      ⟨{ s.comm with running := false }, { s.port with running := false }, .cancelling⟩
  | cancel : CallMove s .cancelling { s with control := .posting s.comm.workerThreads }
  | posted : CallMove s (.posting 0) { s with control := .joining 0 }
  | post (left : ℕ) : CallMove s (.posting (left + 1))
      { s with
        port := { s.port with packets := s.port.packets ++ [⟨none, 0, true⟩] }
        control := .posting left }
  | joinedAll (joined : ℕ) (hall : joined = s.comm.workerThreads) : CallMove s (.joining joined)
      { s with comm := { s.comm with workerThreads := 0 }, control := .closingCompletionPort }
  | join (joined : ℕ) (hmore : joined ≠ s.comm.workerThreads)
      (hdone : s.port.parties (joined + 1) = .done) :
      CallMove s (.joining joined) { s with control := .joining (joined + 1) }
  | closeCompletionPort : CallMove s .closingCompletionPort
      { s with comm := s.comm.closeCompletionPort, control := .closingFilterPort }
  | closeFilterPort : CallMove s .closingFilterPort
      { s with
        comm := s.comm.closeFilterPort
        port := { s.port with outstanding := fun _ => 0 }
        control := .freeing }
  | free : CallMove s .freeing
      { s with
        comm := s.comm.freePool
        port := { s.port with inUse := fun _ => false }
        control := .closingQueue }
  | closeQueue : CallMove s .closingQueue
      { s with
        comm := { s.comm with
          path := { s.comm.path with eventQueue := s.comm.path.eventQueue.close } }
        control := .idle }

/-- **Step lemma for the calls.** -/
theorem callMove_of_step {s t : Receiver} {control : ReceiverControl}
    (hstep : s.advance control = some t) : CallMove s control t := by
  cases control with
  | idle => cases hstep
  | submitting =>
      rw [Receiver.advance] at hstep
      split at hstep
      · next hdone =>
          cases hstep
          exact .submitted hdone
      · cases hstep
  | clearing =>
      cases hstep
      exact .clear
  | cancelling =>
      cases hstep
      exact .cancel
  | posting left =>
      cases left with
      | zero =>
          cases hstep
          exact .posted
      | succ left =>
          cases hstep
          exact .post left
  | joining joined =>
      rw [Receiver.advance] at hstep
      split at hstep
      · next hall =>
          cases hstep
          exact .joinedAll joined hall
      · next hmore =>
          split at hstep
          · next hdone =>
              cases hstep
              exact .join joined hmore hdone
          · cases hstep
  | closingCompletionPort =>
      cases hstep
      exact .closeCompletionPort
  | closingFilterPort =>
      cases hstep
      exact .closeFilterPort
  | freeing =>
      cases hstep
      exact .free
  | closingQueue =>
      cases hstep
      exact .closeQueue

/-! ## What a step can do -/

inductive ReceiverMove (s : Receiver) : ReceiverAction → Receiver → Prop
  | connect (outcome : ConnectOutcome) (hidle : s.control = .idle) :
      ReceiverMove s (.connect outcome) (s.connect outcome)
  | disconnect (hidle : s.control = .idle) (hconnected : s.comm.isConnected = true) :
      ReceiverMove s .disconnect { s with control := .clearing }
  /-- a `Disconnect` of a communicator that is not connected -/
  | nothing (hidle : s.control = .idle) : ReceiverMove s .disconnect s
  | call {t : Receiver} (hmove : CallMove s s.control t) : ReceiverMove s .control t
  | party {action : PortAction} {i : ℕ} {port : PortMachine} (haction : action.party? = some i)
      (hmove : PartyMove s.port i (s.port.parties i) port) :
      ReceiverMove s (.port action) { s with port }
  | completed {action : PortAction} {c : ℕ} {packet : Packet} (buffers : ℕ → Buffer)
      (haction : action.completes? = some c) (hpending : 0 < s.port.outstanding c)
      (hcontext : packet.context = some c) :
      ReceiverMove s (.port action) { s with port := s.port.completed c packet buffers }

/-- **Step lemma for the receiver.** -/
theorem receiverMove_of_step {s t : Receiver} {action : ReceiverAction}
    (hstep : receiverStep s action = some t) : ReceiverMove s action t := by
  cases action with
  | connect outcome =>
      rw [receiverStep] at hstep
      split at hstep
      · next hidle =>
          cases hstep
          exact .connect outcome hidle
      · cases hstep
  | disconnect =>
      rw [receiverStep] at hstep
      split at hstep
      · next hidle =>
          cases hstep
          split
          · next hconnected => exact .disconnect hidle hconnected
          · exact .nothing hidle
      · cases hstep
  | control => exact .call (callMove_of_step hstep)
  | port action =>
      rw [receiverStep] at hstep
      split at hstep
      · next hother =>
          obtain ⟨port, hport, rfl⟩ := Option.map_eq_some_iff.mp hstep
          rcases Bool.or_eq_true_iff.mp hother with hparty | hcompletes
          · obtain ⟨i, hi⟩ := Option.isSome_iff_exists.mp hparty
            exact .party hi (partyMove_of_step hi hport)
          · obtain ⟨c, hc⟩ := Option.isSome_iff_exists.mp hcompletes
            obtain ⟨hpending, packet, buffers, hcontext, rfl⟩ := completed_of_step hc hport
            exact .completed buffers hc hpending hcontext
      · cases hstep

/-- A party that has returned takes no step. -/
theorem PartyMove.not_done {s t : PortMachine} {i : ℕ} {pc : Party} (hmove : PartyMove s i pc t) :
    pc ≠ .done := by
  rintro rfl
  cases hmove

theorem PartyMove.parties_of_ne {s t : PortMachine} {i j : ℕ} {pc : Party}
    (hmove : PartyMove s i pc t) (hji : j ≠ i) : t.parties j = s.parties j := by
  cases hmove <;> exact Function.update_of_ne hji _ _

theorem PartyMove.parties_eq {s t : PortMachine} {i : ℕ} {pc : Party} (hmove : PartyMove s i pc t) :
    t.parties = Function.update s.parties i (t.parties i) := by
  funext j
  by_cases hji : j = i
  · rw [hji, Function.update_self]
  · rw [hmove.parties_of_ne hji, Function.update_of_ne hji]

end Kawin.Kasvc
