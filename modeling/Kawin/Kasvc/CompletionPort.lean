import Kawin.Base.Transition
import Mathlib.Data.List.Basic
import Mathlib.Logic.Function.Basic

/-!
# The completion port

A pool of contexts, each with one buffer, goes round between three places: a receive
submitted with `FilterGetMessage`, a completion packet in the port, and a worker that
passes the buffer to `ProcessCompletedIO` and submits it again.  `Connect` submits the first
receives, and `Disconnect` clears `running_`, cancels the receives and posts dummy packets; it
closes the handles only after the last worker is gone, so they are valid throughout.

A receive that is pending later produces a packet with the size of the message.  One that
succeeds at once produces none, and `SubmitReceive` posts a packet itself, with a size of
zero.  A worker takes that for a packet without a message.

The machine has any number of workers; what a party does between two accesses to what
they share is one step.
-/

namespace Kawin.Kasvc

open Transition

/-- The buffer of a context since it was last submitted: no message, or one that was passed to
`ProcessCompletedIO` so often.  The flag says that `FilterGetMessage` returned with it. -/
inductive Buffer
  | empty
  | message (passes : ℕ) (synchronous : Bool)
  deriving DecidableEq

namespace Buffer

/-- The buffer is passed to `ProcessCompletedIO`. -/
def pass : Buffer → Buffer
  | .empty => .empty
  | .message passes synchronous => .message (passes + 1) synchronous

/-- The last receive into the buffer succeeded at once. -/
def synchronous : Buffer → Bool
  | .empty => false
  | .message _ synchronous => synchronous

/-- Its message, if there is one, was passed on exactly once. -/
def PassedOnce : Buffer → Prop
  | .empty => True
  | .message passes _ => passes = 1

/-- Its message was not passed on more than once. -/
def AtMostOnce : Buffer → Prop
  | .empty => True
  | .message passes _ => passes ≤ 1

end Buffer

/-- What `GetQueuedCompletionStatus` returns: the context of the overlapped structure, none in a
dummy packet; `bytes_transferred`; and the result. -/
structure Packet where
  context : Option ℕ
  bytesTransferred : ℕ
  result : Bool
  deriving DecidableEq

/-- Where a party stands.  In `SubmitReceive` and behind it, `back` is `none` for a worker, and
for `Connect` the number of receives it has still to submit. -/
inductive Party
  /-- a worker, at `while (running_.load())` -/
  | loop
  /-- a worker in `GetQueuedCompletionStatus` -/
  | dequeue
  /-- a worker, before `ProcessCompletedIO` -/
  | process (c : ℕ)
  /-- a worker, before it submits the context again -/
  | resubmit (c : ℕ)
  /-- `SubmitReceive`, before it tests `IsConnected()` -/
  | check (c : ℕ) (back : Option ℕ)
  /-- before `FilterGetMessage` -/
  | getMessage (c : ℕ) (back : Option ℕ)
  /-- before `PostQueuedCompletionStatus` -/
  | post (c : ℕ) (back : Option ℕ)
  /-- before `FreeContext` -/
  | free (c : ℕ) (back : Option ℕ)
  /-- the loop of `Connect` that submits the first receives -/
  | allocate (left : ℕ)
  | done
  deriving DecidableEq

/-- The context a party has its hands on. -/
def Party.context? : Party → Option ℕ
  | .process c | .resubmit c | .check c _ | .getMessage c _ | .post c _ | .free c _ => some c
  | .loop | .dequeue | .allocate _ | .done => none

/-- Where a worker goes with a packet. -/
def Packet.next (packet : Packet) : Party :=
  match packet.context with
  | none => .loop
  | some c =>
      if packet.result && decide (0 < packet.bytesTransferred) then .process c else .resubmit c

/-- Where a party goes on after `SubmitReceive`. -/
def afterSubmit : Option ℕ → Party
  | none => .loop
  | some left => .allocate left

structure PortMachine where
  running : Bool
  poolSize : ℕ
  inUse : ℕ → Bool
  parties : ℕ → Party
  /-- the packets in the port, oldest first -/
  packets : List Packet
  /-- how many receives are pending on each context -/
  outstanding : ℕ → ℕ
  buffers : ℕ → Buffer
  /-- the buffers as they were when they were submitted, newest first -/
  submitted : List Buffer

namespace PortMachine

/-- `Connect` has started the workers and is about to submit the first receives; it is party 0. -/
def init (poolSize workerThreadCount concurrentOperations : ℕ) : PortMachine where
  running := true
  poolSize := poolSize
  inUse _ := false
  parties i :=
    if i = 0 then .allocate concurrentOperations
    else if i ≤ workerThreadCount then .loop
    else .done
  packets := []
  outstanding _ := 0
  buffers _ := .empty
  submitted := []

def goto (s : PortMachine) (i : ℕ) (party : Party) : PortMachine :=
  { s with parties := Function.update s.parties i party }

/-- The packets of a context in the port. -/
def packetsOf (s : PortMachine) (c : ℕ) : List Packet :=
  s.packets.filter fun packet => packet.context = some c

/-- The search of `AllocateContext`. -/
def freeContext? (s : PortMachine) : Option ℕ :=
  (List.range s.poolSize).find? fun c => !s.inUse c

/-- The next step of a party where nothing is left open. -/
def advance (s : PortMachine) (i : ℕ) : Party → Option PortMachine
  | .loop => some (s.goto i (if s.running then .dequeue else .done))
  | .process c =>
      some { s.goto i (.resubmit c) with buffers := Function.update s.buffers c (s.buffers c).pass }
  -- a context that is not submitted any more is not given back either
  | .resubmit c => some (s.goto i (if s.running then .check c none else .loop))
  | .check c back => some (s.goto i (if s.running then .getMessage c back else .free c back))
  | .post c back =>
      some { s.goto i (afterSubmit back) with packets := s.packets ++ [⟨some c, 0, true⟩] }
  | .free c back =>
      some { s.goto i (afterSubmit back) with inUse := Function.update s.inUse c false }
  | .allocate 0 => some (s.goto i .done)
  | .allocate (left + 1) =>
      if !s.running then some (s.goto i (.allocate left))
      else
        match s.freeContext? with
        -- the wait for a context is over
        | none => some (s.goto i (.allocate left))
        | some c =>
            some { s.goto i (.check c (some left)) with inUse := Function.update s.inUse c true }
  | .dequeue | .getMessage _ _ | .done => none

end PortMachine

/-- What `FilterGetMessage` returns: an error, `ERROR_IO_PENDING`, or success, with a message in the
buffer. -/
inductive GetMessageResult
  | fails | pending | succeeds
  deriving DecidableEq

inductive PortAction
  | advance (i : ℕ)
  /-- a worker gets the oldest packet -/
  | dequeue (i : ℕ)
  /-- a worker gets no packet within a second -/
  | timeout (i : ℕ)
  /-- `FilterGetMessage` returns -/
  | getMessage (i : ℕ) (result : GetMessageResult)
  /-- a message arrives for a pending receive -/
  | deliver (c : ℕ) (bytesTransferred : ℕ)
  /-- a pending receive fails, or is cancelled -/
  | fail (c : ℕ)
  /-- `Disconnect` clears `running_` -/
  | stop
  /-- `Disconnect` posts a dummy packet -/
  | postDummy

def portStep (s : PortMachine) : PortAction → Option PortMachine
  | .advance i => s.advance i (s.parties i)
  | .dequeue i =>
      match s.parties i, s.packets with
      | .dequeue, packet :: rest => some { s.goto i packet.next with packets := rest }
      | _, _ => none
  | .timeout i =>
      match s.parties i with
      | .dequeue => some (s.goto i .loop)
      | _ => none
  | .getMessage i result =>
      match s.parties i with
      | .getMessage c back =>
          match result with
          | .fails => some (s.goto i (.free c back))
          | .pending =>
              some { s.goto i (afterSubmit back) with
                outstanding := Function.update s.outstanding c (s.outstanding c + 1)
                buffers := Function.update s.buffers c .empty
                submitted := s.buffers c :: s.submitted }
          | .succeeds =>
              some { s.goto i (.post c back) with
                buffers := Function.update s.buffers c (.message 0 true)
                submitted := s.buffers c :: s.submitted }
      | _ => none
  | .deliver c bytesTransferred =>
      if 0 < s.outstanding c ∧ 0 < bytesTransferred then
        some { s with
          outstanding := Function.update s.outstanding c (s.outstanding c - 1)
          buffers := Function.update s.buffers c (.message 0 false)
          packets := s.packets ++ [⟨some c, bytesTransferred, true⟩] }
      else none
  | .fail c =>
      if 0 < s.outstanding c then
        some { s with
          outstanding := Function.update s.outstanding c (s.outstanding c - 1)
          packets := s.packets ++ [⟨some c, 0, false⟩] }
      else none
  | .stop => some { s with running := false }
  | .postDummy => some { s with packets := s.packets ++ [⟨none, 0, true⟩] }

/-! ## The law -/

/-- Whenever a buffer was submitted, the message it held had been passed to `ProcessCompletedIO`
exactly once; no message is passed twice; and a context never has two receives
outstanding, where one is outstanding until its packet is taken from the port. -/
structure ExactlyOnce (s : PortMachine) : Prop where
  submitted : ∀ buffer ∈ s.submitted, buffer.PassedOnce
  buffers : ∀ c, (s.buffers c).AtMostOnce
  outstanding : ∀ c, s.outstanding c + (s.packetsOf c).length ≤ 1

/-- `FilterGetMessage` is not given a buffer whose last receive succeeded at once. -/
def NotSynchronous (s : PortMachine) : PortAction → Prop
  | .getMessage i result =>
      match s.parties i with
      | .getMessage c _ => result = .fails ∨ (s.buffers c).synchronous = false
      | _ => True
  | _ => True

end Kawin.Kasvc
