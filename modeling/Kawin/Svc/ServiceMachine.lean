import Mathlib.Logic.Function.Basic
import Kawin.Base.Transition
import Kawin.Svc.FilterMessage

/-!
# The workers of the service

The readers of the Go service count every message that they can parse and try to put it into a
channel; what does not fit they count as dropped.  The processors take messages from the channel.
Each `select` is one step, and so is everything that a worker does between two of them, but for
the counters.
-/

namespace Kawin.Svc

open ByteMemory Transition
open Kawin.Driver (UINT64)

/-- `EventChannelSize`. -/
def eventChannelSize : ℕ := 1024

/-- A message and the type that it had on the wire. -/
structure WireMessage where
  wireType : ℕ
  log : Log
  deriving DecidableEq

/-- What `processMessage` does with a message; it always returns nil. -/
inductive Handling
  | log | invalidLogType
  deriving DecidableEq

/-- `processMessage`. -/
def processMessage (msg : Log) : Handling :=
  if msg.type = "1" then .log else .invalidLogType

/-- The type field of a message in the receive buffer. -/
def wireType (buf : List Byte) : ℕ :=
  match readHead.run ⟨buf, 0⟩ with
  | .ok ((_, tp, _, _), _) => tp
  | .error _ => 0

/-- Where a `readerWorker` stands. -/
inductive Reader
  /-- at the top of its loop -/
  | polling
  /-- in `FilterGetMessage` -/
  | receiving
  /-- has counted the message: about to put it into the channel -/
  | counted (msg : WireMessage)
  /-- about to count the message as dropped -/
  | dropping
  | returned
  deriving DecidableEq

/-- Where a `processorWorker` stands. -/
inductive Processor
  | waiting
  /-- has taken the message: about to call `processMessage` -/
  | took (msg : WireMessage)
  | returned
  deriving DecidableEq

/-- The service between a `Start` and the end of the next `Stop`, with its readers and its
processors. -/
structure ServiceMachine (R P : Type) where
  messageReceived : UINT64
  messageProcessed : UINT64
  messageDropped : UINT64
  eventChan : List WireMessage
  stopClosed : Bool
  readers : R → Reader
  processors : P → Processor
  localProcessed : P → UINT64
  /-- what `processMessage` did, newest first -/
  handled : List (WireMessage × Handling)

inductive ReaderEvent
  | poll
  | getMessageFails
  | getMessage (buf : List Byte)
  /-- the cases of the second `select` -/
  | send | stop | default
  | countDropped

inductive ProcessorEvent
  /-- the cases of the `select` -/
  | stop | receive
  | process

inductive ServiceEvent (R P : Type)
  | reader (i : R) (event : ReaderEvent)
  | processor (i : P) (event : ProcessorEvent)
  /-- `Stop` closes the stop channel -/
  | closeStop

section

-- `decode` is the conversion of UTF-16 to a Go string
variable (decode : List (BitVec 16) → List Byte) {R P : Type} [DecidableEq R] [DecidableEq P]

namespace ServiceMachine

def init : ServiceMachine R P :=
  ⟨0#64, 0#64, 0#64, [], false, fun _ => .polling, fun _ => .waiting, fun _ => 0#64, []⟩

def readerGoto (s : ServiceMachine R P) (i : R) (pc : Reader) : ServiceMachine R P :=
  { s with readers := Function.update s.readers i pc }

def processorGoto (s : ServiceMachine R P) (i : P) (pc : Processor) : ServiceMachine R P :=
  { s with processors := Function.update s.processors i pc }

/-- The channel takes another message without blocking. -/
def hasRoom (s : ServiceMachine R P) : Bool := s.eventChan.length < eventChannelSize

/-- `readerWorker`.  A `select` takes a case that is ready, and the default if none is. -/
def readerStep (s : ServiceMachine R P) (i : R) :
    Reader → ReaderEvent → Option (ServiceMachine R P)
  | .polling, .poll => some (s.readerGoto i (if s.stopClosed then .returned else .receiving))
  | .receiving, .getMessageFails => some (s.readerGoto i .returned)
  | .receiving, .getMessage buf =>
      match parseFilterMessage decode buf with
      | .error _ => some (s.readerGoto i .polling)
      | .ok log =>
          some ({ s with messageReceived := s.messageReceived + 1#64 }.readerGoto i
            (.counted ⟨wireType buf, log⟩))
  | .counted msg, .send =>
      if s.hasRoom then some ({ s with eventChan := s.eventChan ++ [msg] }.readerGoto i .polling)
      else none
  | .counted _, .stop => if s.stopClosed then some (s.readerGoto i .returned) else none
  | .counted _, .default =>
      if s.hasRoom || s.stopClosed then none else some (s.readerGoto i .dropping)
  | .dropping, .countDropped =>
      some ({ s with messageDropped := s.messageDropped + 1#64 }.readerGoto i .polling)
  | _, _ => none

/-- `processorWorker`.  The channel of events is closed only after all workers have returned. -/
def processorStep (s : ServiceMachine R P) (i : P) :
    Processor → ProcessorEvent → Option (ServiceMachine R P)
  | .waiting, .stop => if s.stopClosed then some (s.processorGoto i .returned) else none
  | .waiting, .receive =>
      match s.eventChan with
      | [] => none
      | msg :: rest => some ({ s with eventChan := rest }.processorGoto i (.took msg))
  | .took msg, .process =>
      some ({ s with
        localProcessed := Function.update s.localProcessed i (s.localProcessed i + 1#64)
        handled := (msg, processMessage msg.log) :: s.handled }.processorGoto i .waiting)
  | _, _ => none

end ServiceMachine

def serviceMachineStep (s : ServiceMachine R P) : ServiceEvent R P → Option (ServiceMachine R P)
  | .reader i event => s.readerStep decode i (s.readers i) event
  | .processor i event => s.processorStep i (s.processors i) event
  | .closeStop => some { s with stopClosed := true }

end

end Kawin.Svc
