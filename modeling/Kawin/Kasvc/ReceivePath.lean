import Kawin.Base.BoundedFifo
import Kawin.Base.Transition
import Kawin.Kasvc.EventPublisher

/-!
# From a completed receive to the event queue

`ProcessCompletedIO` counts the message, parses it, offers an event to the queue and
replies to the driver.  It offers an event whatever `MessageParser::Parse` says: where the message
cannot be parsed, the default-constructed one.  And where the queue refuses the event it
logs a warning; `dropped_messages_` is there to count such events, and nothing increments it.

The queue is the bounded queue that `ThreadSafeQueue` implements (`simulates_of_reaches`).
`TryPush` returns at a moment when the queue has room or is closed, or when its ten
milliseconds are over; what happens meanwhile are steps of their own, so it is an `offer` to
the queue of that moment.
-/

namespace Kawin.Kasvc

open ByteMemory BoundedFifo Transition

/-- `constants::MAX_EVENT_QUEUE_SIZE`. -/
def maxEventQueueSize : ℕ := 10000

/-- A completed receive: the buffer, the byte count of the packet, the microseconds since it was
submitted, and what the fields of `data::Event` that no constructor or parser sets hold. -/
structure Completion where
  buffer : Memory
  bytesTransferred : ℕ
  latency : ℕ
  unassigned : EventType
  defaulted : Event

/-- The events and counters of the communicator. -/
structure ReceivePath where
  eventQueue : Fifo Event
  totalMessages : ℕ
  totalLatencyUs : ℕ
  droppedMessages : ℕ
  /-- the message ids replied to, newest first -/
  replies : List ℕ
  /-- all events ever queued, oldest first -/
  queued : List Event

def ReceivePath.init : ReceivePath := ⟨.empty, 0, 0, 0, [], []⟩

/-- `FILTER_MESSAGE_HEADER::MessageId`. -/
def messageIdAt : ℕ := 8

section

variable (platform : Platform)

/-- What the parser makes of the message. -/
def Completion.parsed (c : Completion) : Except String Event :=
  parse platform c.unassigned (some c.buffer) c.bytesTransferred

/-- The event that is offered to the queue. -/
def Completion.event (c : Completion) : Event := queuedEvent c.defaulted (c.parsed platform)

/-- `ProcessCompletedIO`. -/
def processCompletedIo (s : ReceivePath) (c : Completion) : ReceivePath :=
  let offered := s.eventQueue.offer maxEventQueueSize (c.event platform)
  { eventQueue := offered.2
    totalMessages := s.totalMessages + 1
    totalLatencyUs := s.totalLatencyUs + c.latency
    -- a refused event is logged and not counted
    droppedMessages := s.droppedMessages
    replies := readNat c.buffer messageIdAt 8 :: s.replies
    queued := if offered.1 then s.queued ++ [c.event platform] else s.queued }

inductive ReceiveAction
  /-- a worker handles a message -/
  | complete (c : Completion)
  /-- `ReceiveEvent`, in the service's event loop -/
  | receiveEvent
  /-- `Disconnect` closes the queue -/
  | close

def receiveStep (s : ReceivePath) : ReceiveAction → Option ReceivePath
  | .complete c => some (processCompletedIo platform s c)
  | .receiveEvent => some { s with eventQueue := s.eventQueue.take.2 }
  | .close => some { s with eventQueue := s.eventQueue.close }

/-! ## The law -/

/-- The events of the messages that can be parsed, in the order in which they are handled. -/
def parsedEvents : List ReceiveAction → List Event
  | [] => []
  | .complete c :: rest =>
      match c.parsed platform with
      | .ok event => event :: parsedEvents rest
      | .error _ => parsedEvents rest
  | _ :: rest => parsedEvents rest

/-- A message that cannot be parsed leaves the queue as it was; a parsed event that the queue
refuses is counted. -/
structure FaithfulStep (s : ReceivePath) (c : Completion) (t : ReceivePath) : Prop where
  rejected : (c.parsed platform).isOk = false → t.eventQueue = s.eventQueue
  refused : (c.parsed platform).isOk = true → s.eventQueue.accepts maxEventQueueSize = false →
    t.droppedMessages = s.droppedMessages + 1

/-- The law about one action. -/
def FaithfulAction (s : ReceivePath) (action : ReceiveAction) (t : ReceivePath) : Prop :=
  match action with
  | .complete c => FaithfulStep platform s c t
  | .receiveEvent | .close => True

/-- Every message is handled faithfully, and the events ever queued are the parsed ones
without as many as `dropped_messages_` counts. -/
structure FaithfulReceive (actions : List ReceiveAction) : Prop where
  steps : Along (receiveStep platform) (FaithfulAction platform) .init actions
  accounted : ∀ t, Transition.steps (receiveStep platform) .init actions = some t →
    t.queued.Sublist (parsedEvents platform actions) ∧
    ∃ dropped : List Event, dropped.length = t.droppedMessages ∧
      (t.queued ++ dropped).Perm (parsedEvents platform actions)

/-- A message can be parsed exactly if the queue is open and has room for its event. -/
def MessageKept (s : ReceivePath) : ReceiveAction → Prop
  | .complete c => (c.parsed platform).isOk = s.eventQueue.accepts maxEventQueueSize
  | .receiveEvent | .close => True

instance (s : ReceivePath) : ∀ action, Decidable (MessageKept platform s action)
  | .complete _ => inferInstanceAs (Decidable (_ = _))
  | .receiveEvent | .close => .isTrue trivial

end

/-! ## When it holds -/

section

variable {platform : Platform} {s t : ReceivePath} {c : Completion}

theorem faithfulStep_iff :
    FaithfulStep platform s c (processCompletedIo platform s c) ↔
      (c.parsed platform).isOk = s.eventQueue.accepts maxEventQueueSize := by
  cases haccepts : s.eventQueue.accepts maxEventQueueSize with
  | false =>
      have hqueue : (processCompletedIo platform s c).eventQueue = s.eventQueue := by
        rw [processCompletedIo, Fifo.offer_of_not_accepts haccepts]
      constructor
      · intro h
        by_contra hok
        exact absurd (h.refused (by simpa using hok) haccepts) (Nat.succ_ne_self _).symm
      · intro hok
        exact ⟨fun _ => hqueue, fun h _ => absurd (hok.symm.trans h) (by simp)⟩
  | true =>
      constructor
      · intro h
        by_contra hok
        have hsame := congrArg Fifo.content (h.rejected (by simpa using hok))
        rw [processCompletedIo, Fifo.offer_of_accepts haccepts] at hsame
        exact absurd hsame (by simp)
      · intro hok
        refine ⟨fun h => absurd (hok.symm.trans h) (by simp), fun _ h => ?_⟩
        exact absurd (haccepts.symm.trans h) (by simp)

theorem receiveStep_total (s : ReceivePath) (action : ReceiveAction) :
    ∃ t, receiveStep platform s action = some t := by
  cases action with
  | complete => exact ⟨_, rfl⟩
  | receiveEvent => exact ⟨_, rfl⟩
  | close => exact ⟨_, rfl⟩

theorem faithfulAction_iff {action : ReceiveAction} (h : receiveStep platform s action = some t) :
    FaithfulAction platform s action t ↔ MessageKept platform s action := by
  cases action with
  | complete c =>
      cases h
      exact faithfulStep_iff
  | receiveEvent | close => exact Iff.rfl

/-- While every message is kept, exactly the parsed events are queued and none is counted. -/
theorem queued_of_kept {actions : List ReceiveAction} :
    ∀ {s : ReceivePath}, Allowed (receiveStep platform) (MessageKept platform) s actions →
      steps (receiveStep platform) s actions = some t →
      t.queued = s.queued ++ parsedEvents platform actions ∧
        t.droppedMessages = s.droppedMessages := by
  induction actions with
  | nil =>
      intro s _ hsteps
      cases hsteps
      exact ⟨(List.append_nil _).symm, rfl⟩
  | cons action rest ih =>
      rintro s ⟨hkept, hrest⟩ hsteps
      obtain ⟨u, hstep, hmore⟩ := Option.bind_eq_some_iff.mp hsteps
      obtain ⟨hqueued, hdropped⟩ := ih (hrest u hstep) hmore
      cases action with
      | complete c =>
          cases hstep
          refine ⟨?_, hdropped⟩
          rw [hqueued, parsedEvents, processCompletedIo, Fifo.offer_fst, ← hkept]
          cases hparsed : c.parsed platform with
          | ok event => simp [Except.isOk, Except.toBool, Completion.event, hparsed, queuedEvent]
          | error message => simp [Except.isOk, Except.toBool]
      | receiveEvent | close =>
          cases hstep
          exact ⟨hqueued, hdropped⟩

theorem faithfulSteps_iff (actions : List ReceiveAction) :
    Along (receiveStep platform) (FaithfulAction platform) .init actions ↔
      Allowed (receiveStep platform) (MessageKept platform) .init actions := by
  refine along_iff_allowed receiveStep_total ?_
  exact fun s action t hstep => faithfulAction_iff hstep

end

/-- **Faithful receiving, exactly.**  A run is faithful if and only if each of its messages can be
parsed exactly when the queue, as it is then, accepts an event. -/
theorem faithfulReceive_iff (platform : Platform) (actions : List ReceiveAction) :
    FaithfulReceive platform actions ↔
      Allowed (receiveStep platform) (MessageKept platform) .init actions := by
  refine ⟨fun h => (faithfulSteps_iff actions).mp h.steps,
    fun h => ⟨(faithfulSteps_iff actions).mpr h, fun t ht => ?_⟩⟩
  obtain ⟨hqueued, hdropped⟩ := queued_of_kept h ht
  rw [hqueued]
  refine ⟨.refl _, [], hdropped.symm, ?_⟩
  rw [List.append_nil]
  exact .refl _

/-- A message with an unknown event type. -/
private def unknownMessage : Completion where
  buffer := fun _ => 0
  bytesTransferred := 82
  latency := 3
  unassigned := .hostLog
  defaulted := ⟨.hostLog, .fileEvent, 0, 0, false, .file ⟨.create, 0, [], []⟩⟩

/-- Its default-constructed event is queued. -/
theorem not_faithfulReceive : ¬∀ platform actions, FaithfulReceive platform actions := by
  intro hfaithful
  have h := (faithfulSteps_iff _).mp (hfaithful asciiPlatform [.complete unknownMessage]).steps
  exact absurd h.1 (by decide +kernel)

end Kawin.Kasvc
