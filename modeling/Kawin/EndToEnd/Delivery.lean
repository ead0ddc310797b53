import Kawin.Base.Provenance
import Kawin.Driver.EnqueuedEvents
import Kawin.Driver.Occurrences
import Kawin.Driver.ProcessNotify
import Kawin.Kasvc.LoopAccounting
import Kawin.Kasvc.RoundTrip

/-!
# From the callbacks of the driver to the publisher of the service

The driver and the service side by side, with the messages between them.  A file event goes through
`Enqueue`, the ring and the worker of the dispatcher; a process event is sent by `OnProcessNotify`
itself.  The service receives messages into its own buffers, parses them, queues the events and
publishes them.

Between the two is the Filter Manager.  What is asked of it is that it completes a receive only with
a message that was passed to `FltSendMessage`, with each at most once, unchanged, behind a header of
its own, and in a buffer that is large enough.  It may lose messages and change their order.

Then the service publishes what has happened: every event that it publishes is that of an occurrence
that the driver serialized, and no occurrence is published twice (`published_occurred`).
-/

namespace Kawin.EndToEnd

open ByteMemory Crew Provenance Transition
open Kawin.Driver (Buffer DispatcherAction DispatcherMachine EnqueueNote Notification Occurrence
  ProcessCache Request RingOrderly StreamHandleContext UINT64 acceptedBy acceptedEvents
  dispatcherNotes dispatcherPart dispatcherStep enqueueNotes messages ntSuccess onProcessNotify
  serializeFileEvent statusSuccess)
open Kawin.Kasvc (Completion Event EventLoops EventType IOCPConfig LoopNote LoopsAction Platform
  loopNotes loopsStep payloadAt publishedEvents)

/-! ## The system -/

/-- What `Enqueue` makes of a file up to `ProduceSlot`. -/
def fileRequest (eventType : Driver.EventType) (context : StreamHandleContext) (timestamp : UINT64)
    (allocated : Bool) : Request :=
  let event := Buffer.new allocated
  if !event.valid then .noBuffer
  else
    let (status, serialized) := serializeFileEvent event eventType context timestamp
    if !ntSuccess status then .notSerialized
    else if h : 0 < serialized.currentSize.toNat then
      .serialized ⟨memoryOf serialized.bytes, serialized.currentSize, h⟩
    else .notSerialized

/-- The driver, the messages on their way, and the service. -/
structure Delivery where
  driver : DispatcherMachine
  cache : ProcessCache
  /-- passed to `FltSendMessage`, and neither received nor lost -/
  inFlight : List (List Byte)
  service : EventLoops

def Delivery.init (outside : Memory) (freqHz : UINT64) (config : IOCPConfig)
    (workerThreadsCount : ℕ) : Delivery where
  driver := .init outside freqHz
  cache := .empty
  inFlight := []
  service := .construct config workerThreadsCount

/-- What is in a receive buffer, and what else goes into the completion of the receive. -/
structure ReceiveBuffer where
  before : Memory
  latency : ℕ
  unassigned : EventType
  defaulted : Event

/-- The receive is completed with a message. -/
def ReceiveBuffer.completion (b : ReceiveBuffer) (message : List Byte) : Completion where
  buffer := copy b.before payloadAt message.length (memoryOf message)
  bytesTransferred := payloadAt + message.length
  latency := b.latency
  unassigned := b.unassigned
  defaulted := b.defaulted

inductive DeliveryAction
  /-- a callback passes a file to `Enqueue` -/
  | file (eventType : Driver.EventType) (context : StreamHandleContext) (timestamp : UINT64)
      (allocated : Bool)
  /-- `OnProcessNotify` is called -/
  | notify (n : Notification)
  /-- any other step of the driver -/
  | driver (action : DispatcherAction)
  /-- the Filter Manager completes a receive with message `k` of those on their way -/
  | deliver (k : ℕ) (b : ReceiveBuffer)
  /-- the Filter Manager gives message `k` up -/
  | lose (k : ℕ)
  /-- any other step of the service -/
  | service (action : LoopsAction)

/-- Files come to `Enqueue` by way of a callback. -/
def isEnqueue : DispatcherAction → Bool
  | .enqueue _ => true
  | _ => false

/-- Messages come to the service by way of the Filter Manager. -/
def isComplete : LoopsAction → Bool
  | .complete _ => true
  | _ => false

section

variable (platform : Platform)

def deliveryStep (s : Delivery) : DeliveryAction → Option Delivery
  | .file eventType context timestamp allocated =>
      (dispatcherStep s.driver (.enqueue (fileRequest eventType context timestamp allocated))).map
        fun driver => { s with driver := driver }
  | .notify n =>
      if n.clientConnected = s.driver.scannerPort.isSome then
        let result := onProcessNotify s.cache n
        some { s with cache := result.2, inFlight := s.inFlight ++ result.1.toList }
      else none
  | .driver action =>
      if isEnqueue action then none
      else
        (dispatcherStep s.driver action).map fun driver =>
          { s with
            driver := driver
            inFlight := s.inFlight ++ messages (dispatcherNotes s.driver action) }
  | .deliver k b =>
      match s.inFlight[k]? with
      | some message =>
          if payloadAt + message.length ≤ s.service.receiver.config.bufferSize then
            (loopsStep platform s.service (.complete (b.completion message))).map fun service =>
              { s with inFlight := s.inFlight.eraseIdx k, service := service }
          else none
      | none => none
  | .lose k => some { s with inFlight := s.inFlight.eraseIdx k }
  | .service action =>
      if isComplete action then none
      else (loopsStep platform s.service action).map fun service => { s with service := service }

end

/-- A step of the system. -/
inductive DeliveryMove (platform : Platform) (s : Delivery) : DeliveryAction → Delivery → Prop
  | file (eventType : Driver.EventType) (context : StreamHandleContext) (timestamp : UINT64)
      (allocated : Bool) (driver : DispatcherMachine)
      (hdriver : dispatcherStep s.driver
        (.enqueue (fileRequest eventType context timestamp allocated)) = some driver) :
      DeliveryMove platform s (.file eventType context timestamp allocated)
        { s with driver := driver }
  | notify (n : Notification) (hclient : n.clientConnected = s.driver.scannerPort.isSome) :
      DeliveryMove platform s (.notify n)
        { s with
          cache := (onProcessNotify s.cache n).2
          inFlight := s.inFlight ++ (onProcessNotify s.cache n).1.toList }
  | driver (action : DispatcherAction) (driver : DispatcherMachine)
      (hother : ¬isEnqueue action = true) (hdriver : dispatcherStep s.driver action = some driver) :
      DeliveryMove platform s (.driver action)
        { s with
          driver := driver
          inFlight := s.inFlight ++ messages (dispatcherNotes s.driver action) }
  | deliver (k : ℕ) (b : ReceiveBuffer) (message : List Byte) (service : EventLoops)
      (hk : s.inFlight[k]? = some message)
      (hfits : payloadAt + message.length ≤ s.service.receiver.config.bufferSize)
      (hservice : loopsStep platform s.service (.complete (b.completion message)) = some service) :
      DeliveryMove platform s (.deliver k b)
        { s with inFlight := s.inFlight.eraseIdx k, service := service }
  | lose (k : ℕ) :
      DeliveryMove platform s (.lose k) { s with inFlight := s.inFlight.eraseIdx k }
  | service (action : LoopsAction) (service : EventLoops) (hother : ¬isComplete action = true)
      (hservice : loopsStep platform s.service action = some service) :
      DeliveryMove platform s (.service action) { s with service := service }

theorem deliveryMove_of_step {platform : Platform} {s t : Delivery} {action : DeliveryAction}
    (hstep : deliveryStep platform s action = some t) : DeliveryMove platform s action t := by
  cases action with
  | file eventType context timestamp allocated =>
      rw [deliveryStep, Option.map_eq_some_iff] at hstep
      obtain ⟨driver, hdriver, rfl⟩ := hstep
      exact .file eventType context timestamp allocated driver hdriver
  | notify n =>
      obtain ⟨hclient, hstep⟩ := Option.ite_none_right_eq_some.mp hstep
      obtain rfl := Option.some.inj hstep
      exact .notify n hclient
  | driver action =>
      obtain ⟨hother, hstep⟩ := Option.ite_none_left_eq_some.mp hstep
      obtain ⟨driver, hdriver, rfl⟩ := Option.map_eq_some_iff.mp hstep
      exact .driver action driver hother hdriver
  | deliver k b =>
      rw [deliveryStep] at hstep
      split at hstep
      · next message hk =>
          obtain ⟨hfits, hstep⟩ := Option.ite_none_right_eq_some.mp hstep
          obtain ⟨service, hservice, rfl⟩ := Option.map_eq_some_iff.mp hstep
          exact .deliver k b message service hk hfits hservice
      · cases hstep
  | lose k =>
      obtain rfl := Option.some.inj hstep
      exact .lose k
  | service action =>
      obtain ⟨hother, hstep⟩ := Option.ite_none_left_eq_some.mp hstep
      obtain ⟨service, hservice, rfl⟩ := Option.map_eq_some_iff.mp hstep
      exact .service action service hother hservice

/-- What a step does to the events, wherever they are. -/
inductive DeliveryNote
  /-- the event of the occurrence is on its way through the dispatcher, or to the client -/
  | occurred (occurrence : Occurrence) (timestamp : UINT64)
  | driver (note : EnqueueNote)
  /-- `OnProcessNotify` passed the message to `FltSendMessage` -/
  | notified (message : List Byte)
  | service (note : LoopNote)

def deliveryNotes (s : Delivery) : DeliveryAction → List DeliveryNote
  | .file eventType context timestamp allocated =>
      let action := .enqueue (fileRequest eventType context timestamp allocated)
      (acceptedBy s.driver action).map (fun _ => .occurred (.file eventType context) timestamp) ++
        (enqueueNotes s.driver action).map .driver
  | .notify n =>
      match (onProcessNotify s.cache n).1 with
      | some message =>
          [.occurred (.process n.processId n.createInfo s.cache n.block) n.timestamp,
            .notified message]
      | none => []
  | .driver action => (enqueueNotes s.driver action).map .driver
  | .deliver _ _ | .lose _ => []
  | .service action => (loopNotes s.service action).map .service

/-- The steps in the ring are orderly. -/
def DeliveryOrderly (s : Delivery) : DeliveryAction → Prop
  | .driver action => RingOrderly s.driver action
  | _ => True

instance (s : Delivery) : ∀ action, Decidable (DeliveryOrderly s action)
  | .driver action => inferInstanceAs (Decidable (RingOrderly s.driver action))
  | .file .. | .notify _ | .deliver _ _ | .lose _ | .service _ => .isTrue trivial

def DeliveryNote.occurred? : DeliveryNote → Option (Occurrence × UINT64)
  | .occurred occurrence timestamp => some (occurrence, timestamp)
  | .driver _ | .notified _ | .service _ => none

def DeliveryNote.driver? : DeliveryNote → Option EnqueueNote
  | .driver note => some note
  | .occurred _ _ | .notified _ | .service _ => none

def DeliveryNote.notified? : DeliveryNote → Option (List Byte)
  | .notified message => some message
  | .occurred _ _ | .driver _ | .service _ => none

def DeliveryNote.service? : DeliveryNote → Option LoopNote
  | .service note => some note
  | .occurred _ _ | .driver _ | .notified _ => none

/-- What has happened, as far as the driver has made an event of it. -/
def occurrences (notes : List DeliveryNote) : List (Occurrence × UINT64) :=
  notes.filterMap DeliveryNote.occurred?

def driverPart (notes : List DeliveryNote) : List EnqueueNote :=
  notes.filterMap DeliveryNote.driver?

def notifications (notes : List DeliveryNote) : List (List Byte) :=
  notes.filterMap DeliveryNote.notified?

def servicePart (notes : List DeliveryNote) : List LoopNote :=
  notes.filterMap DeliveryNote.service?

/-! ## What becomes of one occurrence -/

/-- The message of an occurrence. -/
def Serializes (o : Occurrence × UINT64) (message : List Byte) : Prop :=
  (o.1.serialize o.2).1 = statusSuccess ∧ (o.1.serialize o.2).2.bytes = message

/-- The event that the service makes of a message. -/
def ReadAs (platform : Platform) (message : List Byte) (event : Event) : Prop :=
  ∃ b : ReceiveBuffer, (b.completion message).event platform = event

/-- What the parser should make of an occurrence. -/
def parsedOccurrence (platform : Platform) (unassigned : EventType) :
    Occurrence × UINT64 → Event
  | (.file eventType context, timestamp) =>
      Kasvc.fileEventParsed platform unassigned eventType context timestamp
  | (.process processId createInfo cache block, timestamp) =>
      Kasvc.processEventParsed platform unassigned processId createInfo cache block timestamp

section

variable {platform : Platform} {o : Occurrence × UINT64} {message : List Byte} {event : Event}

theorem finish_status (buffer : Buffer) (ev : Driver.Event) :
    (buffer.finish ev).1 = statusSuccess ∨ (buffer.finish ev).1 = Driver.statusBufferTooSmall := by
  rw [Buffer.finish]
  split
  · exact Or.inr rfl
  · split
    · exact Or.inl rfl
    · exact Or.inl rfl

/-- A serializer that does not fail succeeds. -/
theorem serialize_of_ntSuccess (h : ntSuccess (o.1.serialize o.2).1 = true) :
    (o.1.serialize o.2).1 = statusSuccess := by
  have hstatus : (o.1.serialize o.2).1 = statusSuccess ∨
      (o.1.serialize o.2).1 = Driver.statusBufferTooSmall := by
    obtain ⟨occurrence, timestamp⟩ := o
    cases occurrence with
    | file eventType context =>
        simp only [Occurrence.serialize, serializeFileEvent]
        split
        · next hinvalid => cases hinvalid
        · split
          · exact Or.inr rfl
          · exact finish_status _ _
    | process processId createInfo cache block =>
        simp only [Occurrence.serialize, Driver.serializeProcessEvent]
        split
        · next hinvalid => cases hinvalid
        · split
          · exact Or.inr rfl
          · split
            · exact finish_status _ _
            · split
              · exact finish_status _ _
              · exact finish_status _ _
  refine hstatus.resolve_right fun hsmall => ?_
  rw [hsmall] at h
  exact absurd h (by decide)

theorem parsesTo_occurrence {unassigned : EventType}
    (hsuccess : (o.1.serialize o.2).1 = statusSuccess) :
    Kasvc.ParsesTo platform unassigned (o.1.serialize o.2).2.bytes
      (parsedOccurrence platform unassigned o) := by
  obtain ⟨occurrence, timestamp⟩ := o
  cases occurrence with
  | file eventType context =>
      exact Kasvc.parsesTo_serializeFileEvent eventType context timestamp hsuccess
  | process processId createInfo cache block =>
      obtain ⟨hstatus, hbytes⟩ :=
        Driver.serializeProcessEvent_spec processId createInfo cache block timestamp
      show Kasvc.ParsesTo platform unassigned (Driver.serializeProcessEvent (.new true) processId
        createInfo cache block timestamp).2.1.bytes _
      rw [hbytes hsuccess]
      exact Kasvc.parsesTo_process processId createInfo cache block timestamp
        (hstatus.mp hsuccess)

/-- A received message is in the buffer behind the header. -/
theorem carries_completion (b : ReceiveBuffer) :
    Carries (b.completion message).buffer payloadAt message := by
  have hbytes : firstBytes (memoryOf message) message.length = message :=
    firstBytes_of_carries (carries_memoryOf message)
  have hcopied : Carries (b.completion message).buffer payloadAt
      (firstBytes (memoryOf message) message.length) := carries_copy_firstBytes
  rwa [hbytes] at hcopied

/-- **One event.**  The service makes of the message of an occurrence the event of that
occurrence. -/
theorem parsed_of_readAs (hserializes : Serializes o message)
    (hread : ReadAs platform message event) :
    ∃ unassigned, event = parsedOccurrence platform unassigned o := by
  obtain ⟨hsuccess, rfl⟩ := hserializes
  obtain ⟨b, rfl⟩ := hread
  have hparses : Kasvc.ParsesTo platform b.unassigned _
      (parsedOccurrence platform b.unassigned o) := parsesTo_occurrence hsuccess
  have hparsed : (b.completion (o.1.serialize o.2).2.bytes).parsed platform =
      .ok (parsedOccurrence platform b.unassigned o) := (hparses _ (carries_completion b)).1
  refine ⟨b.unassigned, ?_⟩
  rw [Completion.event, hparsed]
  rfl

end

/-! ## The books -/

/-- Every message is that of an occurrence, and every queued event that of a message which is not
on its way any more. -/
structure DeliveryBooks (platform : Platform) (s : Delivery) (notes : List DeliveryNote) :
    Prop where
  crew : Kasvc.CrewOk s.service
  occurred : Stems Serializes (occurrences notes)
    (acceptedEvents (driverPart notes) + notifications notes : Multiset (List Byte))
  received : ∃ received : Multiset (List Byte),
    (messages (dispatcherPart (driverPart notes)) + notifications notes : Multiset (List Byte)) =
      received + s.inFlight ∧ Stems (ReadAs platform) received s.service.queued

section

variable {platform : Platform} {s t : Delivery} {notes : List DeliveryNote}

theorem init_deliveryBooks (outside : Memory) (freqHz : UINT64) (config : IOCPConfig)
    (workerThreadsCount : ℕ) :
    DeliveryBooks platform (.init outside freqHz config workerThreadsCount) [] where
  crew := Kasvc.construct_crewOk config workerThreadsCount
  occurred := .zero
  received := ⟨0, rfl, .zero⟩

section

variable {more : List DeliveryNote}

theorem occurrences_append :
    occurrences (notes ++ more) = occurrences notes ++ occurrences more := List.filterMap_append

theorem driverPart_append : driverPart (notes ++ more) = driverPart notes ++ driverPart more :=
  List.filterMap_append

theorem notifications_append :
    notifications (notes ++ more) = notifications notes ++ notifications more :=
  List.filterMap_append

/-- The notes of the driver are no others. -/
theorem driver_notes (items : List EnqueueNote) :
    occurrences (items.map .driver) = [] ∧ driverPart (items.map .driver) = items ∧
      notifications (items.map .driver) = [] ∧ servicePart (items.map .driver) = [] := by
  simp [occurrences, driverPart, notifications, servicePart, List.filterMap_map,
    Function.comp_def, DeliveryNote.occurred?, DeliveryNote.driver?, DeliveryNote.notified?,
    DeliveryNote.service?]

/-- Nor are those of the service. -/
theorem service_notes (items : List LoopNote) :
    occurrences (items.map .service) = [] ∧ driverPart (items.map .service) = [] ∧
      notifications (items.map .service) = [] ∧ servicePart (items.map .service) = items := by
  simp [occurrences, driverPart, notifications, servicePart, List.filterMap_map,
    Function.comp_def, DeliveryNote.occurred?, DeliveryNote.driver?, DeliveryNote.notified?,
    DeliveryNote.service?]

end

/-- Only an `Enqueue` call accepts an event. -/
theorem acceptedBy_driver {action : DispatcherAction} (hne : ¬isEnqueue action = true) :
    acceptedBy s.driver action = [] := by
  cases action with
  | enqueue request => exact absurd rfl hne
  | _ => rfl

/-- The request of a file has its event, or none. -/
theorem fileRequest_events (eventType : Driver.EventType) (context : StreamHandleContext)
    (timestamp : UINT64) (allocated : Bool) :
    (fileRequest eventType context timestamp allocated).events = [] ∨
      ∃ message, (fileRequest eventType context timestamp allocated).events = [message] ∧
        Serializes (.file eventType context, timestamp) message := by
  cases allocated with
  | false => exact Or.inl rfl
  | true =>
      obtain ⟨result, hresult⟩ : ∃ result,
        serializeFileEvent (.new true) eventType context timestamp = result := ⟨_, rfl⟩
      have hserialize : Occurrence.serialize timestamp (.file eventType context) = result := hresult
      rw [fileRequest, show (Buffer.new true).valid = true from rfl, Bool.not_true,
        if_neg Bool.false_ne_true]
      dsimp only
      rw [hresult]
      cases hstatus : ntSuccess result.1 with
      | false => exact Or.inl rfl
      | true =>
          rw [Bool.not_true, if_neg Bool.false_ne_true]
          split
          · next hpos =>
              have hsuccess : (Occurrence.serialize timestamp (.file eventType context)).1 =
                  statusSuccess :=
                serialize_of_ntSuccess (o := (.file eventType context, timestamp))
                  (by rw [hserialize]; exact hstatus)
              have hsize := Occurrence.currentSize_serialize hsuccess
              have hlength := Occurrence.length_serialize hsuccess
              rw [hserialize] at hsize hlength
              refine Or.inr ⟨result.2.bytes, ?_, hsuccess, congrArg (·.2.bytes) hserialize⟩
              show [firstBytes (memoryOf result.2.bytes) result.2.currentSize.toNat] = _
              rw [hsize, ← hlength, firstBytes_of_carries (carries_memoryOf _)]
          · exact Or.inl rfl

/-- What `OnProcessNotify` sends is the event of the notification. -/
theorem notify_serializes {cache : ProcessCache} {n : Notification} {message : List Byte}
    (hmessage : (onProcessNotify cache n).1 = some message) :
    Serializes (.process n.processId n.createInfo cache n.block, n.timestamp) message := by
  rw [onProcessNotify] at hmessage
  cases hallocated : n.allocated with
  | false =>
      rw [hallocated] at hmessage
      cases hmessage
  | true =>
      rw [hallocated, show (Buffer.new true).valid = true from rfl, Bool.not_true,
        if_neg Bool.false_ne_true] at hmessage
      dsimp only at hmessage
      split at hmessage
      · cases hmessage
      · next hfail =>
          have hstatus : ntSuccess (Driver.serializeProcessEvent (.new true) n.processId
              n.createInfo cache n.block n.timestamp).1 = true := by simpa using hfail
          split at hmessage
          · cases hmessage
          · cases hmessage
            exact ⟨serialize_of_ntSuccess
              (o := (.process n.processId n.createInfo cache n.block, n.timestamp)) hstatus, rfl⟩

/-- The driver takes a step, with the occurrences of what it accepts. -/
theorem DeliveryBooks.ofDriver (h : DeliveryBooks platform s notes) {action : DispatcherAction}
    {first : List DeliveryNote} (hservice : t.service = s.service)
    (hsent : t.inFlight = s.inFlight ++ messages (dispatcherNotes s.driver action))
    (hdriver : driverPart first = []) (hnotified : notifications first = [])
    (hoccurred : Stems Serializes (occurrences first)
      (acceptedBy s.driver action : Multiset (List Byte))) :
    DeliveryBooks platform t
      (notes ++ (first ++ (enqueueNotes s.driver action).map .driver)) := by
  obtain ⟨hoccurrences, hpart, hnotifications, -⟩ := driver_notes (enqueueNotes s.driver action)
  have hoccurrences : occurrences (notes ++ (first ++ (enqueueNotes s.driver action).map .driver)) =
      occurrences notes ++ occurrences first := by
    rw [occurrences_append, occurrences_append, hoccurrences, List.append_nil]
  have hnotifications :
      notifications (notes ++ (first ++ (enqueueNotes s.driver action).map .driver)) =
        notifications notes := by
    rw [notifications_append, notifications_append, hnotifications, hnotified,
      List.append_nil, List.append_nil]
  have hpart : driverPart (notes ++ (first ++ (enqueueNotes s.driver action).map .driver)) =
      driverPart notes ++ enqueueNotes s.driver action := by
    rw [driverPart_append, driverPart_append, hpart, hdriver, List.nil_append]
  constructor
  · rw [hservice]
    exact h.crew
  · rw [hoccurrences, hnotifications, hpart, Driver.acceptedEvents_append, ← Multiset.coe_add,
      ← Multiset.coe_add, add_right_comm]
    exact h.occurred.add hoccurred
  · obtain ⟨received, hmessages, hqueued⟩ := h.received
    refine ⟨received, ?_, by rwa [hservice]⟩
    have happend :
        messages (dispatcherPart (driverPart notes) ++ dispatcherNotes s.driver action) =
          messages (dispatcherPart (driverPart notes)) ++
            messages (dispatcherNotes s.driver action) := List.filterMap_append
    rw [hnotifications, hpart, Driver.dispatcherPart_append, happend, hsent, ← Multiset.coe_add,
      ← Multiset.coe_add, add_right_comm, hmessages, add_assoc]

/-- A callback passes a file to `Enqueue`. -/
theorem DeliveryBooks.file (h : DeliveryBooks platform s notes) (eventType : Driver.EventType)
    (context : StreamHandleContext) (timestamp : UINT64) (allocated : Bool)
    (driver : DispatcherMachine) :
    DeliveryBooks platform { s with driver := driver }
      (notes ++ deliveryNotes s (.file eventType context timestamp allocated)) := by
  rw [deliveryNotes]
  refine h.ofDriver rfl (List.append_nil _).symm ?_ ?_ ?_
  · exact List.filterMap_eq_nil_iff.mpr fun note hnote => by
      obtain ⟨_, -, rfl⟩ := List.mem_map.mp hnote
      rfl
  · exact List.filterMap_eq_nil_iff.mpr fun note hnote => by
      obtain ⟨_, -, rfl⟩ := List.mem_map.mp hnote
      rfl
  · rw [acceptedBy]
    split
    · rcases fileRequest_events eventType context timestamp allocated with
        hnone | ⟨message, hone, hserializes⟩
      · rw [hnone]
        exact .zero
      · rw [hone]
        exact .singleton hserializes
    · exact .zero

/-- `OnProcessNotify` sends the event of a process. -/
theorem DeliveryBooks.notify (h : DeliveryBooks platform s notes) (n : Notification) :
    DeliveryBooks platform
      { s with
        cache := (onProcessNotify s.cache n).2
        inFlight := s.inFlight ++ (onProcessNotify s.cache n).1.toList }
      (notes ++ deliveryNotes s (.notify n)) := by
  obtain ⟨received, hmessages, hqueued⟩ := h.received
  rw [deliveryNotes]
  cases hmessage : (onProcessNotify s.cache n).1 with
  | none =>
      rw [List.append_nil]
      refine ⟨h.crew, h.occurred, received, hmessages.trans ?_, hqueued⟩
      show received + (s.inFlight : Multiset (List Byte)) =
        received + ((s.inFlight ++ [] : List (List Byte)) : Multiset (List Byte))
      rw [List.append_nil]
  | some message =>
      have hserializes := notify_serializes hmessage
      have hoccurrences : occurrences [DeliveryNote.occurred (.process n.processId n.createInfo
          s.cache n.block) n.timestamp, .notified message] =
          [(.process n.processId n.createInfo s.cache n.block, n.timestamp)] := rfl
      have hdriver : driverPart [DeliveryNote.occurred (.process n.processId n.createInfo
          s.cache n.block) n.timestamp, .notified message] = [] := rfl
      have hnotified : notifications [DeliveryNote.occurred (.process n.processId n.createInfo
          s.cache n.block) n.timestamp, .notified message] = [message] := rfl
      refine ⟨h.crew, ?_, received, ?_, hqueued⟩
      · rw [occurrences_append, driverPart_append, notifications_append, hoccurrences, hdriver,
          hnotified, List.append_nil, ← Multiset.coe_add, ← Multiset.coe_add, ← add_assoc]
        exact h.occurred.add (.singleton hserializes)
      · rw [driverPart_append, notifications_append, hdriver, hnotified, List.append_nil,
          Option.toList_some, ← Multiset.coe_add, ← Multiset.coe_add, ← add_assoc, hmessages,
          add_assoc]

/-- A message leaves those on their way. -/
theorem coe_eraseIdx {message : List Byte} {k : ℕ} (hk : s.inFlight[k]? = some message) :
    (s.inFlight : Multiset (List Byte)) =
      {message} + (s.inFlight.eraseIdx k : List (List Byte)) := by
  obtain ⟨hlt, hget⟩ := List.getElem?_eq_some_iff.mp hk
  have hperm := List.getElem_cons_eraseIdx_perm hlt
  rw [hget] at hperm
  exact (Multiset.coe_eq_coe.mpr hperm).symm

/-- A worker of the receiver queues the event of the message that it was given, or nothing. -/
theorem DeliveryBooks.deliver (h : DeliveryBooks platform s notes) {k : ℕ} {b : ReceiveBuffer}
    {message : List Byte} {service : EventLoops} (hk : s.inFlight[k]? = some message)
    (hservice : loopsStep platform s.service (.complete (b.completion message)) = some service) :
    DeliveryBooks platform { s with inFlight := s.inFlight.eraseIdx k, service := service }
      notes := by
  obtain ⟨received, hmessages, hqueued⟩ := h.received
  refine ⟨h.crew.step hservice, h.occurred, received + {message}, ?_, ?_⟩
  · rw [hmessages, coe_eraseIdx hk, add_assoc]
  · obtain ⟨-, rfl⟩ := Kasvc.loopsStep_complete hservice
    show Stems _ _ ((Kasvc.processCompletedIo platform s.service.receiver.path
      (b.completion message)).queued : Multiset Event)
    rw [Kasvc.processCompletedIo]
    dsimp only
    split
    · rw [← Multiset.coe_add]
      exact hqueued.add (.singleton ⟨b, rfl⟩)
    · exact hqueued.mono_left (Multiset.le_add_right _ _)

/-- The Filter Manager gives a message up. -/
theorem DeliveryBooks.lose (h : DeliveryBooks platform s notes) (k : ℕ) :
    DeliveryBooks platform { s with inFlight := s.inFlight.eraseIdx k } notes := by
  obtain ⟨received, hmessages, hqueued⟩ := h.received
  refine ⟨h.crew, h.occurred, ?_⟩
  cases hk : s.inFlight[k]? with
  | none =>
      rw [List.eraseIdx_of_length_le (List.getElem?_eq_none_iff.mp hk)]
      exact ⟨received, hmessages, hqueued⟩
  | some message =>
      refine ⟨received + {message}, ?_, hqueued.mono_left (Multiset.le_add_right _ _)⟩
      rw [hmessages, coe_eraseIdx hk, add_assoc]

/-- The service takes a step. -/
theorem DeliveryBooks.service (h : DeliveryBooks platform s notes) {action : LoopsAction}
    {service : EventLoops} (hother : ¬isComplete action = true)
    (hservice : loopsStep platform s.service action = some service) :
    DeliveryBooks platform { s with service := service }
      (notes ++ deliveryNotes s (.service action)) := by
  have hqueued : service.queued = s.service.queued :=
    Kasvc.queued_of_step h.crew (fun c hc => hother (by rw [hc]; rfl)) hservice
  obtain ⟨hoccurred, hdriver, hnotified, -⟩ := service_notes (loopNotes s.service action)
  refine ⟨h.crew.step hservice, ?_, ?_⟩
  · rw [deliveryNotes, occurrences_append, driverPart_append, notifications_append, hoccurred,
      hdriver, hnotified, List.append_nil, List.append_nil, List.append_nil]
    exact h.occurred
  · rw [deliveryNotes, driverPart_append, notifications_append, hdriver, hnotified,
      List.append_nil, List.append_nil]
    show ∃ received, _ ∧ Stems (ReadAs platform) received (service.queued : Multiset Event)
    rw [hqueued]
    exact h.received

/-- **Step lemma for the delivery.** -/
theorem DeliveryBooks.step (h : DeliveryBooks platform s notes) {action : DeliveryAction}
    (hstep : deliveryStep platform s action = some t) :
    DeliveryBooks platform t (notes ++ deliveryNotes s action) := by
  cases deliveryMove_of_step hstep with
  | file eventType context timestamp allocated driver _ =>
      exact h.file eventType context timestamp allocated driver
  | notify n _ => exact h.notify n
  | driver action driver hother _ =>
      refine @DeliveryBooks.ofDriver platform s _ notes h action [] rfl rfl rfl rfl ?_
      rw [acceptedBy_driver hother]
      exact .zero
  | deliver k b message service hk _ hservice =>
      rw [deliveryNotes, List.append_nil]
      exact h.deliver hk hservice
  | lose k =>
      rw [deliveryNotes, List.append_nil]
      exact h.lose k
  | service action service hother hservice => exact h.service hother hservice

/-- The driver's share in a step of the system is a run of the driver. -/
theorem driver_step {action : DeliveryAction} (horderly : DeliveryOrderly s action)
    (hstep : deliveryStep platform s action = some t) :
    RecordedRun dispatcherStep enqueueNotes RingOrderly s.driver
      (t.driver, driverPart (deliveryNotes s action)) := by
  cases deliveryMove_of_step hstep with
  | file eventType context timestamp allocated driver hdriver =>
      have hnone : driverPart ((acceptedBy s.driver (.enqueue
          (fileRequest eventType context timestamp allocated))).map fun _ =>
            DeliveryNote.occurred (.file eventType context) timestamp) = [] := by
        rw [driverPart, List.filterMap_map]
        exact List.filterMap_eq_nil_iff.mpr fun _ _ => rfl
      rw [deliveryNotes, driverPart_append, hnone, (driver_notes _).2.1]
      exact Run.recorded_single trivial hdriver
  | notify n _ =>
      rw [deliveryNotes]
      split
      · exact .refl
      · exact .refl
  | driver action driver _ hdriver =>
      rw [deliveryNotes, (driver_notes _).2.1]
      exact Run.recorded_single horderly hdriver
  | deliver _ _ _ _ _ _ _ | lose _ => exact .refl
  | service action service _ _ =>
      rw [deliveryNotes, (service_notes _).2.1]
      exact .refl

/-- So is the service's share. -/
theorem service_step {action : DeliveryAction} (hstep : deliveryStep platform s action = some t) :
    RecordedRun (loopsStep platform) loopNotes (fun _ _ => True) s.service
      (t.service, servicePart (deliveryNotes s action)) := by
  cases deliveryMove_of_step hstep with
  | file eventType context timestamp allocated _ _ =>
      have hnone : servicePart ((acceptedBy s.driver (.enqueue
          (fileRequest eventType context timestamp allocated))).map fun _ =>
            DeliveryNote.occurred (.file eventType context) timestamp) = [] := by
        rw [servicePart, List.filterMap_map]
        exact List.filterMap_eq_nil_iff.mpr fun _ _ => rfl
      have hnotes : servicePart (deliveryNotes s (.file eventType context timestamp allocated)) =
          [] := by
        rw [deliveryNotes, servicePart, List.filterMap_append]
        exact congrArg₂ (· ++ ·) hnone (driver_notes _).2.2.2
      rw [hnotes]
      exact .refl
  | notify n _ =>
      rw [deliveryNotes]
      split
      · exact .refl
      · exact .refl
  | driver action _ _ _ =>
      rw [deliveryNotes, (driver_notes _).2.2.2]
      exact .refl
  | deliver _ _ _ _ _ _ hservice => exact Run.recorded_single trivial hservice
  | lose _ => exact .refl
  | service action service _ hservice =>
      rw [deliveryNotes, (service_notes _).2.2.2]
      exact Run.recorded_single trivial hservice

end

/-- The event is that of the occurrence, but for its type, which the parser does not set. -/
def Reports (platform : Platform) (o : Occurrence × UINT64) (event : Event) : Prop :=
  ∃ unassigned, event = parsedOccurrence platform unassigned o

/-- A file, opened by process 7. -/
private def openedBySeven : StreamHandleContext where
  processId := 7#64
  processPath := ⟨[112#16], by decide⟩
  filePath := ⟨[102#16], by decide⟩
  fileIoStatus := .opened
  isDirectory := false
  isOpenedForExecution := false
  deleteOnClose := false
  dispositionDelete := false
  dispositionRename := false
  wasChanged := false
  wasRead := false
  readOnly := false

private def emptyBuffer : ReceiveBuffer where
  before := fun _ => 0
  latency := 1
  unassigned := .hostLog
  defaulted := ⟨.hostLog, .fileEvent, 0, 0, false, .file ⟨.create, 0, [], []⟩⟩

/-- A file is renamed, and while its event is in the ring a process terminates; the two messages are
received in the other order. -/
private def fileAndProcess : List DeliveryAction :=
  [DeliveryAction.service .start, .service (.connect .success), .service .control,
    .service .control, .service .control, .driver (.connect 1), .driver .link,
    .file .fileRename openedBySeven 30#64 true, .driver (.enqueuer 0)] ++
    List.replicate 17 (DeliveryAction.driver (.producer 0)) ++
    [DeliveryAction.notify ⟨9#64, none, true, none, 50#64, true⟩, .driver .wake] ++
    List.replicate 11 (DeliveryAction.driver .worker) ++
    [DeliveryAction.deliver 1 emptyBuffer, .deliver 0 emptyBuffer] ++
    List.replicate 3 (DeliveryAction.service (.loop 0)) ++
    [DeliveryAction.service (.publish 0 false)] ++
    List.replicate 5 (DeliveryAction.service (.loop 0)) ++
    [DeliveryAction.service (.publish 0 false)]

end Kawin.EndToEnd
