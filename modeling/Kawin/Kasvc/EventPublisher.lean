import Kawin.Kasvc.ParserBounds

/-!
# The event publisher

A parsed event goes through the event queue and the enricher, which copy it, to
`FeederEventPublisher::Publish`.  There `IsAlert` decides whether it is converted to an
`Alert` for the alert subscribers or to a `Log` for the log subscribers.

`IsAlert` tests the field `type` of the event, and no code assigns that field: the parser reads
the event's type nowhere.  The conversion prints the time of the event by `gmtime`, whose null
pointer for a time it cannot represent is not tested, and goes by the tag of the event to the
data, which may be null as well.  A null pointer that is dereferenced is `none` here.

The parser sets the tag and the data together (`selects_of_parseMessage`).  `routed_iff` says what
is left: an event reaches the subscribers that its message calls for exactly when its time can be
printed and the field happens to hold the right value.
-/

namespace Kawin.Kasvc

open ByteMemory

/-! ## `data::Event` -/

namespace Event

variable (event : Event)

def isAlert : Bool := event.type == .matchHostPolicy

def isFileEvent : Bool := event.operationType == .fileEvent

def isProcessEvent : Bool := event.operationType == .processEvent

def isNetworkEvent : Bool := event.operationType == .networkEvent

def getFileData : Option FileEventData :=
  match event.data with
  | .file data => some data
  | _ => none

def getProcessData : Option ProcessEventData :=
  match event.data with
  | .process data => some data
  | _ => none

def getNetworkData : Option NetworkEventData :=
  match event.data with
  | .network data => some data
  | _ => none

/-- What the conversions dereference is there. -/
structure HasData : Prop where
  file : event.isFileEvent = true → event.getFileData.isSome = true
  process : event.isProcessEvent = true → event.getProcessData.isSome = true

/-- The tag selects the alternative that the variant holds. -/
structure Selects : Prop extends HasData event where
  network : event.isNetworkEvent = true → event.getNetworkData.isSome = true

instance : Decidable event.HasData :=
  decidable_of_iff ((event.isFileEvent = true → event.getFileData.isSome = true) ∧
    (event.isProcessEvent = true → event.getProcessData.isSome = true))
    ⟨fun h => ⟨h.1, h.2⟩, fun h => ⟨h.file, h.process⟩⟩

end Event

/-! ## From the parser to the publisher -/

/-- `EventProcessor::Enrich`. -/
def enrich (event : Event) : Event := event

/-- The event that `ProcessCompletedIO` queues: the parsed one, or a default one where the
message cannot be parsed. -/
def queuedEvent (defaulted : Event) (parsed : Except String Event) : Event :=
  match parsed with
  | .ok event => event
  | .error _ => defaulted

/-! ## Alerts and logs -/

/-- `std::tm`, as far as the format prints it. -/
structure Tm where
  year : ℕ
  month : ℕ
  day : ℕ
  hour : ℕ
  minute : ℕ
  second : ℕ
  deriving DecidableEq

/-- `gmtime` of the platform, on seconds since the epoch.  The null pointer that it returns for a
time it cannot represent is `none`. -/
structure Calendar where
  gmtime : ℤ → Option Tm

def twoDigits (n : ℕ) : String := if n < 10 then "0" ++ toString n else toString n

/-- `put_time` with the format `%Y-%m-%dT%H:%M:%SZ`, of a pointer that is not null. -/
def putTime (tm : Tm) : String :=
  toString tm.year ++ "-" ++ twoDigits tm.month ++ "-" ++ twoDigits tm.day ++ "T" ++
    twoDigits tm.hour ++ ":" ++ twoDigits tm.minute ++ ":" ++ twoDigits tm.second ++ "Z"

/-- The Gregorian calendar from 1970 through the year 3000, which is what `gmtime` of Windows
represents. -/
def windowsCalendar : Calendar where
  gmtime
    | .negSucc _ => none
    | .ofNat seconds =>
        -- the years begin in March, so that the leap day is the last of its year
        let day := seconds / 86400 + 719468
        let ofEra := day % 146097
        let yearOfEra := (ofEra - ofEra / 1460 + ofEra / 36524 - ofEra / 146096) / 365
        let ofYear := ofEra - (365 * yearOfEra + yearOfEra / 4 - yearOfEra / 100)
        let fromMarch := (5 * ofYear + 2) / 153
        let month := if fromMarch < 10 then fromMarch + 3 else fromMarch - 9
        let year := yearOfEra + day / 146097 * 400 + if month ≤ 2 then 1 else 0
        if year ≤ 3000 then
          some ⟨year, month, ofYear - (153 * fromMarch + 2) / 5 + 1, seconds / 3600 % 24,
            seconds / 60 % 60, seconds % 60⟩
        else none

/-- `ToUnixTimestamp`, whose cast rounds towards zero. -/
def toUnixTimestamp (tp : TimePoint) : ℤ := tp.toInt.tdiv 10000000

/-- An `int32` field set from a `uint32_t`. -/
def int32 (n : ℕ) : ℤ := (BitVec.ofNat 32 n).toInt

/-- The fields that alerts and logs have in common. -/
structure Telemetry where
  timestamp : ℤ
  updatedTime : String
  clusterName : String
  hostName : String
  namespaceName : String := ""
  podName : String := ""
  containerId : String := ""
  containerName : String := ""
  containerImage : String := ""
  operation : String := ""
  hostPpid : ℤ := 0
  hostPid : ℤ := 0
  ppid : ℤ := 0
  pid : ℤ := 0
  parentProcessName : List Byte := []
  processName : List Byte := []
  resource : List Byte := []
  source : List Byte := []
  data : String := ""
  deriving DecidableEq

/-- `feeder::Alert`. -/
structure Alert where
  telemetry : Telemetry
  policyName : String
  severity : String
  action : String
  result : String
  type : String
  message : String
  deriving DecidableEq

/-- `feeder::Log`. -/
structure Log where
  telemetry : Telemetry
  type : String
  result : String
  deriving DecidableEq

structure StreamFilter where
  types : List String
  namespaces : List String
  processIds : List ℕ
  blockedOnly : Bool

structure Subscriber where
  id : ℕ
  filter : StreamFilter
  active : Bool

/-- The subscribers of one stream, by ascending id, and its counter. -/
structure Stream where
  subscribers : List Subscriber
  published : BitVec 64

structure FeederEventPublisher where
  clusterName : String
  hostName : String
  calendar : Calendar
  alerts : Stream
  logs : Stream
  eventsDropped : BitVec 64

namespace FeederEventPublisher

/-- `ToFormattedTime`.  `put_time` dereferences what `gmtime` returns: where that is a null pointer,
nothing is returned any more. -/
def toFormattedTime (publisher : FeederEventPublisher) (tp : TimePoint) :
    Option String :=
  (publisher.calendar.gmtime (toUnixTimestamp tp)).map putTime

/-- `ConvertToAlert`. -/
def convertToAlert (publisher : FeederEventPublisher) (event : Event) : Option Alert := do
  let updatedTime ← publisher.toFormattedTime event.timestamp
  let alert : Telemetry :=
    { timestamp := toUnixTimestamp event.timestamp
      updatedTime := updatedTime
      clusterName := publisher.clusterName
      hostName := publisher.hostName
      namespaceName := ""
      podName := ""
      containerId := ""
      containerName := ""
      containerImage := "" }
  let alert ←
    if event.isFileEvent then do
      let fe ← event.getFileData
      let opStr :=
        match fe.operation with
        | .create => "Create"
        | .read => "Read"
        | .write => "Write"
        | .delete => "Delete"
        | .rename => "Rename"
        | .setInfo => "SetInfo"
        | .cleanup => "Cleanup"
        | .close => "Close"
        | .other _ => "Unknown"
      pure { alert with
        operation := "File"
        hostPid := int32 fe.processId
        pid := int32 fe.processId
        processName := fe.processPath
        parentProcessName := []
        resource := fe.filePath
        source := fe.processPath
        data := "Event=" ++ opStr }
    else if event.isProcessEvent then do
      let pe ← event.getProcessData
      let opStr :=
        match pe.operation with
        | .create => "Create"
        | .terminate => "Terminate"
        | .openHandle => "OpenHandle"
        | .duplicateHandle => "DuplicateHandle"
        | .other _ => "Unknown"
      pure { alert with
        operation := "Process"
        hostPid := int32 pe.processId
        pid := int32 pe.processId
        ppid := int32 pe.parentProcessId
        hostPpid := int32 pe.parentProcessId
        processName := pe.processPath
        parentProcessName := pe.parentProcessPath
        resource := pe.processPath
        source := pe.commandLine
        data := "Event=" ++ opStr }
    else if event.isNetworkEvent then pure { alert with operation := "Network" }
    else pure alert
  return {
    telemetry := alert
    policyName := ""
    severity := ""
    action := if event.blocked then "Block" else "Audit"
    result := if event.blocked then "Permission denied" else "Passed"
    type := "MatchedPolicy"
    message := "" }

/-- `ConvertToLog`. -/
def convertToLog (publisher : FeederEventPublisher) (event : Event) : Option Log := do
  let updatedTime ← publisher.toFormattedTime event.timestamp
  let log : Telemetry :=
    { timestamp := toUnixTimestamp event.timestamp
      updatedTime := updatedTime
      clusterName := publisher.clusterName
      hostName := publisher.hostName
      namespaceName := ""
      podName := ""
      containerId := ""
      containerName := ""
      containerImage := "" }
  let log ←
    if event.isFileEvent then do
      let fe ← event.getFileData
      let opStr :=
        match fe.operation with
        | .create => "Create"
        | .read => "Read"
        | .write => "Write"
        | .delete => "Delete"
        | .rename => "Rename"
        | .setInfo => "SetInfo"
        | .cleanup => "Cleanup"
        | .close => "Close"
        | .other _ => "Unknown"
      pure { log with
        operation := "File"
        hostPid := int32 fe.processId
        pid := int32 fe.processId
        processName := fe.processPath
        parentProcessName := []
        resource := fe.filePath
        source := fe.processPath
        data := "Event=" ++ opStr }
    else if event.isProcessEvent then do
      let pe ← event.getProcessData
      let opStr :=
        match pe.operation with
        | .create => "Create"
        | .terminate => "Terminate"
        | .openHandle => "OpenHandle"
        | .duplicateHandle => "DuplicateHandle"
        | .other _ => "Unknown"
      pure { log with
        operation := "Process"
        hostPid := int32 pe.processId
        pid := int32 pe.processId
        ppid := int32 pe.parentProcessId
        hostPpid := int32 pe.parentProcessId
        processName := pe.processPath
        parentProcessName := pe.parentProcessPath
        resource := pe.processPath
        source := pe.commandLine
        data := "Event=" ++ opStr }
    else if event.isNetworkEvent then pure { log with operation := "Network" }
    else pure log
  return {
    telemetry := log
    type := "HostLog"
    result := if event.blocked then "Blocked" else "Passed" }

end FeederEventPublisher

/-! ## Publishing -/

/-- What a call of `Write` comes to. -/
inductive WriteOutcome
  | written | refused | threw
  deriving DecidableEq

/-- A call of `Write` on a subscriber. -/
inductive StreamWrite
  | alert (subscriber : ℕ) (alert : Alert)
  | log (subscriber : ℕ) (log : Log)
  deriving DecidableEq

/-- `ShouldSendToSubscriber`. -/
def shouldSendToSubscriber (_ : Event) (_ : StreamFilter) : Bool := true

/-- The subscribers that the loop of `Publish` writes to. -/
def Stream.receivers (stream : Stream) (event : Event) : List Subscriber :=
  stream.subscribers.filter fun subscriber =>
    subscriber.active && shouldSendToSubscriber event subscriber.filter

/-- The stream after the loop: who could not be written to is not active any more. -/
def Stream.publish (stream : Stream) (event : Event) (outcome : ℕ → WriteOutcome) :
    Stream × ℕ :=
  let receives (subscriber : Subscriber) : Bool :=
    subscriber.active && shouldSendToSubscriber event subscriber.filter
  let written := (stream.receivers event).countP fun subscriber => outcome subscriber.id = .written
  ({ subscribers := stream.subscribers.map fun subscriber =>
        { subscriber with
          active := subscriber.active &&
            !(receives subscriber && outcome subscriber.id ≠ .written) }
     published := stream.published + BitVec.ofNat 64 written },
    (stream.receivers event).length - written)

/-- `Publish`, with the writes it makes in their order.  The event is converted before the loop, so
that no write is made where the conversion does not return. -/
def FeederEventPublisher.publish (publisher : FeederEventPublisher) (event : Event)
    (outcome : ℕ → WriteOutcome) : Option (FeederEventPublisher × List StreamWrite) :=
  if event.isAlert then
    (publisher.convertToAlert event).map fun alert =>
      let (alerts, dropped) := publisher.alerts.publish event outcome
      ({ publisher with
          alerts := alerts
          eventsDropped := publisher.eventsDropped + BitVec.ofNat 64 dropped },
        (publisher.alerts.receivers event).map fun subscriber => .alert subscriber.id alert)
  else
    (publisher.convertToLog event).map fun log =>
      let (logs, dropped) := publisher.logs.publish event outcome
      ({ publisher with
          logs := logs
          eventsDropped := publisher.eventsDropped + BitVec.ofNat 64 dropped },
        (publisher.logs.receivers event).map fun subscriber => .log subscriber.id log)

/-! ## Routing -/

/-- From the receive buffer to the publisher, with the writes made in their order. -/
def publishReceived (platform : Platform) (unassigned : EventType) (defaulted : Event) (m : Memory)
    (bytesTransferred : ℕ) (publisher : FeederEventPublisher) (outcome : ℕ → WriteOutcome) :
    Option (FeederEventPublisher × List StreamWrite) :=
  publisher.publish
    (enrich (queuedEvent defaulted (parse platform unassigned (some m) bytesTransferred))) outcome

/-- The ids of the active subscribers. -/
def Stream.activeIds (stream : Stream) : List ℕ :=
  (stream.subscribers.filter (·.active)).map (·.id)

/-- `Publish` returns, and its writes bring the event to every active alert subscriber and to nobody
else. -/
def ToAlerts (publisher : FeederEventPublisher) (event : Event)
    (published : Option (FeederEventPublisher × List StreamWrite)) : Prop :=
  ∃ alert, publisher.convertToAlert event = some alert ∧
    published.map Prod.snd = some (publisher.alerts.activeIds.map fun id => .alert id alert)

/-- `Publish` returns, and its writes bring the event to every active log subscriber and to nobody
else. -/
def ToLogs (publisher : FeederEventPublisher) (event : Event)
    (published : Option (FeederEventPublisher × List StreamWrite)) : Prop :=
  ∃ log, publisher.convertToLog event = some log ∧
    published.map Prod.snd = some (publisher.logs.activeIds.map fun id => .log id log)

/-- `KernelEventType::MATCH_HOST_POLICY`. -/
def matchHostPolicyCode : ℕ := 2

/-- The event of the message goes where the type in the message says. -/
def RoutedByType (m : Memory) (publisher : FeederEventPublisher) (event : Event)
    (published : Option (FeederEventPublisher × List StreamWrite)) : Prop :=
  if readNat m eventTypeAt 4 = matchHostPolicyCode then ToAlerts publisher event published
  else ToLogs publisher event published

/-- `gmtime` returns no null pointer for the second of the time point. -/
def Calendar.Represents (calendar : Calendar) (tp : TimePoint) : Prop :=
  (calendar.gmtime (toUnixTimestamp tp)).isSome

instance (calendar : Calendar) (tp : TimePoint) : Decidable (calendar.Represents tp) := by
  unfold Calendar.Represents; infer_instance

variable {platform : Platform} {unassigned : EventType} {defaulted event : Event} {m : Memory}
  {bytesTransferred : ℕ} {publisher : FeederEventPublisher} {outcome : ℕ → WriteOutcome}

/-! ## What the conversions have in common -/

/-- The names of the file operations. -/
def FileOperation.text : FileOperation → String
  | .create => "Create"
  | .read => "Read"
  | .write => "Write"
  | .delete => "Delete"
  | .rename => "Rename"
  | .setInfo => "SetInfo"
  | .cleanup => "Cleanup"
  | .close => "Close"
  | .other _ => "Unknown"

/-- The names of the process operations. -/
def ProcessOperation.text : ProcessOperation → String
  | .create => "Create"
  | .terminate => "Terminate"
  | .openHandle => "OpenHandle"
  | .duplicateHandle => "DuplicateHandle"
  | .other _ => "Unknown"

/-- The common fields, as far as the event has any. -/
def Event.telemetry (event : Event) (common : Telemetry) : Option Telemetry :=
  match event.operationType with
  | .fileEvent =>
      event.getFileData.map fun fe =>
        { common with
          operation := "File"
          hostPid := int32 fe.processId
          pid := int32 fe.processId
          processName := fe.processPath
          parentProcessName := []
          resource := fe.filePath
          source := fe.processPath
          data := "Event=" ++ fe.operation.text }
  | .processEvent =>
      event.getProcessData.map fun pe =>
        { common with
          operation := "Process"
          hostPid := int32 pe.processId
          pid := int32 pe.processId
          ppid := int32 pe.parentProcessId
          hostPpid := int32 pe.parentProcessId
          processName := pe.processPath
          parentProcessName := pe.parentProcessPath
          resource := pe.processPath
          source := pe.commandLine
          data := "Event=" ++ pe.operation.text }
  | .networkEvent => some { common with operation := "Network" }

/-- What `ConvertToAlert` and `ConvertToLog` both put into the common fields. -/
def FeederEventPublisher.telemetry (publisher : FeederEventPublisher) (event : Event) :
    Option Telemetry :=
  (publisher.toFormattedTime event.timestamp).bind fun updatedTime =>
    event.telemetry
      { timestamp := toUnixTimestamp event.timestamp
        updatedTime := updatedTime
        clusterName := publisher.clusterName
        hostName := publisher.hostName }

theorem convertToAlert_eq (publisher : FeederEventPublisher) (event : Event) :
    publisher.convertToAlert event = (publisher.telemetry event).map fun telemetry =>
      { telemetry := telemetry
        policyName := ""
        severity := ""
        action := if event.blocked then "Block" else "Audit"
        result := if event.blocked then "Permission denied" else "Passed"
        type := "MatchedPolicy"
        message := "" } := by
  rcases event with ⟨type, operationType, eventId, timestamp, blocked, data⟩
  rw [FeederEventPublisher.convertToAlert, FeederEventPublisher.telemetry]
  cases publisher.toFormattedTime timestamp with
  | none => rfl
  | some updatedTime =>
      cases operationType with
      | fileEvent =>
          cases data with
          | file fe =>
              cases fe with
              | mk operation => cases operation <;> rfl
          | _ => rfl
      | processEvent =>
          cases data with
          | process pe =>
              cases pe with
              | mk operation => cases operation <;> rfl
          | _ => rfl
      | networkEvent => rfl

theorem convertToLog_eq (publisher : FeederEventPublisher) (event : Event) :
    publisher.convertToLog event = (publisher.telemetry event).map fun telemetry =>
      { telemetry := telemetry
        type := "HostLog"
        result := if event.blocked then "Blocked" else "Passed" } := by
  rcases event with ⟨type, operationType, eventId, timestamp, blocked, data⟩
  rw [FeederEventPublisher.convertToLog, FeederEventPublisher.telemetry]
  cases publisher.toFormattedTime timestamp with
  | none => rfl
  | some updatedTime =>
      cases operationType with
      | fileEvent =>
          cases data with
          | file fe =>
              cases fe with
              | mk operation => cases operation <;> rfl
          | _ => rfl
      | processEvent =>
          cases data with
          | process pe =>
              cases pe with
              | mk operation => cases operation <;> rfl
          | _ => rfl
      | networkEvent => rfl

theorem isSome_event_telemetry {common : Telemetry} :
    (event.telemetry common).isSome ↔ event.HasData := by
  rcases event with ⟨type, operationType, eventId, timestamp, blocked, data⟩
  cases operationType with
  | fileEvent =>
      rw [Event.telemetry, Option.isSome_map]
      exact ⟨fun h => ⟨fun _ => h, (by cases ·)⟩, fun h => h.file rfl⟩
  | processEvent =>
      rw [Event.telemetry, Option.isSome_map]
      exact ⟨fun h => ⟨(by cases ·), fun _ => h⟩, fun h => h.process rfl⟩
  | networkEvent => exact iff_of_true rfl ⟨(by cases ·), (by cases ·)⟩

theorem isSome_telemetry : (publisher.telemetry event).isSome ↔
    publisher.calendar.Represents event.timestamp ∧ event.HasData := by
  rw [FeederEventPublisher.telemetry, FeederEventPublisher.toFormattedTime, Calendar.Represents]
  cases publisher.calendar.gmtime (toUnixTimestamp event.timestamp) with
  | none => exact iff_of_false nofun fun h => nomatch h.1
  | some tm =>
      rw [Option.map_some, Option.bind_some, isSome_event_telemetry]
      exact (and_iff_right rfl).symm

theorem isSome_convertToAlert : (publisher.convertToAlert event).isSome ↔
    publisher.calendar.Represents event.timestamp ∧ event.HasData := by
  rw [convertToAlert_eq, Option.isSome_map, isSome_telemetry]

theorem isSome_convertToLog : (publisher.convertToLog event).isSome ↔
    publisher.calendar.Represents event.timestamp ∧ event.HasData := by
  rw [convertToLog_eq, Option.isSome_map, isSome_telemetry]

/-! ## Where an event goes -/

theorem receivers_map_id {stream : Stream} :
    (stream.receivers event).map (·.id) = stream.activeIds := by
  simp [Stream.receivers, Stream.activeIds, shouldSendToSubscriber]

theorem publish_alert (h : event.isAlert)
    (hconverts : publisher.calendar.Represents event.timestamp ∧ event.HasData) :
    ToAlerts publisher event (publisher.publish event outcome) := by
  obtain ⟨alert, halert⟩ := Option.isSome_iff_exists.mp (isSome_convertToAlert.mpr hconverts)
  refine ⟨alert, halert, ?_⟩
  rw [FeederEventPublisher.publish, if_pos h, halert, ← receivers_map_id, List.map_map]
  rfl

theorem publish_log (h : ¬event.isAlert)
    (hconverts : publisher.calendar.Represents event.timestamp ∧ event.HasData) :
    ToLogs publisher event (publisher.publish event outcome) := by
  obtain ⟨log, hlog⟩ := Option.isSome_iff_exists.mp (isSome_convertToLog.mpr hconverts)
  refine ⟨log, hlog, ?_⟩
  rw [FeederEventPublisher.publish, if_neg h, hlog, ← receivers_map_id, List.map_map]
  rfl

/-- Writes go both to the alert subscribers and to the log subscribers only if there are none. -/
theorem no_subscribers_of_both
    {published : Option (FeederEventPublisher × List StreamWrite)}
    (halerts : ToAlerts publisher event published) (hlogs : ToLogs publisher event published) :
    publisher.alerts.activeIds = [] ∧ publisher.logs.activeIds = [] := by
  obtain ⟨alert, -, halerts⟩ := halerts
  obtain ⟨log, -, hlogs⟩ := hlogs
  have hboth := Option.some.inj (halerts.symm.trans hlogs)
  cases ha : publisher.alerts.activeIds with
  | nil =>
      rw [ha] at hboth
      exact ⟨rfl, List.map_eq_nil_iff.mp hboth.symm⟩
  | cons id ids =>
      cases hl : publisher.logs.activeIds with
      | nil => simp [ha, hl] at hboth
      | cons id' ids' => simp [ha, hl] at hboth

/-- Where there is nobody to write to, the streams do not differ. -/
theorem ToAlerts.toLogs {published : Option (FeederEventPublisher × List StreamWrite)}
    (h : ToAlerts publisher event published)
    (hnone : publisher.alerts.activeIds = [] ∧ publisher.logs.activeIds = []) :
    ToLogs publisher event published := by
  obtain ⟨alert, hconvert, hwrites⟩ := h
  have hconverts := isSome_convertToAlert.mp (Option.isSome_of_eq_some hconvert)
  obtain ⟨log, hlog⟩ := Option.isSome_iff_exists.mp (isSome_convertToLog.mpr hconverts)
  rw [hnone.1] at hwrites
  exact ⟨log, hlog, by rw [hnone.2, hwrites, List.map_nil, List.map_nil]⟩

theorem ToLogs.toAlerts {published : Option (FeederEventPublisher × List StreamWrite)}
    (h : ToLogs publisher event published)
    (hnone : publisher.alerts.activeIds = [] ∧ publisher.logs.activeIds = []) :
    ToAlerts publisher event published := by
  obtain ⟨log, hconvert, hwrites⟩ := h
  have hconverts := isSome_convertToLog.mp (Option.isSome_of_eq_some hconvert)
  obtain ⟨alert, halert⟩ := Option.isSome_iff_exists.mp (isSome_convertToAlert.mpr hconverts)
  rw [hnone.2] at hwrites
  exact ⟨alert, halert, by rw [hnone.1, hwrites, List.map_nil, List.map_nil]⟩

/-- What is routed has been converted. -/
theorem RoutedByType.represents {published : Option (FeederEventPublisher × List StreamWrite)}
    (h : RoutedByType m publisher event published) :
    publisher.calendar.Represents event.timestamp := by
  rw [RoutedByType] at h
  split at h
  · obtain ⟨alert, hconvert, -⟩ := h
    exact (isSome_convertToAlert.mp (Option.isSome_of_eq_some hconvert)).1
  · obtain ⟨log, hconvert, -⟩ := h
    exact (isSome_convertToLog.mp (Option.isSome_of_eq_some hconvert)).1

/-- The parser leaves the type of the event as it found it, and makes microseconds of the time. -/
theorem fields_of_parse
    (hparse : (parseMessage platform unassigned bytesTransferred).value m = .ok event) :
    event.type = unassigned ∧
      event.timestamp = .ofMicroseconds (readNat m timestampAt 8 / 10) := by
  simp only [parseMessage, TracedReader.value_bind, TracedReader.value_nat] at hparse
  split at hparse
  · cases hparse
    exact ⟨rfl, rfl⟩
  split at hparse
  · cases hparse
    exact ⟨rfl, rfl⟩
  split at hparse
  · cases hparse
    exact ⟨rfl, rfl⟩
  · cases hparse

/-- The parser sets the tag and the variant in the same branch. -/
theorem selects_of_parseMessage
    (hparse : (parseMessage platform unassigned bytesTransferred).value m = .ok event) :
    event.Selects := by
  simp only [parseMessage, TracedReader.value_bind, TracedReader.value_nat] at hparse
  split at hparse
  · cases hparse
    exact ⟨⟨fun _ => rfl, (by cases ·)⟩, (by cases ·)⟩
  split at hparse
  · cases hparse
    exact ⟨⟨(by cases ·), fun _ => rfl⟩, (by cases ·)⟩
  split at hparse
  · cases hparse
    exact ⟨⟨(by cases ·), (by cases ·)⟩, fun _ => rfl⟩
  · cases hparse

theorem isAlert_of_parse
    (hparse : parse platform unassigned (some m) bytesTransferred = .ok event) :
    event.isAlert ↔ unassigned = .matchHostPolicy := by
  rw [Event.isAlert, (fields_of_parse hparse).1, beq_iff_eq]

/-- Where the event can be converted, it goes where the type in its message says if and only if the
field `type` happens to hold `MATCH_HOST_POLICY` exactly when the message does, or if there is
nobody to write to. -/
theorem routed_of_represents
    (hparse : parse platform unassigned (some m) bytesTransferred = .ok event)
    (hdate : publisher.calendar.Represents event.timestamp) :
    RoutedByType m publisher event (publisher.publish event outcome) ↔
      (unassigned = .matchHostPolicy ↔ readNat m eventTypeAt 4 = matchHostPolicyCode) ∨
        (publisher.alerts.activeIds = [] ∧ publisher.logs.activeIds = []) := by
  have halert := isAlert_of_parse hparse
  have hconverts : publisher.calendar.Represents event.timestamp ∧ event.HasData :=
    ⟨hdate, (selects_of_parseMessage hparse).toHasData⟩
  rw [RoutedByType]
  by_cases htype : unassigned = .matchHostPolicy
  · have hto := @publish_alert event publisher outcome (halert.mpr htype) hconverts
    by_cases hcode : readNat m eventTypeAt 4 = matchHostPolicyCode
    · rw [if_pos hcode]
      exact ⟨fun _ => .inl (iff_of_true htype hcode), fun _ => hto⟩
    · rw [if_neg hcode]
      constructor
      · exact fun hlogs => .inr (no_subscribers_of_both hto hlogs)
      · rintro (hiff | hnone)
        · exact absurd (hiff.mp htype) hcode
        · exact hto.toLogs hnone
  · have hto := @publish_log event publisher outcome (fun h => htype (halert.mp h)) hconverts
    by_cases hcode : readNat m eventTypeAt 4 = matchHostPolicyCode
    · rw [if_pos hcode]
      constructor
      · exact fun halerts => .inr (no_subscribers_of_both halerts hto)
      · rintro (hiff | hnone)
        · exact absurd (hiff.mpr hcode) htype
        · exact hto.toAlerts hnone
    · rw [if_neg hcode]
      exact ⟨fun _ => .inl (iff_of_false htype hcode), fun _ => hto⟩

/-- **Routing, exactly.**  A parsed event goes where the type in its message says if and only if
`gmtime` represents its second, and the field `type` happens to hold `MATCH_HOST_POLICY` exactly
when the message does or there is nobody to write to. -/
theorem routed_iff (platform : Platform) (unassigned : EventType) (defaulted : Event) (m : Memory)
    (bytesTransferred : ℕ) (publisher : FeederEventPublisher) (outcome : ℕ → WriteOutcome)
    (event : Event) (hparse : parse platform unassigned (some m) bytesTransferred = .ok event) :
    RoutedByType m publisher event (publishReceived platform unassigned defaulted m
        bytesTransferred publisher outcome) ↔
      publisher.calendar.Represents (.ofMicroseconds (readNat m timestampAt 8 / 10)) ∧
        ((unassigned = .matchHostPolicy ↔ readNat m eventTypeAt 4 = matchHostPolicyCode) ∨
          (publisher.alerts.activeIds = [] ∧ publisher.logs.activeIds = [])) := by
  rw [publishReceived, hparse, queuedEvent, enrich, ← (fields_of_parse hparse).2]
  constructor
  · intro h
    exact ⟨h.represents, (routed_of_represents hparse h.represents).mp h⟩
  · rintro ⟨hdate, hcondition⟩
    exact (routed_of_represents hparse hdate).mpr hcondition

/-- A process event of the given type. -/
private def processMessage (eventType : Byte) : Memory := fun i =>
  if i = 24 then eventType else if i = 28 then 1#8 else 0#8

/-- One active subscriber to each stream. -/
private def bothStreams : FeederEventPublisher :=
  let stream : Stream := ⟨[⟨1, ⟨[], [], [], false⟩, true⟩], 0⟩
  ⟨"default", "host", windowsCalendar, stream, stream, 0⟩

private def processEventRead (unassigned : EventType) : Event where
  type := unassigned
  operationType := .processEvent
  eventId := 1
  timestamp := 0
  blocked := false
  data := .process ⟨.create, 0, 0, [], [], []⟩

private def toAlertStream : StreamWrite → Bool
  | .alert _ _ => true
  | .log _ _ => false

/-- The theorem at a log message, with the field left at the right value. -/
theorem routed_log : RoutedByType (processMessage 1#8) bothStreams (processEventRead .hostLog)
    (publishReceived asciiPlatform .hostLog (processEventRead .hostLog) (processMessage 1#8) 82
      bothStreams fun _ => .written) :=
  (routed_iff asciiPlatform .hostLog (processEventRead .hostLog) (processMessage 1#8) 82
    bothStreams (fun _ => .written) (processEventRead .hostLog) (by decide +kernel)).mpr
    ⟨by decide +kernel, .inl (by decide +kernel)⟩

/-- A log message, with the field left at `MATCH_HOST_POLICY`, is sent as an alert. -/
theorem not_routed : ¬∀ platform unassigned defaulted m bytesTransferred publisher outcome event,
    readNat m eventTypeAt 4 = 1 ∨ readNat m eventTypeAt 4 = 2 →
    parse platform unassigned (some m) bytesTransferred = .ok event →
    RoutedByType m publisher event (publishReceived platform unassigned defaulted m
      bytesTransferred publisher outcome) := by
  intro hrouted
  have hlog := hrouted asciiPlatform .matchHostPolicy (processEventRead .hostLog)
    (processMessage 1#8) 82 bothStreams (fun _ => .written) (processEventRead .matchHostPolicy)
    (by decide +kernel) (by decide +kernel)
  rw [RoutedByType, if_neg (by decide +kernel)] at hlog
  obtain ⟨log, -, hwrites⟩ := hlog
  have halerts : ((publishReceived asciiPlatform .matchHostPolicy (processEventRead .hostLog)
      (processMessage 1#8) 82 bothStreams fun _ => .written).map Prod.snd).map
        (List.map toAlertStream) = some [true] := by decide +kernel
  rw [hwrites] at halerts
  exact absurd (show some [false] = some [true] from halerts) (by decide)

end Kawin.Kasvc
