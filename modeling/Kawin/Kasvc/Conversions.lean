import Kawin.Kasvc.ReceivePath

/-!
# Alerts and logs from one event

`ConvertToAlert` and `ConvertToLog` were written out twice.  Each formats the time, which
dereferences what `gmtime` returns, goes by the field `operation_type` of the event, and then
dereferences what `GetFileData` or `GetProcessData` returns, a null pointer where the variant `data`
holds something else.

The parser sets the tag and the variant together, in one branch for each kind of event, and the
constructor of `data::Event` sets both for a file event.  So the tag of every event that reaches
`Publish` is that of its data (`ReachesPublish.selects`).  What is left is the null pointer of
`gmtime` for a time that it cannot represent: `conversions_agree_iff`.
-/

namespace Kawin.Kasvc

open ByteMemory BoundedFifo Transition

/-! ## The events there are -/

/-- The constructor.  It leaves `type` and the `process_id` of the data as it finds them. -/
def Event.default (unassigned : EventType) (processId : ℕ)
    (now : TimePoint) : Event where
  type := unassigned
  operationType := .fileEvent
  eventId := 0
  timestamp := now
  blocked := false
  data := .file ⟨.create, processId, [], []⟩

/-- An event that can reach `Publish`: parsed from a message, or default-constructed where the
message cannot be parsed. -/
inductive ReachesPublish (platform : Platform) : Event → Prop
  | parsed {unassigned : EventType} {kernelMsg : Option Memory} {bufferSize : ℕ} {event : Event}
      (hparse : parse platform unassigned kernelMsg bufferSize = .ok event) :
      ReachesPublish platform event
  | defaulted (unassigned : EventType) (processId : ℕ) (now : TimePoint) :
      ReachesPublish platform (.default unassigned processId now)

variable {platform : Platform} {event : Event} {publisher : FeederEventPublisher}

theorem ReachesPublish.selects (h : ReachesPublish platform event) : event.Selects := by
  cases h with
  | @parsed _ kernelMsg _ _ hparse =>
      cases kernelMsg with
      | none => cases hparse
      | some m => exact selects_of_parseMessage hparse
  | defaulted => exact ⟨⟨fun _ => rfl, (by cases ·)⟩, (by cases ·)⟩

/-! ## The conversions agree -/

/-- The tag of the event selects what its variant holds, both conversions return, and the alert and
the log have all their common fields in common. -/
structure ConversionsAgree (publisher : FeederEventPublisher) (event : Event) : Prop where
  selects : event.Selects
  agree : ∃ alert log, publisher.convertToAlert event = some alert ∧
    publisher.convertToLog event = some log ∧ alert.telemetry = log.telemetry

theorem Event.Selects.conversionsAgree_iff (h : event.Selects) :
    ConversionsAgree publisher event ↔ publisher.calendar.Represents event.timestamp := by
  constructor
  · rintro ⟨-, alert, -, halert, -⟩
    exact (isSome_convertToAlert.mp (Option.isSome_of_eq_some halert)).1
  · intro hdate
    obtain ⟨telemetry, htelemetry⟩ :=
      Option.isSome_iff_exists.mp (isSome_telemetry.mpr ⟨hdate, h.toHasData⟩)
    refine ⟨h, ?_⟩
    rw [convertToAlert_eq, convertToLog_eq, htelemetry]
    exact ⟨_, _, rfl, rfl, rfl⟩

/-- **Conversions, exactly.**  The tag of every event that can reach `Publish` selects what its
variant holds; both conversions of the event return, and agree, if and only if `gmtime` represents
its second. -/
theorem conversions_agree_iff (platform : Platform) (publisher : FeederEventPublisher)
    (event : Event) (h : ReachesPublish platform event) :
    event.Selects ∧
      (ConversionsAgree publisher event ↔ publisher.calendar.Represents event.timestamp) :=
  ⟨h.selects, h.selects.conversionsAgree_iff⟩

/-- A publisher without subscribers. -/
private def quietPublisher : FeederEventPublisher :=
  ⟨"default", "host", windowsCalendar, ⟨[], 0⟩, ⟨[], 0⟩, 0⟩

/-- The message of a delete by process 7; `late` is the highest byte of its time. -/
private def deleteMessage (late : Byte) : Memory := fun i =>
  if i = 22 then 1#8 else if i = 23 then late else if i = 28 then 2#8 else if i = 33 then 3#8
  else if i = 37 then 7#8 else 0#8

private def deleteEvent (timestamp : TimePoint) : Event where
  type := .hostLog
  operationType := .fileEvent
  eventId := 1
  timestamp := timestamp
  blocked := false
  data := .file ⟨.delete, 7, [], []⟩

private def deleteTelemetry : Telemetry where
  timestamp := 28147497
  updatedTime := "1970-11-22T18:44:57Z"
  clusterName := "default"
  hostName := "host"
  operation := "File"
  hostPid := 7
  pid := 7
  data := "Event=Delete"

/-- A delete in what is taken for the year 1970. -/
theorem conversions_agree_delete : ∃ alert log,
    quietPublisher.convertToAlert (deleteEvent 281474976710650) = some alert ∧
      quietPublisher.convertToLog (deleteEvent 281474976710650) = some log ∧
      alert.telemetry = deleteTelemetry ∧ log.telemetry = deleteTelemetry := by
  have hparse : parse asciiPlatform .hostLog (some (deleteMessage 0#8)) 82 =
      .ok (deleteEvent 281474976710650) := by decide +kernel
  obtain ⟨-, alert, log, halert, hlog, hagree⟩ :=
    (conversions_agree_iff asciiPlatform quietPublisher _ (.parsed hparse)).2.mpr
      (by decide +kernel)
  have htelemetry : (quietPublisher.convertToLog (deleteEvent 281474976710650)).map Log.telemetry =
      some deleteTelemetry := by decide +kernel
  rw [hlog] at htelemetry
  have hlogged : log.telemetry = deleteTelemetry := Option.some.inj htelemetry
  exact ⟨alert, log, halert, hlog, hagree.trans hlogged, hlogged⟩

/-- A delete in what is taken for the year 3340 is converted to neither. -/
theorem not_conversions_agree : ¬∀ platform publisher event, ReachesPublish platform event →
    ConversionsAgree publisher event := by
  intro hagree
  have hparse : parse asciiPlatform .hostLog (some (deleteMessage 6#8)) 82 =
      .ok (deleteEvent 432627039204278270) := by decide +kernel
  obtain ⟨-, alert, log, halert, -⟩ := hagree asciiPlatform quietPublisher _ (.parsed hparse)
  have hnull : (quietPublisher.convertToAlert (deleteEvent 432627039204278270)).isNone := by
    decide +kernel
  rw [halert] at hnull
  cases hnull

/-! ## Every event of the queue -/

/-- The event that `ProcessCompletedIO` parses into was constructed by its default constructor. -/
def Constructs (_ : ReceivePath) : ReceiveAction → Prop
  | .complete c => ∃ unassigned processId now, c.defaulted = .default unassigned processId now
  | .receiveEvent | .close => True

variable {s t : ReceivePath} {c : Completion}

theorem reachesPublish_event
    (h : ∃ unassigned processId now, c.defaulted = .default unassigned processId now) :
    ReachesPublish platform (c.event platform) := by
  unfold Completion.event queuedEvent
  split
  · next hparsed => exact .parsed hparsed
  · obtain ⟨unassigned, processId, now, hdefault⟩ := h
    rw [hdefault]
    exact .defaulted unassigned processId now

/-- **Step lemma.** -/
theorem reachesPublish_step {action : ReceiveAction}
    (h : ∀ event ∈ s.eventQueue.content, ReachesPublish platform event)
    (hconstructs : Constructs s action) (hstep : receiveStep platform s action = some t) :
    ∀ event ∈ t.eventQueue.content, ReachesPublish platform event := by
  cases action with
  | complete c =>
      cases hstep
      unfold processCompletedIo
      cases haccepts : s.eventQueue.accepts maxEventQueueSize with
      | false =>
          rw [Fifo.offer_of_not_accepts haccepts]
          exact h
      | true =>
          rw [Fifo.offer_of_accepts haccepts]
          intro event hmem
          rcases List.mem_append.mp hmem with hmem | hmem
          · exact h event hmem
          · rw [List.mem_singleton.mp hmem]
            exact reachesPublish_event hconstructs
  | receiveEvent =>
      cases hstep
      exact fun event hmem => h event (List.mem_of_mem_tail hmem)
  | close =>
      cases hstep
      exact h

/-- **Every event that is published converts** if `gmtime` represents its second.  Whatever the
messages are, both conversions of what `ReceiveEvent` takes out of the queue and `Enrich` returns
come to an end, and agree. -/
theorem conversionsAgree_of_run (run : Run (receiveStep platform) Constructs .init s)
    (htake : s.eventQueue.take.1 = some event)
    (hdate : publisher.calendar.Represents event.timestamp) :
    ConversionsAgree publisher (enrich event) := by
  have hqueue : ∀ event ∈ s.eventQueue.content, ReachesPublish platform event :=
    run.invariant (fun event hmem => absurd hmem List.not_mem_nil)
      fun _ _ _ h hconstructs hstep => reachesPublish_step h hconstructs hstep
  exact (hqueue event (List.mem_of_mem_head? htake)).selects.conversionsAgree_iff.mpr hdate

end Kawin.Kasvc
