import Kawin.Driver.Occurrences
import Kawin.Kasvc.EventPublisher
import Kawin.Kasvc.RoundTrip

/-!
# The time of an event

The time of an event is counted in three units on its way: `KeQuerySystemTime` gives the driver
units of 100 nanoseconds since 1601, the parser divides by ten and makes a
`system_clock::time_point` of so many microseconds, which counts ticks of 100 nanoseconds again, and
`ToUnixTimestamp` casts that to seconds.  All of it comes to a division by `unitsPerSecond`.  The
clock of a `time_point` begins in 1970, and nothing on the way subtracts the years from 1601 to
then.

So whatever is published of an event is late by exactly `epochSeconds`, which is 369 years
(`published_late`).
-/

namespace Kawin.Kasvc

open ByteMemory Kawin.Driver

/-- What `KeQuerySystemTime` returns: units of 100 nanoseconds since 1601-01-01, in a signed
`LARGE_INTEGER`. -/
structure SystemTime where
  quadPart : UINT64
  nonneg : quadPart.toNat < 2 ^ 63

def unitsPerSecond : ℕ := 10000000

/-- From 1601-01-01 to 1970-01-01 in units of the system time. -/
def unixEpoch : ℕ := 116444736000000000

/-- The same in seconds. -/
def epochSeconds : ℕ := 11644473600

/-- The Unix seconds of an instant from 1970 on. -/
def SystemTime.unixSeconds (time : SystemTime) : ℕ :=
  (time.quadPart.toNat - unixEpoch) / unitsPerSecond

/-- The field `timestamp` of what is written. -/
def StreamWrite.timestamp : StreamWrite → ℤ
  | .alert _ sent => sent.telemetry.timestamp
  | .log _ sent => sent.telemetry.timestamp

variable {platform : Platform} {unassigned : EventType} {defaulted event : Event} {m : Memory}
  {bytesTransferred : ℕ} {publisher : FeederEventPublisher} {outcome : ℕ → WriteOutcome}
  {published : FeederEventPublisher × List StreamWrite} {write : StreamWrite}
  {occurrence : Occurrence} {time : SystemTime}

/-! ## The conversions -/

/-- The driver's time to microseconds and back, in `Parse`. -/
theorem parse_timestamp {ev : Driver.Event} (hfields : HeaderFields m ev)
    (hoperation : ev.operation = .file ∨ ev.operation = .process) :
    ∃ event, parse platform unassigned (some m) bytesTransferred = .ok event ∧
      event.timestamp = ev.timestamp / 10 * 10 := by
  have hcode := hfields.eventOperation
  rw [parse]
  simp only [parseMessage, TracedReader.value_bind, TracedReader.value_nat, hfields.timestamp]
  rcases hoperation with hfile | hprocess
  · have hfileCode : readNat m eventOperationAt 4 = fileEventCode := by
      rw [hcode, hfile]
      rfl
    rw [if_pos hfileCode]
    exact ⟨_, rfl, ofMicroseconds_div_ten _⟩
  · have hprocessCode : readNat m eventOperationAt 4 = processEventCode := by
      rw [hcode, hprocess]
      rfl
    rw [hprocessCode, if_neg (by decide), if_pos rfl]
    exact ⟨_, rfl, ofMicroseconds_div_ten _⟩

/-- The fields of the data do not touch the time. -/
theorem event_telemetry_timestamp {common telemetry : Telemetry}
    (h : event.telemetry common = some telemetry) : telemetry.timestamp = common.timestamp := by
  rw [Event.telemetry] at h
  split at h
  · obtain ⟨fe, -, rfl⟩ := Option.map_eq_some_iff.mp h
    rfl
  · obtain ⟨pe, -, rfl⟩ := Option.map_eq_some_iff.mp h
    rfl
  · cases h
    rfl

theorem telemetry_timestamp {telemetry : Telemetry}
    (h : publisher.telemetry event = some telemetry) :
    telemetry.timestamp = toUnixTimestamp event.timestamp := by
  obtain ⟨updatedTime, -, hfields⟩ := Option.bind_eq_some_iff.mp h
  exact event_telemetry_timestamp hfields

/-- The time point to seconds, in `Publish`. -/
theorem publish_timestamp (hpublished : publisher.publish event outcome = some published)
    (hwrite : write ∈ published.2) : write.timestamp = toUnixTimestamp event.timestamp := by
  by_cases halert : event.isAlert
  · rw [FeederEventPublisher.publish, if_pos halert] at hpublished
    obtain ⟨alert, hconvert, rfl⟩ := Option.map_eq_some_iff.mp hpublished
    rw [convertToAlert_eq] at hconvert
    obtain ⟨telemetry, htelemetry, rfl⟩ := Option.map_eq_some_iff.mp hconvert
    obtain ⟨subscriber, -, rfl⟩ := List.mem_map.mp hwrite
    exact telemetry_timestamp htelemetry
  · rw [FeederEventPublisher.publish, if_neg halert] at hpublished
    obtain ⟨log, hconvert, rfl⟩ := Option.map_eq_some_iff.mp hpublished
    rw [convertToLog_eq] at hconvert
    obtain ⟨telemetry, htelemetry, rfl⟩ := Option.map_eq_some_iff.mp hconvert
    obtain ⟨subscriber, -, rfl⟩ := List.mem_map.mp hwrite
    exact telemetry_timestamp htelemetry

/-- The seconds of a system time, which is not negative as a count of ticks either. -/
theorem toUnixTimestamp_system (time : SystemTime) :
    toUnixTimestamp (time.quadPart / 10 * 10) = (time.quadPart.toNat / unitsPerSecond : ℕ) := by
  have hunits : unitsPerSecond = 1000000 * 10 := rfl
  have hnonneg := time.nonneg
  have hticks : (time.quadPart / 10 * 10).toNat = time.quadPart.toNat / 10 * 10 := by
    rw [BitVec.toNat_mul, BitVec.toNat_udiv]
    refine Nat.mod_eq_of_lt ?_
    show time.quadPart.toNat / 10 * 10 < 2 ^ 64
    omega
  calc toUnixTimestamp (time.quadPart / 10 * 10)
      = Int.tdiv (time.quadPart.toNat / 10 * 10 : ℕ) 10000000 := by
        rw [toUnixTimestamp, BitVec.toInt_eq_toNat_of_lt (by omega), hticks]
    _ = (time.quadPart.toNat / 10 * 10 / unitsPerSecond : ℕ) := rfl
    _ = (time.quadPart.toNat / 10 / 1000000 : ℕ) := by
        rw [hunits, Nat.mul_div_mul_right _ _ (by decide)]
    _ = (time.quadPart.toNat / unitsPerSecond : ℕ) := by rw [Nat.div_div_eq_div_mul]; rfl

/-- From the call of the serializer to the subscribers. -/
theorem published_timestamp
    (hsuccess : (occurrence.serialize time.quadPart).1 = statusSuccess)
    (hreceived : Carries m payloadAt (occurrence.serialize time.quadPart).2.bytes)
    (hpublished : publishReceived platform unassigned defaulted m bytesTransferred publisher
      outcome = some published) (hwrite : write ∈ published.2) :
    write.timestamp = (time.quadPart.toNat / unitsPerSecond : ℕ) := by
  obtain ⟨ev, strings, hbytes, htimestamp, hoperation, -⟩ := Occurrence.serialize_bytes hsuccess
  rw [hbytes, carries_append] at hreceived
  have hkind : ev.operation = .file ∨ ev.operation = .process := by
    rw [hoperation]
    cases occurrence with
    | file => exact .inl rfl
    | process => exact .inr rfl
  obtain ⟨event, hparse, hparsed⟩ := @parse_timestamp platform unassigned m bytesTransferred ev
    (headerFields_of_carries hreceived.1) hkind
  rw [publishReceived, hparse] at hpublished
  calc write.timestamp
      = toUnixTimestamp event.timestamp := publish_timestamp hpublished hwrite
    _ = toUnixTimestamp (time.quadPart / 10 * 10) := by rw [hparsed, htimestamp]
    _ = (time.quadPart.toNat / unitsPerSecond : ℕ) := toUnixTimestamp_system time

theorem SystemTime.unixSeconds_add (hepoch : unixEpoch ≤ time.quadPart.toNat) :
    time.unixSeconds + epochSeconds = time.quadPart.toNat / unitsPerSecond := by
  have hunits : unixEpoch = unitsPerSecond * epochSeconds := rfl
  rw [unixSeconds, ← Nat.add_mul_div_left _ _ (show 0 < unitsPerSecond by decide), ← hunits,
    Nat.sub_add_cancel hepoch]

/-! ## Published time -/

/-- **Published time, exactly.**  No alert and no log of an event carries the Unix time of the
event: the timestamp is `epochSeconds` more. -/
theorem published_late (platform : Platform) (unassigned : EventType) (defaulted : Event)
    (publisher : FeederEventPublisher) (outcome : ℕ → WriteOutcome) (occurrence : Occurrence)
    (time : SystemTime) (m : Memory) (bytesTransferred : ℕ)
    (hepoch : unixEpoch ≤ time.quadPart.toNat)
    (hsuccess : (occurrence.serialize time.quadPart).1 = statusSuccess)
    (hreceived : Carries m payloadAt (occurrence.serialize time.quadPart).2.bytes) :
    ∀ published ∈ publishReceived platform unassigned defaulted m bytesTransferred publisher
      outcome, ∀ write ∈ published.2, write.timestamp = time.unixSeconds + epochSeconds ∧
        write.timestamp ≠ time.unixSeconds := by
  intro published hpublished write hwrite
  have hlate : write.timestamp = time.unixSeconds + epochSeconds := by
    rw [← Nat.cast_add, SystemTime.unixSeconds_add hepoch]
    exact published_timestamp hsuccess hreceived hpublished hwrite
  have hlater : 0 < epochSeconds := by decide
  exact ⟨hlate, by omega⟩

/-- Midnight of 1970-01-01. -/
private def epochTime : SystemTime := ⟨BitVec.ofNat 64 unixEpoch, by decide⟩

/-- The end of a process that the driver does not know. -/
private def processEnd : Occurrence := .process 4#64 none .empty none

private def processEndMessage : Memory :=
  memoryOf (List.replicate 16 0 ++ (processEnd.serialize epochTime.quadPart).2.bytes)

private theorem processEnd_serialized :
    (processEnd.serialize epochTime.quadPart).1 = statusSuccess :=
  Occurrence.serialize_success_iff.mpr (by decide)

private theorem processEndMessage_carries :
    Carries processEndMessage payloadAt (processEnd.serialize epochTime.quadPart).2.bytes := by
  have hall := carries_memoryOf
    (List.replicate 16 0 ++ (processEnd.serialize epochTime.quadPart).2.bytes)
  exact (carries_append.mp hall).2

/-- One subscriber to the logs. -/
private def oneLogStream : FeederEventPublisher :=
  ⟨"default", "host", windowsCalendar, ⟨[], 0⟩, ⟨[⟨1, ⟨[], [], [], false⟩, true⟩], 0⟩, 0⟩

private def defaultEvent : Event := ⟨.hostLog, .fileEvent, 0, 0, false, .file ⟨.create, 0, [], []⟩⟩

/-- What comes of the end of that process at midnight of 1970-01-01. -/
private def publishedAtEpoch : Option (FeederEventPublisher × List StreamWrite) :=
  publishReceived asciiPlatform .hostLog defaultEvent processEndMessage 82 oneLogStream
    fun _ => .written

private theorem publishedAtEpoch_timestamp :
    publishedAtEpoch.map (·.2.map StreamWrite.timestamp) =
      some [(epochSeconds : ℤ)] := by
  decide +kernel

/-- The theorem at midnight of 1970-01-01, which is published as the year 2339. -/
theorem published_late_at_epoch : ∃ published ∈ publishedAtEpoch,
    published.2.map StreamWrite.timestamp = [11644473600] ∧
    ∀ write ∈ published.2, write.timestamp = epochTime.unixSeconds + epochSeconds ∧
      write.timestamp ≠ epochTime.unixSeconds := by
  obtain ⟨published, hpublished, htimestamps⟩ :=
    Option.map_eq_some_iff.mp publishedAtEpoch_timestamp
  exact ⟨published, hpublished, htimestamps,
    published_late asciiPlatform .hostLog defaultEvent oneLogStream (fun _ => .written) processEnd
      epochTime processEndMessage 82 (by decide) processEnd_serialized processEndMessage_carries
      published hpublished⟩

/-- A log of midnight of 1970-01-01 does not say `0`. -/
theorem epoch_published_late : ¬∀ platform unassigned defaulted publisher outcome occurrence
    (time : SystemTime) m bytesTransferred, unixEpoch ≤ time.quadPart.toNat →
      (Occurrence.serialize time.quadPart occurrence).1 = statusSuccess →
      Carries m payloadAt (Occurrence.serialize time.quadPart occurrence).2.bytes →
      ∀ published ∈ publishReceived platform unassigned defaulted m bytesTransferred publisher
        outcome, ∀ write ∈ published.2, write.timestamp = time.unixSeconds := by
  intro hunix
  obtain ⟨published, hpublished, htimestamps⟩ :=
    Option.map_eq_some_iff.mp publishedAtEpoch_timestamp
  have hpublishedAt : ∀ write ∈ published.2, write.timestamp = epochTime.unixSeconds :=
    hunix asciiPlatform .hostLog defaultEvent oneLogStream (fun _ => .written) processEnd epochTime
      processEndMessage 82 (by decide) processEnd_serialized processEndMessage_carries published
      hpublished
  have hzero : ∀ seconds ∈ [(epochSeconds : ℤ)], seconds = epochTime.unixSeconds := by
    rw [← htimestamps, List.forall_mem_map]
    exact hpublishedAt
  exact absurd (hzero epochSeconds (List.mem_singleton_self _)) (by decide)

end Kawin.Kasvc
