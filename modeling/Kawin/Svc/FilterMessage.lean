import Kawin.Kasvc.EventPublisher
import Kawin.Kasvc.RoundTrip

/-!
# The decoder of `svc`

`parseFilterMessage` is the second decoder of the driver's events.  It reads the receive buffer
field after field, and the strings where it stands after the fields of the `FILE_EVENT`: it ignores
the offsets, and so starts in the padding of the union `data`, 25 bytes before the strings.  Its
table of operations ends after the fourth, and it reports an event as passed if it was
blocked.

`fileEvents_disagree` is the consequence: no event of the driver comes out of both decoders as the
same.  What each field comes to is in `decoders_compare`.
-/

namespace Kawin.Svc

open ByteMemory Kawin.Kasvc
open Kawin.Driver (StreamHandleContext UINT64 statusSuccess serializeFileEvent fileOperation
  handleToULong sizeofEvent)

/-! ## `bytes.Buffer` -/

structure BytesBuffer where
  buf : List Byte
  off : ℕ

/-- Reading may fail with an error text. -/
abbrev BufferReader := StateT BytesBuffer (Except String)

/-- `io.ReadFull` of `n` bytes, and what is made of them. -/
def readFull {α : Type} (n : ℕ) (value : Memory → ℕ → α) : BufferReader α := fun b =>
  if b.off + n ≤ b.buf.length then .ok (value (memoryOf b.buf) b.off, { b with off := b.off + n })
  else if b.off < b.buf.length then .error "unexpected EOF"
  else .error "EOF"

/-- `binary.Read` of a number of `w` bytes. -/
def binaryRead (w : ℕ) : BufferReader ℕ := readFull w fun m a => readNat m a w

/-- `binary.Read` of a `[]uint16`. -/
def binaryReadUint16s (n : ℕ) : BufferReader (List (BitVec 16)) :=
  readFull (2 * n) fun m a => readUnits m a n

/-! ## `main.go` -/

/-- The fields of `Log` that the decoder sets. -/
structure Log where
  timestamp : ℤ
  type : String
  operation : String
  result : String
  action : String
  pid : ℤ := 0
  processName : List Byte := []
  resource : List Byte := []
  data : String := ""
  deriving DecidableEq

def getOperationType : ℕ → String
  | 1 => "Process"
  | 2 => "File"
  | 3 => "Network"
  | _ => "INVALID_OPERATION_TYPE"

def getLogType : ℕ → String
  | 1 => "HostLog"
  | 2 => "MatchHostPolicy"
  | _ => "INVALID_LOG_TYPE"

def getResult (res : Bool) : String := if res then "Passed" else "Permission denied"

def getAction (blocked : Bool) : String := if blocked then "Block" else "Audit"

def getFileOperation : ℕ → String
  | 0 => "Create"
  | 1 => "Read"
  | 2 => "Write"
  | 3 => "Delete"
  | _ => "INVALID_FILE_OPERATION"

section

-- `decode` is the conversion of UTF-16 to a Go string
variable (decode : List (BitVec 16) → List Byte)

/-- `windows.UTF16ToString`, which stops at the first NUL. -/
def utf16ToString (units : List (BitVec 16)) : List Byte :=
  decode (units.takeWhile (· ≠ 0#16))

/-- A string of `length` bytes. -/
def readPath (length : ℕ) : BufferReader (List Byte) :=
  if 0 < length then do
    let units ← binaryReadUint16s (length / 2)
    return utf16ToString decode units
  else pure []

/-- What `handleFileEvent` reads: operation, process id and the two paths. -/
def readFileEvent : BufferReader (ℕ × ℕ × List Byte × List Byte) := do
  let op ← binaryRead 4
  let pid ← binaryRead 4
  let _pPathOffset ← binaryRead 4
  let pPathLength ← binaryRead 4
  let _fPathOffset ← binaryRead 4
  let fPathLength ← binaryRead 4
  let pPath ← readPath decode pPathLength
  let fPath ← readPath decode fPathLength
  return (op, pid, pPath, fPath)

/-- `handleFileEvent`, which gives up on the first error. -/
def handleFileEvent (dataBuf : BytesBuffer) (log : Log) : Log :=
  match (readFileEvent decode).run dataBuf with
  | .ok ((op, pid, pPath, fPath), _) =>
      { log with
        pid := int32 pid
        processName := pPath
        resource := fPath
        data := getFileOperation op }
  -- the fields of the union are assigned together, after the last read
  | .error _ => log

/-- The header, and the fields of the event before `data`: timestamp, type, operation and
whether it was blocked. -/
def readHead : BufferReader (ℕ × ℕ × ℕ × Bool) := do
  let _replyLength ← binaryRead 4
  let _padding ← binaryRead 4
  let _messageId ← binaryRead 8
  let ts ← binaryRead 8
  let tp ← binaryRead 4
  let op ← binaryRead 4
  let blocked ← binaryRead 1
  return (ts, tp, op, blocked ≠ 0)

def headerSize : ℕ := 32 + 64

/-- `parseFilterMessage`. -/
def parseFilterMessage (buf : List Byte) : Except String Log :=
  if buf.length < headerSize then .error "invalid message, header too short"
  else
    match readHead.run ⟨buf, 0⟩ with
    | .error err => .error err
    | .ok ((ts, tp, op, blocked), dataBuf) =>
        let log : Log :=
          { timestamp := (BitVec.ofNat 64 ts).toInt
            type := getLogType tp
            operation := getOperationType op
            result := getResult blocked
            action := if tp = 2 then getAction blocked else "" }
        .ok (if op = 2 then handleFileEvent decode dataBuf log else log)

end

/-! ## Agreement -/

/-- `MessageBufferSize`. -/
def messageBufferSize : ℕ := 4096

/-- The receive buffer holds a filter header, the bytes of the message, and what was there
before. -/
def Received (buf bytes : List Byte) : Prop :=
  ∃ header rest, header.length = payloadAt ∧ buf = header ++ bytes ++ rest ∧
    buf.length = messageBufferSize

/-- Both services log the same about an event. -/
structure LogsAgree (kasvc : Kasvc.Log) (svc : Log) : Prop where
  pid : svc.pid = kasvc.telemetry.pid
  processName : svc.processName = kasvc.telemetry.processName
  resource : svc.resource = kasvc.telemetry.resource
  operation : kasvc.telemetry.data = "Event=" ++ svc.data
  verdict : svc.result = "Passed" ↔ kasvc.result = "Passed"

/-- Both decoders accept the message, and log the same. -/
def DecodersAgree (platform : Platform) (unassigned : Kasvc.EventType)
    (publisher : FeederEventPublisher) (decode : List (BitVec 16) → List Byte)
    (bytes buf : List Byte) : Prop :=
  ∃ event kasvc svc, parse platform unassigned (some (memoryOf buf)) (payloadAt + bytes.length) =
      .ok event ∧ publisher.convertToLog event = some kasvc ∧
    parseFilterMessage decode buf = .ok svc ∧ LogsAgree kasvc svc

variable {platform : Platform} {unassigned : Kasvc.EventType} {publisher : FeederEventPublisher}
  {decode : List (BitVec 16) → List Byte} {buf bytes : List Byte} {off w n : ℕ}

/-- Where the fields of a message stand, and the sizes of what it is stored in. -/
theorem layout : payloadAt = 16 ∧ timestampAt = 16 ∧ eventTypeAt = 24 ∧ eventOperationAt = 28 ∧
    blockedAt = 32 ∧ dataAt = 33 ∧ sizeofEvent = 66 ∧ headerSize = 96 ∧
    messageBufferSize = 4096 := by
  decide

/-! ## Reading on -/

theorem readFull_bind {α β : Type} {value : Memory → ℕ → α} {next : α → BufferReader β}
    (h : off + n ≤ buf.length) : (readFull n value >>= next).run ⟨buf, off⟩ =
      (next (value (memoryOf buf) off)).run ⟨buf, off + n⟩ := by
  have hread : (readFull n value).run ⟨buf, off⟩ =
    .ok (value (memoryOf buf) off, ⟨buf, off + n⟩) := if_pos h
  rw [StateT.run_bind, hread]
  rfl

theorem binaryRead_bind {β : Type} {next : ℕ → BufferReader β} (h : off + w ≤ buf.length) :
    (binaryRead w >>= next).run ⟨buf, off⟩ =
      (next (readNat (memoryOf buf) off w)).run ⟨buf, off + w⟩ :=
  readFull_bind h

/-- A path is what stands at the offset, as far as the first NUL. -/
theorem readPath_bind {β : Type} {length : ℕ} {next : List Byte → BufferReader β}
    (heven : length = 2 * (length / 2)) (h : off + length ≤ buf.length) :
    (readPath decode length >>= next).run ⟨buf, off⟩ =
      (next (if 0 < length then utf16ToString decode
        (readUnits (memoryOf buf) off (length / 2)) else [])).run ⟨buf, off + length⟩ := by
  rw [readPath]
  split
  · rw [bind_assoc, binaryReadUint16s, readFull_bind (by rwa [← heven]), pure_bind, ← heven]
  · next hzero =>
      rw [pure_bind, Nat.eq_zero_of_not_pos hzero, Nat.add_zero]

/-- The fields before the union. -/
theorem readHead_run (h : 33 ≤ buf.length) : readHead.run ⟨buf, 0⟩ =
    .ok ((readNat (memoryOf buf) timestampAt 8, readNat (memoryOf buf) eventTypeAt 4,
      readNat (memoryOf buf) eventOperationAt 4, readNat (memoryOf buf) blockedAt 1 ≠ 0),
      ⟨buf, dataAt⟩) := by
  simp (disch := omega) only [readHead, binaryRead_bind]
  rfl

/-- The operation, the process id and the two paths. -/
theorem readFileEvent_run {processLength fileLength : ℕ}
    (hprocess : readNat (memoryOf buf) (dataAt + 12) 4 = processLength)
    (hfile : readNat (memoryOf buf) (dataAt + 20) 4 = fileLength)
    (hprocessEven : processLength = 2 * (processLength / 2))
    (hfileEven : fileLength = 2 * (fileLength / 2))
    (h : dataAt + 24 + processLength + fileLength ≤ buf.length) :
    (readFileEvent decode).run ⟨buf, dataAt⟩ =
      .ok ((readNat (memoryOf buf) dataAt 4, readNat (memoryOf buf) (dataAt + 4) 4,
        if 0 < processLength then utf16ToString decode
          (readUnits (memoryOf buf) (dataAt + 24) (processLength / 2)) else [],
        if 0 < fileLength then utf16ToString decode
          (readUnits (memoryOf buf) (dataAt + 24 + processLength) (fileLength / 2)) else []),
        ⟨buf, dataAt + 24 + processLength + fileLength⟩) := by
  simp (disch := omega) only [readFileEvent, binaryRead_bind, Nat.add_assoc, Nat.reduceAdd,
    hprocess, hfile, readPath_bind hprocessEven, readPath_bind hfileEven]
  rfl

/-! ## The events of the driver -/

theorem Received.carries (h : Received buf bytes) : Carries (memoryOf buf) payloadAt bytes ∧
    payloadAt + bytes.length ≤ buf.length ∧ buf.length = messageBufferSize := by
  obtain ⟨header, rest, hheader, rfl, hsize⟩ := h
  have hall := carries_memoryOf (header ++ bytes ++ rest)
  rw [carries_append, carries_append, Nat.zero_add, hheader] at hall
  refine ⟨hall.1.2, ?_, hsize⟩
  rw [List.length_append, List.length_append]
  omega

/-- What `svc` takes for the process path begins with the padding of the union. -/
theorem readUnits_padding {m : Memory} {a : ℕ} (h : Carries m a (List.replicate 25 0)) :
    utf16ToString decode (readUnits m a n) = decode [] := by
  cases n with
  | zero => rfl
  | succ n =>
      have h₀ : m (a + 0) = 0 := h 0 (by decide)
      have h₁ : m (a + 1) = 0 := h 1 (by decide)
      have hunit : readNat m a 2 = 0 := by
        rw [readNat, readNat, readNat, ← Nat.add_zero a, h₀, Nat.add_zero, h₁]
        rfl
      rw [utf16ToString, readUnits, hunit]
      rfl

/-- What `svc` logs about a file event. -/
def fileEventLog (decode : List (BitVec 16) → List Byte) (buf : List Byte)
    (eventType : Driver.EventType) (context : StreamHandleContext) (timestamp : UINT64) :
    Log where
  timestamp := timestamp.toInt
  type := "HostLog"
  operation := "File"
  result := "Permission denied"
  action := ""
  pid := int32 (handleToULong context.processId).toNat
  processName := if 0 < context.processPath.length then decode [] else []
  resource :=
    if 0 < context.filePath.length then utf16ToString decode (readUnits (memoryOf buf)
      (dataAt + 24 + context.processPath.length) (context.filePath.length / 2))
    else []
  data := getFileOperation (fileOperation eventType).toNat

/-- The fields of a file event that `svc` reads, and the padding, which it takes for the strings. -/
structure FileFields (m : Memory) (eventType : Driver.EventType) (context : StreamHandleContext)
    (timestamp : UINT64) : Prop where
  timestamp : readNat m timestampAt 8 = timestamp.toNat
  type : readNat m eventTypeAt 4 = 1
  operation : readNat m eventOperationAt 4 = 2
  blocked : readNat m blockedAt 1 = 0
  op : readNat m dataAt 4 = (fileOperation eventType).toNat
  pid : readNat m (dataAt + 4) 4 = (handleToULong context.processId).toNat
  processLength : readNat m (dataAt + 12) 4 = context.processPath.length
  fileLength : readNat m (dataAt + 20) 4 = context.filePath.length
  padding : Carries m (dataAt + 24) (List.replicate 25 0)

theorem fileFields_of_carries {m : Memory} {eventType : Driver.EventType}
    {context : StreamHandleContext} {timestamp : UINT64}
    (hsuccess : (serializeFileEvent (.new true) eventType context timestamp).1 = statusSuccess)
    (hcarries : Carries m payloadAt
      (serializeFileEvent (.new true) eventType context timestamp).2.bytes) :
    FileFields m eventType context timestamp := by
  rw [(Driver.serializeFileEvent_spec eventType context timestamp).2 hsuccess] at hcarries
  obtain ⟨htimestamp, htype, hoperation, hblocked, hfields⟩ :=
    headerFields_of_carries (carries_append.mp hcarries).1
  obtain ⟨hop, hpid, hprocessField, hfileField⟩ := file_fields hfields
  have hprocessLength := (stringField_of_carries hprocessField).2
  have hfileLength := (stringField_of_carries hfileField).2
  rw [placedAt_length] at hprocessLength hfileLength
  exact ⟨htimestamp, htype, hoperation, hblocked, hop, hpid, hprocessLength, hfileLength,
    (carries_append.mp hfields).2⟩

theorem parseFilterMessage_file (eventType : Driver.EventType) (context : StreamHandleContext)
    (timestamp : UINT64)
    (hsuccess : (serializeFileEvent (.new true) eventType context timestamp).1 = statusSuccess)
    (hreceived : Received buf
      (serializeFileEvent (.new true) eventType context timestamp).2.bytes) :
    parseFilterMessage decode buf =
      .ok (fileEventLog decode buf eventType context timestamp) := by
  obtain ⟨hcarries, hfits, hsize⟩ := hreceived.carries
  obtain ⟨htimestamp, htype, hoperation, hblocked, hop, hpid, hprocessLength, hfileLength,
    hpadding⟩ := fileFields_of_carries hsuccess hcarries
  rw [(Driver.serializeFileEvent_spec eventType context timestamp).2 hsuccess,
    List.length_append, Driver.Event.length_toBytes, List.length_append, length_unitsBytes,
    length_unitsBytes] at hfits
  have hlayout := layout
  have hprocess : context.processPath.length = 2 * context.processPath.units.length := rfl
  have hfile : context.filePath.length = 2 * context.filePath.units.length := rfl
  rw [parseFilterMessage, if_neg (by omega), readHead_run (by omega), htimestamp, hoperation,
    htype, hblocked]
  dsimp only
  rw [if_pos rfl, handleFileEvent,
    readFileEvent_run hprocessLength hfileLength (by omega) (by omega) (by omega)]
  simp only [hop, hpid, readUnits_padding hpadding, BitVec.ofNat_toNat, BitVec.setWidth_eq]
  rfl

theorem parse_file (eventType : Driver.EventType) (context : StreamHandleContext)
    (timestamp : UINT64)
    (hsuccess : (serializeFileEvent (.new true) eventType context timestamp).1 = statusSuccess)
    (hreceived : Received buf
      (serializeFileEvent (.new true) eventType context timestamp).2.bytes) :
    parse platform unassigned (some (memoryOf buf)) (payloadAt +
        (serializeFileEvent (.new true) eventType context timestamp).2.bytes.length) =
      .ok (fileEventParsed platform unassigned eventType context timestamp) :=
  (parsesTo_serializeFileEvent eventType context timestamp hsuccess (memoryOf buf)
    hreceived.carries.1).1

/-- Both services know the same names of the first four operations. -/
theorem operation_names (eventType : Driver.EventType) :
    "Event=" ++ (reportedFileOperation eventType).text =
        "Event=" ++ getFileOperation (fileOperation eventType).toNat ↔
      (fileOperation eventType).toNat < 4 := by
  cases eventType <;> decide

theorem result_of_convertToLog {event : Kasvc.Event} {log : Kasvc.Log}
    (hconvert : publisher.convertToLog event = some log) :
    log.result = if event.blocked then "Blocked" else "Passed" := by
  rw [convertToLog_eq] at hconvert
  obtain ⟨telemetry, -, rfl⟩ := Option.map_eq_some_iff.mp hconvert
  rfl

/-- What the two logs have in common, and where they part. -/
theorem decoders_compare (eventType : Driver.EventType) (context : StreamHandleContext)
    (timestamp : UINT64) {kasvc : Kasvc.Log}
    (hconvert : publisher.convertToLog (fileEventParsed platform unassigned eventType context
      timestamp) = some kasvc) :
    let svc := fileEventLog decode buf eventType context timestamp
    svc.pid = kasvc.telemetry.pid ∧
      (kasvc.telemetry.data = "Event=" ++ svc.data ↔ (fileOperation eventType).toNat < 4) ∧
      svc.processName = (if 0 < context.processPath.length then decode [] else []) ∧
      svc.result = "Permission denied" ∧ kasvc.result = "Passed" := by
  have hresult := result_of_convertToLog hconvert
  rw [convertToLog_eq] at hconvert
  obtain ⟨telemetry, htelemetry, rfl⟩ := Option.map_eq_some_iff.mp hconvert
  obtain ⟨updatedTime, -, ⟨⟩⟩ := Option.bind_eq_some_iff.mp htelemetry
  exact ⟨rfl, operation_names eventType, rfl, rfl, hresult⟩

/-- **The decoders never agree.**  `svc` reports an event that was not blocked as one that was. -/
theorem fileEvents_disagree (platform : Platform) (unassigned : Kasvc.EventType)
    (publisher : FeederEventPublisher) (decode : List (BitVec 16) → List Byte)
    (eventType : Driver.EventType) (context : StreamHandleContext) (timestamp : UINT64)
    (buf : List Byte)
    (hsuccess : (serializeFileEvent (.new true) eventType context timestamp).1 = statusSuccess)
    (hreceived : Received buf
      (serializeFileEvent (.new true) eventType context timestamp).2.bytes) :
    ¬DecodersAgree platform unassigned publisher decode
      (serializeFileEvent (.new true) eventType context timestamp).2.bytes buf := by
  rintro ⟨event, kasvc, svc, hkasvc, hconvert, hsvc, hagree⟩
  rw [parse_file eventType context timestamp hsuccess hreceived] at hkasvc
  rw [parseFilterMessage_file eventType context timestamp hsuccess hreceived] at hsvc
  cases hkasvc
  cases hsvc
  have hdenied : ¬"Permission denied" = "Passed" := by decide
  exact hdenied (hagree.verdict.mpr (result_of_convertToLog hconvert))

/-- A file of name `b`, opened by process 7 of path `a`. -/
private def openedFile : StreamHandleContext where
  processId := 7#64
  processPath := ⟨[97#16], by decide⟩
  filePath := ⟨[98#16], by decide⟩
  fileIoStatus := .opened
  isDirectory := false
  isOpenedForExecution := false
  deleteOnClose := false
  dispositionDelete := false
  dispositionRename := false
  wasChanged := false
  wasRead := false
  readOnly := false

private def openedBytes : List Byte :=
  (serializeFileEvent (.new true) .fileCreate openedFile 0#64).2.bytes

/-- Conversions as they are for ASCII strings. -/
private def asciiDecode (units : List (BitVec 16)) : List Byte :=
  units.map fun unit => unit.setWidth 8

private def publisher₀ : FeederEventPublisher :=
  ⟨"default", "host", windowsCalendar, ⟨[], 0⟩, ⟨[], 0⟩, 0⟩

private def openedBuffer : List Byte :=
  List.replicate 16 0 ++ openedBytes ++ List.replicate 4010 0

private theorem received_opened : Received openedBuffer openedBytes :=
  ⟨List.replicate 16 0, List.replicate 4010 0, rfl, rfl, by decide +kernel⟩

/-- The theorem at the event of this file. -/
theorem opened_disagrees :
    ¬DecodersAgree asciiPlatform .hostLog publisher₀ asciiDecode openedBytes openedBuffer :=
  fileEvents_disagree asciiPlatform .hostLog publisher₀ asciiDecode .fileCreate openedFile 0#64
    openedBuffer (by decide +kernel) received_opened

/-- `svc` logs the event as denied, `kasvc` as passed. -/
theorem not_decoders_agree : ¬∀ platform unassigned publisher decode eventType context timestamp
    buf, (serializeFileEvent (.new true) eventType context timestamp).1 = statusSuccess →
    Received buf (serializeFileEvent (.new true) eventType context timestamp).2.bytes →
    DecodersAgree platform unassigned publisher decode
      (serializeFileEvent (.new true) eventType context timestamp).2.bytes buf := by
  intro hagree
  obtain ⟨event, kasvc, svc, hkasvc, hconvert, hsvc, hlogs⟩ :
      DecodersAgree asciiPlatform .hostLog publisher₀ asciiDecode openedBytes openedBuffer :=
    hagree asciiPlatform .hostLog publisher₀ asciiDecode .fileCreate openedFile 0#64 openedBuffer
      (by decide +kernel) received_opened
  have hresult : (parseFilterMessage asciiDecode openedBuffer).map (·.result) =
      .ok "Permission denied" := by decide +kernel
  have hblocked : (parse asciiPlatform .hostLog (some (memoryOf openedBuffer))
      (payloadAt + openedBytes.length)).map (·.blocked) = .ok false := by decide +kernel
  have hdenied : svc.result = "Permission denied" := by
    rw [hsvc] at hresult
    exact Except.ok.inj hresult
  have hpassed : kasvc.result = "Passed" := by
    rw [hkasvc] at hblocked
    have hfalse : event.blocked = false := Except.ok.inj hblocked
    rw [result_of_convertToLog hconvert, hfalse]
    rfl
  have hverdict := hlogs.verdict.mpr hpassed
  rw [hdenied] at hverdict
  exact absurd hverdict (by decide)

end Kawin.Svc
