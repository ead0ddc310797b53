import Kawin.Driver.EventSerializers
import Kawin.Kasvc.ParserBounds

/-!
# From the driver's serializers to the parser

The driver lays an `EVENT` out with its own structures and puts the strings behind it, at
offsets from the start of the `EVENT`.  The service reads it through structures of its own,
behind a filter header of 16 bytes.  `events_round_trip` says that the two agree: what a
serializer succeeds in writing, the parser returns, and it reads nothing but the bytes written.

The proof goes field by field.  A message that carries an `EVENT` carries its fields at the
addresses where the parser looks for them (`Message.of_carries`, `file_fields`,
`process_fields`), and a string that the driver has placed is the string the parser finds
(`parseString_placed`).
-/

namespace Kawin.Kasvc

open ByteMemory Kawin.Driver

variable {platform : Platform} {unassigned : EventType} {m : Memory} {a field bufferSize : ℕ}

/-! ## Fields -/

private theorem readNat_ulong {v : ULONG} (h : Carries m a (leBytes 4 v.toNat)) :
    readNat m a 4 = v.toNat :=
  readNat_of_carries_of_lt h (by simpa using v.isLt)

theorem stringField_of_carries {string : StringField} (h : Carries m a string.toBytes) :
    stringOffset m a = string.offset.toNat ∧ stringLength m a = string.length.toNat := by
  rw [StringField.toBytes, carries_append, length_leBytes] at h
  exact ⟨readNat_ulong h.1, readNat_ulong h.2⟩

/-- The header fields of a message that carries an `EVENT`. -/
structure HeaderFields (m : Memory) (ev : Driver.Event) : Prop where
  timestamp : readNat m timestampAt 8 = ev.timestamp.toNat
  eventType : readNat m eventTypeAt 4 = ev.type.code
  eventOperation : readNat m eventOperationAt 4 = ev.operation.code
  blocked : readNat m blockedAt 1 = ev.blocked.toNat
  data : Carries m dataAt ev.data.toBytes

theorem headerFields_of_carries {ev : Driver.Event} (h : Carries m payloadAt ev.toBytes) :
    HeaderFields m ev := by
  simp only [Driver.Event.toBytes, carries_append, List.length_append, length_leBytes] at h
  obtain ⟨⟨⟨⟨htimestamp, htype⟩, hoperation⟩, hblocked⟩, hdata⟩ := h
  refine ⟨readNat_of_carries_of_lt htimestamp (by simpa using ev.timestamp.isLt),
    readNat_of_carries_of_lt htype ?_, readNat_of_carries_of_lt hoperation ?_,
    readNat_of_carries_of_lt hblocked ?_, hdata⟩
  · cases ev.type <;> decide
  · cases ev.operation <;> decide
  · cases ev.blocked <;> decide

theorem file_fields {fe : FileEvent} (h : Carries m dataAt (Driver.EventData.file fe).toBytes) :
    readNat m dataAt 4 = fe.operation.toNat ∧ readNat m (dataAt + 4) 4 = fe.processId.toNat ∧
      Carries m (dataAt + 8) fe.processPath.toBytes ∧
      Carries m (dataAt + 16) fe.filePath.toBytes := by
  simp only [Driver.EventData.toBytes, FileEvent.toBytes, carries_append, List.length_append,
    length_leBytes, StringField.toBytes] at h ⊢
  obtain ⟨⟨⟨⟨hoperation, hprocessId⟩, hprocessPath⟩, hfilePath⟩, _⟩ := h
  exact ⟨readNat_ulong hoperation, readNat_ulong hprocessId, hprocessPath, hfilePath⟩

theorem process_fields {pe : ProcessEvent}
    (h : Carries m dataAt (Driver.EventData.process pe).toBytes) :
    readNat m dataAt 4 = pe.operation.toNat ∧ readNat m (dataAt + 4) 4 = pe.processId.toNat ∧
      readNat m (dataAt + 8) 4 = pe.parentProcessId.toNat ∧
      Carries m (dataAt + 12) pe.processPath.toBytes ∧
      Carries m (dataAt + 20) pe.commandLine.toBytes ∧
      Carries m (dataAt + 28) pe.parentProcessPath.toBytes := by
  simp only [Driver.EventData.toBytes, ProcessEvent.toBytes, carries_append, List.length_append,
    length_leBytes, StringField.toBytes] at h ⊢
  obtain ⟨⟨hpe, hparentPath⟩, _⟩ := h
  obtain ⟨⟨⟨⟨hoperation, hprocessId⟩, hparent⟩, hprocessPath⟩, hcommandLine⟩ := hpe
  exact ⟨readNat_ulong hoperation, readNat_ulong hprocessId, readNat_ulong hparent, hprocessPath,
    hcommandLine, hparentPath⟩

/-! ## Strings -/

/-- A string of the driver in UTF-8; a string that is not there is empty. -/
def Platform.convert (platform : Platform) (s : UnicodeString) : List Byte :=
  if s.units = [] then [] else platform.wideCharToMultiByte s.units

/-- A string that the driver has placed is the string the parser finds, and reading it stays
within the payload. -/
theorem parseString_placed {offset : ℕ} {s : UnicodeString} (hoffset : offset < 2 ^ 32)
    (hplaced : Carries m field (StringField.placedAt offset s).toBytes)
    (hstring : Carries m (payloadAt + offset) (unitsBytes s.units))
    (hend : payloadAt + offset + s.length ≤ bufferSize) (hlow : payloadAt ≤ field)
    (hhigh : field + 8 ≤ bufferSize) :
    (parseString platform field bufferSize).value m = platform.convert s ∧
      (parseString platform field bufferSize).Within m payloadAt bufferSize := by
  obtain ⟨hoff, hlen⟩ := stringField_of_carries hplaced
  have hshort := s.short
  have hlength : s.length = 2 * s.units.length := rfl
  rw [value_parseString, within_parseString, Platform.convert]
  by_cases hempty : s.units = []
  · rw [StringField.placedAt, if_pos (List.isEmpty_iff.mpr hempty)] at hlen
    have hzero : stringLength m field = 0 := hlen
    exact ⟨by rw [if_pos (.inl hzero), if_pos hempty],
      ⟨⟨by omega, hhigh⟩, fun hne => absurd hzero hne⟩⟩
  · have hpos : 0 < s.units.length := List.length_pos_iff.mpr hempty
    rw [StringField.placedAt, if_neg (by simpa using hempty)] at hoff hlen
    rw [BitVec.toNat_ofNat, Nat.mod_eq_of_lt hoffset] at hoff
    rw [BitVec.toNat_ofNat, Nat.mod_eq_of_lt (by omega)] at hlen
    rw [hoff, hlen, if_neg (by omega), if_neg hempty, value_wStringToString, if_neg (by omega),
      hlength, Nat.mul_div_cancel_left _ (by decide), readUnits_of_carries hstring]
    exact ⟨rfl, ⟨by omega, hhigh⟩, fun _ => ⟨by omega, fun _ _ => by omega⟩⟩

theorem placedAt_length (offset : ℕ) (s : UnicodeString) :
    (StringField.placedAt offset s).length.toNat = s.length := by
  have hshort := s.short
  have hlength : s.length = 2 * s.units.length := rfl
  rw [StringField.placedAt]
  split
  · next hempty => rw [hlength, List.isEmpty_iff.mp hempty]; rfl
  · exact Nat.mod_eq_of_lt (by omega)

/-! ## Events -/

/-- The operation that the service should report of a file event.  An event type that is not one of
files goes as a create. -/
def reportedFileOperation : Driver.EventType → FileOperation
  | .fileCreate => .create
  | .fileRead => .read
  | .fileWrite => .write
  | .fileDelete => .delete
  | .fileRename => .rename
  | .fileSetInfo => .setInfo
  | .fileClose => .close
  | .processCreate | .processTerminate | .threadCreate | .threadTerminate | .imageLoad => .create

/-- The operation that it should report of a create or a terminate notification. -/
def reportedProcessOperation : Option CreateNotifyInfo → ProcessOperation
  | some _ => .create
  | none => .terminate

theorem ofCode_fileOperation (eventType : Driver.EventType) :
    FileOperation.ofCode (fileOperation eventType).toNat = reportedFileOperation eventType := by
  cases eventType <;> rfl

theorem ofCode_processOperation (createInfo : Option CreateNotifyInfo) :
    ProcessOperation.ofCode (processOperation createInfo).toNat =
      reportedProcessOperation createInfo := by
  cases createInfo <;> rfl

/-- Both clocks have ticks of 100 nanoseconds; what is below a microsecond is lost. -/
theorem ofMicroseconds_div_ten (timestamp : UINT64) :
    TimePoint.ofMicroseconds (timestamp.toNat / 10) = timestamp / 10 * 10 := by
  have hcount : BitVec.ofNat 64 (timestamp.toNat / 10) = timestamp / 10#64 :=
    BitVec.eq_of_toNat_eq (by
      rw [BitVec.toNat_ofNat, BitVec.toNat_udiv]
      exact Nat.mod_eq_of_lt ((Nat.div_le_self _ _).trans_lt timestamp.isLt))
  rw [TimePoint.ofMicroseconds, hcount]
  rfl

theorem toNat_handleToULong (handle : HANDLE) :
    (handleToULong handle).toNat = handle.toNat % 2 ^ 32 :=
  BitVec.toNat_setWidth ..

/-- What the parser should make of a file event. -/
def fileEventParsed (platform : Platform) (unassigned : EventType) (eventType : Driver.EventType)
    (context : StreamHandleContext) (timestamp : UINT64) : Event where
  type := unassigned
  operationType := .fileEvent
  eventId := 1
  timestamp := timestamp / 10 * 10
  blocked := false
  data := .file
    { operation := reportedFileOperation eventType
      processId := context.processId.toNat % 2 ^ 32
      processPath := platform.convert context.processPath
      filePath := platform.convert context.filePath }

/-- What the parser should make of a process event. -/
def processEventParsed (platform : Platform) (unassigned : EventType) (processId : HANDLE)
    (createInfo : Option CreateNotifyInfo) (cache : ProcessCache) (block : Option PoolAddress)
    (timestamp : UINT64) : Event where
  type := unassigned
  operationType := .processEvent
  eventId := 1
  timestamp := timestamp / 10 * 10
  blocked := false
  data := .process
    { operation := reportedProcessOperation createInfo
      processId := processId.toNat % 2 ^ 32
      parentProcessId := (processParent processId createInfo cache).toNat % 2 ^ 32
      processPath := platform.convert (processStrings processId createInfo cache block).processPath
      commandLine := platform.convert (processStrings processId createInfo cache block).commandLine
      parentProcessPath :=
        platform.convert (processStrings processId createInfo cache block).parentProcessPath }

/-- The parser gets `event` from any message that carries the bytes behind its header, and reads
nothing else. -/
def ParsesTo (platform : Platform) (unassigned : EventType) (bytes : List Byte)
    (event : Event) : Prop :=
  ∀ m, Carries m payloadAt bytes →
    (parseMessage platform unassigned (payloadAt + bytes.length)).value m = .ok event ∧
      (parseMessage platform unassigned (payloadAt + bytes.length)).Within m payloadAt
        (payloadAt + bytes.length)

theorem parsesTo_file (eventType : Driver.EventType) (context : StreamHandleContext)
    (timestamp : UINT64)
    (hfits : sizeofEvent + context.processPath.length + context.filePath.length ≤ defaultMaxSize) :
    ParsesTo platform unassigned
      ((fileEventOf eventType context timestamp (.placedAt sizeofEvent context.processPath)
        (.placedAt (sizeofEvent + context.processPath.length) context.filePath)).toBytes ++
          (unitsBytes context.processPath.units ++ unitsBytes context.filePath.units))
      (fileEventParsed platform unassigned eventType context timestamp) := by
  intro m hcarries
  have hpayload : payloadAt = 16 := rfl
  have hdata : dataAt = 33 := rfl
  have hsize : sizeofEvent = 66 := rfl
  have hmax : defaultMaxSize = 32768 := rfl
  have hprocess : context.processPath.length = 2 * context.processPath.units.length := rfl
  have hfile : context.filePath.length = 2 * context.filePath.units.length := rfl
  simp only [carries_append, List.length_append, Driver.Event.length_toBytes, length_unitsBytes,
    ← hprocess, ← hfile] at hcarries ⊢
  obtain ⟨hevent, hprocessString, hfileString⟩ := hcarries
  obtain ⟨htimestamp, _, hoperation, hblocked, hfields⟩ := headerFields_of_carries hevent
  obtain ⟨hop, hpid, hprocessField, hfileField⟩ := file_fields hfields
  obtain ⟨bufferSize, hbuffer⟩ : ∃ size, size = payloadAt + (sizeofEvent +
      (context.processPath.length + context.filePath.length)) := ⟨_, rfl⟩
  rw [← hbuffer]
  obtain ⟨hprocessPath, hprocessWithin⟩ := @parseString_placed platform m _ bufferSize _ _
    (by omega) hprocessField hprocessString (by omega) (by omega) (by omega)
  obtain ⟨hfilePath, hfileWithin⟩ := @parseString_placed platform m _ bufferSize _ _
    (by omega) hfileField (by rwa [← Nat.add_assoc]) (by omega) (by omega) (by omega)
  have hcode : readNat m eventOperationAt 4 = fileEventCode := hoperation
  rw [toNat_handleToULong] at hpid
  constructor
  · simp only [parseMessage, parseFileEvent, TracedReader.value_bind, TracedReader.value_nat,
      TracedReader.value_pure, hcode, if_true, htimestamp, hblocked, hop, hpid, hprocessPath,
      hfilePath, ofCode_fileOperation,
      ofMicroseconds_div_ten]
    rfl
  · refine (within_parseMessage le_rfl).mpr ⟨?_, ?_⟩
    · simp only [headerEnd, hcode, if_true]
      omega
    · simp only [stringFields, hcode, if_true, List.forall_mem_cons]
      exact ⟨hprocessWithin, hfileWithin, List.forall_mem_nil _⟩

theorem parsesTo_process (processId : HANDLE) (createInfo : Option CreateNotifyInfo)
    (cache : ProcessCache) (block : Option PoolAddress) (timestamp : UINT64)
    (hfits : sizeofEvent + (processStrings processId createInfo cache block).length ≤
      defaultMaxSize) :
    let strings := processStrings processId createInfo cache block
    ParsesTo platform unassigned
      ((processEventOf (processOperation createInfo) processId
        (processParent processId createInfo cache) timestamp
        (.placedAt sizeofEvent strings.processPath)
        (.placedAt (sizeofEvent + strings.processPath.length) strings.commandLine)
        (.placedAt (sizeofEvent + strings.processPath.length + strings.commandLine.length)
          strings.parentProcessPath)).toBytes ++
            (unitsBytes strings.processPath.units ++ unitsBytes strings.commandLine.units ++
              unitsBytes strings.parentProcessPath.units))
      (processEventParsed platform unassigned processId createInfo cache block timestamp) := by
  intro strings m hcarries
  have hpayload : payloadAt = 16 := rfl
  have hdata : dataAt = 33 := rfl
  have hsize : sizeofEvent = 66 := rfl
  have hmax : defaultMaxSize = 32768 := rfl
  have hprocess : strings.processPath.length = 2 * strings.processPath.units.length := rfl
  have hcommand : strings.commandLine.length = 2 * strings.commandLine.units.length := rfl
  have hparent : strings.parentProcessPath.length =
    2 * strings.parentProcessPath.units.length := rfl
  have hlength : (processStrings processId createInfo cache block).length =
    strings.processPath.length + strings.commandLine.length +
      strings.parentProcessPath.length := rfl
  simp only [carries_append, List.length_append, Driver.Event.length_toBytes, length_unitsBytes,
    ← hprocess, ← hcommand, ← hparent] at hcarries ⊢
  obtain ⟨hevent, ⟨hprocessString, hcommandString⟩, hparentString⟩ := hcarries
  obtain ⟨htimestamp, _, hoperation, hblocked, hfields⟩ := headerFields_of_carries hevent
  obtain ⟨hop, hpid, hppid, hprocessField, hcommandField, hparentField⟩ := process_fields hfields
  obtain ⟨bufferSize, hbuffer⟩ : ∃ size, size = payloadAt + (sizeofEvent +
      (strings.processPath.length + strings.commandLine.length +
        strings.parentProcessPath.length)) := ⟨_, rfl⟩
  rw [← hbuffer]
  obtain ⟨hprocessPath, hprocessWithin⟩ := @parseString_placed platform m _ bufferSize _ _
    (by omega) hprocessField hprocessString (by omega) (by omega) (by omega)
  obtain ⟨hcommandLine, hcommandWithin⟩ := @parseString_placed platform m _ bufferSize _ _
    (by omega) hcommandField (by rwa [← Nat.add_assoc]) (by omega) (by omega) (by omega)
  obtain ⟨hparentPath, hparentWithin⟩ := @parseString_placed platform m _ bufferSize _ _
    (by omega) hparentField (by rwa [Nat.add_assoc sizeofEvent, ← Nat.add_assoc]) (by omega)
    (by omega) (by omega)
  have hcode : readNat m eventOperationAt 4 = processEventCode := hoperation
  have hnot : ¬processEventCode = fileEventCode := by decide
  rw [toNat_handleToULong] at hpid hppid
  constructor
  · simp only [parseMessage, parseProcessEvent, TracedReader.value_bind, TracedReader.value_nat,
      TracedReader.value_pure, hcode, if_neg hnot, if_true, htimestamp, hblocked, hop, hpid, hppid,
      hprocessPath, hcommandLine, hparentPath, ofCode_processOperation,
      ofMicroseconds_div_ten]
    rfl
  · refine (within_parseMessage le_rfl).mpr ⟨?_, ?_⟩
    · simp only [headerEnd, hcode, if_neg hnot, if_true]
      omega
    · simp only [stringFields, hcode, if_neg hnot, if_true, List.forall_mem_cons]
      exact ⟨hprocessWithin, hcommandWithin, hparentWithin, List.forall_mem_nil _⟩

/-- What `SerializeFileEvent` writes is what the parser returns. -/
theorem parsesTo_serializeFileEvent (eventType : Driver.EventType) (context : StreamHandleContext)
    (timestamp : UINT64)
    (hsuccess : (serializeFileEvent (.new true) eventType context timestamp).1 = statusSuccess) :
    ParsesTo platform unassigned
      (serializeFileEvent (.new true) eventType context timestamp).2.bytes
      (fileEventParsed platform unassigned eventType context timestamp) := by
  obtain ⟨hstatus, hbytes⟩ := serializeFileEvent_spec eventType context timestamp
  rw [hbytes hsuccess]
  exact parsesTo_file eventType context timestamp (hstatus.mp hsuccess)

/-- **Round trip.**  A serializer succeeds exactly when the event and its strings fit the buffer,
and the parser then returns the event that was serialized, reading only the bytes written. -/
theorem events_round_trip (platform : Platform) (unassigned : EventType) :
    (∀ eventType context timestamp,
      let result := serializeFileEvent (.new true) eventType context timestamp
      (result.1 = statusSuccess ↔
        sizeofEvent + context.processPath.length + context.filePath.length ≤ defaultMaxSize) ∧
      (result.1 = statusSuccess → ParsesTo platform unassigned result.2.bytes
        (fileEventParsed platform unassigned eventType context timestamp))) ∧
    (∀ processId createInfo cache block timestamp,
      let result := serializeProcessEvent (.new true) processId createInfo cache block timestamp
      (result.1 = statusSuccess ↔
        sizeofEvent + (processStrings processId createInfo cache block).length ≤
          defaultMaxSize) ∧
      (result.1 = statusSuccess → ParsesTo platform unassigned result.2.1.bytes
        (processEventParsed platform unassigned processId createInfo cache block timestamp))) := by
  constructor
  · intro eventType context timestamp
    obtain ⟨hstatus, -⟩ := serializeFileEvent_spec eventType context timestamp
    exact ⟨hstatus, parsesTo_serializeFileEvent eventType context timestamp⟩
  · intro processId createInfo cache block timestamp
    obtain ⟨hstatus, hbytes⟩ :=
      serializeProcessEvent_spec processId createInfo cache block timestamp
    refine ⟨hstatus, fun hsuccess => ?_⟩
    rw [hbytes hsuccess]
    exact parsesTo_process processId createInfo cache block timestamp (hstatus.mp hsuccess)

/-- A file of name `c`, opened by a process whose number does not fit 32 bits. -/
private def fileOfLargeProcess : StreamHandleContext where
  processId := 0x100000007#64
  processPath := .empty
  filePath := ⟨[99#16], by decide⟩
  fileIoStatus := .opened
  isDirectory := false
  isOpenedForExecution := false
  deleteOnClose := false
  dispositionDelete := false
  dispositionRename := false
  wasChanged := false
  wasRead := false
  readOnly := false

/-- The file is renamed. -/
private def renameBytes : List Byte :=
  (serializeFileEvent (.new true) .fileRename fileOfLargeProcess 25#64).2.bytes

/-- Process 9 terminates, of which the cache knows nothing. -/
private def terminateBytes : List Byte :=
  (serializeProcessEvent (.new true) 9#64 none .empty none 25#64).2.1.bytes

/-- The bytes behind a header of zeros. -/
private def behindHeader (bytes : List Byte) : Memory :=
  copy (fun _ => 0#8) payloadAt bytes.length (memoryOf bytes)

private theorem carries_behindHeader (bytes : List Byte) :
    Carries (behindHeader bytes) payloadAt bytes := by
  intro i hi
  have hbyte := carries_memoryOf bytes i hi
  rw [Nat.zero_add] at hbyte
  rw [behindHeader, copy_of_mem _ _ (by omega) (by omega), Nat.add_sub_cancel_left, hbyte]

theorem events_round_trip_renameAndTerminate :
    (parseMessage asciiPlatform .hostLog (payloadAt + renameBytes.length)).value
        (behindHeader renameBytes) =
      .ok ⟨.hostLog, .fileEvent, 1, 20, false, .file ⟨.rename, 7, [], [99#8]⟩⟩ ∧
    (parseMessage asciiPlatform .hostLog (payloadAt + terminateBytes.length)).value
        (behindHeader terminateBytes) =
      .ok ⟨.hostLog, .processEvent, 1, 20, false, .process ⟨.terminate, 9, 0, [], [], []⟩⟩ := by
  obtain ⟨hfile, hprocess⟩ := events_round_trip asciiPlatform .hostLog
  obtain ⟨-, hrename⟩ := hfile .fileRename fileOfLargeProcess 25#64
  obtain ⟨-, hterminate⟩ := hprocess 9#64 none .empty none 25#64
  exact ⟨(hrename (by decide +kernel) _ (carries_behindHeader _)).1,
    (hterminate (by decide +kernel) _ (carries_behindHeader _)).1⟩

end Kawin.Kasvc
