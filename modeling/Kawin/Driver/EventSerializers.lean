import Kawin.Base.ByteList
import Kawin.Driver.FileCallbacks
import Kawin.Driver.ProcessCache

/-!
# The event serializers

`SerializeFileEvent` and `SerializeProcessEvent` write an `EVENT` of 66 bytes into a `Buffer`,
append the strings of the event, each with its offset and length noted, and at the end write the
`EVENT` once more over the first.  A write that does not fit sets a flag, and everything
after it is dropped.

`Filled` is what a `Buffer` is after any sequence of writes: it holds everything written, or the
flag is set and everything written is too much.  What the serializers leave behind follows
from it (`finish_filled`), whatever the lengths of the strings.
-/

namespace Kawin.Driver

open ByteMemory

/-! ## `Buffer` -/

/-- `Buffer`; `bytes` are the `m_CurrentSize` bytes written so far. -/
structure Buffer where
  valid : Bool
  maxSize : ℕ
  bytes : List Byte
  overflow : Bool

/-- `DEFAULT_MAX_SIZE`. -/
def defaultMaxSize : ℕ := 32768

namespace Buffer

/-- `Buffer()`, with whether its allocation succeeds. -/
def new (allocated : Bool) : Buffer :=
  if allocated then ⟨true, defaultMaxSize, [], false⟩ else ⟨false, 0, [], false⟩

/-- `GetCurrentSize`. -/
def currentSize (buffer : Buffer) : ULONG := BitVec.ofNat 32 buffer.bytes.length

/-- `WriteBytes`. -/
def writeBytes (buffer : Buffer) (data : List Byte) : Bool × Buffer :=
  if buffer.overflow || !buffer.valid then (false, buffer)
  else if data.isEmpty then (true, buffer)
  -- the sum is a `ULONG`
  else if buffer.maxSize < (buffer.bytes.length + data.length) % 2 ^ 32 then
    (false, { buffer with overflow := true })
  else (true, { buffer with bytes := buffer.bytes ++ data })

end Buffer

/-! ## `EventStructs.h` -/

/-- `FS_EVENT_TYPE`. -/
inductive FsEventType
  | hostLog | matchHostPolicy
  deriving DecidableEq, Repr

def FsEventType.code : FsEventType → ℕ
  | .hostLog => 1
  | .matchHostPolicy => 2

/-- `FS_EVENT_OPERATION`. -/
inductive FsEventOperation
  | invalid | process | file | network
  deriving DecidableEq, Repr

def FsEventOperation.code : FsEventOperation → ℕ
  | .invalid => 0
  | .process => 1
  | .file => 2
  | .network => 3

/-- The offset and length fields of one string of an event. -/
structure StringField where
  offset : ULONG
  length : ULONG
  deriving DecidableEq

def StringField.toBytes (field : StringField) : List Byte :=
  leBytes 4 field.offset.toNat ++ leBytes 4 field.length.toNat

/-- `FILE_EVENT`. -/
structure FileEvent where
  operation : ULONG
  processId : ULONG
  processPath : StringField
  filePath : StringField

def FileEvent.toBytes (fe : FileEvent) : List Byte :=
  leBytes 4 fe.operation.toNat ++ leBytes 4 fe.processId.toNat ++ fe.processPath.toBytes ++
    fe.filePath.toBytes

/-- `PROCESS_EVENT`. -/
structure ProcessEvent where
  operation : ULONG
  processId : ULONG
  parentProcessId : ULONG
  processPath : StringField
  commandLine : StringField
  parentProcessPath : StringField

def ProcessEvent.toBytes (pe : ProcessEvent) : List Byte :=
  leBytes 4 pe.operation.toNat ++ leBytes 4 pe.processId.toNat ++
    leBytes 4 pe.parentProcessId.toNat ++ pe.processPath.toBytes ++ pe.commandLine.toBytes ++
    pe.parentProcessPath.toBytes

/-- The union `data` of an `EVENT`, of 49 bytes; the driver builds no network events. -/
inductive EventData
  | zero
  | file (fe : FileEvent)
  | process (pe : ProcessEvent)

def EventData.toBytes : EventData → List Byte
  | .zero => List.replicate 49 0
  | .file fe => fe.toBytes ++ List.replicate 25 0
  | .process pe => pe.toBytes ++ List.replicate 13 0

/-- `EVENT`. -/
structure Event where
  timestamp : UINT64
  type : FsEventType
  operation : FsEventOperation
  blocked : Bool
  data : EventData

/-- `sizeof(EVENT)`, packed. -/
def sizeofEvent : ℕ := 66

def Event.toBytes (ev : Event) : List Byte :=
  leBytes 8 ev.timestamp.toNat ++ leBytes 4 ev.type.code ++ leBytes 4 ev.operation.code ++
    leBytes 1 ev.blocked.toNat ++ ev.data.toBytes

theorem Event.length_toBytes (ev : Event) : ev.toBytes.length = sizeofEvent := by
  cases hdata : ev.data <;>
    simp [Event.toBytes, hdata, EventData.toBytes, FileEvent.toBytes, ProcessEvent.toBytes,
      StringField.toBytes, sizeofEvent]

/-! ## Writing an event -/

/-- A string that is there is appended, with its place noted in the fields. -/
def Buffer.appendString (buffer : Buffer) (s : UnicodeString) : StringField × Buffer :=
  if s.units.isEmpty then (⟨0#32, 0#32⟩, buffer)
  else (⟨buffer.currentSize, BitVec.ofNat 32 s.length⟩, (buffer.writeBytes (unitsBytes s.units)).2)

/-- The end of both serializers: the complete `EVENT` over the first one, unless the buffer
overflowed. -/
def Buffer.finish (buffer : Buffer) (ev : Event) : NTSTATUS × Buffer :=
  if buffer.overflow then (statusBufferTooSmall, buffer)
  else if buffer.valid then
    (statusSuccess, { buffer with bytes := ev.toBytes ++ buffer.bytes.drop sizeofEvent })
  else (statusSuccess, buffer)

/-- `HandleToULong`. -/
def handleToULong (handle : HANDLE) : ULONG := handle.setWidth 32

/-- The `switch` on the event type in `SerializeFileEvent`. -/
def fileOperation : EventType → ULONG
  | .fileCreate => 0#32
  | .fileRead => 1#32
  | .fileWrite => 2#32
  | .fileDelete => 3#32
  | .fileRename => 4#32
  | .fileSetInfo => 5#32
  | .fileClose => 7#32
  | _ => 0#32

/-- `SerializeFileEvent`; `timestamp` is what `KeQuerySystemTime` returns. -/
def serializeFileEvent (buffer : Buffer) (eventType : EventType) (context : StreamHandleContext)
    (timestamp : UINT64) : NTSTATUS × Buffer :=
  if !buffer.valid then (statusInsufficientResources, buffer)
  else
    let ev : Event := ⟨timestamp, .hostLog, .file, false, .zero⟩
    let header := buffer.writeBytes ev.toBytes
    if !header.1 then (statusBufferTooSmall, header.2)
    else
      let processPath := header.2.appendString context.processPath
      let filePath := processPath.2.appendString context.filePath
      filePath.2.finish { ev with
        data := .file
          { operation := fileOperation eventType
            processId := handleToULong context.processId
            processPath := processPath.1
            filePath := filePath.1 } }

/-- `PS_CREATE_NOTIFY_INFO`. -/
structure CreateNotifyInfo where
  parentProcessId : HANDLE
  /-- `CreatingThreadId.UniqueProcess` -/
  creatingProcess : HANDLE
  fileOpenNameAvailable : Bool
  imageFileName : UnicodeString
  commandLine : UnicodeString

/-- The image path in the block at `a`. -/
def ProcessCache.imagePathAt (cache : ProcessCache) (a : PoolAddress) : UnicodeString :=
  ((cache.pool a).map (·.imagePath)).getD .empty

/-- The parent process in the block at `a`. -/
def ProcessCache.parentProcessIdAt (cache : ProcessCache) (a : PoolAddress) : HANDLE :=
  ((cache.pool a).map (·.parentProcessId)).getD 0#64

/-- The parent's path, read from its entry between `GetProcessContext` and
`ReleaseProcessContext`. -/
def ProcessCache.appendParentPath (cache : ProcessCache) (parentProcessId : HANDLE)
    (buffer : Buffer) : StringField × Buffer × ProcessCache :=
  if cache.isProcessCached parentProcessId then
    match cache.getProcessContext parentProcessId with
    | (_, some a, held) =>
        let path := buffer.appendString (held.imagePathAt a)
        (path.1, path.2, held.releaseProcessContext a)
    | (_, none, same) => (⟨0#32, 0#32⟩, buffer, same)
  else (⟨0#32, 0#32⟩, buffer, cache)

/-- `SerializeProcessEvent`: the event of a create notification, or of a terminate
notification where `createInfo` is absent.  `block` is the allocation of `AddProcess`. -/
def serializeProcessEvent (buffer : Buffer) (processId : HANDLE)
    (createInfo : Option CreateNotifyInfo) (cache : ProcessCache) (block : Option PoolAddress)
    (timestamp : UINT64) : NTSTATUS × Buffer × ProcessCache :=
  if !buffer.valid then (statusInsufficientResources, buffer, cache)
  else
    let ev : Event := ⟨timestamp, .hostLog, .process, false, .zero⟩
    let header := buffer.writeBytes ev.toBytes
    if !header.1 then (statusBufferTooSmall, header.2, cache)
    else
      match createInfo with
      | some info =>
          let added := cache.addProcess block processId info.parentProcessId info.creatingProcess
            info.imageFileName
          let processPath :=
            if info.fileOpenNameAvailable then header.2.appendString info.imageFileName
            else (⟨0#32, 0#32⟩, header.2)
          let commandLine := processPath.2.appendString info.commandLine
          let parentPath := added.2.appendParentPath info.parentProcessId commandLine.2
          let finished := parentPath.2.1.finish { ev with
            data := .process
              { operation := 0#32
                processId := handleToULong processId
                parentProcessId := handleToULong info.parentProcessId
                processPath := processPath.1
                commandLine := commandLine.1
                parentProcessPath := parentPath.1 } }
          (finished.1, finished.2, parentPath.2.2)
      | none =>
          match cache.getProcessContext processId with
          | (_, some a, held) =>
              let processPath := header.2.appendString (held.imagePathAt a)
              let finished := processPath.2.finish { ev with
                data := .process
                  { operation := 1#32
                    processId := handleToULong processId
                    parentProcessId := handleToULong (held.parentProcessIdAt a)
                    processPath := processPath.1
                    commandLine := ⟨0#32, 0#32⟩
                    parentProcessPath := ⟨0#32, 0#32⟩ } }
              (finished.1, finished.2,
                ((held.releaseProcessContext a).removeProcess processId).2)
          | (_, none, same) =>
              let finished := header.2.finish { ev with
                data := .process
                  { operation := 1#32
                    processId := handleToULong processId
                    parentProcessId := 0#32
                    processPath := ⟨0#32, 0#32⟩
                    commandLine := ⟨0#32, 0#32⟩
                    parentProcessPath := ⟨0#32, 0#32⟩ } }
              (finished.1, finished.2, same)

/-! ## What a buffer holds -/

variable {buffer : Buffer} {all data : List Byte} {s : UnicodeString} {ev : Event}

/-- The buffer after writing `all`: all of it, or the overflow flag if that is too much. -/
structure Buffer.Filled (buffer : Buffer) (all : List Byte) : Prop where
  valid : buffer.valid
  maxSize : buffer.maxSize = defaultMaxSize
  overflow : buffer.overflow ↔ defaultMaxSize < all.length
  bytes : buffer.overflow = false → buffer.bytes = all

theorem Buffer.filled_new : (Buffer.new true).Filled [] :=
  ⟨rfl, rfl, iff_of_false Bool.false_ne_true (Nat.not_lt_zero _), fun _ => rfl⟩

theorem Buffer.Filled.writeBytes (h : buffer.Filled all) (hshort : data.length < 2 ^ 16) :
    (buffer.writeBytes data).2.Filled (all ++ data) := by
  have hmax : defaultMaxSize = 32768 := rfl
  rw [Buffer.writeBytes]
  cases hover : buffer.overflow with
  | true =>
      have := h.overflow.mp hover
      exact ⟨h.valid, h.maxSize, by rw [List.length_append]; exact iff_of_true hover (by omega),
        fun hnot => nomatch hover.symm.trans hnot⟩
  | false =>
      have hfits : all.length ≤ defaultMaxSize :=
        Nat.le_of_not_lt fun hlt => nomatch hover.symm.trans (h.overflow.mpr hlt)
      rw [h.valid, h.bytes hover, h.maxSize]
      cases data with
      | nil => simpa using h
      | cons byte rest =>
          rw [Nat.mod_eq_of_lt (by omega), if_neg (by simp), if_neg (by simp)]
          split
          · next hlarge =>
              exact ⟨rfl, rfl, by rw [List.length_append]; exact iff_of_true rfl hlarge,
                nofun⟩
          · next hsmall =>
              refine ⟨rfl, rfl, ?_, fun _ => rfl⟩
              rw [List.length_append]
              exact iff_of_false Bool.false_ne_true hsmall

/-- The fields of a string that stands at `offset`. -/
def StringField.placedAt (offset : ℕ) (s : UnicodeString) : StringField :=
  if s.units.isEmpty then ⟨0#32, 0#32⟩ else ⟨BitVec.ofNat 32 offset, BitVec.ofNat 32 s.length⟩

theorem Buffer.Filled.appendString (h : buffer.Filled all) :
    (buffer.appendString s).2.Filled (all ++ unitsBytes s.units) ∧
      (all.length ≤ defaultMaxSize → (buffer.appendString s).1 = .placedAt all.length s) := by
  rw [Buffer.appendString, StringField.placedAt]
  split
  · next hempty =>
      rw [List.isEmpty_iff.mp hempty]
      exact ⟨by simpa [unitsBytes] using h, fun _ => rfl⟩
  · refine ⟨h.writeBytes (by rw [length_unitsBytes]; exact s.short), fun hfits => ?_⟩
    have hover : buffer.overflow = false :=
      Bool.eq_false_iff.mpr fun hover => Nat.not_lt.mpr hfits (h.overflow.mp hover)
    rw [Buffer.currentSize, h.bytes hover]

/-- What `finish` returns and leaves behind. -/
theorem Buffer.Filled.finish (h : buffer.Filled all) :
    ((buffer.finish ev).1 = statusSuccess ↔ all.length ≤ defaultMaxSize) ∧
      ((buffer.finish ev).1 = statusSuccess →
        (buffer.finish ev).2.bytes = ev.toBytes ++ all.drop sizeofEvent) := by
  rw [Buffer.finish]
  cases hover : buffer.overflow with
  | true =>
      have hlarge := h.overflow.mp hover
      exact ⟨iff_of_false (show statusBufferTooSmall ≠ statusSuccess by decide)
        (Nat.not_le.mpr hlarge), fun hstatus => absurd hstatus
        (show statusBufferTooSmall ≠ statusSuccess by decide)⟩
  | false =>
      have hfits : all.length ≤ defaultMaxSize :=
        Nat.le_of_not_lt fun hlt => nomatch hover.symm.trans (h.overflow.mpr hlt)
      rw [h.valid, if_neg Bool.false_ne_true, if_pos rfl, h.bytes hover]
      exact ⟨iff_of_true rfl hfits, fun _ => rfl⟩

/-- The first write, of a whole `EVENT`, fits a new buffer. -/
theorem Buffer.writeBytes_new :
    ((Buffer.new true).writeBytes ev.toBytes).1 = true ∧
      ((Buffer.new true).writeBytes ev.toBytes).2.Filled ev.toBytes := by
  have hlength := ev.length_toBytes
  refine ⟨?_, Buffer.filled_new.writeBytes (by rw [hlength]; decide)⟩
  have hempty : ev.toBytes.isEmpty = false := by
    rw [List.isEmpty_eq_false_iff, ← List.length_pos_iff, hlength]
    decide
  rw [Buffer.writeBytes, hempty, hlength]
  rfl

/-- **Everything a serializer appends.**  After a first `EVENT`, up to three strings and the
final `EVENT`: success exactly when all fits, and then the final `EVENT` with the places of
the strings, followed by the strings. -/
theorem finish_strings {header : Buffer} (hheader : header.Filled ev.toBytes)
    (s₁ s₂ s₃ : UnicodeString) (final : StringField → StringField → StringField → Event) :
    let p₁ := header.appendString s₁
    let p₂ := p₁.2.appendString s₂
    let p₃ := p₂.2.appendString s₃
    let result := p₃.2.finish (final p₁.1 p₂.1 p₃.1)
    (result.1 = statusSuccess ↔
        sizeofEvent + s₁.length + s₂.length + s₃.length ≤ defaultMaxSize) ∧
      (result.1 = statusSuccess →
        result.2.bytes = (final (.placedAt sizeofEvent s₁) (.placedAt (sizeofEvent + s₁.length) s₂)
          (.placedAt (sizeofEvent + s₁.length + s₂.length) s₃)).toBytes ++
            (unitsBytes s₁.units ++ unitsBytes s₂.units ++ unitsBytes s₃.units)) := by
  intro p₁ p₂ p₃ result
  obtain ⟨hfill₁, hplace₁⟩ := hheader.appendString (s := s₁)
  obtain ⟨hfill₂, hplace₂⟩ := hfill₁.appendString (s := s₂)
  obtain ⟨hfill₃, hplace₃⟩ := hfill₂.appendString (s := s₃)
  obtain ⟨hstatus, hbytes⟩ := @Buffer.Filled.finish _ _ (final p₁.1 p₂.1 p₃.1) hfill₃
  simp only [List.length_append, length_unitsBytes, ev.length_toBytes] at hplace₁ hplace₂ hplace₃
  rw [List.length_append, List.length_append, List.length_append, length_unitsBytes,
    length_unitsBytes, length_unitsBytes, ev.length_toBytes] at hstatus
  refine ⟨hstatus, fun hsuccess => ?_⟩
  have hfits := hstatus.mp hsuccess
  -- everything fits, so no earlier write was dropped and each offset is the true one
  have h₁ : p₁.1 = .placedAt sizeofEvent s₁ := hplace₁ (by omega)
  have h₂ : p₂.1 = .placedAt (sizeofEvent + s₁.length) s₂ := hplace₂ (by omega)
  have h₃ : p₃.1 = .placedAt (sizeofEvent + s₁.length + s₂.length) s₃ := hplace₃ (by omega)
  rw [← h₁, ← h₂, ← h₃]
  refine (hbytes hsuccess).trans ?_
  rw [List.append_assoc, List.append_assoc, List.drop_left' ev.length_toBytes, List.append_assoc]

theorem appendString_empty : buffer.appendString .empty = (⟨0#32, 0#32⟩, buffer) := rfl

/-! ## What the serializers write -/

/-- The event of a file notification. -/
def fileEventOf (eventType : EventType) (context : StreamHandleContext) (timestamp : UINT64)
    (processPath filePath : StringField) : Event where
  timestamp := timestamp
  type := .hostLog
  operation := .file
  blocked := false
  data := .file
    { operation := fileOperation eventType
      processId := handleToULong context.processId
      processPath := processPath
      filePath := filePath }

/-- The event of a process notification. -/
def processEventOf (operation : ULONG) (processId parentProcessId : HANDLE) (timestamp : UINT64)
    (processPath commandLine parentProcessPath : StringField) : Event where
  timestamp := timestamp
  type := .hostLog
  operation := .process
  blocked := false
  data := .process
    { operation := operation
      processId := handleToULong processId
      parentProcessId := handleToULong parentProcessId
      processPath := processPath
      commandLine := commandLine
      parentProcessPath := parentProcessPath }

@[simp] theorem length_empty : UnicodeString.empty.length = 0 := rfl

@[simp] theorem unitsBytes_empty : unitsBytes UnicodeString.empty.units = [] := rfl

/-- `SerializeFileEvent` on a new buffer. -/
theorem serializeFileEvent_spec (eventType : EventType) (context : StreamHandleContext)
    (timestamp : UINT64) :
    let result := serializeFileEvent (.new true) eventType context timestamp
    (result.1 = statusSuccess ↔
        sizeofEvent + context.processPath.length + context.filePath.length ≤ defaultMaxSize) ∧
      (result.1 = statusSuccess →
        result.2.bytes = (fileEventOf eventType context timestamp
          (.placedAt sizeofEvent context.processPath)
          (.placedAt (sizeofEvent + context.processPath.length) context.filePath)).toBytes ++
            (unitsBytes context.processPath.units ++ unitsBytes context.filePath.units)) := by
  obtain ⟨hwritten, hfilled⟩ := @Buffer.writeBytes_new ⟨timestamp, .hostLog, .file, false, .zero⟩
  have hspec := finish_strings hfilled context.processPath context.filePath .empty
    fun processPath filePath _ => fileEventOf eventType context timestamp processPath filePath
  simp only [appendString_empty, length_empty, unitsBytes_empty, List.append_nil,
    Nat.add_zero] at hspec
  rw [serializeFileEvent, show (Buffer.new true).valid = true from rfl, Bool.not_true,
    if_neg Bool.false_ne_true]
  simp only [hwritten, Bool.not_true, Bool.false_eq_true, if_false]
  exact hspec

/-! ### Process events -/

variable {cache : ProcessCache} {processId : HANDLE}

/-- The image path that the cache has for the process. -/
def ProcessCache.cachedImagePath (cache : ProcessCache) (processId : HANDLE) : UnicodeString :=
  ((cache.entryOf processId).map (·.imagePath)).getD .empty

/-- The parent that the cache has for the process. -/
def ProcessCache.cachedParent (cache : ProcessCache) (processId : HANDLE) : HANDLE :=
  ((cache.entryOf processId).map (·.parentProcessId)).getD 0#64

theorem ProcessCache.cached_of_find {a : PoolAddress}
    (hfind : cache.findProcessContextLocked processId = some a) :
    (cache.addReferences a 1#32).imagePathAt a = cache.cachedImagePath processId ∧
      (cache.addReferences a 1#32).parentProcessIdAt a = cache.cachedParent processId := by
  obtain ⟨_, entry, hentry, _⟩ := mem_of_find hfind
  simp [imagePathAt, parentProcessIdAt, cachedImagePath, cachedParent, entryOf, hfind, hentry,
    pool_addReferences hentry]

theorem ProcessCache.cached_of_not_find
    (hfind : cache.findProcessContextLocked processId = none) :
    cache.cachedImagePath processId = .empty ∧ cache.cachedParent processId = 0#64 := by
  simp [cachedImagePath, cachedParent, entryOf, hfind]

/-- The parent's path is the cached one, and the reference taken for it is gone again. -/
theorem ProcessCache.appendParentPath_eq :
    cache.appendParentPath processId buffer =
      ((buffer.appendString (cache.cachedImagePath processId)).1,
        (buffer.appendString (cache.cachedImagePath processId)).2, cache) := by
  rw [appendParentPath, isProcessCached, getProcessContext]
  cases hfind : cache.findProcessContextLocked processId with
  | none =>
      rw [(cached_of_not_find hfind).1]
      rfl
  | some a =>
      simp only [Option.isSome_some, if_true, (cached_of_find hfind).1, release_addReferences]

/-- The strings of a process event, in the order in which they are appended. -/
structure ProcessStrings where
  processPath : UnicodeString
  commandLine : UnicodeString
  parentProcessPath : UnicodeString

/-- The strings that a notification writes, by what the cache holds. -/
def processStrings (processId : HANDLE) (createInfo : Option CreateNotifyInfo)
    (cache : ProcessCache) (block : Option PoolAddress) : ProcessStrings :=
  match createInfo with
  | some info =>
      { processPath := if info.fileOpenNameAvailable then info.imageFileName else .empty
        commandLine := info.commandLine
        parentProcessPath :=
          (cache.addProcess block processId info.parentProcessId info.creatingProcess
            info.imageFileName).2.cachedImagePath info.parentProcessId }
  | none => ⟨cache.cachedImagePath processId, .empty, .empty⟩

/-- The parent that a notification reports. -/
def processParent (processId : HANDLE) (createInfo : Option CreateNotifyInfo)
    (cache : ProcessCache) : HANDLE :=
  match createInfo with
  | some info => info.parentProcessId
  | none => cache.cachedParent processId

def processOperation : Option CreateNotifyInfo → ULONG
  | some _ => 0#32
  | none => 1#32

def ProcessStrings.length (strings : ProcessStrings) : ℕ :=
  strings.processPath.length + strings.commandLine.length + strings.parentProcessPath.length

/-- `SerializeProcessEvent` on a new buffer. -/
theorem serializeProcessEvent_spec (processId : HANDLE) (createInfo : Option CreateNotifyInfo)
    (cache : ProcessCache) (block : Option PoolAddress) (timestamp : UINT64) :
    let result := serializeProcessEvent (.new true) processId createInfo cache block timestamp
    let strings := processStrings processId createInfo cache block
    (result.1 = statusSuccess ↔ sizeofEvent + strings.length ≤ defaultMaxSize) ∧
      (result.1 = statusSuccess →
        result.2.1.bytes = (processEventOf (processOperation createInfo) processId
          (processParent processId createInfo cache) timestamp
          (.placedAt sizeofEvent strings.processPath)
          (.placedAt (sizeofEvent + strings.processPath.length) strings.commandLine)
          (.placedAt (sizeofEvent + strings.processPath.length + strings.commandLine.length)
            strings.parentProcessPath)).toBytes ++
              (unitsBytes strings.processPath.units ++ unitsBytes strings.commandLine.units ++
                unitsBytes strings.parentProcessPath.units)) := by
  intro result strings
  obtain ⟨hwritten, hfilled⟩ :=
    @Buffer.writeBytes_new ⟨timestamp, .hostLog, .process, false, .zero⟩
  have hspec := finish_strings hfilled strings.processPath strings.commandLine
    strings.parentProcessPath (processEventOf (processOperation createInfo) processId
      (processParent processId createInfo cache) timestamp)
  have hlength : sizeofEvent + strings.length = sizeofEvent + strings.processPath.length +
      strings.commandLine.length + strings.parentProcessPath.length := by
    rw [ProcessStrings.length]
    omega
  rw [hlength]
  have hresult : serializeProcessEvent (.new true) processId createInfo cache block timestamp =
      result := rfl
  rw [serializeProcessEvent, show (Buffer.new true).valid = true from rfl, Bool.not_true,
    if_neg Bool.false_ne_true] at hresult
  simp only [hwritten, Bool.not_true, Bool.false_eq_true, if_false] at hresult
  cases createInfo with
  | some info =>
      -- an image name that is not available counts as an empty string
      have hpath : ∀ b : Buffer, (if info.fileOpenNameAvailable then
          b.appendString info.imageFileName else (⟨0#32, 0#32⟩, b)) =
            b.appendString strings.processPath := by
        intro b
        simp only [strings, processStrings]
        split <;> rfl
      simp only [ProcessCache.appendParentPath_eq, hpath] at hresult
      rw [← hresult]
      exact hspec
  | none =>
      simp only [ProcessCache.getProcessContext] at hresult
      simp only [strings, processStrings, processParent, processOperation, appendString_empty,
        length_empty, unitsBytes_empty, List.append_nil, Nat.add_zero] at hspec ⊢
      -- a process that terminates is described by the cache, or not at all
      cases hfind : cache.findProcessContextLocked processId with
      | none =>
          rw [hfind] at hresult
          obtain ⟨hpath, hparent⟩ := ProcessCache.cached_of_not_find hfind
          rw [← hresult, hpath, hparent]
          rw [hpath, hparent] at hspec
          exact hspec
      | some a =>
          rw [hfind] at hresult
          obtain ⟨hpath, hparent⟩ := ProcessCache.cached_of_find hfind
          simp only [hpath, hparent] at hresult
          rw [← hresult]
          exact hspec

end Kawin.Driver
