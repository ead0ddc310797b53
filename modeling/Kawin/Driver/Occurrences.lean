import Kawin.Driver.EventSerializers

/-!
# Occurrences

What the driver makes an event of.  A file-system callback hands a file to
`SerializeFileEvent`, and the process notify routine hands a process to
`SerializeProcessEvent`.  Where the event goes from there, its kind does not matter:
`serialize_bytes` says of both that a success leaves an `EVENT` with the time of the call, and
behind it the strings, in a buffer of exactly that length.
-/

namespace Kawin.Driver

open ByteMemory

/-- What a serializer is called with. -/
inductive Occurrence
  | file (eventType : EventType) (context : StreamHandleContext)
  | process (processId : HANDLE) (createInfo : Option CreateNotifyInfo) (cache : ProcessCache)
      (block : Option PoolAddress)

namespace Occurrence

def operation : Occurrence → FsEventOperation
  | .file .. => .file
  | .process .. => .process

/-- The serializer on a new `Buffer`, at the time that `KeQuerySystemTime` returns. -/
def serialize (timestamp : UINT64) : Occurrence → NTSTATUS × Buffer
  | .file eventType context => serializeFileEvent (.new true) eventType context timestamp
  | .process processId createInfo cache block =>
      let result := serializeProcessEvent (.new true) processId createInfo cache block timestamp
      (result.1, result.2.1)

/-- How many bytes the strings of the event have. -/
def stringBytes : Occurrence → ℕ
  | .file _ context => context.processPath.length + context.filePath.length
  | .process processId createInfo cache block =>
      (processStrings processId createInfo cache block).length

variable {occurrence : Occurrence} {timestamp : UINT64}

theorem serialize_success_iff : (occurrence.serialize timestamp).1 = statusSuccess ↔
    sizeofEvent + occurrence.stringBytes ≤ defaultMaxSize := by
  cases occurrence with
  | file eventType context =>
      rw [stringBytes, ← Nat.add_assoc]
      exact (serializeFileEvent_spec eventType context timestamp).1
  | process processId createInfo cache block =>
      exact (serializeProcessEvent_spec processId createInfo cache block timestamp).1

/-- A success leaves an `EVENT` and the strings behind it. -/
theorem serialize_bytes (hsuccess : (occurrence.serialize timestamp).1 = statusSuccess) :
    ∃ ev : Event, ∃ strings, (occurrence.serialize timestamp).2.bytes = ev.toBytes ++ strings ∧
      ev.timestamp = timestamp ∧ ev.operation = occurrence.operation ∧
      strings.length = occurrence.stringBytes := by
  cases occurrence with
  | file eventType context =>
      refine ⟨_, _, (serializeFileEvent_spec eventType context timestamp).2 hsuccess, rfl, rfl, ?_⟩
      rw [List.length_append, length_unitsBytes, length_unitsBytes]
      rfl
  | process processId createInfo cache block =>
      refine ⟨_, _, (serializeProcessEvent_spec processId createInfo cache block timestamp).2
        hsuccess, rfl, rfl, ?_⟩
      rw [List.length_append, List.length_append, length_unitsBytes, length_unitsBytes,
        length_unitsBytes]
      rfl

theorem length_serialize (hsuccess : (occurrence.serialize timestamp).1 = statusSuccess) :
    (occurrence.serialize timestamp).2.bytes.length =
      sizeofEvent + occurrence.stringBytes := by
  obtain ⟨ev, strings, hbytes, -, -, hlength⟩ := serialize_bytes hsuccess
  rw [hbytes, List.length_append, ev.length_toBytes, hlength]

/-- What `GetCurrentSize` returns after a success. -/
theorem currentSize_serialize (hsuccess : (occurrence.serialize timestamp).1 = statusSuccess) :
    (occurrence.serialize timestamp).2.currentSize.toNat =
      sizeofEvent + occurrence.stringBytes := by
  have hfits := serialize_success_iff.mp hsuccess
  have hmax : defaultMaxSize = 32768 := rfl
  rw [Buffer.currentSize, length_serialize hsuccess, BitVec.toNat_ofNat,
    Nat.mod_eq_of_lt (by omega)]

end Occurrence

end Kawin.Driver
