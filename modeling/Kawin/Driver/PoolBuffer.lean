import Kawin.Base.TracedMemory
import Kawin.Driver.EventSerializers

/-!
# The memory under a `Buffer`

A `Buffer` is a block of pool memory with three fields: its size, how much of it is in use, and a
flag that a write was refused.  Everything is written by `WriteBytes`, which compares
`m_CurrentSize + Length`, a sum of two `ULONG`s, with the size of the block.  The other writers
are up to two calls of it, the second only where the first succeeds (`run_eq_writeAll`).

A copy is traced wherever it goes, so that it can be said where it went.  From one that goes over
the end of the block no call comes back (`returned`).

`WriteLaw` is what a `WriteBytes` should do, and `writeLaw_iff` says that it does so exactly when
the sum does not wrap and there is a block to write to.  One such call keeps the block intact
(`Intact.writeBytes`), so a whole sequence of calls stays inside the block exactly when every
`WriteBytes` of it is one (`boundsKept_iff`).  Where none wraps, the block holds what the list of
bytes of the event serializers says (`writeBytes_toBuffer`).
-/

namespace Kawin.Driver

open ByteMemory

/-- A `UNICODE_STRING` from a caller: any `Length`, and a `Buffer` that may be null. -/
structure CountedString where
  length : USHORT
  buffer : Option Memory

/-- A string up to its terminator. -/
structure WideString where
  units : List UINT16
  terminated : 0#16 ∉ units

/-- `wcslen(String) * sizeof(WCHAR)`. -/
def WideString.size (s : WideString) : ℕ := 2 * s.units.length

def WideString.memory (s : WideString) : Memory := memoryOf (unitsBytes s.units)

/-- `MAXUSHORT`. -/
def maxUShort : ℕ := 65535

/-- A `Buffer`, with the memory from `m_Buffer` on; `valid` says that `m_Buffer` is not null. -/
structure PoolBuffer where
  valid : Bool
  maxSize : ULONG
  currentSize : ULONG
  overflow : Bool
  storage : TracedMemory Unit

namespace PoolBuffer

/-- `Buffer(MaxSize)`, with whether the allocation succeeds and what stands in the pool. -/
def new (maxSize : ULONG) (allocated : Bool) (pool : Memory) : PoolBuffer :=
  if maxSize = 0#32 then ⟨false, 0#32, 0#32, false, .untouched pool⟩
  else if !allocated then ⟨false, 0#32, 0#32, false, .untouched pool⟩
  else
    { valid := true
      maxSize := maxSize
      currentSize := 0#32
      overflow := false
      storage := (TracedMemory.untouched pool).store () 0 maxSize.toNat fun _ => 0#8 }

/-- `Reset`. -/
def reset (buffer : PoolBuffer) : PoolBuffer :=
  { buffer with
    currentSize := 0#32
    overflow := false
    storage :=
      if buffer.valid then buffer.storage.store () 0 buffer.maxSize.toNat fun _ => 0#8
      else buffer.storage }

/-- `WriteBytes`, with the copy as `RtlCopyMemory` is asked for it, inside the block or not. -/
def writeBytes (buffer : PoolBuffer) (data : Option Memory) (length : ULONG) : Bool × PoolBuffer :=
  if buffer.overflow || !buffer.valid then (false, buffer)
  else
    match data with
    | none => (true, buffer)
    | some source =>
        if length = 0#32 then (true, buffer)
        else if buffer.maxSize < buffer.currentSize + length then
          (false, { buffer with overflow := true })
        else
          (true,
            { buffer with
              currentSize := buffer.currentSize + length
              storage := buffer.storage.store () buffer.currentSize.toNat length.toNat source })

/-- `WriteBytes(&Value, sizeof(Value))`. -/
def writeValue {w : ℕ} (buffer : PoolBuffer) (size : ULONG) (value : BitVec w) :
    Bool × PoolBuffer :=
  buffer.writeBytes (some (byteOf value.toNat)) size

variable (buffer : PoolBuffer)

/-- `WriteByte`. -/
def writeByte (value : UCHAR) : Bool × PoolBuffer := buffer.writeValue 1#32 value

/-- `WriteUChar`. -/
def writeUChar (value : UCHAR) : Bool × PoolBuffer := buffer.writeValue 1#32 value

/-- `WriteUShort`. -/
def writeUShort (value : USHORT) : Bool × PoolBuffer := buffer.writeValue 2#32 value

/-- `WriteULong`. -/
def writeULong (value : ULONG) : Bool × PoolBuffer := buffer.writeValue 4#32 value

/-- `WriteULongLong`. -/
def writeULongLong (value : ULONGLONG) : Bool × PoolBuffer := buffer.writeValue 8#32 value

/-- `WriteChar`. -/
def writeChar (value : CHAR) : Bool × PoolBuffer := buffer.writeValue 1#32 value

/-- `WriteShort`. -/
def writeShort (value : SHORT) : Bool × PoolBuffer := buffer.writeValue 2#32 value

/-- `WriteLong`. -/
def writeLong (value : LONG) : Bool × PoolBuffer := buffer.writeValue 4#32 value

/-- `WriteLongLong`. -/
def writeLongLong (value : LONGLONG) : Bool × PoolBuffer := buffer.writeValue 8#32 value

/-- `WriteUnicodeString`. -/
def writeUnicodeString (string : Option CountedString) : Bool × PoolBuffer :=
  match string with
  | none | some ⟨_, none⟩ => buffer.writeUShort 0#16
  | some ⟨length, some source⟩ =>
      let first := buffer.writeUShort length
      if !first.1 then (false, first.2) else first.2.writeBytes (some source) (length.setWidth 32)

/-- `WriteWideString`. -/
def writeWideString (string : Option WideString) : Bool × PoolBuffer :=
  match string with
  | none => buffer.writeUShort 0#16
  | some s =>
      if maxUShort < s.size then (false, { buffer with overflow := true })
      else
        let first := buffer.writeUShort (BitVec.ofNat 16 s.size)
        if !first.1 then (false, first.2)
        else first.2.writeBytes (some s.memory) (BitVec.ofNat 32 s.size)

/-- `WriteLengthPrefixedData`. -/
def writeLengthPrefixedData (data : Option Memory) (length : ULONG) : Bool × PoolBuffer :=
  let first := buffer.writeULong length
  if !first.1 then (false, first.2)
  else if length = 0#32 then (true, first.2)
  else first.2.writeBytes data length

end PoolBuffer

/-! ## Sequences of calls -/

inductive BufferCall
  | bytes (data : Option Memory) (length : ULONG)
  | byte (value : UCHAR)
  | uchar (value : UCHAR)
  | ushort (value : USHORT)
  | ulong (value : ULONG)
  | ulonglong (value : ULONGLONG)
  | char (value : CHAR)
  | short (value : SHORT)
  | long (value : LONG)
  | longlong (value : LONGLONG)
  | unicodeString (string : Option CountedString)
  | wideString (string : Option WideString)
  | lengthPrefixedData (data : Option Memory) (length : ULONG)
  | reset

def BufferCall.run (buffer : PoolBuffer) : BufferCall → Bool × PoolBuffer
  | .bytes data length => buffer.writeBytes data length
  | .byte value => buffer.writeByte value
  | .uchar value => buffer.writeUChar value
  | .ushort value => buffer.writeUShort value
  | .ulong value => buffer.writeULong value
  | .ulonglong value => buffer.writeULongLong value
  | .char value => buffer.writeChar value
  | .short value => buffer.writeShort value
  | .long value => buffer.writeLong value
  | .longlong value => buffer.writeLongLong value
  | .unicodeString string => buffer.writeUnicodeString string
  | .wideString string => buffer.writeWideString string
  | .lengthPrefixedData data length => buffer.writeLengthPrefixedData data length
  | .reset => (true, buffer.reset)

/-- The buffer after a sequence of calls. -/
def PoolBuffer.runAll (buffer : PoolBuffer) (calls : List BufferCall) : PoolBuffer :=
  calls.foldl (fun buffer call => (call.run buffer).2) buffer

/-! ## Writers as calls of `WriteBytes` -/

/-- The arguments of one `WriteBytes`. -/
structure BytesWrite where
  data : Option Memory
  length : ULONG

/-- The bytes of a write. -/
def BytesWrite.bytes (write : BytesWrite) : List Byte :=
  match write.data with
  | none => []
  | some source => firstBytes source write.length.toNat

def BytesWrite.value {w : ℕ} (size : ULONG) (value : BitVec w) : BytesWrite :=
  ⟨some (byteOf value.toNat), size⟩

/-- The calls of `WriteBytes` that a writer makes, as long as each returns `TRUE`. -/
def BufferCall.writes : BufferCall → List BytesWrite
  | .bytes data length => [⟨data, length⟩]
  | .byte value | .uchar value | .char value => [.value 1#32 value]
  | .ushort value | .short value => [.value 2#32 value]
  | .ulong value | .long value => [.value 4#32 value]
  | .ulonglong value | .longlong value => [.value 8#32 value]
  | .unicodeString none | .unicodeString (some ⟨_, none⟩) => [.value 2#32 0#16]
  | .unicodeString (some ⟨length, some source⟩) =>
      [.value 2#32 length, ⟨some source, length.setWidth 32⟩]
  | .wideString none => [.value 2#32 0#16]
  | .wideString (some s) =>
      if maxUShort < s.size then []
      else [.value 2#32 (BitVec.ofNat 16 s.size), ⟨some s.memory, BitVec.ofNat 32 s.size⟩]
  | .lengthPrefixedData data length =>
      .value 4#32 length :: if length = 0#32 then [] else [⟨data, length⟩]
  | .reset => []

/-- The call does not write at all, but gives up or resets the buffer. -/
def BufferCall.writesNothing : BufferCall → Bool
  | .wideString (some s) => decide (maxUShort < s.size)
  | .reset => true
  | _ => false

namespace PoolBuffer

/-- What comes back from a call: nothing, if it copied over the end of the block.  The memory there
is not the `Buffer`'s, and what such a copy does is not defined.  Behind a block of
`DEFAULT_MAX_SIZE` it goes on for almost 4 GB, and ends in a page fault. -/
def returned (result : Bool × PoolBuffer) : Option (Bool × PoolBuffer) :=
  if result.2.storage.Inside fun _ => ⟨0, result.2.maxSize.toNat⟩ then some result else none

/-- `WriteBytes` for each of the arguments, until one returns `FALSE`. -/
def writeAll (buffer : PoolBuffer) : List BytesWrite → Bool × PoolBuffer
  | [] => (true, buffer)
  | write :: rest =>
      let first := buffer.writeBytes write.data write.length
      if first.1 then first.2.writeAll rest else first

/-- The calls of `WriteBytes` that are made, each with the buffer it is made on. -/
def made (buffer : PoolBuffer) : List BytesWrite → List (PoolBuffer × BytesWrite)
  | [] => []
  | write :: rest =>
      let first := buffer.writeBytes write.data write.length
      (buffer, write) :: if first.1 then first.2.made rest else []

/-- The calls of `WriteBytes` that a sequence of calls makes. -/
def allMade (buffer : PoolBuffer) : List BufferCall → List (PoolBuffer × BytesWrite)
  | [] => []
  | call :: rest => buffer.made call.writes ++ (call.run buffer).2.allMade rest

theorem writeAll_singleton (buffer : PoolBuffer) (write : BytesWrite) :
    buffer.writeAll [write] = buffer.writeBytes write.data write.length := by
  unfold writeAll
  generalize buffer.writeBytes write.data write.length = first
  rcases first with ⟨_ | _, after⟩
  · rfl
  · rfl

theorem writeAll_pair (buffer : PoolBuffer) (first second : BytesWrite) :
    buffer.writeAll [first, second] =
      let result := buffer.writeBytes first.data first.length
      if !result.1 then (false, result.2) else result.2.writeBytes second.data second.length := by
  unfold writeAll
  generalize buffer.writeBytes first.data first.length = result
  rcases result with ⟨_ | _, after⟩
  · rfl
  · exact after.writeAll_singleton second

end PoolBuffer

/-- **Writers.**  A writer is its calls of `WriteBytes`. -/
theorem BufferCall.run_eq_writeAll (buffer : PoolBuffer) {call : BufferCall}
    (h : call.writesNothing = false) : call.run buffer = buffer.writeAll call.writes := by
  cases call with
  | unicodeString string =>
      rcases string with _ | ⟨length, _ | source⟩
      · rw [BufferCall.writes, PoolBuffer.writeAll_singleton]
        rfl
      · rw [BufferCall.writes, PoolBuffer.writeAll_singleton]
        rfl
      · rw [BufferCall.writes, PoolBuffer.writeAll_pair]
        rfl
  | wideString string =>
      cases string with
      | none =>
          rw [BufferCall.writes, PoolBuffer.writeAll_singleton]
          rfl
      | some s =>
          have hle : ¬maxUShort < s.size := of_decide_eq_false h
          rw [BufferCall.run, BufferCall.writes, PoolBuffer.writeWideString, if_neg hle, if_neg hle,
            PoolBuffer.writeAll_pair]
          rfl
  | lengthPrefixedData data length =>
      rw [BufferCall.run, BufferCall.writes, PoolBuffer.writeLengthPrefixedData]
      by_cases hzero : length = 0#32
      · rw [if_pos hzero, if_pos hzero, PoolBuffer.writeAll_singleton]
        change _ = buffer.writeULong length
        generalize buffer.writeULong length = first
        rcases first with ⟨_ | _, after⟩
        · rfl
        · rfl
      · rw [if_neg hzero, if_neg hzero, PoolBuffer.writeAll_pair]
        rfl
  | reset => cases h
  | _ =>
      rw [BufferCall.writes, PoolBuffer.writeAll_singleton]
      rfl

/-! ## One `WriteBytes` -/

namespace PoolBuffer

/-- The bytes in use. -/
def content (buffer : PoolBuffer) : List Byte :=
  firstBytes buffer.storage.memory buffer.currentSize.toNat

/-- What a `WriteBytes` with data should do: append all of it and return `TRUE`, or set the flag,
change nothing else and return `FALSE`. -/
structure WriteLaw (buffer : PoolBuffer) (source : Memory) (length : ULONG) : Prop where
  bounded : (buffer.writeBytes (some source) length).2.currentSize.toNat ≤
    (buffer.writeBytes (some source) length).2.maxSize.toNat
  outcome :
    ((buffer.writeBytes (some source) length).1 = true ∧
      (buffer.writeBytes (some source) length).2.currentSize.toNat =
        buffer.currentSize.toNat + length.toNat ∧
      (buffer.writeBytes (some source) length).2.content =
        buffer.content ++ firstBytes source length.toNat) ∨
    ((buffer.writeBytes (some source) length).1 = false ∧
      (buffer.writeBytes (some source) length).2.currentSize = buffer.currentSize ∧
      (buffer.writeBytes (some source) length).2.content = buffer.content ∧
      (buffer.writeBytes (some source) length).2.overflow = true)

/-- The flag is set already, or there is a block and the sum does not wrap. -/
def Safe (buffer : PoolBuffer) (length : ULONG) : Prop :=
  buffer.overflow = true ∨
    (buffer.valid = true ∧ buffer.currentSize.toNat + length.toNat < 2 ^ 32)

/-- The block is in order: no more of it is in use than there is, and nothing was written outside
of it. -/
structure Intact (buffer : PoolBuffer) : Prop where
  size : buffer.currentSize.toNat ≤ buffer.maxSize.toNat
  inside : buffer.storage.Inside fun _ => ⟨0, buffer.maxSize.toNat⟩

variable {buffer : PoolBuffer} {source pool : Memory} {data : Option Memory} {length : ULONG}

theorem intact_new (maxSize : ULONG) (allocated : Bool) (pool : Memory) :
    (new maxSize allocated pool).Intact := by
  unfold new
  split
  · exact ⟨le_rfl, TracedMemory.inside_untouched⟩
  · split
    · exact ⟨le_rfl, TracedMemory.inside_untouched⟩
    · refine ⟨Nat.zero_le _, TracedMemory.inside_store.mpr ⟨TracedMemory.inside_untouched, ?_⟩⟩
      exact Or.inr ⟨le_rfl, le_rfl⟩

theorem Intact.reset (h : buffer.Intact) : buffer.reset.Intact := by
  refine ⟨Nat.zero_le _, ?_⟩
  unfold PoolBuffer.reset
  dsimp only
  split
  · exact TracedMemory.inside_store.mpr ⟨h.inside, Or.inr ⟨le_rfl, le_rfl⟩⟩
  · exact h.inside

/-! The three ways through `WriteBytes`. -/

theorem writeBytes_refused (data : Option Memory) (length : ULONG)
    (h : buffer.overflow = true ∨ buffer.valid = false) :
    buffer.writeBytes data length = (false, buffer) := by
  unfold writeBytes
  rcases h with h | h
  · rw [h]
    rfl
  · rw [h, Bool.not_false, Bool.or_true]
    rfl

theorem writeBytes_full (source : Memory) (hoverflow : buffer.overflow = false)
    (hvalid : buffer.valid = true) (hlength : length ≠ 0#32)
    (h : buffer.maxSize < buffer.currentSize + length) :
    buffer.writeBytes (some source) length = (false, { buffer with overflow := true }) := by
  unfold writeBytes
  rw [hoverflow, hvalid]
  simp only [Bool.not_true, Bool.or_false, Bool.false_eq_true, if_false, if_neg hlength, if_pos h]

/-- The buffer with a block of bytes copied behind those in use. -/
def appended (buffer : PoolBuffer) (source : Memory) (length : ULONG) : PoolBuffer :=
  { buffer with
    currentSize := buffer.currentSize + length
    storage := buffer.storage.store () buffer.currentSize.toNat length.toNat source }

theorem writeBytes_fits (source : Memory) (hoverflow : buffer.overflow = false)
    (hvalid : buffer.valid = true) (hlength : length ≠ 0#32)
    (h : buffer.currentSize + length ≤ buffer.maxSize) :
    buffer.writeBytes (some source) length = (true, buffer.appended source length) := by
  unfold writeBytes appended
  rw [hoverflow, hvalid]
  simp only [Bool.not_true, Bool.or_false, Bool.false_eq_true, if_false, if_neg hlength,
    if_neg (BitVec.not_lt.mpr h)]

theorem size_appended (hsum : buffer.currentSize.toNat + length.toNat < 2 ^ 32) :
    (buffer.appended source length).currentSize.toNat =
      buffer.currentSize.toNat + length.toNat := by
  rw [appended, BitVec.toNat_add, Nat.mod_eq_of_lt hsum]

theorem content_appended (source : Memory)
    (hsum : buffer.currentSize.toNat + length.toNat < 2 ^ 32) :
    (buffer.appended source length).content = buffer.content ++ firstBytes source length.toNat := by
  rw [content, size_appended hsum]
  exact firstBytes_copy_append

theorem writeBytes_nothing (hoverflow : buffer.overflow = false) (hvalid : buffer.valid = true)
    (h : data = none ∨ length = 0#32) : buffer.writeBytes data length = (true, buffer) := by
  unfold writeBytes
  rw [hoverflow, hvalid]
  rcases h with rfl | rfl
  · rfl
  · cases data with
    | none => rfl
    | some source => rfl

/-- **The ways through `WriteBytes`.**  It is refused, has nothing to write, sets the flag, or
appends. -/
theorem writeBytes_cases (buffer : PoolBuffer) (data : Option Memory) (length : ULONG) :
    ((buffer.overflow = true ∨ buffer.valid = false) ∧
        buffer.writeBytes data length = (false, buffer)) ∨
      (buffer.overflow = false ∧ buffer.valid = true ∧
        (((data = none ∨ length = 0#32) ∧ buffer.writeBytes data length = (true, buffer)) ∨
          ∃ source, data = some source ∧ length ≠ 0#32 ∧
            ((buffer.maxSize < buffer.currentSize + length ∧
                buffer.writeBytes data length = (false, { buffer with overflow := true })) ∨
              (buffer.currentSize + length ≤ buffer.maxSize ∧
                buffer.writeBytes data length = (true, buffer.appended source length))))) := by
  by_cases hrefused : buffer.overflow = true ∨ buffer.valid = false
  · exact Or.inl ⟨hrefused, writeBytes_refused data length hrefused⟩
  obtain ⟨hoverflow, hvalid⟩ : buffer.overflow = false ∧ buffer.valid = true := by
    simpa using hrefused
  refine Or.inr ⟨hoverflow, hvalid, ?_⟩
  by_cases hnothing : data = none ∨ length = 0#32
  · exact Or.inl ⟨hnothing, writeBytes_nothing hoverflow hvalid hnothing⟩
  obtain ⟨hdata, hlength⟩ := not_or.mp hnothing
  obtain ⟨source, rfl⟩ := Option.ne_none_iff_exists'.mp hdata
  refine Or.inr ⟨source, rfl, hlength, ?_⟩
  by_cases hfull : buffer.maxSize < buffer.currentSize + length
  · exact Or.inl ⟨hfull, writeBytes_full source hoverflow hvalid hlength hfull⟩
  · have hfits := BitVec.not_lt.mp hfull
    exact Or.inr ⟨hfits, writeBytes_fits source hoverflow hvalid hlength hfits⟩

/-- Where the flag is not set, a safe sum does not wrap. -/
theorem Safe.sum_lt (h : buffer.Safe length) (hoverflow : buffer.overflow = false) :
    buffer.currentSize.toNat + length.toNat < 2 ^ 32 := by
  rcases h with hset | ⟨-, hsum⟩
  · exact absurd (hoverflow.symm.trans hset) Bool.false_ne_true
  · exact hsum

/-- A `WriteBytes` that does not wrap keeps the block in order. -/
theorem Intact.writeBytes (h : buffer.Intact) (hsafe : data ≠ none → buffer.Safe length) :
    (buffer.writeBytes data length).2.Intact := by
  rcases writeBytes_cases buffer data length with ⟨-, hrun⟩ | ⟨hoverflow, -, ⟨-, hrun⟩ |
    ⟨source, rfl, -, ⟨-, hrun⟩ | ⟨hfits, hrun⟩⟩⟩
  · rw [hrun]
    exact h
  · rw [hrun]
    exact h
  · rw [hrun]
    exact ⟨h.size, h.inside⟩
  · -- the sum is the true one, so all of the block that is written to is there
    have hsum := (hsafe (Option.some_ne_none source)).sum_lt hoverflow
    have hle : buffer.currentSize.toNat + length.toNat ≤ buffer.maxSize.toNat := by
      rw [BitVec.le_def, BitVec.toNat_add, Nat.mod_eq_of_lt hsum] at hfits
      exact hfits
    rw [hrun]
    refine ⟨BitVec.le_def.mp hfits, TracedMemory.inside_store.mpr ⟨h.inside, Or.inr ⟨?_, ?_⟩⟩⟩
    · exact Nat.zero_le _
    · rw [Nat.zero_add]
      exact hle

/-- **One write.**  On a block in order, a `WriteBytes` does what it should exactly when its sum
does not wrap. -/
theorem writeLaw_iff (source : Memory) (h : buffer.Intact) :
    buffer.WriteLaw source length ↔ buffer.Safe length := by
  by_cases hset : buffer.overflow = true
  · refine iff_of_true ?_ (Or.inl hset)
    have hrun := writeBytes_refused (some source) length (Or.inl hset)
    exact ⟨by rw [hrun]; exact h.size, Or.inr (by rw [hrun]; exact ⟨rfl, rfl, rfl, hset⟩)⟩
  rw [Bool.not_eq_true] at hset
  cases hvalid : buffer.valid with
  | false =>
      -- nothing is written, and the flag is not set either
      have hrun := writeBytes_refused (some source) length (Or.inr hvalid)
      refine iff_of_false (fun hlaw => ?_) ?_
      · have houtcome := hlaw.outcome
        rw [hrun, hset] at houtcome
        simp at houtcome
      · simp [Safe, hset, hvalid]
  | true =>
      have hsafe : buffer.Safe length ↔ buffer.currentSize.toNat + length.toNat < 2 ^ 32 := by
        simp [Safe, hset, hvalid]
      rw [hsafe]
      by_cases hlength : length = 0#32
      · have hrun : buffer.writeBytes (some source) length = (true, buffer) :=
          writeBytes_nothing hset hvalid (Or.inr hlength)
        subst hlength
        refine iff_of_true ⟨by rw [hrun]; exact h.size, Or.inl ?_⟩
          (by simpa using buffer.currentSize.isLt)
        rw [hrun]
        simp [firstBytes]
      by_cases hfull : buffer.maxSize < buffer.currentSize + length
      · have hrun := writeBytes_full source hset hvalid hlength hfull
        refine iff_of_true ⟨by rw [hrun]; exact h.size, Or.inr ?_⟩ ?_
        · rw [hrun]
          exact ⟨rfl, rfl, rfl, rfl⟩
        · -- a sum that wraps is less than `m_CurrentSize`
          have hsize := h.size
          have hlt := length.isLt
          rw [BitVec.lt_def, BitVec.toNat_add] at hfull
          omega
      · have hfits := BitVec.not_lt.mp hfull
        have hrun := writeBytes_fits source hset hvalid hlength hfits
        constructor
        · intro hlaw
          rcases hlaw.outcome with ⟨-, hsum, -⟩ | ⟨hfalse, -⟩
          · rw [hrun] at hsum
            rw [← hsum]
            exact BitVec.isLt _
          · rw [hrun] at hfalse
            cases hfalse
        · intro hsum
          have hintact : (buffer.writeBytes (some source) length).2.Intact :=
            h.writeBytes fun _ => hsafe.mpr hsum
          refine ⟨hintact.size, Or.inl ?_⟩
          rw [hrun]
          exact ⟨rfl, size_appended hsum, content_appended source hsum⟩

/-! ## Many writes -/

/-- The write does what it should, if it has data. -/
def Lawful (step : PoolBuffer × BytesWrite) : Prop :=
  ∀ source, step.2.data = some source → step.1.WriteLaw source step.2.length

/-- The write does not wrap, if it has data. -/
def SafeStep (step : PoolBuffer × BytesWrite) : Prop :=
  step.2.data ≠ none → step.1.Safe step.2.length

variable {write : BytesWrite} {writes : List BytesWrite} {call : BufferCall}
  {calls : List BufferCall}

theorem lawful_iff (h : buffer.Intact) : Lawful (buffer, write) ↔ SafeStep (buffer, write) := by
  unfold Lawful SafeStep
  cases hdata : write.data with
  | none => exact iff_of_true nofun fun hne => absurd rfl hne
  | some source =>
      rw [← writeLaw_iff source h]
      constructor
      · exact fun hlaw _ => hlaw source rfl
      · rintro hlaw _ ⟨⟩
        exact hlaw (Option.some_ne_none source)

theorem Intact.writeAll (h : buffer.Intact) (hsafe : ∀ step ∈ buffer.made writes, SafeStep step) :
    (buffer.writeAll writes).2.Intact := by
  induction writes generalizing buffer with
  | nil => exact h
  | cons write rest ih =>
      have hfirst := h.writeBytes (hsafe _ List.mem_cons_self)
      unfold PoolBuffer.writeAll
      dsimp only
      split
      next hok =>
        refine ih hfirst fun step hstep => hsafe step (List.mem_cons_of_mem _ ?_)
        rwa [if_pos hok]
      next => exact hfirst

theorem Intact.made (h : buffer.Intact) : (∀ step ∈ buffer.made writes, Lawful step) ↔
    ∀ step ∈ buffer.made writes, SafeStep step := by
  induction writes generalizing buffer with
  | nil => exact iff_of_true nofun nofun
  | cons write rest ih =>
      unfold PoolBuffer.made
      dsimp only
      rw [List.forall_mem_cons, List.forall_mem_cons, lawful_iff h]
      refine and_congr_right fun hsafe => ?_
      split
      next => exact ih (h.writeBytes hsafe)
      next => exact iff_of_true nofun nofun

theorem writeAll_append (buffer : PoolBuffer) (writes rest : List BytesWrite) :
    buffer.writeAll (writes ++ rest) =
      let first := buffer.writeAll writes
      if !first.1 then (false, first.2) else first.2.writeAll rest := by
  induction writes generalizing buffer with
  | nil => rfl
  | cons write writes ih =>
      rw [List.cons_append, PoolBuffer.writeAll, PoolBuffer.writeAll]
      generalize buffer.writeBytes write.data write.length = first
      rcases first with ⟨_ | _, after⟩
      · rfl
      · exact ih after

/-- A `WriteBytes` returns `TRUE` only where there is a block and the flag is not set. -/
theorem ready_of_true (h : (buffer.writeBytes data length).1 = true) :
    buffer.overflow = false ∧ buffer.valid = true := by
  rcases writeBytes_cases buffer data length with ⟨-, hrun⟩ | ⟨hoverflow, hvalid, -⟩
  · rw [hrun] at h
    cases h
  · exact ⟨hoverflow, hvalid⟩

theorem maxSize_writeBytes : (buffer.writeBytes data length).2.maxSize = buffer.maxSize := by
  rcases writeBytes_cases buffer data length with ⟨-, hrun⟩ | ⟨-, -, ⟨-, hrun⟩ |
    ⟨source, -, -, ⟨-, hrun⟩ | ⟨-, hrun⟩⟩⟩
  all_goals exact congrArg (fun result : Bool × PoolBuffer => result.2.maxSize) hrun

theorem maxSize_writeAll : (buffer.writeAll writes).2.maxSize = buffer.maxSize := by
  induction writes generalizing buffer with
  | nil => rfl
  | cons write rest ih =>
      unfold PoolBuffer.writeAll
      dsimp only
      split
      · rw [ih, maxSize_writeBytes]
      · exact maxSize_writeBytes

theorem inside_of_writeBytes {region : Unit → Span}
    (h : (buffer.writeBytes data length).2.storage.Inside region) :
    buffer.storage.Inside region := by
  rcases writeBytes_cases buffer data length with ⟨-, hrun⟩ | ⟨-, -, ⟨-, hrun⟩ |
    ⟨source, -, -, ⟨-, hrun⟩ | ⟨-, hrun⟩⟩⟩
  · rwa [hrun] at h
  · rwa [hrun] at h
  · rwa [hrun] at h
  · rw [hrun] at h
    exact (TracedMemory.inside_store.mp h).1

theorem inside_of_writeAll {region : Unit → Span}
    (h : (buffer.writeAll writes).2.storage.Inside region) : buffer.storage.Inside region := by
  induction writes generalizing buffer with
  | nil => exact h
  | cons write rest ih =>
      unfold PoolBuffer.writeAll at h
      dsimp only at h
      split at h
      · exact inside_of_writeBytes (ih h)
      · exact inside_of_writeBytes h

/-- A `WriteBytes` that returns `TRUE` and stays inside the block has not wrapped. -/
theorem safe_of_inside (hok : (buffer.writeBytes data length).1 = true)
    (h : (buffer.writeBytes data length).2.storage.Inside fun _ => ⟨0, buffer.maxSize.toNat⟩) :
    buffer.Safe length ∨ data = none := by
  rcases writeBytes_cases buffer data length with ⟨-, hrun⟩ | ⟨-, hvalid, ⟨hnothing, hrun⟩ |
    ⟨source, -, hlength, ⟨-, hrun⟩ | ⟨-, hrun⟩⟩⟩
  · rw [hrun] at hok
    cases hok
  · rcases hnothing with hnone | rfl
    · exact Or.inr hnone
    · exact Or.inl (Or.inr ⟨hvalid, buffer.currentSize.isLt⟩)
  · rw [hrun] at hok
    cases hok
  · rw [hrun] at h
    refine Or.inl (Or.inr ⟨hvalid, ?_⟩)
    rcases (TracedMemory.inside_store.mp h).2 with hzero | ⟨-, hend⟩
    · exact absurd (BitVec.eq_of_toNat_eq hzero) hlength
    · have hmax := buffer.maxSize.isLt
      dsimp only at hend
      omega

/-- Where all writes return `TRUE` and stay inside the block, none wraps. -/
theorem safe_of_writeAll (hok : (buffer.writeAll writes).1 = true)
    (h : (buffer.writeAll writes).2.storage.Inside fun _ => ⟨0, buffer.maxSize.toNat⟩) :
    ∀ step ∈ buffer.made writes, SafeStep step := by
  induction writes generalizing buffer with
  | nil => exact nofun
  | cons write rest ih =>
      unfold PoolBuffer.writeAll at hok h
      unfold PoolBuffer.made
      by_cases hfirst : (buffer.writeBytes write.data write.length).1 = true
      · simp only [hfirst, if_true] at hok h ⊢
        have hhead : SafeStep (buffer, write) := fun hdata =>
          (safe_of_inside hfirst (inside_of_writeAll h)).resolve_right hdata
        refine List.forall_mem_cons.mpr ⟨hhead, ih hok ?_⟩
        rwa [maxSize_writeBytes]
      · simp only [hfirst, Bool.false_eq_true, if_false] at hok

/-- **Everything that was written.**  Where all writes return `TRUE` and none wraps, the block holds
what it held before and then the bytes of the writes. -/
theorem Intact.content_writeAll (h : buffer.Intact)
    (hsafe : ∀ step ∈ buffer.made writes, SafeStep step) (hok : (buffer.writeAll writes).1 = true) :
    (buffer.writeAll writes).2.content = buffer.content ++ writes.flatMap BytesWrite.bytes := by
  induction writes generalizing buffer with
  | nil => exact (List.append_nil _).symm
  | cons write rest ih =>
      have hhead : SafeStep (buffer, write) := hsafe _ List.mem_cons_self
      unfold PoolBuffer.writeAll at hok ⊢
      unfold PoolBuffer.made at hsafe
      by_cases hfirst : (buffer.writeBytes write.data write.length).1 = true
      · simp only [hfirst, if_true] at hok hsafe ⊢
        have htail := ih (h.writeBytes hhead)
          (fun step hstep => hsafe step (List.mem_cons_of_mem _ hstep)) hok
        rw [htail, List.flatMap_cons, ← List.append_assoc]
        congr 1
        obtain ⟨hoverflow, hvalid⟩ := ready_of_true hfirst
        unfold BytesWrite.bytes
        cases hdata : write.data with
        | none =>
            rw [writeBytes_nothing hoverflow hvalid (Or.inl rfl)]
            exact (List.append_nil _).symm
        | some source =>
            rcases ((lawful_iff h).mpr hhead source hdata).outcome with
              ⟨-, -, hcontent⟩ | ⟨hfalse, -⟩
            · exact hcontent
            · rw [hdata, hfalse] at hfirst
              cases hfirst
      · simp only [hfirst, Bool.false_eq_true, if_false] at hok

/-- Once the flag is set, nothing is written. -/
theorem writeAll_of_overflow (h : buffer.overflow = true) :
    (buffer.writeAll writes).2 = buffer := by
  cases writes with
  | nil => rfl
  | cons write rest =>
      unfold PoolBuffer.writeAll
      rw [writeBytes_refused _ _ (Or.inl h)]
      rfl

end PoolBuffer

open PoolBuffer

variable {buffer : PoolBuffer} {call : BufferCall} {calls : List BufferCall}

theorem BufferCall.eq_of_writesNothing (h : call.writesNothing = true) :
    call = .reset ∨ ∃ s, call = .wideString (some s) ∧ maxUShort < s.size := by
  cases call with
  | wideString string =>
      cases string with
      | none => cases h
      | some s => exact Or.inr ⟨s, rfl, of_decide_eq_true h⟩
  | reset => exact Or.inl rfl
  | _ => cases h

/-- A writer whose writes do not wrap keeps the block in order. -/
theorem BufferCall.run_intact (h : buffer.Intact)
    (hsafe : ∀ step ∈ buffer.made call.writes, SafeStep step) : (call.run buffer).2.Intact := by
  cases hwrites : call.writesNothing with
  | false =>
      rw [run_eq_writeAll buffer hwrites]
      exact h.writeAll hsafe
  | true =>
      rcases eq_of_writesNothing hwrites with rfl | ⟨s, rfl, hlong⟩
      · exact h.reset
      · rw [run, writeWideString, if_pos hlong]
        exact ⟨h.size, h.inside⟩

theorem BufferCall.run_of_overflow (h : buffer.overflow = true) (hreset : call ≠ .reset) :
    (call.run buffer).2.content = buffer.content ∧
      (call.run buffer).2.currentSize = buffer.currentSize := by
  cases hwrites : call.writesNothing with
  | false =>
      rw [run_eq_writeAll buffer hwrites, writeAll_of_overflow h]
      exact ⟨rfl, rfl⟩
  | true =>
      rcases eq_of_writesNothing hwrites with rfl | ⟨s, rfl, hlong⟩
      · exact absurd rfl hreset
      · rw [run, writeWideString, if_pos hlong]
        exact ⟨rfl, rfl⟩

/-! ## Whole sequences -/

/-- The bounds of a `Buffer` over a sequence of calls. -/
structure BoundsKept (start : PoolBuffer) (calls : List BufferCall) : Prop where
  intact : ∀ before after, calls = before ++ after → (start.runAll before).Intact
  lawful : ∀ step ∈ start.allMade calls, Lawful step
  frozen : ∀ before call after, calls = before ++ call :: after →
    (start.runAll before).overflow = true → call ≠ .reset →
    (call.run (start.runAll before)).2.content = (start.runAll before).content ∧
      (call.run (start.runAll before)).2.currentSize = (start.runAll before).currentSize

theorem PoolBuffer.Intact.allMade (h : buffer.Intact) :
    (∀ step ∈ buffer.allMade calls, Lawful step) ↔
      ∀ step ∈ buffer.allMade calls, SafeStep step := by
  induction calls generalizing buffer with
  | nil => exact iff_of_true nofun nofun
  | cons call rest ih =>
      unfold PoolBuffer.allMade
      rw [List.forall_mem_append, List.forall_mem_append, h.made]
      exact and_congr_right fun hsafe => ih (call.run_intact h hsafe)

theorem PoolBuffer.Intact.runAll (h : buffer.Intact)
    (hsafe : ∀ step ∈ buffer.allMade calls, SafeStep step) {before after : List BufferCall}
    (heq : calls = before ++ after) : (buffer.runAll before).Intact := by
  induction before generalizing buffer calls with
  | nil => exact h
  | cons call before ih =>
      rw [heq, List.cons_append, PoolBuffer.allMade, List.forall_mem_append] at hsafe
      exact ih (call.run_intact h hsafe.1) hsafe.2 rfl

/-- **The bounds of a `Buffer`.**  Over a sequence of calls on a new `Buffer`, the bounds are kept
exactly when every `WriteBytes` with data that is made finds the flag set, or a block and a sum
`m_CurrentSize + Length` below 2^32. -/
theorem boundsKept_iff (maxSize : ULONG) (allocated : Bool) (pool : Memory)
    (calls : List BufferCall) : BoundsKept (.new maxSize allocated pool) calls ↔
      ∀ step ∈ (PoolBuffer.new maxSize allocated pool).allMade calls, step.2.data ≠ none →
        step.1.overflow = true ∨
          (step.1.valid = true ∧ step.1.currentSize.toNat + step.2.length.toNat < 2 ^ 32) := by
  have hintact := intact_new maxSize allocated pool
  constructor
  · exact fun hkept => hintact.allMade.mp hkept.lawful
  · intro hsafe
    refine ⟨fun before after heq => hintact.runAll hsafe heq, hintact.allMade.mpr hsafe, ?_⟩
    exact fun before call after _ hset hreset => call.run_of_overflow hset hreset

/-- After one byte, a write of 2^32 - 1 bytes makes the sum wrap to 0. -/
theorem not_boundsKept : ¬∀ maxSize allocated pool calls,
    BoundsKept (.new maxSize allocated pool) calls := by
  intro hkept
  have hlawful := (hkept 32768#32 true (fun _ => 0#8)
    [.uchar 0#8, .bytes (some fun _ => 0#8) (BitVec.allOnes 32)]).lawful
  have hsafe := (intact_new 32768#32 true fun _ => 0#8).allMade.mp hlawful
  -- the second of the two calls of `WriteBytes`
  have hsecond := (List.forall_mem_append.mp hsafe).2 _ List.mem_cons_self (Option.some_ne_none _)
  rcases hsecond with hset | ⟨-, hsum⟩
  · exact Bool.false_ne_true hset
  · exact absurd hsum (by decide)

/-! ## The list of bytes of the serializers -/

/-- The `Buffer` of the event serializers that a block of memory stands for. -/
def PoolBuffer.toBuffer (buffer : PoolBuffer) : Buffer :=
  ⟨buffer.valid, buffer.maxSize.toNat, buffer.content, buffer.overflow⟩

/-- **Refinement.**  A `WriteBytes` that does not wrap is the `WriteBytes` of the serializers. -/
theorem PoolBuffer.writeBytes_toBuffer (bytes : List Byte) (hbytes : bytes.length < 2 ^ 32)
    (h : buffer.Safe (BitVec.ofNat 32 bytes.length)) :
    let result := buffer.writeBytes (some (memoryOf bytes)) (BitVec.ofNat 32 bytes.length)
    (result.1, result.2.toBuffer) = buffer.toBuffer.writeBytes bytes := by
  have hlength : (BitVec.ofNat 32 bytes.length).toNat = bytes.length := by
    rw [BitVec.toNat_ofNat, Nat.mod_eq_of_lt hbytes]
  have hcontent : buffer.content.length = buffer.currentSize.toNat := length_firstBytes _ _
  intro result
  rcases writeBytes_cases buffer (some (memoryOf bytes)) (BitVec.ofNat 32 bytes.length) with
    ⟨hrefused, hrun⟩ | ⟨hoverflow, hvalid, hgoes⟩
  · change result = _ at hrun
    rw [hrun, Buffer.writeBytes, if_pos (by simpa [toBuffer] using hrefused)]
  have hopen : ¬(buffer.toBuffer.overflow || !buffer.toBuffer.valid) = true := by
    simp [toBuffer, hoverflow, hvalid]
  have hsum := h.sum_lt hoverflow
  have hfull : buffer.maxSize < buffer.currentSize + BitVec.ofNat 32 bytes.length ↔
      buffer.toBuffer.maxSize < (buffer.toBuffer.bytes.length + bytes.length) % 2 ^ 32 := by
    rw [BitVec.lt_def, BitVec.toNat_add, hlength, toBuffer]
    dsimp only
    rw [hcontent]
  rw [Buffer.writeBytes, if_neg hopen]
  rcases hgoes with ⟨hnothing, hrun⟩ | ⟨source, hsource, hne, hgoes⟩
  · change result = _ at hrun
    have hempty : bytes.length = 0 := by
      rw [← hlength, hnothing.resolve_left (Option.some_ne_none _)]
      rfl
    rw [hrun, if_pos (List.isEmpty_iff.mpr (List.length_eq_zero_iff.mp hempty))]
  obtain rfl := Option.some_inj.mp hsource
  have hsome : ¬bytes.isEmpty = true := by
    intro hempty
    rw [List.isEmpty_iff.mp hempty] at hne
    exact hne rfl
  rw [if_neg hsome]
  rcases hgoes with ⟨hlarge, hrun⟩ | ⟨hfits, hrun⟩
  · change result = _ at hrun
    rw [hrun, if_pos (hfull.mp hlarge)]
    rfl
  · change result = _ at hrun
    have happended : (buffer.appended (memoryOf bytes) (BitVec.ofNat 32 bytes.length)).content =
        buffer.content ++ bytes := by
      rw [content_appended _ hsum, hlength, firstBytes_of_carries (carries_memoryOf bytes)]
    rw [hrun, if_neg (fun hlt => BitVec.not_lt.mpr hfits (hfull.mpr hlt)), toBuffer, happended]
    rfl

end Kawin.Driver
