import Kawin.Base.PrefixCode
import Kawin.Driver.PoolBuffer

/-!
# Tagged fields

`Serializer` writes fields into a `Buffer`: the id of the field, the code of its type, and the
value, of a fixed width or behind its length.  Each `WriteField*` is a few calls of `WriteBytes`
(`FieldCall.run_eq_writeAll`), and what they write is the field in a self-delimiting code
(`flatMap_writes`).

A `WriteBytes` whose sum wraps would take `m_CurrentSize` back, and what was written would be lost;
but it copies over the end of the block, so no sequence that succeeds has one (`safe_of_writeAll`).
So the bytes of a sequence of fields determine the fields (`fieldRuns_decodable`).
-/

namespace Kawin.Driver

open ByteMemory PoolBuffer

/-- `DATA_TYPE`. -/
inductive DataType
  | uchar | ushort | ulong | ulonglong | char | short | long | longlong
  | unicodeString | binary | boolean
  deriving DecidableEq, Repr

def DataType.code : DataType → UCHAR
  | .uchar => 1#8
  | .ushort => 2#8
  | .ulong => 3#8
  | .ulonglong => 4#8
  | .char => 5#8
  | .short => 6#8
  | .long => 7#8
  | .longlong => 8#8
  | .unicodeString => 9#8
  | .binary => 10#8
  | .boolean => 11#8

/-! ## `Serializer` -/

/-- The `UNICODE_STRING` that `WriteFieldWideString` makes, of the `wcsnlen` first units. -/
def WideString.counted (s : WideString) : CountedString where
  length := BitVec.ofNat 16 (2 * min s.units.length (maxUShort / 2))
  buffer := some s.memory

namespace PoolBuffer

variable (buffer : PoolBuffer) (fieldId : UCHAR)

/-- `WriteFieldHeader`. -/
def writeFieldHeader (dataType : DataType) : Bool × PoolBuffer :=
  let first := buffer.writeUChar fieldId
  if !first.1 then (false, first.2) else first.2.writeUChar dataType.code

/-- A header and, if it was written, what follows it. -/
def writeField (dataType : DataType) (body : PoolBuffer → Bool × PoolBuffer) : Bool × PoolBuffer :=
  let header := buffer.writeFieldHeader fieldId dataType
  if !header.1 then (false, header.2) else body header.2

/-- `WriteFieldUChar`. -/
def writeFieldUChar (value : UCHAR) : Bool × PoolBuffer :=
  buffer.writeField fieldId .uchar fun b => b.writeUChar value

/-- `WriteFieldUShort`. -/
def writeFieldUShort (value : USHORT) : Bool × PoolBuffer :=
  buffer.writeField fieldId .ushort fun b => b.writeUShort value

/-- `WriteFieldULong`. -/
def writeFieldULong (value : ULONG) : Bool × PoolBuffer :=
  buffer.writeField fieldId .ulong fun b => b.writeULong value

/-- `WriteFieldULongLong`. -/
def writeFieldULongLong (value : ULONGLONG) : Bool × PoolBuffer :=
  buffer.writeField fieldId .ulonglong fun b => b.writeULongLong value

/-- `WriteFieldChar`. -/
def writeFieldChar (value : CHAR) : Bool × PoolBuffer :=
  buffer.writeField fieldId .char fun b => b.writeChar value

/-- `WriteFieldShort`. -/
def writeFieldShort (value : SHORT) : Bool × PoolBuffer :=
  buffer.writeField fieldId .short fun b => b.writeShort value

/-- `WriteFieldLong`. -/
def writeFieldLong (value : LONG) : Bool × PoolBuffer :=
  buffer.writeField fieldId .long fun b => b.writeLong value

/-- `WriteFieldLongLong`. -/
def writeFieldLongLong (value : LONGLONG) : Bool × PoolBuffer :=
  buffer.writeField fieldId .longlong fun b => b.writeLongLong value

/-- `WriteFieldBoolean`; a `BOOLEAN` is any byte. -/
def writeFieldBoolean (value : UCHAR) : Bool × PoolBuffer :=
  buffer.writeField fieldId .boolean fun b => b.writeUChar (if value ≠ 0#8 then 1#8 else 0#8)

/-- `WriteFieldUnicodeString`. -/
def writeFieldUnicodeString (string : Option CountedString) : Bool × PoolBuffer :=
  match string with
  | none | some ⟨_, none⟩ => buffer.writeField fieldId .unicodeString fun b => b.writeUShort 0#16
  | some ⟨length, some source⟩ =>
      if length = 0#16 then buffer.writeField fieldId .unicodeString fun b => b.writeUShort 0#16
      else
        buffer.writeField fieldId .unicodeString fun b =>
          let prefixed := b.writeUShort length
          if !prefixed.1 then (false, prefixed.2)
          else prefixed.2.writeBytes (some source) (length.setWidth 32)

/-- `WriteFieldWideString`. -/
def writeFieldWideString (string : Option WideString) : Bool × PoolBuffer :=
  match string with
  -- `RtlInitUnicodeString(&ustr, L"")`
  | none => buffer.writeFieldUnicodeString fieldId (some ⟨0#16, some (memoryOf [])⟩)
  | some s => buffer.writeFieldUnicodeString fieldId (some s.counted)

/-- `WriteFieldBinary`. -/
def writeFieldBinary (data : Option Memory) (length : ULONG) : Bool × PoolBuffer :=
  match data with
  | none => buffer.writeField fieldId .binary fun b => b.writeULong 0#32
  | some source =>
      if length = 0#32 then buffer.writeField fieldId .binary fun b => b.writeULong 0#32
      else
        buffer.writeField fieldId .binary fun b =>
          let prefixed := b.writeULong length
          if !prefixed.1 then (false, prefixed.2) else prefixed.2.writeBytes (some source) length

end PoolBuffer

/-! ## Sequences of fields -/

inductive FieldCall
  | uchar (fieldId : UCHAR) (value : UCHAR)
  | ushort (fieldId : UCHAR) (value : USHORT)
  | ulong (fieldId : UCHAR) (value : ULONG)
  | ulonglong (fieldId : UCHAR) (value : ULONGLONG)
  | char (fieldId : UCHAR) (value : CHAR)
  | short (fieldId : UCHAR) (value : SHORT)
  | long (fieldId : UCHAR) (value : LONG)
  | longlong (fieldId : UCHAR) (value : LONGLONG)
  | boolean (fieldId : UCHAR) (value : UCHAR)
  | unicodeString (fieldId : UCHAR) (string : Option CountedString)
  | wideString (fieldId : UCHAR) (string : Option WideString)
  | binary (fieldId : UCHAR) (data : Option Memory) (length : ULONG)

def FieldCall.run (buffer : PoolBuffer) : FieldCall → Bool × PoolBuffer
  | .uchar fieldId value => buffer.writeFieldUChar fieldId value
  | .ushort fieldId value => buffer.writeFieldUShort fieldId value
  | .ulong fieldId value => buffer.writeFieldULong fieldId value
  | .ulonglong fieldId value => buffer.writeFieldULongLong fieldId value
  | .char fieldId value => buffer.writeFieldChar fieldId value
  | .short fieldId value => buffer.writeFieldShort fieldId value
  | .long fieldId value => buffer.writeFieldLong fieldId value
  | .longlong fieldId value => buffer.writeFieldLongLong fieldId value
  | .boolean fieldId value => buffer.writeFieldBoolean fieldId value
  | .unicodeString fieldId string => buffer.writeFieldUnicodeString fieldId string
  | .wideString fieldId string => buffer.writeFieldWideString fieldId string
  | .binary fieldId data length => buffer.writeFieldBinary fieldId data length

/-- One field after the other, as long as each call comes back with `TRUE`. -/
def PoolBuffer.writeFields (buffer : PoolBuffer) : List FieldCall → Option (Bool × PoolBuffer)
  | [] => some (true, buffer)
  | call :: rest => (returned (call.run buffer)).bind fun first =>
      if !first.1 then some (false, first.2) else first.2.writeFields rest

/-! ## What a field is -/

/-- The values of a type; a string is its bytes. -/
def DataType.Value : DataType → Type
  | .uchar => UCHAR
  | .ushort => USHORT
  | .ulong => ULONG
  | .ulonglong => ULONGLONG
  | .char => CHAR
  | .short => SHORT
  | .long => LONG
  | .longlong => LONGLONG
  | .unicodeString => {bytes : List Byte // bytes.length < 2 ^ 16}
  | .binary => {bytes : List Byte // bytes.length < 2 ^ 32}
  | .boolean => Bool

structure TaggedField where
  fieldId : UCHAR
  dataType : DataType
  value : dataType.Value

/-- A null string, or one with a null `Buffer`, is empty. -/
def CountedString.value (string : Option CountedString) : DataType.unicodeString.Value :=
  match string with
  | none | some ⟨_, none⟩ => ⟨[], by decide⟩
  | some ⟨length, some source⟩ =>
      ⟨firstBytes source length.toNat, by rw [length_firstBytes]; exact length.isLt⟩

/-- A wide string is its first 32767 units. -/
def WideString.value (string : Option WideString) : DataType.unicodeString.Value :=
  match string with
  | none => ⟨[], by decide⟩
  | some s =>
      ⟨unitsBytes (s.units.take 32767), by
        have := s.units.length_take_le 32767
        rw [length_unitsBytes]
        omega⟩

/-- A null binary is empty. -/
def binaryValue (data : Option Memory) (length : ULONG) : DataType.binary.Value :=
  match data with
  | none => ⟨[], by decide⟩
  | some source => ⟨firstBytes source length.toNat, by rw [length_firstBytes]; exact length.isLt⟩

def FieldCall.field : FieldCall → TaggedField
  | .uchar fieldId value => ⟨fieldId, .uchar, value⟩
  | .ushort fieldId value => ⟨fieldId, .ushort, value⟩
  | .ulong fieldId value => ⟨fieldId, .ulong, value⟩
  | .ulonglong fieldId value => ⟨fieldId, .ulonglong, value⟩
  | .char fieldId value => ⟨fieldId, .char, value⟩
  | .short fieldId value => ⟨fieldId, .short, value⟩
  | .long fieldId value => ⟨fieldId, .long, value⟩
  | .longlong fieldId value => ⟨fieldId, .longlong, value⟩
  | .boolean fieldId value => ⟨fieldId, .boolean, decide (value ≠ 0#8)⟩
  | .unicodeString fieldId string => ⟨fieldId, .unicodeString, CountedString.value string⟩
  | .wideString fieldId string => ⟨fieldId, .unicodeString, WideString.value string⟩
  | .binary fieldId data length => ⟨fieldId, .binary, binaryValue data length⟩

/-! ## The code of a field -/

theorem DataType.code_injective : Function.Injective DataType.code := by
  intro d d' h
  cases d <;> cases d' <;> first | rfl | exact absurd h (by decide)

/-- Words of `w` bytes. -/
def wordCode (w n : ℕ) (h : 2 ^ n ≤ 256 ^ w) : PrefixCode (BitVec n) Byte :=
  .fixed w (fun v => leBytes w v.toNat) (fun _ => length_leBytes _ _) fun v v' heq =>
    BitVec.eq_of_toNat_eq (leBytes_inj (v.isLt.trans_le h) (v'.isLt.trans_le h) heq)

/-- Lengths of `w` bytes. -/
def lengthCode (w n : ℕ) (h : n ≤ 256 ^ w) : PrefixCode (Fin n) Byte :=
  .fixed w (fun i => leBytes w i) (fun _ => length_leBytes _ _) fun i j heq =>
    Fin.ext (leBytes_inj (i.isLt.trans_le h) (j.isLt.trans_le h) heq)

def booleanCode : PrefixCode Bool Byte :=
  .fixed 1 (fun b => leBytes 1 b.toNat) (fun _ => length_leBytes _ _) (by decide)

def DataType.valueCode : ∀ dataType : DataType, PrefixCode dataType.Value Byte
  | .uchar | .char => wordCode 1 8 (by decide)
  | .ushort | .short => wordCode 2 16 (by decide)
  | .ulong | .long => wordCode 4 32 (by decide)
  | .ulonglong | .longlong => wordCode 8 64 (by decide)
  | .unicodeString => .counted (2 ^ 16) (lengthCode 2 (2 ^ 16) (by decide))
  | .binary => .counted (2 ^ 32) (lengthCode 4 (2 ^ 32) (by decide))
  | .boolean => booleanCode

/-- The id of a field and the code of its type. -/
def headerCode : PrefixCode (UCHAR × DataType) Byte :=
  .fixed 2 (fun tag => leBytes 1 tag.1.toNat ++ leBytes 1 tag.2.code.toNat)
    (fun _ => by rw [List.length_append, length_leBytes, length_leBytes]) fun tag tag' heq => by
      obtain ⟨hid, hcode⟩ :=
        List.append_inj heq ((length_leBytes _ _).trans (length_leBytes _ _).symm)
      have hid' := BitVec.eq_of_toNat_eq (leBytes_inj tag.1.isLt tag'.1.isLt hid)
      have hcode' := BitVec.eq_of_toNat_eq (leBytes_inj tag.2.code.isLt tag'.2.code.isLt hcode)
      exact Prod.ext hid' (DataType.code_injective hcode')

/-- The code of a field. -/
def fieldCode : PrefixCode TaggedField Byte :=
  (PrefixCode.tagged headerCode fun tag => tag.2.valueCode).comap
    (fun field => ⟨(field.fieldId, field.dataType), field.value⟩) fun field field' heq => by
      cases field
      cases field'
      cases heq
      rfl

/-! ## Fields as calls of `WriteBytes` -/

def headerWrites (fieldId : UCHAR) (dataType : DataType) : List BytesWrite :=
  [.value 1#32 fieldId, .value 1#32 dataType.code]

def stringWrites (string : Option CountedString) : List BytesWrite :=
  match string with
  | none | some ⟨_, none⟩ => [.value 2#32 0#16]
  | some ⟨length, some source⟩ =>
      if length = 0#16 then [.value 2#32 0#16]
      else [.value 2#32 length, ⟨some source, length.setWidth 32⟩]

def binaryWrites (data : Option Memory) (length : ULONG) : List BytesWrite :=
  match data with
  | none => [.value 4#32 0#32]
  | some source =>
      if length = 0#32 then [.value 4#32 0#32] else [.value 4#32 length, ⟨some source, length⟩]

/-- The calls of `WriteBytes` behind the header. -/
def FieldCall.bodyWrites : FieldCall → List BytesWrite
  | .uchar _ value | .char _ value => [.value 1#32 value]
  | .ushort _ value | .short _ value => [.value 2#32 value]
  | .ulong _ value | .long _ value => [.value 4#32 value]
  | .ulonglong _ value | .longlong _ value => [.value 8#32 value]
  | .boolean _ value => [.value 1#32 (if value ≠ 0#8 then 1#8 else 0#8)]
  | .unicodeString _ string => stringWrites string
  | .wideString _ none => stringWrites none
  | .wideString _ (some s) => stringWrites (some s.counted)
  | .binary _ data length => binaryWrites data length

/-- The calls of `WriteBytes` that a `WriteField*` makes, as long as each returns `TRUE`. -/
def FieldCall.writes (call : FieldCall) : List BytesWrite :=
  headerWrites call.field.fieldId call.field.dataType ++ call.bodyWrites

variable {buffer : PoolBuffer} {call : FieldCall}

theorem PoolBuffer.writeField_eq (buffer : PoolBuffer) (fieldId : UCHAR) (dataType : DataType)
    {body : PoolBuffer → Bool × PoolBuffer} {writes : List BytesWrite}
    (hbody : ∀ b, body b = b.writeAll writes) :
    buffer.writeField fieldId dataType body =
      buffer.writeAll (headerWrites fieldId dataType ++ writes) := by
  rw [writeAll_append, headerWrites, writeAll_pair, writeField, writeFieldHeader]
  dsimp only
  rw [hbody]
  rfl

/-- A field of one word. -/
theorem PoolBuffer.writeField_word {w : ℕ} (buffer : PoolBuffer) (fieldId : UCHAR)
    (dataType : DataType) (size : ULONG) (value : BitVec w) :
    (buffer.writeField fieldId dataType fun b => b.writeValue size value) =
      buffer.writeAll (headerWrites fieldId dataType ++ [.value size value]) :=
  buffer.writeField_eq fieldId dataType fun b => (b.writeAll_singleton (.value size value)).symm

/-- A field of a length and so many bytes. -/
theorem PoolBuffer.writeField_prefixed {w : ℕ} (buffer : PoolBuffer) (fieldId : UCHAR)
    (dataType : DataType) (size : ULONG) (value : BitVec w) (write : BytesWrite) :
    (buffer.writeField fieldId dataType fun b =>
        let prefixed := b.writeValue size value
        if !prefixed.1 then (false, prefixed.2)
        else prefixed.2.writeBytes write.data write.length) =
      buffer.writeAll (headerWrites fieldId dataType ++ [.value size value, write]) :=
  buffer.writeField_eq fieldId dataType fun b => (b.writeAll_pair (.value size value) write).symm

theorem writeFieldUnicodeString_eq (buffer : PoolBuffer) (fieldId : UCHAR)
    (string : Option CountedString) : buffer.writeFieldUnicodeString fieldId string =
      buffer.writeAll (headerWrites fieldId .unicodeString ++ stringWrites string) := by
  unfold writeFieldUnicodeString stringWrites
  rcases string with _ | ⟨length, _ | source⟩
  · exact buffer.writeField_word fieldId .unicodeString 2#32 0#16
  · exact buffer.writeField_word fieldId .unicodeString 2#32 0#16
  · dsimp only
    by_cases hzero : length = 0#16
    · rw [if_pos hzero, if_pos hzero]
      exact buffer.writeField_word fieldId .unicodeString 2#32 0#16
    · rw [if_neg hzero, if_neg hzero]
      exact buffer.writeField_prefixed fieldId .unicodeString 2#32 length
        ⟨some source, length.setWidth 32⟩

theorem writeFieldBinary_eq (buffer : PoolBuffer) (fieldId : UCHAR) (data : Option Memory)
    (length : ULONG) : buffer.writeFieldBinary fieldId data length =
      buffer.writeAll (headerWrites fieldId .binary ++ binaryWrites data length) := by
  unfold writeFieldBinary binaryWrites
  cases data with
  | none => exact buffer.writeField_word fieldId .binary 4#32 0#32
  | some source =>
      dsimp only
      by_cases hzero : length = 0#32
      · rw [if_pos hzero, if_pos hzero]
        exact buffer.writeField_word fieldId .binary 4#32 0#32
      · rw [if_neg hzero, if_neg hzero]
        exact buffer.writeField_prefixed fieldId .binary 4#32 length ⟨some source, length⟩

/-- **Fields.**  A `WriteField*` is its calls of `WriteBytes`. -/
theorem FieldCall.run_eq_writeAll (buffer : PoolBuffer) (call : FieldCall) :
    call.run buffer = buffer.writeAll call.writes := by
  cases call with
  | uchar fieldId value => exact buffer.writeField_word fieldId .uchar 1#32 value
  | ushort fieldId value => exact buffer.writeField_word fieldId .ushort 2#32 value
  | ulong fieldId value => exact buffer.writeField_word fieldId .ulong 4#32 value
  | ulonglong fieldId value => exact buffer.writeField_word fieldId .ulonglong 8#32 value
  | char fieldId value => exact buffer.writeField_word fieldId .char 1#32 value
  | short fieldId value => exact buffer.writeField_word fieldId .short 2#32 value
  | long fieldId value => exact buffer.writeField_word fieldId .long 4#32 value
  | longlong fieldId value => exact buffer.writeField_word fieldId .longlong 8#32 value
  | boolean fieldId value => exact buffer.writeField_word fieldId .boolean 1#32 _
  | unicodeString fieldId string => exact writeFieldUnicodeString_eq buffer fieldId string
  | wideString fieldId string =>
      cases string with
      | none => exact writeFieldUnicodeString_eq buffer fieldId (some ⟨0#16, some (memoryOf [])⟩)
      | some s => exact writeFieldUnicodeString_eq buffer fieldId (some s.counted)
  | binary fieldId data length => exact writeFieldBinary_eq buffer fieldId data length

/-! ## What the calls write -/

theorem bytes_value {w : ℕ} (size : ULONG) (value : BitVec w) :
    (BytesWrite.value size value).bytes = leBytes size.toNat value.toNat := rfl

theorem flatMap_headerWrites (fieldId : UCHAR) (dataType : DataType) :
    (headerWrites fieldId dataType).flatMap BytesWrite.bytes =
      headerCode.encode (fieldId, dataType) := by
  unfold headerWrites
  rw [List.flatMap_cons, List.flatMap_singleton, bytes_value, bytes_value]
  rfl

theorem flatMap_stringWrites (string : Option CountedString) :
    (stringWrites string).flatMap BytesWrite.bytes =
      DataType.unicodeString.valueCode.encode (CountedString.value string) := by
  unfold stringWrites CountedString.value
  rcases string with _ | ⟨length, _ | source⟩
  · rfl
  · rfl
  · dsimp only
    by_cases hzero : length = 0#16
    · subst hzero
      rfl
    · have hwidth : (length.setWidth 32).toNat = length.toNat := by
        rw [BitVec.toNat_setWidth]
        exact Nat.mod_eq_of_lt (length.isLt.trans (by decide))
      rw [if_neg hzero, List.flatMap_cons, List.flatMap_singleton, bytes_value]
      simp only [BytesWrite.bytes, hwidth]
      simp only [DataType.valueCode, PrefixCode.counted, lengthCode, PrefixCode.fixed,
        length_firstBytes]
      rfl

theorem flatMap_binaryWrites (data : Option Memory) (length : ULONG) :
    (binaryWrites data length).flatMap BytesWrite.bytes =
      DataType.binary.valueCode.encode (binaryValue data length) := by
  unfold binaryWrites binaryValue
  cases data with
  | none => rfl
  | some source =>
      dsimp only
      by_cases hzero : length = 0#32
      · subst hzero
        rfl
      · rw [if_neg hzero, List.flatMap_cons, List.flatMap_singleton, bytes_value]
        simp only [BytesWrite.bytes]
        simp only [DataType.valueCode, PrefixCode.counted, lengthCode, PrefixCode.fixed,
          length_firstBytes]
        rfl

/-- `wcsnlen` makes the string that a wide string counts as. -/
theorem WideString.value_counted (s : WideString) :
    CountedString.value (some s.counted) = WideString.value (some s) := by
  apply Subtype.ext
  have hmin : min s.units.length (maxUShort / 2) = (s.units.take 32767).length := by
    rw [List.length_take, min_comm]
    rfl
  have hlength : (BitVec.ofNat 16 (2 * (s.units.take 32767).length)).toNat =
      (unitsBytes (s.units.take 32767)).length := by
    have := s.units.length_take_le 32767
    rw [length_unitsBytes, BitVec.toNat_ofNat]
    omega
  simp only [CountedString.value, WideString.counted, WideString.value, hmin, hlength]
  exact firstBytes_of_carries (carries_memoryOf_take s.units 32767)

/-- **What a call writes** is its field. -/
theorem FieldCall.flatMap_writes (call : FieldCall) :
    call.writes.flatMap BytesWrite.bytes = fieldCode.encode call.field := by
  unfold FieldCall.writes
  rw [List.flatMap_append, flatMap_headerWrites]
  change _ = headerCode.encode (call.field.fieldId, call.field.dataType) ++
    call.field.dataType.valueCode.encode call.field.value
  congr 1
  cases call with
  | boolean fieldId value =>
      by_cases hzero : value = 0#8
      · subst hzero
        rfl
      · simp only [FieldCall.bodyWrites, FieldCall.field, hzero, ne_eq, not_false_eq_true, if_true,
          decide_true]
        rfl
  | unicodeString fieldId string => exact flatMap_stringWrites string
  | wideString fieldId string =>
      cases string with
      | none => exact flatMap_stringWrites none
      | some s =>
          refine (flatMap_stringWrites (some s.counted)).trans ?_
          rw [s.value_counted]
          rfl
  | binary fieldId data length => exact flatMap_binaryWrites data length
  | _ => exact (List.flatMap_singleton _ _).trans rfl

/-! ## Runs -/

/-- **Everything that the fields wrote.**  Where all calls come back with `TRUE`, the block holds
what it held before and then the codes of the fields. -/
theorem PoolBuffer.Intact.content_writeFields (h : buffer.Intact) {calls : List FieldCall}
    {after : PoolBuffer} (hrun : buffer.writeFields calls = some (true, after)) :
    after.content = buffer.content ++ fieldCode.encodeAll (calls.map FieldCall.field) := by
  induction calls generalizing buffer with
  | nil =>
      cases hrun
      exact (List.append_nil _).symm
  | cons call rest ih =>
      obtain ⟨first, hreturned, hrest⟩ := Option.bind_eq_some_iff.mp hrun
      obtain ⟨hinside, hfirst⟩ := Option.ite_none_right_eq_some.mp hreturned
      cases hfirst
      rw [call.run_eq_writeAll] at hinside hrest
      cases hok : (buffer.writeAll call.writes).1 with
      | false =>
          rw [hok] at hrest
          cases hrest
      | true =>
          rw [hok] at hrest
          rw [maxSize_writeAll] at hinside
          have hsafe := safe_of_writeAll hok hinside
          rw [ih (h.writeAll hsafe) hrest, h.content_writeAll hsafe hok, call.flatMap_writes,
            List.append_assoc]
          rfl

/-- A sequence of calls that all succeed on a fresh `Buffer` of a size. -/
structure FieldRun (size : ULONG) where
  allocated : Bool
  pool : Memory
  calls : List FieldCall
  buffer : PoolBuffer
  succeeds : (PoolBuffer.new size allocated pool).writeFields calls = some (true, buffer)

namespace FieldRun

variable {size : ULONG} (run : FieldRun size)

/-- The bytes that the calls leave in the `Buffer`. -/
def bytes : List Byte := run.buffer.content

/-- The id, the type and the value of each field. -/
def fields : List TaggedField := run.calls.map FieldCall.field

/-- What the bytes of two runs say about their fields. -/
structure Decodable (s t : FieldRun size) : Prop where
  injective : s.bytes = t.bytes → s.fields = t.fields
  proper : s.bytes <+: t.bytes → s.bytes ≠ t.bytes →
    s.fields <+: t.fields ∧ s.fields ≠ t.fields

theorem content_new (size : ULONG) (allocated : Bool) (pool : Memory) :
    (PoolBuffer.new size allocated pool).content = [] := by
  unfold PoolBuffer.new
  split
  · rfl
  · split
    · rfl
    · rfl

/-- **The bytes of a run.** -/
theorem bytes_eq : run.bytes = fieldCode.encodeAll run.fields := by
  have hintact := intact_new size run.allocated run.pool
  rw [bytes, hintact.content_writeFields run.succeeds, content_new, List.nil_append, fields]

theorem encode_ne_nil (field : TaggedField) : fieldCode.encode field ≠ [] := by
  intro h
  have hheader := (List.append_eq_nil_iff.mp h).1
  cases hheader

end FieldRun

/-- **Tagged fields.**  The bytes of a run determine its fields, also where they are only the
beginning of those of another. -/
theorem fieldRuns_decodable (size : ULONG) (s t : FieldRun size) : FieldRun.Decodable s t := by
  have hnonempty := FieldRun.encode_ne_nil
  refine ⟨fun heq => ?_, fun hbegins hne => ⟨?_, fun heq => hne ?_⟩⟩
  · rw [s.bytes_eq, t.bytes_eq] at heq
    exact PrefixCode.encodeAll_injective hnonempty heq
  · rw [s.bytes_eq, t.bytes_eq] at hbegins
    exact (PrefixCode.encodeAll_prefix_iff hnonempty).mp hbegins
  · rw [s.bytes_eq, t.bytes_eq, heq]

/-- A fresh `Buffer` of sixteen bytes. -/
private def sixteen : PoolBuffer := .new 16#32 true fun _ => 0#8

private def numberRun : FieldRun 16#32 where
  allocated := true
  pool := fun _ => 0#8
  calls := [.uchar 1#8 7#8]
  buffer := (sixteen.writeFieldUChar 1#8 7#8).2
  succeeds := rfl

private def numberAndBinaryRun : FieldRun 16#32 where
  allocated := true
  pool := fun _ => 0#8
  calls := [.uchar 1#8 7#8, .binary 2#8 (some (memoryOf [5#8, 6#8])) 2#32]
  buffer := ((sixteen.writeFieldUChar 1#8 7#8).2.writeFieldBinary 2#8
    (some (memoryOf [5#8, 6#8])) 2#32).2
  succeeds := rfl

/-- The theorem at a run of a number and a run that goes on with a binary. -/
theorem fieldRuns_decodable_numbers :
    numberRun.bytes = [1#8, 1#8, 7#8] ∧
      numberAndBinaryRun.bytes =
        [1#8, 1#8, 7#8, 2#8, 10#8, 2#8, 0#8, 0#8, 0#8, 5#8, 6#8] ∧
      numberRun.fields <+: numberAndBinaryRun.fields ∧
      numberRun.fields ≠ numberAndBinaryRun.fields :=
  ⟨by decide +kernel, by decide +kernel,
    (fieldRuns_decodable 16#32 numberRun numberAndBinaryRun).proper (by decide +kernel)
      (by decide +kernel)⟩

/-- Behind the nine bytes of a number and of the header and the length of a binary, the sum with
this length is 2^32. -/
example : (sixteen.writeFields [.uchar 1#8 7#8, .binary 2#8 (some fun _ => 0#8)
    (BitVec.ofNat 32 (2 ^ 32 - 9))]).isNone := by decide +kernel

end Kawin.Driver
