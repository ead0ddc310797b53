import Kawin.Base.ReusedBuffer
import Kawin.Base.Wtf8
import Kawin.Driver.Occurrences
import Kawin.Svc.FilterMessage

/-!
# The buffer of a reader

A `readerWorker` receives every message into the same 4096 bytes and hands all of them to
`parseFilterMessage`, without the length of the message.  The check that the message is not too
short then looks at the length of the buffer, and never fails; what the message does not have, the
decoder reads from what earlier messages have left.

`readsOnly_parseBuffer_iff` says which messages are logged from their own bytes only.  The decoder
reads the first 33 bytes of every message, and of a file event two paths more, of the lengths that
the event says.  These must be in the message (`SelfContained`), each path up to its end or its
first NUL; unless the lengths reach beyond the buffer, when nothing of the paths is logged.

* What is logged is a function of the memory, `messageLog` (`parseFilterMessage_eq`).
* It is the same function of the message, if that is self-contained (`messageLog_carried`).
* If not, ones behind the message and zeros behind it make two logs (`selfContained_of_eq`): a
  path that goes on behind the message goes on with different bytes (`utf16ToString_ne`), because
  UTF-8 can be told apart.

Messages of the driver that are received whole are self-contained, although the decoder looks for
the strings in the wrong place: it stops 25 bytes before the end of the event.  So a reader of this
driver logs each event as if it were the first (`readerWorker_of_fromDriver`).
-/

namespace Kawin.Svc

open ByteMemory Kawin.Kasvc ReusedBuffer Wtf8
open Kawin.Driver (StreamHandleContext UINT64 statusSuccess sizeofEvent)

/-! ## The buffer of a reader -/

/-- What `FilterGetMessage` stores: a filter header, and what the driver has sent. -/
structure FilterMessage where
  stored : Message Byte messageBufferSize
  header : payloadAt ≤ stored.1.length

def FilterMessage.bytes (message : FilterMessage) : List Byte := message.stored.1

/-- The reader hands over all of its buffer. -/
def parseBuffer (buffer : Buffer Byte messageBufferSize) : Except String Log :=
  parseFilterMessage decodeWTF16 buffer.toList

/-- `make([]byte, MessageBufferSize)`. -/
def newBuffer : Buffer Byte messageBufferSize := .replicate messageBufferSize 0#8

/-- What a `readerWorker` makes of the messages that it receives. -/
def readerWorker (messages : List FilterMessage) : List (Except String Log) :=
  readAll parseBuffer newBuffer (messages.map (·.stored))

/-! ## What the decoder makes of a full buffer -/

section

variable (m : Memory)

/-- The units of the process path. -/
def processUnits : ℕ := readNat m (dataAt + 12) 4 / 2

/-- The units of the file path. -/
def fileUnits : ℕ := readNat m (dataAt + 20) 4 / 2

/-- Where the process path is read. -/
def processPathAt : ℕ := dataAt + 24

/-- Where the file path is read. -/
def filePathAt : ℕ := processPathAt + 2 * processUnits m

/-- How far a file event is read. -/
def fileEventEnd : ℕ := filePathAt m + 2 * fileUnits m

/-- The string of `count` units. -/
def pathText (a count : ℕ) : List Byte := utf16ToString decodeWTF16 (readUnits m a count)

/-- What is logged of every event. -/
def headLog : Log where
  timestamp := (BitVec.ofNat 64 (readNat m timestampAt 8)).toInt
  type := getLogType (readNat m eventTypeAt 4)
  operation := getOperationType (readNat m eventOperationAt 4)
  result := getResult (readNat m blockedAt 1 ≠ 0)
  action := if readNat m eventTypeAt 4 = 2 then getAction (readNat m blockedAt 1 ≠ 0) else ""

/-- A file event is logged with its paths, if they end in the buffer. -/
def fileLog : Log :=
  if fileEventEnd m ≤ messageBufferSize then
    { headLog m with
      pid := int32 (readNat m (dataAt + 4) 4)
      processName := pathText m processPathAt (processUnits m)
      resource := pathText m (filePathAt m) (fileUnits m)
      data := getFileOperation (readNat m dataAt 4) }
  else headLog m

def messageLog : Log := if readNat m eventOperationAt 4 = 2 then fileLog m else headLog m

end

variable {m m' : Memory} {buf bytes : List Byte} {off n a count : ℕ}

theorem readFull_bind_error {α β : Type} {value : Memory → ℕ → α} {next : α → BufferReader β}
    (h : buf.length < off + n) : ∃ err, (readFull n value >>= next).run ⟨buf, off⟩ =
      .error err := by
  have hread : ∃ err, (readFull n value).run ⟨buf, off⟩ = .error err := by
    show ∃ err, readFull n value ⟨buf, off⟩ = .error err
    rw [readFull, if_neg (Nat.not_le.mpr h)]
    split_ifs
    · exact ⟨"unexpected EOF", rfl⟩
    · exact ⟨"EOF", rfl⟩
  obtain ⟨err, herr⟩ := hread
  refine ⟨err, ?_⟩
  rw [StateT.run_bind, herr]
  rfl

/-- The last byte of an odd length is not read. -/
theorem readPath_bind_units {β : Type} {length : ℕ} {next : List Byte → BufferReader β}
    (h : off + 2 * (length / 2) ≤ buf.length) :
    (readPath decodeWTF16 length >>= next).run ⟨buf, off⟩ =
      (next (pathText (memoryOf buf) off (length / 2))).run ⟨buf, off + 2 * (length / 2)⟩ := by
  rw [readPath]
  split
  · rw [bind_assoc, binaryReadUint16s, readFull_bind h, pure_bind]
    rfl
  · next hzero =>
      rw [pure_bind, Nat.eq_zero_of_not_pos hzero]
      rfl

theorem readPath_bind_error {β : Type} {length : ℕ} {next : List Byte → BufferReader β}
    (hoff : off ≤ buf.length) (h : buf.length < off + 2 * (length / 2)) :
    ∃ err, (readPath decodeWTF16 length >>= next).run ⟨buf, off⟩ = .error err := by
  rw [readPath, if_pos (by omega), bind_assoc, binaryReadUint16s]
  exact readFull_bind_error h

/-- The fields before the paths are always in the buffer. -/
theorem readFileEvent_fields (hsize : buf.length = messageBufferSize) :
    (readFileEvent decodeWTF16).run ⟨buf, dataAt⟩ =
      (readPath decodeWTF16 (readNat (memoryOf buf) (dataAt + 12) 4) >>= fun pPath =>
        readPath decodeWTF16 (readNat (memoryOf buf) (dataAt + 20) 4) >>= fun fPath =>
          pure (readNat (memoryOf buf) dataAt 4, readNat (memoryOf buf) (dataAt + 4) 4, pPath,
            fPath)).run ⟨buf, processPathAt⟩ := by
  have hlayout := layout
  rw [readFileEvent]
  simp (disch := omega) only [binaryRead_bind, Nat.add_assoc, Nat.reduceAdd]
  rfl

theorem readFileEvent_ok (hsize : buf.length = messageBufferSize)
    (hend : fileEventEnd (memoryOf buf) ≤ messageBufferSize) :
    (readFileEvent decodeWTF16).run ⟨buf, dataAt⟩ =
      .ok ((readNat (memoryOf buf) dataAt 4, readNat (memoryOf buf) (dataAt + 4) 4,
        pathText (memoryOf buf) processPathAt (processUnits (memoryOf buf)),
        pathText (memoryOf buf) (filePathAt (memoryOf buf)) (fileUnits (memoryOf buf))),
        ⟨buf, fileEventEnd (memoryOf buf)⟩) := by
  have hfile : filePathAt (memoryOf buf) + 2 * (readNat (memoryOf buf) (dataAt + 20) 4 / 2) ≤
      buf.length := hend.trans (Nat.le_of_eq hsize.symm)
  have hprocess : processPathAt + 2 * (readNat (memoryOf buf) (dataAt + 12) 4 / 2) ≤
      buf.length := (Nat.le_add_right _ _).trans hfile
  rw [readFileEvent_fields hsize, readPath_bind_units hprocess]
  exact readPath_bind_units hfile

theorem readFileEvent_error (hsize : buf.length = messageBufferSize)
    (hend : messageBufferSize < fileEventEnd (memoryOf buf)) :
    ∃ err, (readFileEvent decodeWTF16).run ⟨buf, dataAt⟩ = .error err := by
  rw [readFileEvent_fields hsize]
  by_cases hprocess :
      processPathAt + 2 * (readNat (memoryOf buf) (dataAt + 12) 4 / 2) ≤ buf.length
  · rw [readPath_bind_units hprocess]
    exact readPath_bind_error hprocess (hsize.trans_lt hend)
  · have hstart : processPathAt ≤ buf.length := by rw [hsize]; decide
    exact readPath_bind_error hstart (Nat.not_le.mp hprocess)

theorem handleFileEvent_eq (hsize : buf.length = messageBufferSize) :
    handleFileEvent decodeWTF16 ⟨buf, dataAt⟩ (headLog (memoryOf buf)) =
      fileLog (memoryOf buf) := by
  rw [handleFileEvent, fileLog]
  by_cases hend : fileEventEnd (memoryOf buf) ≤ messageBufferSize
  · rw [readFileEvent_ok hsize hend, if_pos hend]
  · obtain ⟨err, herr⟩ := readFileEvent_error hsize (Nat.not_le.mp hend)
    rw [herr, if_neg hend]

/-- **The decoder, in one piece.** -/
theorem parseFilterMessage_eq (hsize : buf.length = messageBufferSize) :
    parseFilterMessage decodeWTF16 buf = .ok (messageLog (memoryOf buf)) := by
  have hlayout := layout
  rw [parseFilterMessage, if_neg (by omega), readHead_run (by omega), messageLog,
    ← handleFileEvent_eq hsize]
  rfl

/-! ## Strings -/

theorem utf16ToString_nul {units rest : List (BitVec 16)} (hunits : 0#16 ∉ units) :
    utf16ToString decodeWTF16 (units ++ 0#16 :: rest) = decodeWTF16 units := by
  rw [utf16ToString, List.takeWhile_append_of_pos, List.takeWhile_cons_of_neg (by simp),
    List.append_nil]
  exact fun unit hunit => decide_eq_true fun heq => hunits (heq ▸ hunit)

/-- Nothing behind a NUL counts. -/
theorem utf16ToString_append_of_mem {units rest : List (BitVec 16)} (h : 0#16 ∈ units) :
    utf16ToString decodeWTF16 (units ++ rest) = utf16ToString decodeWTF16 units := by
  obtain ⟨before, after, rfl, hbefore⟩ := List.eq_append_cons_of_mem h
  rw [List.append_assoc, List.cons_append, utf16ToString_nul hbefore, utf16ToString_nul hbefore]

theorem utf16ToString_append_cons {u : BitVec 16} {units rest : List (BitVec 16)}
    (hunits : 0#16 ∉ units) (hzero : u ≠ 0#16) (hsurrogate : u.toNat < 0xD800) :
    utf16ToString decodeWTF16 (units ++ u :: rest) =
      decodeWTF16 units ++ (utf8.encode u ++ utf16ToString decodeWTF16 rest) := by
  have hhigh : ¬IsHighSurrogate u := fun h => absurd h.1 (Nat.not_le.mpr hsurrogate)
  have hlow : ¬IsLowSurrogate u := fun h => absurd h.1 (by omega)
  rw [utf16ToString, List.takeWhile_append_of_pos, List.takeWhile_cons_of_pos,
    decodeWTF16_append_cons hhigh hlow, utf16ToString]
  · exact decide_eq_true hzero
  · exact fun unit hunit => decide_eq_true fun heq => hunits (heq ▸ hunit)

/-- A stale unit is told from the same unit without its stale high byte. -/
theorem utf16ToString_ne {u v : BitVec 16} {units rest rest' : List (BitVec 16)}
    (hunits : 0#16 ∉ units) (hu : u.toNat < 256) (hlow : 256 ≤ v.toNat) (hhigh : v.toNat < 512) :
    utf16ToString decodeWTF16 (units ++ u :: rest) ≠
      utf16ToString decodeWTF16 (units ++ v :: rest') := by
  intro heq
  have hv : v ≠ 0#16 := by
    rintro rfl
    exact absurd hlow (by decide)
  rw [utf16ToString_append_cons hunits hv (by omega)] at heq
  by_cases hzero : u = 0#16
  · rw [hzero, utf16ToString_nul hunits, List.self_eq_append_right] at heq
    exact encodeRune_ne_nil v.toNat (List.append_eq_nil_iff.mp heq).1
  · rw [utf16ToString_append_cons hunits hzero (by omega)] at heq
    have hsame := (utf8.splits _ _ _ _ (List.append_cancel_left heq)).1
    rw [hsame] at hu
    omega

theorem getFileOperation_ne (op : ℕ) : getFileOperation op ≠ "" := by
  unfold getFileOperation
  split <;> decide

theorem messageLog_result (m : Memory) :
    (messageLog m).result = getResult (readNat m blockedAt 1 ≠ 0) := by
  unfold messageLog fileLog
  split_ifs <;> rfl

/-! ## What is in the message -/

/-- The string of `count` units at `a` is in the message, up to its end or its first NUL. -/
def PathIn (bytes : List Byte) (a count : ℕ) : Prop :=
  count ≤ (bytes.length - a) / 2 ∨ 0#16 ∈ readUnits (memoryOf bytes) a ((bytes.length - a) / 2)

/-- All that is read of a file event is in the message. -/
structure PathsIn (bytes : List Byte) : Prop where
  fields : processPathAt ≤ bytes.length
  process : PathIn bytes processPathAt (processUnits (memoryOf bytes))
  file : PathIn bytes (filePathAt (memoryOf bytes)) (fileUnits (memoryOf bytes))

/-- All that is logged of the message is in it.  Bytes that the message does not have count as
zeros: with them, a file event is as short as it can be. -/
def SelfContained (bytes : List Byte) : Prop :=
  dataAt ≤ bytes.length ∧
    (readNat (memoryOf bytes) eventOperationAt 4 = 2 →
      messageBufferSize < fileEventEnd (memoryOf bytes) ∨ PathsIn bytes)

/-! ## Messages that are self-contained -/

section

variable (hcarries : Carries m 0 bytes)

include hcarries

theorem readNat_carried {w : ℕ} (h : a + w ≤ bytes.length) :
    readNat m a w = readNat (memoryOf bytes) a w :=
  readNat_congr fun _ _ hhigh => hcarries.eq_memoryOf (hhigh.trans_le h)

theorem readUnits_carried (h : count ≤ (bytes.length - a) / 2) :
    readUnits m a count = readUnits (memoryOf bytes) a count :=
  readUnits_congr fun i hlow hhigh => hcarries.eq_memoryOf (by omega)

theorem pathText_carried (h : PathIn bytes a count) :
    pathText m a count = pathText (memoryOf bytes) a count := by
  by_cases hcount : count ≤ (bytes.length - a) / 2
  · rw [pathText, pathText, readUnits_carried hcarries hcount]
  · have hnul := h.resolve_left hcount
    obtain ⟨n, rfl⟩ := Nat.exists_eq_add_of_le (Nat.le_of_not_le hcount)
    rw [pathText, pathText, readUnits_append, readUnits_append, readUnits_carried hcarries le_rfl,
      utf16ToString_append_of_mem hnul, utf16ToString_append_of_mem hnul]

theorem headLog_carried (h : dataAt ≤ bytes.length) : headLog m = headLog (memoryOf bytes) := by
  have hlayout := layout
  unfold headLog
  rw [readNat_carried hcarries (by omega), readNat_carried hcarries (by omega),
    readNat_carried hcarries (by omega), readNat_carried hcarries (by omega)]

theorem fileEventEnd_le : fileEventEnd (memoryOf bytes) ≤ fileEventEnd m := by
  have hbyte : ∀ i, (memoryOf bytes i).toNat ≤ (m i).toNat := by
    intro i
    by_cases hi : i < bytes.length
    · rw [hcarries.eq_memoryOf hi]
    · rw [memoryOf_of_length_le (Nat.le_of_not_lt hi)]
      exact Nat.zero_le _
  have hprocess : processUnits (memoryOf bytes) ≤ processUnits m :=
    Nat.div_le_div_right (readNat_mono hbyte)
  have hfile : fileUnits (memoryOf bytes) ≤ fileUnits m :=
    Nat.div_le_div_right (readNat_mono hbyte)
  unfold fileEventEnd filePathAt
  omega

theorem lengths_carried (h : processPathAt ≤ bytes.length) :
    processUnits m = processUnits (memoryOf bytes) ∧ fileUnits m = fileUnits (memoryOf bytes) ∧
      filePathAt m = filePathAt (memoryOf bytes) := by
  have hpath : processPathAt = dataAt + 24 := rfl
  have hprocess : processUnits m = processUnits (memoryOf bytes) := by
    unfold processUnits
    rw [readNat_carried hcarries (by omega)]
  have hfile : fileUnits m = fileUnits (memoryOf bytes) := by
    unfold fileUnits
    rw [readNat_carried hcarries (by omega)]
  exact ⟨hprocess, hfile, congrArg (processPathAt + 2 * ·) hprocess⟩

theorem fileLog_carried (h : PathsIn bytes) : fileLog m = fileLog (memoryOf bytes) := by
  have hpath : processPathAt = dataAt + 24 := rfl
  have hfields := h.fields
  obtain ⟨hprocess, hfile, hat⟩ := lengths_carried hcarries hfields
  have hend : fileEventEnd m = fileEventEnd (memoryOf bytes) := by
    rw [fileEventEnd, hat, hfile, fileEventEnd]
  rw [fileLog, hend, hat, hprocess, hfile, headLog_carried hcarries (by omega),
    pathText_carried hcarries h.process, pathText_carried hcarries h.file,
    readNat_carried hcarries (by omega), readNat_carried hcarries (by omega), fileLog]

/-- A self-contained message is logged as if zeros stood behind it. -/
theorem messageLog_carried (h : SelfContained bytes) :
    messageLog m = messageLog (memoryOf bytes) := by
  have hlayout := layout
  obtain ⟨hhead, hpaths⟩ := h
  rw [messageLog, messageLog, readNat_carried hcarries (by omega)]
  by_cases hoperation : readNat (memoryOf bytes) eventOperationAt 4 = 2
  · rw [if_pos hoperation, if_pos hoperation]
    rcases hpaths hoperation with hlong | hin
    · -- the paths end behind the buffer, whatever the rest of the lengths is
      have hlonger := hlong.trans_le (fileEventEnd_le hcarries)
      rw [fileLog, fileLog, if_neg (Nat.not_le.mpr hlong), if_neg (Nat.not_le.mpr hlonger),
        headLog_carried hcarries hhead]
    · exact fileLog_carried hcarries hin
  · rw [if_neg hoperation, if_neg hoperation, headLog_carried hcarries hhead]

end

/-! ## Messages that are not -/

section

-- behind the message, the rest of the buffer is all ones
variable (hstale : ∀ i, bytes.length ≤ i → i < messageBufferSize → m i = 1#8)

include hstale

/-- If the flag were stale, the result would be. -/
theorem dataAt_le_of_result
    (hresult : (messageLog m).result = (messageLog (memoryOf bytes)).result) :
    dataAt ≤ bytes.length := by
  have hlayout := layout
  by_contra hshort
  have hone : m blockedAt = 1#8 := hstale 32 (by omega) (by omega)
  have hzero : memoryOf bytes blockedAt = 0#8 :=
    memoryOf_of_length_le (show bytes.length ≤ 32 by omega)
  rw [messageLog_result, messageLog_result, readNat_one, readNat_one, hone, hzero] at hresult
  exact absurd hresult (by decide)

/-- If the last byte of a length were stale, the file event would not end in the buffer. -/
theorem processPathAt_le_of_end (hend : fileEventEnd m ≤ messageBufferSize) :
    processPathAt ≤ bytes.length := by
  have hlayout := layout
  have hpath : processPathAt = 57 := rfl
  by_contra hshort
  have hone : m (dataAt + 20 + 3) = 1#8 := hstale 56 (by omega) (by omega)
  have hlength := readNat_ge_last m 3 (dataAt + 20)
  rw [hone] at hlength
  have hunits : 2 ^ 23 ≤ fileUnits m := Nat.div_le_div_right (c := 2) hlength
  have hfar : 2 * fileUnits m ≤ fileEventEnd m := Nat.le_add_left _ _
  omega

variable (hcarries : Carries m 0 bytes)

include hcarries

/-- A string that is the same with ones behind the message as with zeros is in the message. -/
theorem pathIn_of_eq (hend : a + 2 * count ≤ messageBufferSize)
    (heq : pathText m a count = pathText (memoryOf bytes) a count) : PathIn bytes a count := by
  by_contra hout
  obtain ⟨hcount, hnul⟩ := not_or.mp hout
  obtain ⟨n, rfl⟩ := Nat.exists_eq_add_of_lt (Nat.lt_of_not_le hcount)
  set k := (bytes.length - a) / 2 with hk
  have hhigh : m (a + 2 * k + 1) = 1#8 := hstale _ (by omega) (by omega)
  have hpadding : memoryOf bytes (a + 2 * k + 1) = 0#8 := memoryOf_of_length_le (by omega)
  have hunit : ∀ m : Memory, pathText m a (k + n + 1) =
      utf16ToString decodeWTF16 (readUnits m a k ++
        BitVec.ofNat 16 (readNat m (a + 2 * k) 2) :: readUnits m (a + 2 * k + 2) n) := by
    intro m
    rw [pathText, Nat.add_assoc, readUnits_append, readUnits]
  rw [hunit, hunit, readUnits_carried hcarries le_rfl] at heq
  have hlowByte := (m (a + 2 * k)).isLt
  have hlowByte' := (memoryOf bytes (a + 2 * k)).isLt
  refine utf16ToString_ne hnul ?_ ?_ ?_ heq.symm
  · rw [toNat_unit, hpadding]
    simpa using hlowByte'
  · rw [toNat_unit, hhigh]
    exact Nat.le_add_left _ _
  · rw [toNat_unit, hhigh]
    exact Nat.add_lt_add_right hlowByte 256

theorem pathsIn_of_eq (hends : fileEventEnd (memoryOf bytes) ≤ messageBufferSize)
    (hlog : fileLog m = fileLog (memoryOf bytes)) : PathsIn bytes := by
  have hends' : fileEventEnd m ≤ messageBufferSize := by
    by_contra hlonger
    rw [fileLog, fileLog, if_neg hlonger, if_pos hends] at hlog
    exact getFileOperation_ne _ (congrArg Log.data hlog).symm
  rw [fileLog, fileLog, if_pos hends, if_pos hends'] at hlog
  have hfields := processPathAt_le_of_end hstale hends'
  obtain ⟨hprocess, hfile, hat⟩ := lengths_carried hcarries hfields
  have hname := congrArg Log.processName hlog
  have hresource := congrArg Log.resource hlog
  dsimp only at hname hresource
  rw [hprocess] at hname
  rw [hat, hfile] at hresource
  exact
    { fields := hfields
      process := pathIn_of_eq hstale hcarries ((Nat.le_add_right _ _).trans hends) hname
      file := pathIn_of_eq hstale hcarries hends hresource }

/-- A message that is logged the same with ones behind it as with zeros is self-contained. -/
theorem selfContained_of_eq (hlog : messageLog m = messageLog (memoryOf bytes)) :
    SelfContained bytes := by
  have hlayout := layout
  have hhead : dataAt ≤ bytes.length := dataAt_le_of_result hstale (congrArg Log.result hlog)
  refine ⟨hhead, fun hoperation => ?_⟩
  rw [messageLog, messageLog, readNat_carried hcarries (by omega), if_pos hoperation,
    if_pos hoperation] at hlog
  by_cases hends : fileEventEnd (memoryOf bytes) ≤ messageBufferSize
  · exact Or.inr (pathsIn_of_eq hstale hcarries hends hlog)
  · exact Or.inl (Nat.lt_of_not_le hends)

end

/-! ## What stands behind a message -/

theorem parseBuffer_eq (buffer : Buffer Byte messageBufferSize) :
    parseBuffer buffer = .ok (messageLog (memoryOf buffer.toList)) :=
  parseFilterMessage_eq buffer.toList_length

variable {stale : Buffer Byte messageBufferSize} {message : Message Byte messageBufferSize}

theorem carries_store : Carries (memoryOf (store stale message).toList) 0 message.1 :=
  (carries_append.mp (carries_memoryOf (message.1 ++ stale.toList.drop message.1.length))).1

/-- Behind the message stands what stood there before. -/
theorem memoryOf_store_of_le {i : ℕ} (h : message.1.length ≤ i) :
    memoryOf (store stale message).toList i = memoryOf stale.toList i := by
  rw [memoryOf, memoryOf, toList_store, List.getD_eq_getElem?_getD,
    List.getD_eq_getElem?_getD, List.getElem?_append_right h, List.getElem?_drop,
    Nat.add_sub_cancel' h]

theorem memoryOf_replicate {b : Byte} {i : ℕ} (h : i < messageBufferSize) :
    memoryOf (List.replicate messageBufferSize b) i = b := by
  rw [memoryOf, List.getD_eq_getElem?_getD, List.getElem?_replicate, if_pos h, Option.getD_some]

/-- In a new buffer, only zeros stand behind the message. -/
theorem memoryOf_store_newBuffer :
    memoryOf (store newBuffer message).toList = memoryOf message.1 := by
  funext i
  by_cases hi : i < message.1.length
  · exact carries_store.eq_memoryOf hi
  · rw [memoryOf_store_of_le (Nat.le_of_not_lt hi), memoryOf_of_length_le (Nat.le_of_not_lt hi)]
    by_cases hsize : i < messageBufferSize
    · exact memoryOf_replicate hsize
    · exact memoryOf_of_length_le (by rw [newBuffer.toList_length]; exact Nat.le_of_not_lt hsize)

theorem readsOnly_of_selfContained (h : SelfContained message.1) :
    ReadsOnly parseBuffer message := by
  intro stale stale'
  rw [parseBuffer_eq, parseBuffer_eq, messageLog_carried carries_store h,
    messageLog_carried carries_store h]

theorem selfContained_of_readsOnly (h : ReadsOnly parseBuffer message) :
    SelfContained message.1 := by
  have hlog := h (.replicate messageBufferSize 1#8) newBuffer
  rw [parseBuffer_eq, parseBuffer_eq, memoryOf_store_newBuffer] at hlog
  refine selfContained_of_eq ?_ carries_store (Except.ok.inj hlog)
  intro i hlow hhigh
  rw [memoryOf_store_of_le hlow]
  exact memoryOf_replicate hhigh

/-- **Stale bytes, exactly.**  What a reader logs of a message depends on the bytes of the message
only, if and only if all that is logged of it is in the message. -/
theorem readsOnly_parseBuffer_iff (message : FilterMessage) :
    ReadsOnly parseBuffer message.stored ↔ SelfContained message.bytes :=
  ⟨selfContained_of_readsOnly, readsOnly_of_selfContained⟩

/-- A file event of 82 bytes; the last of the 13 units of its process path ends behind it. -/
private def halfUnit : FilterMessage where
  stored := ⟨List.replicate 24 0 ++ [1, 0, 0, 0, 2, 0, 0, 0, 0] ++ List.replicate 12 0 ++
    [26, 0, 0, 0] ++ List.replicate 8 0 ++ List.replicate 25 0x61, by decide⟩
  header := by decide

/-- The process name ends with what an earlier message has left. -/
theorem not_readsOnly_parseBuffer :
    ¬∀ message : FilterMessage, ReadsOnly parseBuffer message.stored := by
  intro hreads
  have hlog := hreads halfUnit (.replicate messageBufferSize 1#8) newBuffer
  have hname : (parseBuffer (store (.replicate messageBufferSize 1#8) halfUnit.stored)).map
      (·.processName) ≠ (parseBuffer (store newBuffer halfUnit.stored)).map (·.processName) := by
    decide +kernel
  exact hname (congrArg _ hlog)

/-! ## Runs of a reader -/

/-- What a message is logged as when it is the first. -/
def FilterMessage.log (message : FilterMessage) : Except String Log :=
  parseBuffer (store newBuffer message.stored)

/-- **Runs.**  A reader that receives self-contained messages logs each as if it were the first. -/
theorem readerWorker_eq_map {messages : List FilterMessage}
    (h : ∀ message ∈ messages, SelfContained message.bytes) :
    readerWorker messages = messages.map FilterMessage.log := by
  rw [readerWorker, readAll_eq_map newBuffer newBuffer, List.map_map]
  · rfl
  · intro stored hstored
    obtain ⟨message, hmessage, rfl⟩ := List.mem_map.mp hstored
    exact readsOnly_of_selfContained (h message hmessage)

/-- Nothing less will do: of any other message, two histories of the reader make two logs. -/
theorem selfContained_iff_histories (message : FilterMessage) :
    SelfContained message.bytes ↔ ∀ before before' : List (Message Byte messageBufferSize),
      (∀ earlier ∈ before, payloadAt ≤ earlier.1.length) →
      (∀ earlier ∈ before', payloadAt ≤ earlier.1.length) →
        parseBuffer (store (contents newBuffer before) message.stored) =
          parseBuffer (store (contents newBuffer before') message.stored) := by
  have hhistories := @readsOnly_iff_histories _ _ _ parseBuffer message.stored
    (fun earlier => payloadAt ≤ earlier.1.length) newBuffer fun earlier hfull => by
      rw [hfull]
      decide
  exact ⟨fun h => hhistories.mp (readsOnly_of_selfContained h),
    fun h => selfContained_of_readsOnly (hhistories.mpr h)⟩

/-! ## The messages of the driver -/

/-- The message is an event of the driver, received whole. -/
def FilterMessage.FromDriver (message : FilterMessage) : Prop :=
  ∃ (header : List Byte) (occurrence : Driver.Occurrence) (timestamp : UINT64),
    header.length = payloadAt ∧ (occurrence.serialize timestamp).1 = statusSuccess ∧
      message.bytes = header ++ (occurrence.serialize timestamp).2.bytes

theorem pathsIn_of_fileFields {eventType : Driver.EventType} {context : StreamHandleContext}
    {timestamp : UINT64} (h : FileFields (memoryOf bytes) eventType context timestamp)
    (hlength : payloadAt + sizeofEvent + context.processPath.length + context.filePath.length ≤
      bytes.length) : PathsIn bytes := by
  have hlayout := layout
  have hpath : processPathAt = 57 := rfl
  have hprocess : processUnits (memoryOf bytes) = context.processPath.length / 2 :=
    congrArg (· / 2) h.processLength
  have hfile : fileUnits (memoryOf bytes) = context.filePath.length / 2 :=
    congrArg (· / 2) h.fileLength
  refine ⟨by omega, .inl ?_, .inl ?_⟩
  · rw [hprocess]
    omega
  · rw [filePathAt, hprocess, hfile]
    omega

/-- The strings that `svc` reads end 25 bytes before those of the event. -/
theorem FilterMessage.FromDriver.selfContained {message : FilterMessage}
    (h : message.FromDriver) : SelfContained message.bytes := by
  obtain ⟨header, occurrence, timestamp, hheader, hsuccess, hbytes⟩ := h
  have hlayout := layout
  have hlength : message.bytes.length = payloadAt + (sizeofEvent + occurrence.stringBytes) := by
    rw [hbytes, List.length_append, hheader, Driver.Occurrence.length_serialize hsuccess]
  have hcarries : Carries (memoryOf message.bytes) payloadAt
      (occurrence.serialize timestamp).2.bytes := by
    rw [hbytes, ← hheader, ← Nat.zero_add header.length]
    exact (carries_append.mp (carries_memoryOf _)).2
  refine ⟨by omega, fun hoperation => .inr ?_⟩
  cases occurrence with
  | file eventType context =>
      have hfields := fileFields_of_carries hsuccess hcarries
      refine pathsIn_of_fileFields hfields ?_
      rw [Driver.Occurrence.stringBytes] at hlength
      omega
  | process processId createInfo cache block =>
      obtain ⟨ev, strings, hserialized, -, hprocess, -⟩ :=
        Driver.Occurrence.serialize_bytes hsuccess
      rw [hserialized] at hcarries
      have hcode := (headerFields_of_carries (carries_append.mp hcarries).1).eventOperation
      have hnot : Driver.FsEventOperation.process.code ≠ 2 := by decide
      rw [hprocess, hoperation] at hcode
      exact absurd hcode.symm hnot

/-- A reader that is connected to this driver logs each event as if it were the first. -/
theorem readerWorker_of_fromDriver {messages : List FilterMessage}
    (h : ∀ message ∈ messages, message.FromDriver) :
    readerWorker messages = messages.map FilterMessage.log :=
  readerWorker_eq_map fun message hmessage => (h message hmessage).selfContained

end Kawin.Svc
