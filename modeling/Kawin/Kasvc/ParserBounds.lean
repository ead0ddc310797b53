import Kawin.Kasvc.MessageParser

/-!
# What the parser reads

`ProcessCompletedIO` hands `Parse` the whole receive buffer and the number of bytes that
arrived.  `ParserBounds` is what the parser would have to guarantee whatever the bytes are:
it reads below that number, a truncated message is an error, and a string that reaches past
the end comes out empty.

It guarantees this only of messages that are well formed already (`parserBounds_iff`): the
fixed part must have arrived (`headerEnd`), and each string must start past the end, where
`get_string_at_offset` catches it, or end where the message does (`StringInBounds`).
-/

namespace Kawin.Kasvc

open ByteMemory

variable {platform : Platform} {unassigned : EventType} {m : Memory} {field bufferSize : ℕ}

/-! ## The law -/

def stringOffset (m : Memory) (field : ℕ) : ℕ := readNat m field 4

def stringLength (m : Memory) (field : ℕ) : ℕ := readNat m (field + 4) 4

/-- The string is not empty and reaches past the end of the message. -/
def ReachesPastEnd (m : Memory) (field bufferSize : ℕ) : Prop :=
  stringLength m field ≠ 0 ∧ bufferSize < payloadAt + stringOffset m field + stringLength m field

/-- Where the fixed part of the message ends. -/
def headerEnd (m : Memory) : ℕ :=
  let eventOperation := readNat m eventOperationAt 4
  if eventOperation = fileEventCode then dataAt + 24
  else if eventOperation = processEventCode then dataAt + 36
  else if eventOperation = networkEventCode then dataAt + 49
  else dataAt

/-- The strings of an event, each with the address of its offset and length fields. -/
def EventData.strings : EventData → List (ℕ × List Byte)
  | .file data => [(dataAt + 8, data.processPath), (dataAt + 16, data.filePath)]
  | .process data => [(dataAt + 12, data.processPath), (dataAt + 20, data.commandLine),
      (dataAt + 28, data.parentProcessPath)]
  | .network _ => []

/-- The parser reads below `bufferSize` and sees nothing of what is above it, a truncated
message is an error, and a string that reaches past the end is empty. -/
structure ParserBounds (platform : Platform) (unassigned : EventType) (m : Memory)
    (bufferSize : ℕ) : Prop where
  reads : (parseMessage platform unassigned bufferSize).Within m 0 bufferSize
  blind : ∀ m', (∀ i < bufferSize, m i = m' i) →
    (parseMessage platform unassigned bufferSize).value m' =
      (parseMessage platform unassigned bufferSize).value m
  truncated : bufferSize < headerEnd m →
    ∃ text, (parseMessage platform unassigned bufferSize).value m = .error text
  reaching : ∀ event, (parseMessage platform unassigned bufferSize).value m = .ok event →
    ∀ string ∈ event.data.strings, ReachesPastEnd m string.1 bufferSize → string.2 = []

/-! ## The condition -/

/-- The addresses of the offset and length fields in a message of its kind. -/
def stringFields (m : Memory) : List ℕ :=
  let eventOperation := readNat m eventOperationAt 4
  if eventOperation = fileEventCode then [dataAt + 8, dataAt + 16]
  else if eventOperation = processEventCode then [dataAt + 12, dataAt + 20, dataAt + 28]
  else []

/-- The string is empty, starts past the end of the message, or ends within it. -/
def StringInBounds (m : Memory) (field bufferSize : ℕ) : Prop :=
  stringLength m field = 0 ∨ bufferSize ≤ payloadAt + stringOffset m field ∨
    payloadAt + stringOffset m field + stringLength m field ≤ bufferSize

/-! ## Strings -/

theorem value_wStringToString (a n : ℕ) : (wStringToString platform a n).value m =
    if n = 0 then [] else platform.wideCharToMultiByte (readUnits m a n) := by
  rw [wStringToString]
  split <;> rfl

theorem within_wStringToString {low high : ℕ} (a n : ℕ) :
    (wStringToString platform a n).Within m low high ↔
      n ≠ 0 → low ≤ a ∧ a + 2 * n ≤ high := by
  rw [wStringToString]
  split
  · next h => simp [h]
  · next h => simp [h]

/-- What the parser makes of a string. -/
theorem value_parseString : (parseString platform field bufferSize).value m =
    if stringLength m field = 0 ∨ bufferSize ≤ payloadAt + stringOffset m field then []
    else (wStringToString platform (payloadAt + stringOffset m field)
      (stringLength m field / 2)).value m := by
  simp only [parseString, TracedReader.value_bind, TracedReader.value_nat, stringLength,
    stringOffset, getStringAtOffset]
  by_cases hlength : readNat m (field + 4) 4 = 0
  · simp [hlength]
  · by_cases hoffset : bufferSize ≤ payloadAt + readNat m field 4
    · simp [hlength, hoffset]
    · simp [hlength, hoffset]

/-- Which bytes it reads. -/
theorem within_parseString {low high : ℕ} :
    (parseString platform field bufferSize).Within m low high ↔
      (low ≤ field + 4 ∧ field + 8 ≤ high) ∧ (stringLength m field ≠ 0 →
        (low ≤ field ∧ field + 4 ≤ high) ∧ (payloadAt + stringOffset m field < bufferSize →
          stringLength m field / 2 ≠ 0 → low ≤ payloadAt + stringOffset m field ∧
            payloadAt + stringOffset m field + 2 * (stringLength m field / 2) ≤ high)) := by
  simp only [parseString, TracedReader.within_bind, TracedReader.within_nat,
    TracedReader.value_nat, stringLength, stringOffset, getStringAtOffset]
  refine and_congr (by simp) ?_
  by_cases hlength : readNat m (field + 4) 4 = 0
  · simp [hlength]
  · by_cases hoffset : bufferSize ≤ payloadAt + readNat m field 4
    · simp [hlength, hoffset, Nat.not_lt.mpr hoffset]
    · simp [hlength, hoffset, Nat.lt_of_not_le hoffset, within_wStringToString]

/-- A string in bounds is read within them, and one that reaches past the end is empty. -/
theorem parseString_of_inBounds (hfield : field + 8 ≤ bufferSize)
    (h : StringInBounds m field bufferSize) :
    (parseString platform field bufferSize).Within m 0 bufferSize ∧
      (ReachesPastEnd m field bufferSize →
        (parseString platform field bufferSize).value m = []) := by
  rw [StringInBounds] at h
  refine ⟨within_parseString.mpr ⟨by omega, fun _ => ⟨by omega, fun _ _ => by omega⟩⟩, ?_⟩
  rintro ⟨hlength, hreach⟩
  rw [value_parseString, if_pos (by omega)]

/-- The converse, where the platform converts no string to nothing. -/
theorem inBounds_of_parseString
    (hconvert : ∀ units, units ≠ [] → platform.wideCharToMultiByte units ≠ [])
    (hreaching : ReachesPastEnd m field bufferSize →
      (parseString platform field bufferSize).value m = []) :
    StringInBounds m field bufferSize := by
  by_contra hout
  simp only [StringInBounds, not_or, Nat.not_le] at hout
  obtain ⟨hlength, hoffset, hreach⟩ := hout
  have hempty := hreaching ⟨hlength, hreach⟩
  rw [value_parseString, if_neg (by omega), value_wStringToString] at hempty
  have hunits : stringLength m field / 2 ≠ 0 := by omega
  rw [if_neg hunits] at hempty
  refine hconvert _ (fun hnil => hunits ?_) hempty
  rw [← length_readUnits m (stringLength m field / 2) (payloadAt + stringOffset m field), hnil]
  rfl

/-! ## Messages -/

theorem field_of_within {low : ℕ}
    (h : (parseString platform field bufferSize).Within m low bufferSize) :
    field + 8 ≤ bufferSize :=
  (within_parseString.mp h).1.2

theorem within_formatIPAddress {addr family low high : ℕ} (hlow : low ≤ addr)
    (hhigh : addr + 16 ≤ high) : (formatIPAddress platform addr family).Within m low high := by
  rw [formatIPAddress]
  split
  · exact TracedReader.within_bind.mpr
      ⟨(TracedReader.within_bytes addr 4).mpr (by omega), TracedReader.within_pure _⟩
  split
  · exact TracedReader.within_bind.mpr
      ⟨(TracedReader.within_bytes addr 16).mpr (by omega), TracedReader.within_pure _⟩
  · exact TracedReader.within_pure _

/-- The parser reads the fixed part of the message and its strings. -/
theorem within_parseMessage {low : ℕ} (hlow : low ≤ payloadAt) :
    (parseMessage platform unassigned bufferSize).Within m low bufferSize ↔
      headerEnd m ≤ bufferSize ∧ ∀ field ∈ stringFields m,
        (parseString platform field bufferSize).Within m low bufferSize := by
  have hpayload : payloadAt = 16 := rfl
  have htimestamp : timestampAt = 16 := rfl
  have hoperation : eventOperationAt = 28 := rfl
  have hblocked : blockedAt = 32 := rfl
  have hdata : dataAt = 33 := rfl
  simp only [parseMessage, headerEnd, stringFields, TracedReader.within_bind,
    TracedReader.within_nat, TracedReader.value_nat]
  by_cases hfile : readNat m eventOperationAt 4 = fileEventCode
  · simp only [if_pos hfile, parseFileEvent, TracedReader.within_bind, TracedReader.within_nat,
      TracedReader.within_pure, List.forall_mem_cons]
    constructor
    · rintro ⟨_, _, _, ⟨_, _, hprocess, hpath, _⟩, _⟩
      have := field_of_within hpath
      exact ⟨by omega, hprocess, hpath, List.forall_mem_nil _⟩
    · rintro ⟨hend, hprocess, hpath, _⟩
      exact ⟨by omega, by omega, by omega, ⟨by omega, by omega, hprocess, hpath, trivial⟩, trivial⟩
  by_cases hprocess : readNat m eventOperationAt 4 = processEventCode
  · simp only [if_neg hfile, if_pos hprocess, parseProcessEvent, TracedReader.within_bind,
      TracedReader.within_nat, TracedReader.within_pure, List.forall_mem_cons]
    constructor
    · rintro ⟨_, _, _, ⟨_, _, _, hpath, hcommand, hparent, _⟩, _⟩
      have := field_of_within hparent
      exact ⟨by omega, hpath, hcommand, hparent, List.forall_mem_nil _⟩
    · rintro ⟨hend, hpath, hcommand, hparent, _⟩
      exact ⟨by omega, by omega, by omega,
        ⟨by omega, by omega, by omega, hpath, hcommand, hparent, trivial⟩, trivial⟩
  by_cases hnetwork : readNat m eventOperationAt 4 = networkEventCode
  · simp only [if_neg hfile, if_neg hprocess, if_pos hnetwork, parseNetworkEvent,
      TracedReader.within_bind, TracedReader.within_nat, TracedReader.within_pure]
    constructor
    · rintro ⟨_, _, _, ⟨_, _, _, _, hfamily, _⟩, _⟩
      exact ⟨by omega, List.forall_mem_nil _⟩
    · rintro ⟨hend, _⟩
      exact ⟨by omega, by omega, by omega, ⟨by omega, by omega, by omega, by omega, by omega,
        within_formatIPAddress (by omega) (by omega), within_formatIPAddress (by omega) (by omega),
        by omega, trivial⟩, trivial⟩
  · simp only [if_neg hfile, if_neg hprocess, if_neg hnetwork, TracedReader.within_pure]
    constructor
    · rintro ⟨_, _, _, _⟩
      exact ⟨by omega, List.forall_mem_nil _⟩
    · rintro ⟨hend, _⟩
      exact ⟨by omega, by omega, by omega, trivial⟩

/-- The strings of a parsed event are what the parser makes of its string fields. -/
theorem strings_of_parse {event : Event}
    (hparse : (parseMessage platform unassigned bufferSize).value m = .ok event) :
    event.data.strings = (stringFields m).map fun field =>
      (field, (parseString platform field bufferSize).value m) := by
  simp only [parseMessage, TracedReader.value_bind, TracedReader.value_nat] at hparse
  rw [stringFields]
  split at hparse
  · next hfile =>
      cases hparse
      simp only [if_pos hfile]
      rfl
  split at hparse
  · next hfile hprocess =>
      cases hparse
      simp only [if_neg hfile, if_pos hprocess]
      rfl
  split at hparse
  · next hfile hprocess hnetwork =>
      cases hparse
      simp only [if_neg hfile, if_neg hprocess]
      rfl
  · cases hparse

/-- A message that has string fields is parsed to an event. -/
theorem parse_ok (hfield : field ∈ stringFields m) :
    ∃ event, (parseMessage platform unassigned bufferSize).value m = .ok event := by
  simp only [parseMessage, TracedReader.value_bind, TracedReader.value_nat]
  rw [stringFields] at hfield
  by_cases hfile : readNat m eventOperationAt 4 = fileEventCode
  · rw [if_pos hfile]
    exact ⟨_, rfl⟩
  by_cases hprocess : readNat m eventOperationAt 4 = processEventCode
  · rw [if_neg hfile, if_pos hprocess]
    exact ⟨_, rfl⟩
  · simp [hfile, hprocess] at hfield

theorem le_headerEnd (hfield : field ∈ stringFields m) : field + 8 ≤ headerEnd m := by
  have hdata : dataAt = 33 := rfl
  simp only [stringFields] at hfield
  simp only [headerEnd]
  by_cases hfile : readNat m eventOperationAt 4 = fileEventCode
  · simp only [hfile, if_true, List.mem_cons, List.not_mem_nil, or_false] at hfield ⊢
    omega
  by_cases hprocess : readNat m eventOperationAt 4 = processEventCode
  · simp only [if_neg hfile, if_pos hprocess, List.mem_cons, List.not_mem_nil,
      or_false] at hfield ⊢
    omega
  · simp only [if_neg hfile, if_neg hprocess, List.not_mem_nil] at hfield

/-- **What the parser guarantees, exactly.**  It keeps its bounds on a message if and only if
the fixed part of the message has arrived and every string in it is in bounds. -/
theorem parserBounds_iff (platform : Platform) (unassigned : EventType) (m : Memory)
    (bufferSize : ℕ)
    (hconvert : ∀ units, units ≠ [] → platform.wideCharToMultiByte units ≠ []) :
    ParserBounds platform unassigned m bufferSize ↔
      headerEnd m ≤ bufferSize ∧ ∀ field ∈ stringFields m, StringInBounds m field bufferSize := by
  constructor
  · intro h
    obtain ⟨hend, _⟩ := (within_parseMessage (Nat.zero_le _)).mp h.reads
    refine ⟨hend, fun field hfield => inBounds_of_parseString hconvert fun hreach => ?_⟩
    obtain ⟨event, hevent⟩ := @parse_ok platform unassigned m field bufferSize hfield
    refine h.reaching event hevent (field, (parseString platform field bufferSize).value m) ?_
      hreach
    rw [strings_of_parse hevent]
    exact List.mem_map_of_mem hfield
  · rintro ⟨hend, hstrings⟩
    have hin := fun field hfield => @parseString_of_inBounds platform m field bufferSize
      (le_trans (le_headerEnd hfield) hend) (hstrings field hfield)
    have hreads : (parseMessage platform unassigned bufferSize).Within m 0 bufferSize :=
      (within_parseMessage (Nat.zero_le _)).mpr ⟨hend, fun field hfield => (hin field hfield).1⟩
    refine ⟨hreads, fun m' hagree => ?_, fun htruncated => by omega,
      fun event hevent string hstring hreach => ?_⟩
    · exact congrArg Prod.fst
        (TracedReader.run_congr_of_within hreads fun i _ hlt => hagree i hlt)
    · rw [strings_of_parse hevent] at hstring
      obtain ⟨field, hfield, rfl⟩ := List.mem_map.mp hstring
      exact (hin field hfield).2 hreach

instance : Decidable (StringInBounds m field bufferSize) := by
  unfold StringInBounds
  infer_instance

/-- Conversions as they are for ASCII strings. -/
def asciiPlatform : Platform where
  wideCharToMultiByte units := units.map fun unit => unit.setWidth 8
  inetNtop4 _ := []
  inetNtop6 _ := []

/-- A file event whose process path, at offset 66, has `length` bytes. -/
private def pathOfLength (length : Byte) : Memory := fun i =>
  if i = 28 then 2#8 else if i = 41 then 66#8 else if i = 45 then length
  else if i = 82 then 97#8 else 0#8

/-- The theorem at a message that ends with the string. -/
theorem parserBounds_of_complete : ParserBounds asciiPlatform .hostLog (pathOfLength 2#8) 84 :=
  (parserBounds_iff asciiPlatform .hostLog (pathOfLength 2#8) 84 fun units hne hnil =>
    hne (List.map_eq_nil_iff.mp hnil)).mpr (by decide +kernel)

/-- A string of two characters in a message that ends after the first. -/
theorem not_parserBounds : ¬∀ platform unassigned m bufferSize, 1 ≤ bufferSize →
    ParserBounds platform unassigned m bufferSize := by
  intro hbounds
  have hspan : Span.mk 82 4 ∈
      (parseMessage asciiPlatform .hostLog 84).spans (pathOfLength 4#8) := by decide +kernel
  rcases (hbounds asciiPlatform .hostLog (pathOfLength 4#8) 84 (by decide)).reads _ hspan with
    hempty | ⟨_, hstop⟩
  · exact absurd hempty (by decide)
  · exact absurd hstop (by decide)

end Kawin.Kasvc
