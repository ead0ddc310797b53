import Kawin.Base.TracedMemory
import Kawin.Driver.FileCallbacks
import Kawin.Driver.FileClassification
import Mathlib.Data.List.DropRight

/-!
# The names in a stream handle context

`InitializeStreamHandleContext` fills two strings of a `StreamHandleContext` whose buffers stand
at its end, `processPathBuffer` and then `filePathBuffer`, 512 characters each.  The normalised
name of the file comes first, cut to what fits.  The image path of the process comes second,
and is copied whole.

The memory here is the context from `processPathBuffer` on, and every write to it is labelled
with the string it is for.  `pathsKept_iff` says which image paths leave the name of the file
alone, and `isExecutable_iff` what the extension of the name is taken for.
-/

namespace Kawin.Driver

open ByteMemory

/-! ## The context -/

/-- The two strings of a `StreamHandleContext`. -/
inductive PathField
  | processPath | filePath
  deriving DecidableEq, Repr

/-- `processPathBuffer` and `filePathBuffer`, from the first of them on. -/
def PathField.buffer : PathField → Span
  | .processPath => ⟨0, 1024⟩
  | .filePath => ⟨1024, 1024⟩

/-- A `UNICODE_STRING` whose `Buffer` is an address in the context. -/
structure StringDescriptor where
  length : UINT16
  maximumLength : UINT16
  buffer : ℕ
  deriving DecidableEq

/-- `RtlInitEmptyUnicodeString` with an embedded buffer. -/
def PathField.initEmpty (field : PathField) : StringDescriptor :=
  ⟨0#16, BitVec.ofNat 16 field.buffer.length, field.buffer.start⟩

/-- The string that a descriptor describes. -/
def StringDescriptor.contents (descriptor : StringDescriptor) (m : Memory) : UnicodeString :=
  ⟨readUnits m descriptor.buffer (descriptor.length.toNat / 2), by
    have := descriptor.length.isLt
    rw [length_readUnits]
    omega⟩

theorem contents_empty {descriptor : StringDescriptor} {m : Memory} (h : descriptor.length = 0#16) :
    descriptor.contents m = .empty := by
  apply UnicodeString.ext
  simp only [StringDescriptor.contents, h, UnicodeString.empty]
  rfl

/-- The part of a `StreamHandleContext` that depends on the two names.  The search behind
`isSystemFile` may leave the stack: there is no answer then, and the model goes on. -/
structure NamedContext where
  processPath : StringDescriptor
  filePath : StringDescriptor
  fileHash : ULONG
  isExecutable : Bool
  isSystemFile : Option Bool
  buffers : TracedMemory PathField

/-- The string of a context. -/
def NamedContext.pathOf (context : NamedContext) : PathField → UnicodeString
  | .processPath => context.processPath.contents context.buffers.memory
  | .filePath => context.filePath.contents context.buffers.memory

/-! ## What is asked of the system -/

/-- `FLT_FILE_NAME_INFORMATION`. -/
structure FileNameInformation where
  name : UnicodeString
  extension : UnicodeString

def pathSeparator : UINT16 := 92#16
def fullStop : UINT16 := 46#16

/-- What stands behind the last separator of a name. -/
def finalComponent (name : UnicodeString) : List UINT16 :=
  name.units.rtakeWhile fun c => c ≠ pathSeparator

/-- What stands behind the last full stop of the final component. -/
def finalExtension (name : UnicodeString) : UnicodeString :=
  if fullStop ∈ finalComponent name then
    { units := (finalComponent name).rtakeWhile fun c => c ≠ fullStop
      short := by
        have := name.short
        have hcomponent : (finalComponent name).length ≤ name.units.length :=
          (List.rtakeWhile_suffix _ _).length_le
        have hextension := (List.rtakeWhile_suffix (fun c => decide (c ≠ fullStop))
          (finalComponent name)).length_le
        omega }
  else .empty

/-- `FltParseFileNameInformation`, as far as the extension is concerned. -/
def fltParseFileNameInformation (name : UnicodeString) : FileNameInformation :=
  ⟨name, finalExtension name⟩

/-- `FltGetFileNameInformation` and `FltParseFileNameInformation`: what they return, and the
normalised name. -/
structure NameQuery where
  getStatus : NTSTATUS
  parseStatus : NTSTATUS
  name : UnicodeString

def NameQuery.succeeds (query : NameQuery) : Bool :=
  ntSuccess query.getStatus && ntSuccess query.parseStatus

/-- `FltGetRequestorProcess` and `SeLocateProcessImageName`: whether there is a process, what the
second returns, and the string it allocates. -/
structure ImageQuery where
  process : Bool
  status : NTSTATUS
  imagePath : Option UnicodeString

/-- The image path, where there is one to copy. -/
def ImageQuery.delivered (query : ImageQuery) : Option UnicodeString :=
  if query.process ∧ query.status = statusSuccess then query.imagePath else none

/-! ## Filling the context -/

variable (rtl : RtlStrings)

/-- `PopulateFileInformation`; `work` is the stack under `IsSystemFile`. -/
def populateFileInformation (query : NameQuery) (work : WorkBuffer) (context : NamedContext) :
    NTSTATUS × NamedContext :=
  if !ntSuccess query.getStatus then (query.getStatus, context)
  else if !ntSuccess query.parseStatus then (query.parseStatus, context)
  else
    let nameInfo := fltParseFileNameInformation query.name
    let copyLength := min nameInfo.name.length (context.filePath.maximumLength.toNat - 2)
    let copied := context.buffers.store .filePath context.filePath.buffer copyLength
      (memoryOf (unitsBytes nameInfo.name.units))
    let filePath := { context.filePath with length := BitVec.ofNat 16 copyLength }
    let terminated := copied.store .filePath (filePath.buffer + 2 * (filePath.length.toNat / 2)) 2
      fun _ => 0#8
    let path := filePath.contents terminated.memory
    (statusSuccess,
      { context with
        filePath := filePath
        fileHash := computeFilePathHash rtl path
        isExecutable := isExecutableFile rtl nameInfo.extension
        isSystemFile := (isSystemFile rtl path work).1
        buffers := terminated })

/-- `PopulateProcessPath`. -/
def populateProcessPath (query : ImageQuery) (context : NamedContext) : NTSTATUS × NamedContext :=
  if !query.process then (statusSuccess, context)
  else if query.status = statusSuccess then
    match query.imagePath with
    | none => (query.status, context)
    | some imagePath =>
        let copied := context.buffers.store .processPath context.processPath.buffer imagePath.length
          (memoryOf (unitsBytes imagePath.units))
        let length : UINT16 := BitVec.ofNat 16 imagePath.length
        let processPath := { context.processPath with
          length := length
          maximumLength := length + 2#16 }
        let terminated := copied.store .processPath
          (processPath.buffer + 2 * (processPath.length.toNat / 2)) 2 fun _ => 0#8
        (query.status, { context with processPath := processPath, buffers := terminated })
  else (query.status, context)

/-- The context after `RtlZeroMemory`. -/
def NamedContext.zeroed (m : Memory) : NamedContext where
  processPath := ⟨0#16, 0#16, 0⟩
  filePath := ⟨0#16, 0#16, 0⟩
  fileHash := 0#32
  isExecutable := false
  isSystemFile := some false
  buffers := .untouched (zero m 0 2048)

/-- `InitializeStreamHandleContext`, as far as the names are concerned; `m` is the memory of the
context before. -/
def initializeNames (m : Memory) (file : NameQuery) (work : WorkBuffer) (image : ImageQuery) :
    NamedContext :=
  let mapped := { NamedContext.zeroed m with filePath := PathField.filePath.initEmpty }
  let populated := populateFileInformation rtl file work mapped
  let named :=
    if !ntSuccess populated.1 then
      { populated.2 with filePath := { populated.2.filePath with length := 0#16 } }
    else populated.2
  let remapped := { named with processPath := PathField.processPath.initEmpty }
  let located := populateProcessPath image remapped
  if !ntSuccess located.1 then
    { located.2 with processPath := { located.2.processPath with length := 0#16 } }
  else located.2

/-! ## The name of the file -/

/-- The longest prefix of the normalised name that fits the buffer with a terminator. -/
def NameQuery.kept (query : NameQuery) : UnicodeString :=
  if query.succeeds then query.name.copyInto 511 else .empty

/-- What a context holds before the image path is looked for: the name of the file, and nothing
that does not belong where it is. -/
structure Named (context : NamedContext) (name : UnicodeString) : Prop where
  inside : context.buffers.Inside PathField.buffer
  contents : context.pathOf .filePath = name
  buffer : context.filePath.buffer = PathField.filePath.buffer.start
  length : context.filePath.length.toNat ≤ PathField.filePath.buffer.length

variable {rtl} {context : NamedContext} {query : NameQuery} {image : ImageQuery}
  {work : WorkBuffer} {imagePath name : UnicodeString}

theorem populateFileInformation_failed (h : query.succeeds = false) :
    ntSuccess (populateFileInformation rtl query work context).1 = false ∧
      (populateFileInformation rtl query work context).2 = context := by
  unfold NameQuery.succeeds at h
  unfold populateFileInformation
  by_cases hget : ntSuccess query.getStatus = true
  · rw [hget, Bool.true_and] at h
    simp [hget, h]
  · simp [hget]

theorem populateFileInformation_named (h : query.succeeds = true)
    (hinside : context.buffers.Inside PathField.buffer)
    (hmapped : context.filePath = PathField.filePath.initEmpty) :
    ntSuccess (populateFileInformation rtl query work context).1 = true ∧
      Named (populateFileInformation rtl query work context).2 (query.name.copyInto 511) := by
  obtain ⟨hget, hparse⟩ := Bool.and_eq_true_iff.mp h
  have hshort := query.name.short
  -- the name is cut to 511 units, which leaves room for the terminator
  obtain ⟨k, hk, hcopy⟩ : ∃ k, k = min query.name.units.length 511 ∧
      min query.name.length (1024 - 2) = 2 * k := ⟨_, rfl, by unfold UnicodeString.length; omega⟩
  have hlength : (BitVec.ofNat 16 (2 * k)).toNat = 2 * k := by
    rw [BitVec.toNat_ofNat]
    omega
  have hhalf : 2 * k / 2 = k := by omega
  have hmaximum : (BitVec.ofNat 16 1024).toNat = 1024 := rfl
  unfold populateFileInformation
  simp only [hget, hparse, hmapped, PathField.initEmpty, PathField.buffer,
    fltParseFileNameInformation, hmaximum, hcopy, hlength, hhalf, Bool.not_true, Bool.false_eq_true,
    if_false]
  refine ⟨rfl, ?_, ?_, rfl, ?_⟩
  · simp only [TracedMemory.inside_store, PathField.buffer]
    exact ⟨⟨hinside, by omega⟩, by omega⟩
  · apply UnicodeString.ext
    simp only [NamedContext.pathOf, StringDescriptor.contents, TracedMemory.memory_store, hlength,
      hhalf, UnicodeString.copyInto]
    rw [readUnits_copy_of_disjoint (Or.inl le_rfl), readUnits_copy_memoryOf le_rfl (by omega),
      List.take_eq_take_iff]
    omega
  · change (BitVec.ofNat 16 (2 * k)).toNat ≤ 1024
    omega

/-! ## The path of the process -/

theorem populateProcessPath_none (context : NamedContext) (h : image.delivered = none) :
    (populateProcessPath image context).2 = context := by
  unfold ImageQuery.delivered at h
  unfold populateProcessPath
  cases hprocess : image.process with
  | false => rfl
  | true =>
      by_cases hstatus : image.status = statusSuccess
      · rw [if_pos ⟨hprocess, hstatus⟩] at h
        simp [hstatus, h]
      · simp [hstatus]

/-- The context with an image path copied into it. -/
def NamedContext.located (context : NamedContext) (imagePath : UnicodeString) : NamedContext :=
  { context with
    processPath :=
      { context.processPath with
        length := BitVec.ofNat 16 imagePath.length
        maximumLength := BitVec.ofNat 16 imagePath.length + 2#16 }
    buffers :=
      (context.buffers.store .processPath context.processPath.buffer imagePath.length
        (memoryOf (unitsBytes imagePath.units))).store .processPath
          (context.processPath.buffer + imagePath.length) 2 fun _ => 0#8 }

theorem populateProcessPath_some (context : NamedContext) (h : image.delivered = some imagePath) :
    populateProcessPath image context = (statusSuccess, context.located imagePath) := by
  unfold ImageQuery.delivered at h
  obtain ⟨⟨hprocess, hstatus⟩, hpath⟩ := Option.ite_none_right_eq_some.mp h
  have hshort := imagePath.short
  have hlength : 2 * ((BitVec.ofNat 16 imagePath.length).toNat / 2) = imagePath.length := by
    rw [BitVec.toNat_ofNat]
    unfold UnicodeString.length
    omega
  unfold populateProcessPath NamedContext.located
  simp only [hprocess, hstatus, hpath, hlength, Bool.not_true, Bool.false_eq_true, if_false,
    if_true]

theorem located_inside_iff (hinside : context.buffers.Inside PathField.buffer)
    (hbuffer : context.processPath = PathField.processPath.initEmpty) :
    (context.located imagePath).buffers.Inside PathField.buffer ↔ imagePath.length ≤ 1022 := by
  simp only [NamedContext.located, hbuffer, PathField.initEmpty, PathField.buffer,
    TracedMemory.inside_store]
  -- the terminator needs the last two bytes
  constructor
  · rintro ⟨_, hterminator⟩
    omega
  · intro hle
    exact ⟨⟨hinside, by omega⟩, by omega⟩

/-- An image path that stays in its buffer leaves the name of the file alone. -/
theorem Named.located (hnamed : Named context name)
    (hbuffer : context.processPath = PathField.processPath.initEmpty)
    (hle : imagePath.length ≤ 1022) : Named (context.located imagePath) name := by
  refine ⟨(located_inside_iff hnamed.inside hbuffer).mpr hle, ?_, hnamed.buffer, hnamed.length⟩
  have hlength := hnamed.length
  simp only [PathField.buffer] at hlength
  rw [← hnamed.contents]
  apply UnicodeString.ext
  simp only [NamedContext.pathOf, StringDescriptor.contents, NamedContext.located, hbuffer,
    hnamed.buffer, PathField.initEmpty, PathField.buffer, TracedMemory.memory_store]
  rw [readUnits_copy_of_disjoint (Or.inr (by omega)),
    readUnits_copy_of_disjoint (Or.inr (by omega))]

/-! ## The whole context -/

/-- What `InitializeStreamHandleContext` should do: every byte goes to the buffer of the string it
is for, the context holds as much of the name of the file as fits, and the path of the process is
no longer than its buffer. -/
structure PathsKept (file : NameQuery) (context : NamedContext) : Prop where
  inside : context.buffers.Inside PathField.buffer
  filePath : context.pathOf .filePath = file.kept
  processPath : context.processPath.length.toNat ≤ PathField.processPath.buffer.length

/-- The context when `PopulateProcessPath` is called. -/
theorem exists_named (rtl : RtlStrings) (m : Memory) (file : NameQuery) (work : WorkBuffer)
    (image : ImageQuery) : ∃ context : NamedContext, Named context file.kept ∧
      context.processPath = PathField.processPath.initEmpty ∧
      initializeNames rtl m file work image =
        (if !ntSuccess (populateProcessPath image context).1 then
          { (populateProcessPath image context).2 with
            processPath := { (populateProcessPath image context).2.processPath with length := 0#16 } }
        else (populateProcessPath image context).2) := by
  refine ⟨_, ?_, ?_, rfl⟩
  · by_cases hsucceeds : file.succeeds = true
    · obtain ⟨hstatus, hnamed⟩ := @populateFileInformation_named rtl
        { NamedContext.zeroed m with filePath := PathField.filePath.initEmpty } file work hsucceeds
        TracedMemory.inside_untouched rfl
      simp only [hstatus, NameQuery.kept, hsucceeds, Bool.not_true, Bool.false_eq_true, if_false,
        if_true]
      exact ⟨hnamed.inside, hnamed.contents, hnamed.buffer, hnamed.length⟩
    · rw [Bool.not_eq_true] at hsucceeds
      obtain ⟨hstatus, hsame⟩ := @populateFileInformation_failed rtl
        { NamedContext.zeroed m with filePath := PathField.filePath.initEmpty } file work hsucceeds
      simp only [hstatus, hsame, NameQuery.kept, hsucceeds, Bool.not_false, Bool.false_eq_true,
        if_false, if_true]
      exact ⟨TracedMemory.inside_untouched, contents_empty rfl, rfl, Nat.zero_le _⟩
  · rfl

/-- **Names and paths.**  The context is filled as it should be exactly when there is no image path
to copy, or one of at most 1022 bytes: one of 1024 bytes puts its terminator over the first
character of the name of the file, and a longer one puts itself there. -/
theorem pathsKept_iff (rtl : RtlStrings) (m : Memory) (file : NameQuery) (work : WorkBuffer)
    (image : ImageQuery) : PathsKept file (initializeNames rtl m file work image) ↔
      ∀ imagePath, image.delivered = some imagePath → imagePath.length ≤ 1022 := by
  obtain ⟨context, hnamed, hbuffer, hrun⟩ := exists_named rtl m file work image
  rw [hrun]
  cases hdelivered : image.delivered with
  | none =>
      have hsame := populateProcessPath_none context hdelivered
      refine iff_of_true ?_ nofun
      rw [hsame]
      split
      · exact ⟨hnamed.inside, hnamed.contents, Nat.zero_le _⟩
      · exact ⟨hnamed.inside, hnamed.contents, by rw [hbuffer]; exact Nat.zero_le _⟩
  | some imagePath =>
      have hsuccess : ntSuccess statusSuccess = true := rfl
      simp only [populateProcessPath_some context hdelivered, hsuccess, Bool.not_true,
        Bool.false_eq_true, if_false, Option.some_inj, forall_eq']
      constructor
      · exact fun hkept => (located_inside_iff hnamed.inside hbuffer).mp hkept.inside
      · intro hle
        have hlocated := hnamed.located hbuffer hle
        refine ⟨hlocated.inside, hlocated.contents, ?_⟩
        have hlength : (context.located imagePath).processPath.length.toNat ≤ imagePath.length :=
          (BitVec.toNat_ofNat _ _).le.trans (Nat.mod_le _ _)
        exact hlength.trans (hle.trans (by decide))

private def emptyName : NameQuery := ⟨statusSuccess, statusSuccess, .empty⟩

private def longImagePath : UnicodeString :=
  ⟨List.replicate 600 97#16, by rw [List.length_replicate]; decide⟩

/-- An image path of 600 characters gets a `Length` of 1200. -/
theorem not_pathsKept : ¬∀ rtl m file work image,
    PathsKept file (initializeNames rtl m file work image) := by
  intro hkept
  obtain ⟨context, -, -, hrun⟩ := exists_named asciiStrings (fun _ => 0#8) emptyName zeroedStack
    ⟨true, statusSuccess, some longImagePath⟩
  have hlength : longImagePath.length = 1200 := by
    simp only [UnicodeString.length, longImagePath, List.length_replicate]
  have hlong := (hkept asciiStrings (fun _ => 0#8) emptyName zeroedStack
    ⟨true, statusSuccess, some longImagePath⟩).processPath
  rw [hrun, populateProcessPath_some _ rfl] at hlong
  simp [NamedContext.located, hlength, PathField.buffer, ntSuccess, statusSuccess] at hlong

/-! ## The paths of a create request -/

/-- The image path is found where it was copied to, however long it is. -/
theorem located_pathOf (hbuffer : context.processPath = PathField.processPath.initEmpty) :
    (context.located imagePath).pathOf .processPath = imagePath := by
  have hshort := imagePath.short
  have hhalf : (BitVec.ofNat 16 imagePath.length).toNat / 2 = imagePath.units.length := by
    rw [BitVec.toNat_ofNat]
    unfold UnicodeString.length
    omega
  have hcopied : 2 * imagePath.units.length ≤ imagePath.length := le_rfl
  apply UnicodeString.ext
  simp only [NamedContext.pathOf, StringDescriptor.contents, NamedContext.located, hbuffer,
    PathField.initEmpty, PathField.buffer, TracedMemory.memory_store, hhalf]
  rw [readUnits_copy_of_disjoint (Or.inl (by omega)), readUnits_copy_memoryOf hcopied le_rfl,
    List.take_length]

/-- **Refinement.**  Where the context is filled as it should be, its strings are the paths that the
file callbacks find in theirs. -/
theorem initializeNames_refines (rtl : RtlStrings) (m : Memory) (file : NameQuery)
    (work : WorkBuffer) (image : ImageQuery) (c : CreateRequest)
    (hkept : PathsKept file (initializeNames rtl m file work image)) :
    (initializeNames rtl m file work image).pathOf .filePath =
        (initializeStreamHandleContext { c with filePath := file.kept }).filePath ∧
      (initializeNames rtl m file work image).pathOf .processPath =
        (initializeStreamHandleContext
          { c with processPath := image.delivered.getD .empty }).processPath := by
  refine ⟨hkept.filePath, ?_⟩
  obtain ⟨context, -, hbuffer, hrun⟩ := exists_named rtl m file work image
  rw [hrun]
  cases hdelivered : image.delivered with
  | none =>
      rw [populateProcessPath_none _ hdelivered]
      split
      · exact contents_empty rfl
      · exact contents_empty (congrArg StringDescriptor.length hbuffer)
  | some imagePath =>
      have hsuccess : ntSuccess statusSuccess = true := rfl
      simp only [populateProcessPath_some context hdelivered, hsuccess, Bool.not_true,
        Bool.false_eq_true, if_false]
      exact located_pathOf hbuffer

/-! ## Executable files -/

/-- The extensions that make a file executable. -/
def executableExtensions : List (List UINT16) :=
  ["exe", "dll", "sys", "com", "scr", "cpl", "ocx", "drv", "efi"].map wideLiteral

/-- The final extension of a name is, ignoring case, one that makes a file executable. -/
def HasExecutableExtension (rtl : RtlStrings) (name : UnicodeString) : Prop :=
  ∃ ext ∈ executableExtensions, rtl.equal (finalExtension name) (rtlInitUnicodeString ext) = true

instance (name : UnicodeString) : Decidable (HasExecutableExtension rtl name) :=
  inferInstanceAs (Decidable (∃ ext ∈ executableExtensions, _))

theorem fullStop_not_mem_finalExtension (name : UnicodeString) :
    fullStop ∉ (finalExtension name).units := by
  intro hmem
  unfold finalExtension at hmem
  split at hmem
  · have hne := @List.mem_rtakeWhile_imp _ (fun c => decide (c ≠ fullStop)) _ _ hmem
    exact of_decide_eq_true hne rfl
  · cases hmem

theorem fullStop_mem_of_mem_execExtensions {ext : List UINT16} (h : ext ∈ execExtensions) :
    fullStop ∈ (rtlInitUnicodeString ext).units := by
  have hall : (execExtensions.all fun ext =>
      (rtlInitUnicodeString ext).units.contains fullStop) = true := by decide
  simpa using List.all_eq_true.mp hall ext h

/-- The extensions that `IsExecutableFile` knows begin with the full stop that the extension of a
name is without. -/
theorem isExecutableFile_finalExtension
    (hdot : ∀ c, rtl.upcase c = rtl.upcase fullStop ↔ c = fullStop) (name : UnicodeString) :
    isExecutableFile rtl (finalExtension name) = false := by
  unfold isExecutableFile
  split
  · rfl
  · rw [List.any_eq_false]
    intro ext hext hequal
    have hmap : (finalExtension name).units.map rtl.upcase =
        (rtlInitUnicodeString ext).units.map rtl.upcase := eq_of_beq hequal
    have hmem : rtl.upcase fullStop ∈ (finalExtension name).units.map rtl.upcase := by
      rw [hmap]
      exact List.mem_map_of_mem (fullStop_mem_of_mem_execExtensions hext)
    obtain ⟨c, hc, heq⟩ := List.mem_map.mp hmem
    rw [(hdot c).mp heq] at hc
    exact fullStop_not_mem_finalExtension name hc

/-- **Executable files.**  `PopulateFileInformation` classifies the file of a normalised name
correctly exactly when its extension does not make it executable. -/
theorem isExecutable_iff (rtl : RtlStrings)
    (hdot : ∀ c, rtl.upcase c = rtl.upcase fullStop ↔ c = fullStop) (query : NameQuery)
    (hsucceeds : query.succeeds = true) (work : WorkBuffer) (context : NamedContext) :
    ((populateFileInformation rtl query work context).2.isExecutable = true ↔
        HasExecutableExtension rtl query.name) ↔
      ¬HasExecutableExtension rtl query.name := by
  obtain ⟨hget, hparse⟩ := Bool.and_eq_true_iff.mp hsucceeds
  have hfalse : (populateFileInformation rtl query work context).2.isExecutable = false := by
    unfold populateFileInformation
    simp only [hget, hparse, Bool.not_true, Bool.false_eq_true, if_false]
    exact isExecutableFile_finalExtension hdot query.name
  rw [hfalse, Bool.false_eq_true, false_iff]

theorem asciiUpcase_fullStop (c : UINT16) :
    asciiStrings.upcase c = asciiStrings.upcase fullStop ↔ c = fullStop := by
  change asciiUpcase c = fullStop ↔ c = fullStop
  unfold asciiUpcase fullStop
  split <;> bv_omega

private def queryFor (text : String) : NameQuery :=
  ⟨statusSuccess, statusSuccess, rtlInitUnicodeString (wideLiteral text)⟩

theorem isExecutable_text : (populateFileInformation asciiStrings (queryFor "\\a.txt") zeroedStack
      (.zeroed fun _ => 0#8)).2.isExecutable = true ↔
    HasExecutableExtension asciiStrings (queryFor "\\a.txt").name :=
  (isExecutable_iff asciiStrings asciiUpcase_fullStop (queryFor "\\a.txt") rfl zeroedStack
    (.zeroed fun _ => 0#8)).mpr (by decide)

/-- A program is not recognised. -/
theorem not_isExecutable : ¬∀ rtl : RtlStrings,
    (∀ c, rtl.upcase c = rtl.upcase fullStop ↔ c = fullStop) → ∀ query : NameQuery,
    query.succeeds = true → ∀ work context,
    (populateFileInformation rtl query work context).2.isExecutable = true ↔
      HasExecutableExtension rtl query.name := by
  intro hright
  have hexe : HasExecutableExtension asciiStrings (queryFor "\\a.exe").name := by decide
  have htrue := (hright asciiStrings asciiUpcase_fullStop (queryFor "\\a.exe") rfl zeroedStack
    (.zeroed fun _ => 0#8)).mpr hexe
  exact Bool.false_ne_true
    ((isExecutableFile_finalExtension asciiUpcase_fullStop
      (queryFor "\\a.exe").name).symm.trans htrue)

end Kawin.Driver
