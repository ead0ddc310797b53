import Kawin.Base.TerminatedText
import Kawin.Driver.RuleTable

/-!
# Classifying a file by its name

`Context.cpp` hashes the path of a file, compares its extension with nine known ones, and looks
for five directories in it.  The extensions are compared as counted strings, ignoring case.  The
directories are looked for with `wcsstr` in an upper-cased copy of the path, which stands in a
work buffer on the stack.

The five directories are spelled with lower-case letters, which an upper-cased text does not have
(`not_infix_upcased`), and nobody writes a terminator behind the copy.  So a search either stops at
a terminator that happens to be there, and says no, or runs on into what the stack holds.
`isSystemFile_sound_iff` says for every path when the answer and the reads are what they should be.
-/

namespace Kawin.Driver

open TerminatedText

/-- The units of a literal `L"…"`, without the terminator. -/
def wideLiteral (text : String) : List UINT16 := text.toList.map fun c => BitVec.ofNat 16 c.toNat

variable (rtl : RtlStrings)

/-- `ComputeFilePathHash`. -/
def computeFilePathHash (filePath : UnicodeString) : ULONG :=
  filePath.units.foldl (fun hash c => hash * 31#32 + (rtl.upcase c).setWidth 32) 0#32

/-! ## Extensions -/

/-- `execExtensions`. -/
def execExtensions : List (List UINT16) :=
  [".exe", ".dll", ".sys", ".com", ".scr", ".cpl", ".ocx", ".drv", ".efi"].map wideLiteral

/-- `IsExecutableFile`. -/
def isExecutableFile (extension : UnicodeString) : Bool :=
  if extension.units.isEmpty then false
  else execExtensions.any fun ext => rtl.equal extension (rtlInitUnicodeString ext)

/-! ## Directories -/

/-- `systemPaths`. -/
def systemPaths : List (List UINT16) :=
  ["\\Windows\\System32\\", "\\Windows\\SysWOW64\\", "\\Windows\\WinSxS\\", "\\Program Files\\",
    "\\Program Files (x86)\\"].map wideLiteral

/-- The stack from `upperBuffer` on, as far as it can be read. -/
structure WorkBuffer where
  units : List UINT16
  sizeofUpperBuffer : 512 ≤ units.length

/-- `RtlUpcaseUnicodeString` into `upperBuffer`.  It writes no terminator, and nothing at all
where the path does not fit. -/
def WorkBuffer.upcase (work : WorkBuffer) (path : UnicodeString) : WorkBuffer :=
  if h : path.units.length ≤ 512 then
    { units := path.units.map rtl.upcase ++ work.units.drop path.units.length
      sizeofUpperBuffer := by
        have := work.sizeofUpperBuffer
        rw [List.length_append, List.length_map, List.length_drop]
        omega }
  else work

/-- The loop of `IsSystemFile`: the answer, if the searches come to an end, and the number of
units of the stack that were read. -/
def findSystemPath (path : UnicodeString) : List (List UINT16) → WorkBuffer → Option Bool × ℕ
  | [], _ => (some false, 0)
  | systemPath :: rest, work =>
      let upper := work.upcase rtl path
      let found := search 0#16 systemPath upper.units
      if found.1 = some false then
        let later := findSystemPath path rest upper
        (later.1, max found.2 later.2)
      else found

/-- `IsSystemFile`. -/
def isSystemFile (path : UnicodeString) (work : WorkBuffer) : Option Bool × ℕ :=
  if path.units.isEmpty then (some false, 0) else findSystemPath rtl path systemPaths work

/-- The path contains the directory, ignoring case. -/
def containsIgnoringCase (path : UnicodeString) (systemPath : List UINT16) : Prop :=
  systemPath.map rtl.upcase <:+: path.units.map rtl.upcase

instance (path : UnicodeString) (systemPath : List UINT16) :
    Decidable (containsIgnoringCase rtl path systemPath) :=
  inferInstanceAs (Decidable (systemPath.map rtl.upcase <:+: path.units.map rtl.upcase))

/-- What `IsSystemFile` is for: it answers whether one of the directories is in the path, and reads
the upper-cased path and at most one unit more. -/
def SystemFileSound (path : UnicodeString) (work : WorkBuffer) : Prop :=
  ∃ answer n, isSystemFile rtl path work = (some answer, n) ∧ n ≤ path.units.length + 1 ∧
    (answer = true ↔ ∃ systemPath ∈ systemPaths, containsIgnoringCase rtl path systemPath)

/-! ## Lower-case letters -/

/-- One of the letters from `a` to `z`. -/
def IsLowerLatin (c : UINT16) : Prop := 97#16 ≤ c ∧ c ≤ 122#16

instance : DecidablePred IsLowerLatin := fun c =>
  inferInstanceAs (Decidable (97#16 ≤ c ∧ c ≤ 122#16))

variable {rtl} {path : UnicodeString} {work : WorkBuffer} {patterns : List (List UINT16)}
  {pattern : List UINT16} {answer : Bool} {n : ℕ}

/-- Every directory has a lower-case letter before its last character. -/
theorem exists_isLowerLatin (h : pattern ∈ systemPaths) :
    ∃ c ∈ pattern.dropLast, IsLowerLatin c := by
  have hall : (systemPaths.all fun systemPath =>
      systemPath.dropLast.any fun c => decide (IsLowerLatin c)) = true := by decide
  simpa only [List.any_eq_true, decide_eq_true_eq] using List.all_eq_true.mp hall pattern h

/-- A text with a lower-case letter before its last character does not occur in an upper-cased text,
nor at its end with one unit more. -/
theorem not_infix_upcased (hupcase : ∀ c, ¬IsLowerLatin (rtl.upcase c)) (units : List UINT16)
    (hlower : ∃ c ∈ pattern.dropLast, IsLowerLatin c) (next : UINT16) :
    ¬pattern <:+: units.map rtl.upcase ++ [next] := by
  obtain ⟨c, hmem, hlatin⟩ := hlower
  have hnot : c ∉ units.map rtl.upcase := by
    intro hc
    obtain ⟨d, _, rfl⟩ := List.mem_map.mp hc
    exact hupcase d hlatin
  intro hoccurs
  rcases List.infix_concat_iff.mp hoccurs with hsuffix | hinside
  · rcases List.suffix_concat_iff.mp hsuffix with rfl | ⟨init, rfl, hinit⟩
    · cases hmem
    · rw [List.dropLast_concat] at hmem
      exact hnot (hinit.subset hmem)
  · exact hnot (hinside.subset (List.dropLast_subset _ hmem))

theorem zero_not_mem (h : pattern ∈ systemPaths) : 0#16 ∉ pattern := by
  have hall : (systemPaths.all fun systemPath => !systemPath.contains 0#16) = true := by decide
  simpa using List.all_eq_true.mp hall pattern h

/-! ## The work buffer -/

section

variable (hfits : path.units.length ≤ 511)

include hfits

theorem WorkBuffer.units_upcase : (work.upcase rtl path).units =
    path.units.map rtl.upcase ++ work.units.drop path.units.length := by
  unfold WorkBuffer.upcase
  rw [dif_pos (by omega)]

/-- The second copy of the path is the first. -/
theorem WorkBuffer.upcase_upcase :
    (work.upcase rtl path).upcase rtl path = work.upcase rtl path := by
  have hlength : (path.units.map rtl.upcase).length = path.units.length := List.length_map _
  have hunits : ((work.upcase rtl path).upcase rtl path).units = (work.upcase rtl path).units := by
    rw [units_upcase hfits, units_upcase hfits, ← hlength, List.drop_left' rfl]
  cases h : (work.upcase rtl path).upcase rtl path
  cases h' : work.upcase rtl path
  rw [h, h'] at hunits
  congr

/-- The upper-cased path and what stands behind it. -/
theorem WorkBuffer.take_upcase (rtl : RtlStrings) (work : WorkBuffer) :
    ∃ next, work.units[path.units.length]? = some next ∧
    (work.upcase rtl path).units.take (path.units.length + 1) =
      path.units.map rtl.upcase ++ [next] := by
  have hlt : path.units.length < work.units.length := by
    have := work.sizeofUpperBuffer
    omega
  have hlength : (path.units.map rtl.upcase).length = path.units.length := List.length_map _
  refine ⟨work.units[path.units.length], List.getElem?_eq_getElem hlt, ?_⟩
  rw [units_upcase hfits, List.drop_eq_getElem_cons hlt, List.take_append, hlength,
    List.take_of_length_le (by omega), Nat.add_sub_cancel_left]
  rfl

end

/-! ## The searches -/

section

variable {upper : WorkBuffer} {next : UINT16} (hupcase : ∀ c, ¬IsLowerLatin (rtl.upcase c))
  (htake : upper.units.take (path.units.length + 1) = path.units.map rtl.upcase ++ [next])

include hupcase htake

/-- A search that reads no more than it should finds nothing, and there is one exactly where a
terminator stops it in time. -/
theorem search_upcased (hpattern : pattern ∈ systemPaths) :
    (∃ n ≤ path.units.length + 1, search 0#16 pattern upper.units = (some answer, n)) ↔
      answer = false ∧ 0#16 ∈ path.units.map rtl.upcase ++ [next] := by
  have habsent := not_infix_upcased hupcase path.units (exists_isLowerLatin hpattern) next
  constructor
  · rintro ⟨n, hle, hsearch⟩
    have hreads := search_reads hsearch hle
    rw [htake] at hreads
    cases answer with
    | true => exact absurd hreads habsent
    | false => exact ⟨rfl, hreads⟩
  · rintro ⟨rfl, hzero⟩
    -- the first terminator among the units that may be read
    obtain ⟨before, after, hsplit, hfirst⟩ := List.eq_append_cons_of_mem hzero
    have hupper : upper.units =
        before ++ 0#16 :: (after ++ upper.units.drop (path.units.length + 1)) := by
      calc upper.units
          = upper.units.take (path.units.length + 1) ++
              upper.units.drop (path.units.length + 1) := (List.take_append_drop _ _).symm
        _ = before ++ 0#16 :: (after ++ upper.units.drop (path.units.length + 1)) := by
            rw [htake, hsplit, List.append_assoc, List.cons_append]
    have hnonempty : pattern ≠ [] := by
      rintro rfl
      exact habsent List.nil_infix
    obtain ⟨n, hle, hsearch⟩ := search_terminated
      (after ++ upper.units.drop (path.units.length + 1)) (zero_not_mem hpattern) hnonempty hfirst
    have hlength : before.length + 1 ≤ path.units.length + 1 := by
      have := congrArg List.length hsplit
      simp only [List.length_append, List.length_map, List.length_cons, List.length_nil] at this
      omega
    have hnot : ¬pattern <:+: before := by
      intro hoccurs
      apply habsent
      rw [hsplit]
      exact hoccurs.trans (List.prefix_append before _).isInfix
    rw [← hupper] at hsearch
    exact ⟨n, hle.trans hlength, by simpa [hnot] using hsearch⟩

theorem findSystemPath_upcased (hfits : path.units.length ≤ 511) (hnonempty : patterns ≠ [])
    (hpatterns : ∀ pattern ∈ patterns, pattern ∈ systemPaths)
    (hwork : work.upcase rtl path = upper) :
    (∃ n ≤ path.units.length + 1, findSystemPath rtl path patterns work = (some answer, n)) ↔
      answer = false ∧ 0#16 ∈ path.units.map rtl.upcase ++ [next] := by
  induction patterns generalizing work answer with
  | nil => exact absurd rfl hnonempty
  | cons pattern rest ih =>
      have hpattern := hpatterns pattern List.mem_cons_self
      have hsearch := fun answer =>
        @search_upcased _ _ pattern answer upper next hupcase htake hpattern
      have hupper : upper.upcase rtl path = upper := by
        rw [← hwork, WorkBuffer.upcase_upcase hfits]
      have hrest : 0#16 ∈ path.units.map rtl.upcase ++ [next] → ∀ answer,
          (∃ n ≤ path.units.length + 1, findSystemPath rtl path rest upper = (some answer, n)) ↔
            answer = false := by
        intro hzero answer
        by_cases hempty : rest = []
        · subst hempty
          constructor
          · rintro ⟨n, _, heq⟩
            cases heq
            rfl
          · rintro rfl
            exact ⟨0, Nat.zero_le _, rfl⟩
        · rw [ih hempty (fun p hp => hpatterns p (List.mem_cons_of_mem pattern hp)) hupper]
          exact and_iff_left hzero
      unfold findSystemPath
      simp only [hwork]
      constructor
      · rintro ⟨n, hle, heq⟩
        by_cases hfound : (search 0#16 pattern upper.units).1 = some false
        · rw [if_pos hfound] at heq
          obtain ⟨hlater, hmax⟩ := Prod.mk.inj heq
          have hread := hmax.le.trans hle
          have hzero := ((hsearch false).mp
            ⟨_, (le_max_left _ _).trans hread, Prod.ext hfound rfl⟩).2
          exact ⟨(hrest hzero answer).mp
            ⟨_, (le_max_right _ _).trans hread, Prod.ext hlater rfl⟩, hzero⟩
        · rw [if_neg hfound] at heq
          exact (hsearch answer).mp ⟨n, hle, heq⟩
      · rintro ⟨rfl, hzero⟩
        obtain ⟨k, hk, hfound⟩ := (hsearch false).mpr ⟨rfl, hzero⟩
        obtain ⟨j, hj, hlater⟩ := (hrest hzero false).mpr rfl
        refine ⟨max k j, by omega, ?_⟩
        rw [hfound, hlater]
        rfl

end

/-! ## What `IsSystemFile` answers -/

theorem not_containsIgnoringCase_nil (hempty : path.units = []) (h : pattern ∈ systemPaths) :
    ¬containsIgnoringCase rtl path pattern := by
  intro hoccurs
  rw [containsIgnoringCase, hempty, List.map_nil, List.infix_nil, List.map_eq_nil_iff] at hoccurs
  obtain ⟨c, hmem, _⟩ := exists_isLowerLatin h
  rw [hoccurs] at hmem
  cases hmem

/-- **System files.**  `IsSystemFile` is right about a path of at most 511 units, and reads no more
than it should, exactly when the path is in none of the directories and is empty or followed by a
terminator, its own or one that the work buffer holds by chance. -/
theorem isSystemFile_sound_iff (rtl : RtlStrings) (hupcase : ∀ c, ¬IsLowerLatin (rtl.upcase c))
    (path : UnicodeString) (hfits : path.units.length ≤ 511) (work : WorkBuffer) :
    SystemFileSound rtl path work ↔
      (∀ systemPath ∈ systemPaths, ¬containsIgnoringCase rtl path systemPath) ∧
        (path.units = [] ∨ 0#16 ∈ path.units.map rtl.upcase ∨
          work.units[path.units.length]? = some 0#16) := by
  by_cases hempty : path.units = []
  · have habsent : ∀ systemPath ∈ systemPaths, ¬containsIgnoringCase rtl path systemPath :=
      fun systemPath => not_containsIgnoringCase_nil hempty
    refine iff_of_true ⟨false, 0, by simp [isSystemFile, hempty], Nat.zero_le _, ?_⟩
      ⟨habsent, Or.inl hempty⟩
    refine iff_of_false Bool.false_ne_true ?_
    rintro ⟨systemPath, hmem, hcontains⟩
    exact habsent systemPath hmem hcontains
  · obtain ⟨next, hnext, htake⟩ := WorkBuffer.take_upcase hfits rtl work
    have hloop := fun answer => @findSystemPath_upcased rtl path work systemPaths answer _ next
      hupcase htake hfits (by decide) (fun _ hmem => hmem) rfl
    have hrun : isSystemFile rtl path work = findSystemPath rtl path systemPaths work := by
      simp [isSystemFile, hempty]
    have hzero : 0#16 ∈ path.units.map rtl.upcase ++ [next] ↔ path.units = [] ∨
        0#16 ∈ path.units.map rtl.upcase ∨ work.units[path.units.length]? = some 0#16 := by
      rw [hnext, List.mem_append, List.mem_singleton, Option.some_inj, or_iff_right hempty]
      exact or_congr_right eq_comm
    unfold SystemFileSound
    rw [hrun, ← hzero]
    constructor
    · rintro ⟨answer, n, heq, hle, hanswer⟩
      obtain ⟨rfl, hmem⟩ := (hloop answer).mp ⟨n, hle, heq⟩
      refine ⟨fun systemPath hpattern hcontains => ?_, hmem⟩
      exact Bool.false_ne_true (hanswer.mpr ⟨systemPath, hpattern, hcontains⟩)
    · rintro ⟨habsent, hmem⟩
      obtain ⟨n, hle, heq⟩ := (hloop false).mpr ⟨rfl, hmem⟩
      refine ⟨false, n, heq, hle, iff_of_false Bool.false_ne_true ?_⟩
      rintro ⟨systemPath, hpattern, hcontains⟩
      exact habsent systemPath hpattern hcontains

theorem not_isLowerLatin_asciiUpcase (c : UINT16) : ¬IsLowerLatin (asciiUpcase c) := by
  unfold IsLowerLatin asciiUpcase
  split <;> bv_omega

/-- A stack that is filled with zeros. -/
def zeroedStack : WorkBuffer := ⟨List.replicate 512 0#16, List.length_replicate.ge⟩

theorem isSystemFile_sound_plain :
    SystemFileSound asciiStrings (rtlInitUnicodeString (wideLiteral "\\a")) zeroedStack :=
  (isSystemFile_sound_iff asciiStrings not_isLowerLatin_asciiUpcase _ (by decide) zeroedStack).mpr
    ⟨by decide +kernel, Or.inr (Or.inr (by decide))⟩

/-- A file in the system directory is not recognised. -/
theorem not_isSystemFile_sound : ¬∀ rtl : RtlStrings, (∀ c, ¬IsLowerLatin (rtl.upcase c)) →
    ∀ path : UnicodeString, path.units.length ≤ 511 → ∀ work, SystemFileSound rtl path work := by
  intro hsound
  obtain ⟨answer, n, hrun, -, hanswer⟩ := hsound asciiStrings not_isLowerLatin_asciiUpcase
    (rtlInitUnicodeString (wideLiteral "\\Windows\\System32\\a")) (by decide) zeroedStack
  have hfalse : (isSystemFile asciiStrings
      (rtlInitUnicodeString (wideLiteral "\\Windows\\System32\\a")) zeroedStack).1 =
        some false := by
    decide +kernel
  rw [hrun, Option.some_inj] at hfalse
  have htrue : answer = true := hanswer.mpr
    ⟨wideLiteral "\\Windows\\System32\\", by decide, [], wideLiteral "A", by decide +kernel⟩
  exact Bool.false_ne_true (hfalse.symm.trans htrue)

end Kawin.Driver
