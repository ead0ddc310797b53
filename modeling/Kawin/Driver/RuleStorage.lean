import Kawin.Base.TracedMemory
import Kawin.Driver.RuleTable

/-!
# Where the path of a rule is stored

`AllocateRuleEntry` allocates as many bytes for the path of a rule as its `Length` says, and copies
it there with `RtlCopyUnicodeString`, whose limit is the `MaximumLength` that it takes over from the
argument.  The argument comes from `RtlInitUnicodeString`, with a `MaximumLength` two bytes beyond
its `Length`.  So there is always room for a terminator, and it is written: behind the allocation.

`storedInBounds_iff` says that only an allocation that fails keeps the bytes where they belong.  The
path itself is stored whole (`allocateRuleEntryInPool_eq`), which is all that the rule table sees.
-/

namespace Kawin.Driver

open ByteMemory

/-- A `UNICODE_STRING` with the memory behind its `Buffer`. -/
structure StringArgument where
  length : USHORT
  maximumLength : USHORT
  buffer : Memory

/-- The argument that `RtlInitUnicodeString` makes of a text. -/
def initArgument (text : List UINT16) : StringArgument where
  length := BitVec.ofNat 16 (rtlInitUnicodeString text).length
  maximumLength := BitVec.ofNat 16 ((rtlInitUnicodeString text).length + 2)
  buffer := memoryOf (unitsBytes text)

/-- A `UNICODE_STRING` whose `Buffer` is a block of pool memory of `size` bytes. -/
structure PoolString where
  length : USHORT
  maximumLength : USHORT
  size : USHORT
  buffer : TracedMemory Unit

/-- The units of the string. -/
def PoolString.contents (s : PoolString) : List UINT16 :=
  readUnits s.buffer.memory 0 (s.length.toNat / 2)

/-- `RtlCopyUnicodeString`. -/
def rtlCopyUnicodeString (destination : PoolString) (source : StringArgument) : PoolString :=
  let n := min source.length.toNat destination.maximumLength.toNat
  let copied := destination.buffer.store () 0 n source.buffer
  { destination with
    length := BitVec.ofNat 16 n
    buffer :=
      if n < destination.maximumLength.toNat then copied.store () n 2 fun _ => 0#8 else copied }

/-- A `RULE_ENTRY` with the block that its path is stored in. -/
structure PoolRuleEntry where
  path : PoolString
  action : RuleAction

/-- `AllocateRuleEntry`, with the memory under the allocation of the path. -/
def allocateRuleEntryInPool (entryBlock : Bool) (pathBlock : Option Memory) (path : StringArgument)
    (action : RuleAction) : Option PoolRuleEntry :=
  if !entryBlock then none
  else
    match pathBlock with
    | none => none
    | some pool =>
        some
          { path := rtlCopyUnicodeString
              { length := 0#16
                maximumLength := path.maximumLength
                size := path.length
                buffer := .untouched pool } path
            action := action }

/-- What storing a path should do: write nothing outside the allocation, and store the argument. -/
def StoredInBounds (entryBlock : Bool) (pathBlock : Option Memory) (text : List UINT16)
    (action : RuleAction) : Prop :=
  ∀ entry, allocateRuleEntryInPool entryBlock pathBlock (initArgument text) action = some entry →
    entry.path.buffer.Inside (fun _ => ⟨0, entry.path.size.toNat⟩) ∧
      entry.path.contents = (rtlInitUnicodeString text).units

section

variable (text : List UINT16)

theorem length_rtlInitUnicodeString_le : (rtlInitUnicodeString text).length ≤ 65532 := by
  have hunits : (rtlInitUnicodeString text).units.length ≤ 32766 := text.length_take_le 32766
  unfold UnicodeString.length
  omega

/-- The lengths of an argument: the second leaves room for a terminator. -/
theorem initArgument_lengths :
    (initArgument text).length.toNat = (rtlInitUnicodeString text).length ∧
      (initArgument text).maximumLength.toNat = (rtlInitUnicodeString text).length + 2 := by
  have hle := length_rtlInitUnicodeString_le text
  unfold initArgument
  rw [BitVec.toNat_ofNat, BitVec.toNat_ofNat]
  omega

/-- The entry that `AllocateRuleEntry` makes where both allocations succeed. -/
def storedEntry (pool : Memory) (action : RuleAction) : PoolRuleEntry where
  path :=
    { length := (initArgument text).length
      maximumLength := (initArgument text).maximumLength
      size := (initArgument text).length
      buffer := ((TracedMemory.untouched pool).store () 0 (rtlInitUnicodeString text).length
        (memoryOf (unitsBytes text))).store () (rtlInitUnicodeString text).length 2 fun _ => 0#8 }
  action := action

theorem allocateRuleEntryInPool_some (pool : Memory) (action : RuleAction) :
    allocateRuleEntryInPool true (some pool) (initArgument text) action =
      some (storedEntry text pool action) := by
  obtain ⟨hlength, hmaximum⟩ := initArgument_lengths text
  have hmin : min (rtlInitUnicodeString text).length ((rtlInitUnicodeString text).length + 2) =
      (rtlInitUnicodeString text).length := min_eq_left (Nat.le_add_right _ _)
  unfold allocateRuleEntryInPool storedEntry rtlCopyUnicodeString
  simp only [Bool.not_true, Bool.false_eq_true, if_false, hlength, hmaximum, hmin,
    if_pos (Nat.lt_add_of_pos_right Nat.zero_lt_two)]
  rfl

/-- The path is stored whole. -/
theorem contents_storedEntry (pool : Memory) (action : RuleAction) :
    (storedEntry text pool action).path.contents = (rtlInitUnicodeString text).units := by
  obtain ⟨hlength, -⟩ := initArgument_lengths text
  have hhalf : (initArgument text).length.toNat / 2 = (rtlInitUnicodeString text).units.length := by
    rw [hlength, UnicodeString.length]
    omega
  have hcopied : 2 * (rtlInitUnicodeString text).units.length ≤
      (rtlInitUnicodeString text).length :=
    le_rfl
  unfold PoolString.contents
  simp only [storedEntry, hhalf, TracedMemory.memory_store]
  rw [readUnits_copy_of_disjoint (Or.inl (by omega)),
    readUnits_copy_memoryOf hcopied (List.length_take_le' _ _)]
  exact List.take_eq_take_iff.mpr (by simp [rtlInitUnicodeString])

/-- The terminator is two bytes behind the allocation, and nothing else is. -/
theorem inside_storedEntry_iff (pool : Memory) (action : RuleAction) (n : ℕ) :
    (storedEntry text pool action).path.buffer.Inside (fun _ => ⟨0, n⟩) ↔
      (rtlInitUnicodeString text).length + 2 ≤ n := by
  simp only [storedEntry, TracedMemory.inside_store]
  constructor
  · rintro ⟨_, hterminator⟩
    omega
  · intro hle
    exact ⟨⟨TracedMemory.inside_untouched, by omega⟩, by omega⟩

end

/-- **The path of a rule.**  It is stored within its allocation exactly when nothing is stored,
because an allocation fails. -/
theorem storedInBounds_iff (entryBlock : Bool) (pathBlock : Option Memory) (text : List UINT16)
    (action : RuleAction) : StoredInBounds entryBlock pathBlock text action ↔
      entryBlock = false ∨ pathBlock = none := by
  unfold StoredInBounds
  cases entryBlock with
  | false => exact iff_of_true nofun (Or.inl rfl)
  | true =>
      cases pathBlock with
      | none => exact iff_of_true nofun (Or.inr rfl)
      | some pool =>
          refine iff_of_false (fun hstored => ?_) (by simp)
          obtain ⟨hinside, -⟩ := hstored _ (allocateRuleEntryInPool_some text pool action)
          have hle := (inside_storedEntry_iff text pool action _).mp hinside
          have hsize := (initArgument_lengths text).1
          simp only [storedEntry] at hle
          omega

/-- The path `\a` fills an allocation of four bytes, and its terminator stands behind it. -/
theorem not_storedInBounds : ¬∀ entryBlock pathBlock text action,
    StoredInBounds entryBlock pathBlock text action := by
  intro hstored
  have hinside := (hstored true (some fun _ => 0#8) [92#16, 97#16] .block _
    (allocateRuleEntryInPool_some [92#16, 97#16] (fun _ => 0#8) .block)).1
  exact absurd ((inside_storedEntry_iff [92#16, 97#16] (fun _ => 0#8) .block 4).mp hinside)
    (by decide)

/-- **Refinement.**  The rule table's `AllocateRuleEntry` is the one in the pool, without the
pool. -/
theorem allocateRuleEntryInPool_eq (entryBlock : Bool) (pathBlock : Option Memory)
    (text : List UINT16) (action : RuleAction) :
    (allocateRuleEntryInPool entryBlock pathBlock (initArgument text) action).map
        (fun entry => (entry.path.contents, entry.action)) =
      (allocateRuleEntry entryBlock pathBlock.isSome (rtlInitUnicodeString text) action).map
        fun entry => (entry.path.units, entry.action) := by
  cases entryBlock with
  | false => rfl
  | true =>
      cases pathBlock with
      | none => rfl
      | some pool =>
          rw [allocateRuleEntryInPool_some, Option.map_some, contents_storedEntry]
          rfl

end Kawin.Driver
