import Kawin.Base.ByteMemory

/-!
# Records laid out in a byte memory

A record is written as a list of bytes, field after field, and read at the addresses its
layout gives.  `Carries m a bytes` says that the bytes stand in the memory from address `a` on.
It splits along concatenation (`carries_append`), so that a memory that carries a record
carries each of its fields, and `readNat_of_carries` and `readUnits_of_carries` read them
back: a little-endian number up to its width, a string of 16-bit units whole.
-/

namespace ByteMemory

/-- The `w` bytes of the little-endian representation of `v`. -/
def leBytes (w v : ℕ) : List Byte := (List.range w).map (byteOf v)

/-- A string of 16-bit units, as it stands in memory. -/
def unitsBytes (units : List (BitVec 16)) : List Byte :=
  units.flatMap fun unit => leBytes 2 unit.toNat

/-- The `n` units from address `a` on. -/
def readUnits (m : Memory) (a : ℕ) : ℕ → List (BitVec 16)
  | 0 => []
  | n + 1 => BitVec.ofNat 16 (readNat m a 2) :: readUnits m (a + 2) n

/-- The bytes stand in the memory from address `a` on. -/
def Carries (m : Memory) (a : ℕ) (bytes : List Byte) : Prop :=
  ∀ i (h : i < bytes.length), m (a + i) = bytes[i]

/-- A list of bytes as a memory, from address 0 on. -/
def memoryOf (bytes : List Byte) : Memory := fun i => bytes.getD i 0#8

@[simp] theorem length_leBytes (w v : ℕ) : (leBytes w v).length = w := by
  simp [leBytes]

@[simp] theorem length_unitsBytes (units : List (BitVec 16)) :
    (unitsBytes units).length = 2 * units.length := by
  induction units with
  | nil => rfl
  | cons unit units ih =>
      rw [unitsBytes, List.flatMap_cons, List.length_append, length_leBytes, ← unitsBytes, ih,
        List.length_cons]
      omega

@[simp] theorem length_readUnits (m : Memory) (n : ℕ) : ∀ a, (readUnits m a n).length = n := by
  induction n with
  | zero => exact fun _ => rfl
  | succ n ih => exact fun a => congrArg Nat.succ (ih (a + 2))

variable {m m' : Memory} {a : ℕ}

/-- **Concatenation.**  A memory carries a record when it carries its parts one after the
other. -/
theorem carries_append {xs ys : List Byte} :
    Carries m a (xs ++ ys) ↔ Carries m a xs ∧ Carries m (a + xs.length) ys := by
  constructor
  · intro h
    refine ⟨fun i hi => ?_, fun i hi => ?_⟩
    · rw [h i (by rw [List.length_append]; omega), List.getElem_append_left hi]
    · rw [Nat.add_assoc, h (xs.length + i) (by rw [List.length_append]; omega),
        List.getElem_append_right (by omega)]
      simp only [Nat.add_sub_cancel_left]
  · rintro ⟨hx, hy⟩ i hi
    rw [List.length_append] at hi
    by_cases hlt : i < xs.length
    · rw [hx i hlt, List.getElem_append_left hlt]
    · obtain ⟨j, rfl⟩ := Nat.exists_eq_add_of_le (Nat.le_of_not_lt hlt)
      rw [← Nat.add_assoc, hy j (by omega), List.getElem_append_right (by omega)]
      simp only [Nat.add_sub_cancel_left]

theorem carries_memoryOf (bytes : List Byte) : Carries (memoryOf bytes) 0 bytes := by
  intro i hi
  rw [Nat.zero_add, memoryOf, List.getD_eq_getElem?_getD, List.getElem?_eq_getElem hi,
    Option.getD_some]

/-- Outside the bytes the memory is zero. -/
theorem memoryOf_of_length_le {bytes : List Byte} {i : ℕ} (h : bytes.length ≤ i) :
    memoryOf bytes i = 0#8 := by
  rw [memoryOf, List.getD_eq_getElem?_getD, List.getElem?_eq_none h, Option.getD_none]

/-- What a memory carries from its start on, it has in common with the memory of the bytes. -/
theorem Carries.eq_memoryOf {bytes : List Byte} (h : Carries m 0 bytes) {i : ℕ}
    (hi : i < bytes.length) : m i = memoryOf bytes i := by
  have hm := h i hi
  have hbytes := carries_memoryOf bytes i hi
  rw [Nat.zero_add] at hm hbytes
  rw [hm, hbytes]

/-- A number is read back up to its width. -/
theorem readNat_of_carries {w v : ℕ} (h : Carries m a (leBytes w v)) :
    readNat m a w = v % 256 ^ w := by
  refine readNat_of_bytes fun i hi => ?_
  rw [h i (by rwa [length_leBytes])]
  simp [leBytes]

theorem readNat_of_carries_of_lt {w v : ℕ} (h : Carries m a (leBytes w v)) (hv : v < 256 ^ w) :
    readNat m a w = v := by
  rw [readNat_of_carries h, Nat.mod_eq_of_lt hv]

/-- Numbers that fit are told apart by their bytes. -/
theorem leBytes_inj {w v v' : ℕ} (hv : v < 256 ^ w) (hv' : v' < 256 ^ w)
    (h : leBytes w v = leBytes w v') : v = v' := by
  calc v = readNat (memoryOf (leBytes w v)) 0 w :=
        (readNat_of_carries_of_lt (carries_memoryOf _) hv).symm
    _ = readNat (memoryOf (leBytes w v')) 0 w := by rw [h]
    _ = v' := readNat_of_carries_of_lt (carries_memoryOf _) hv'

/-- A string is read back whole. -/
theorem readUnits_of_carries {units : List (BitVec 16)} :
    ∀ {a : ℕ}, Carries m a (unitsBytes units) → readUnits m a units.length = units := by
  induction units with
  | nil => exact fun _ => rfl
  | cons unit units ih =>
      intro a h
      rw [unitsBytes, List.flatMap_cons, carries_append, length_leBytes, ← unitsBytes] at h
      rw [List.length_cons, readUnits, readNat_of_carries_of_lt h.1 (by simpa using unit.isLt),
        ih h.2, BitVec.ofNat_toNat, BitVec.setWidth_eq]

/-- A string is read in two parts. -/
theorem readUnits_append (m : Memory) (k n : ℕ) :
    ∀ a, readUnits m a (k + n) = readUnits m a k ++ readUnits m (a + 2 * k) n := by
  induction k with
  | zero =>
      intro a
      rw [Nat.zero_add, readUnits, Nat.mul_zero, Nat.add_zero, List.nil_append]
  | succ k ih =>
      intro a
      have hshift : a + 2 + 2 * k = a + 2 * (k + 1) := by omega
      rw [Nat.add_right_comm, readUnits, ih, readUnits, List.cons_append, hshift]

/-- The number of a unit. -/
theorem toNat_unit (m : Memory) (a : ℕ) :
    (BitVec.ofNat 16 (readNat m a 2)).toNat = (m a).toNat + 256 * (m (a + 1)).toNat := by
  have hlow := (m a).isLt
  have hhigh := (m (a + 1)).isLt
  rw [BitVec.toNat_ofNat]
  exact Nat.mod_eq_of_lt (by simp only [readNat]; omega)

/-- A read of units depends only on the bytes it covers. -/
theorem readUnits_congr {n : ℕ} :
    ∀ {a : ℕ}, (∀ i, a ≤ i → i < a + 2 * n → m i = m' i) → readUnits m a n = readUnits m' a n := by
  induction n with
  | zero => exact fun _ => rfl
  | succ n ih =>
      intro a h
      have hhead : readNat m a 2 = readNat m' a 2 :=
        readNat_congr fun i hlow hhigh => h i hlow (by omega)
      rw [readUnits, readUnits, hhead, ih fun i hlow hhigh => h i (by omega) (by omega)]

end ByteMemory
