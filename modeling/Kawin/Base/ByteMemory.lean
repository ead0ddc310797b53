import Mathlib.Data.Nat.ModEq
import Mathlib.Tactic.Ring
import Mathlib.Tactic.Linarith
import Mathlib.Tactic.Set

/-!
# Byte memories

A memory is a total function from addresses to bytes.  Everything that writes is
a `copy` of a block of bytes, so there are only two facts to know about a write:
what an address inside the block reads (`copy_of_mem`), and that an address
outside it reads what it read before (`copy_of_not_mem`).

On top of that sits the little-endian layer: `readNat` is the value of `w` bytes
at an address, `writeNat` stores one.  `readNat_writeNat` is the round trip,
`readNat_copy_of_disjoint` the frame rule, and `readNat_copy_inside` says that a
value laid out in a block is found again where the block was copied to.
-/

namespace ByteMemory

abbrev Byte := BitVec 8

abbrev Memory := ℕ → Byte

/-- The blocks `[a, a + n)` and `[b, b + k)` have no address in common. -/
def Disjoint (a n b k : ℕ) : Prop := a + n ≤ b ∨ b + k ≤ a

/-- `n` bytes of `source` copied to address `a`. -/
def copy (m : Memory) (a n : ℕ) (source : Memory) : Memory :=
  fun i => if a ≤ i ∧ i < a + n then source (i - a) else m i

/-- The little-endian value of the `w` bytes at `a`. -/
def readNat (m : Memory) (a : ℕ) : ℕ → ℕ
  | 0 => 0
  | w + 1 => (m a).toNat + 256 * readNat m (a + 1) w

/-- Byte `i` of the little-endian representation of `v`. -/
def byteOf (v : ℕ) : Memory := fun i => BitVec.ofNat 8 (v / 256 ^ i)

/-- The `w` low bytes of `v` stored at `a`. -/
def writeNat (m : Memory) (a w v : ℕ) : Memory := copy m a w (byteOf v)

/-- `n` zero bytes at `a`. -/
def zero (m : Memory) (a n : ℕ) : Memory := copy m a n fun _ => 0

/-! ## Blocks -/

theorem Disjoint.symm {a n b k : ℕ} (h : Disjoint a n b k) : Disjoint b k a n := Or.symm h

theorem Disjoint.mono {a n b k a' n' b' k' : ℕ} (h : Disjoint a n b k)
    (ha : a ≤ a') (hn : a' + n' ≤ a + n) (hb : b ≤ b') (hk : b' + k' ≤ b + k) :
    Disjoint a' n' b' k' := by
  unfold Disjoint at h ⊢
  omega

@[simp] theorem copy_of_mem (m source : Memory) {a n i : ℕ} (hlow : a ≤ i) (hhigh : i < a + n) :
    copy m a n source i = source (i - a) := by
  simp [copy, hlow, hhigh]

theorem copy_of_not_mem (m source : Memory) {a n i : ℕ} (h : i < a ∨ a + n ≤ i) :
    copy m a n source i = m i := by
  unfold copy
  rw [if_neg (by omega)]

/-! ## Reading -/

/-- A read depends only on the bytes it covers. -/
theorem readNat_congr {m m' : Memory} {w : ℕ} :
    ∀ {a : ℕ}, (∀ i, a ≤ i → i < a + w → m i = m' i) → readNat m a w = readNat m' a w := by
  induction w with
  | zero => intro a _; rfl
  | succ w ih =>
      intro a h
      have htail : readNat m (a + 1) w = readNat m' (a + 1) w :=
        ih fun i hlow hhigh => h i (by omega) (by omega)
      simp only [readNat, h a le_rfl (by omega), htail]

theorem readNat_one (m : Memory) (a : ℕ) : readNat m a 1 = (m a).toNat := rfl

/-- A value is at least what its last byte stands for. -/
theorem readNat_ge_last (m : Memory) (w : ℕ) :
    ∀ a, 256 ^ w * (m (a + w)).toNat ≤ readNat m a (w + 1) := by
  induction w with
  | zero => exact fun a => Nat.le_of_eq (Nat.one_mul _)
  | succ w ih =>
      intro a
      have hshift : a + 1 + w = a + (w + 1) := by omega
      have hrest := ih (a + 1)
      rw [hshift] at hrest
      calc 256 ^ (w + 1) * (m (a + (w + 1))).toNat
          = 256 * (256 ^ w * (m (a + (w + 1))).toNat) := by rw [pow_succ', Nat.mul_assoc]
        _ ≤ 256 * readNat m (a + 1) (w + 1) := Nat.mul_le_mul_left 256 hrest
        _ ≤ readNat m a (w + 2) := Nat.le_add_left _ _

/-- Larger bytes make larger values. -/
theorem readNat_mono {m m' : Memory} {w : ℕ} :
    ∀ {a : ℕ}, (∀ i, (m i).toNat ≤ (m' i).toNat) → readNat m a w ≤ readNat m' a w := by
  induction w with
  | zero => exact fun _ => Nat.le_refl _
  | succ w ih =>
      intro a h
      exact Nat.add_le_add (h a) (Nat.mul_le_mul_left 256 (ih h))

/-- **Frame rule.**  A read does not see a copy to a disjoint block. -/
theorem readNat_copy_of_disjoint (m source : Memory) {a w b n : ℕ} (h : Disjoint a w b n) :
    readNat (copy m b n source) a w = readNat m a w := by
  apply readNat_congr
  intro i hlow hhigh
  apply copy_of_not_mem
  unfold Disjoint at h
  omega

/-- Shifting the address of a read is shifting the memory. -/
theorem readNat_shift (m : Memory) (b w : ℕ) :
    ∀ a, readNat (fun i => m (b + i)) a w = readNat m (b + a) w := by
  induction w with
  | zero => intro a; rfl
  | succ w ih =>
      intro a
      simp only [readNat, ih (a + 1)]
      rfl

/-- A value laid out in `source` is found again inside a copy of `source`. -/
theorem readNat_copy_inside (m source : Memory) {a w b n : ℕ} (h : a + w ≤ n) :
    readNat (copy m b n source) (b + a) w = readNat source a w := by
  rw [← readNat_shift]
  apply readNat_congr
  intro i _ hhigh
  rw [copy_of_mem _ _ (by omega) (by omega), Nat.add_sub_cancel_left]

/-- A read inside zeroed memory. -/
theorem readNat_zero_inside (m : Memory) {a w b n : ℕ} (h : a + w ≤ n) :
    readNat (zero m b n) (b + a) w = 0 := by
  have hzeros : ∀ w a, readNat (fun _ => 0#8) a w = 0 := by
    intro w
    induction w with
    | zero => intro a; rfl
    | succ w ih => intro a; simp [readNat, ih]
  calc readNat (zero m b n) (b + a) w
      = readNat (fun _ => 0#8) a w := readNat_copy_inside m _ h
    _ = 0 := hzeros w a

/-! ## Reading back what was written -/

theorem byteOf_succ (v i : ℕ) : byteOf v (i + 1) = byteOf (v / 256) i := by
  unfold byteOf
  rw [pow_succ', Nat.div_div_eq_div_mul]

theorem readNat_of_bytes {m : Memory} {w : ℕ} :
    ∀ {a v : ℕ}, (∀ i, i < w → m (a + i) = byteOf v i) → readNat m a w = v % 256 ^ w := by
  induction w with
  | zero => intro a v _; simp [readNat, Nat.mod_one]
  | succ w ih =>
      intro a v h
      have hhead : (m a).toNat = v % 256 := by
        have := h 0 (by omega)
        rw [Nat.add_zero] at this
        simp [this, byteOf]
      have htail : readNat m (a + 1) w = v / 256 % 256 ^ w := by
        apply ih
        intro i hi
        rw [← byteOf_succ, ← h (i + 1) (by omega)]
        congr 1
        omega
      calc readNat m a (w + 1)
          = v % 256 + 256 * (v / 256 % 256 ^ w) := by rw [readNat, hhead, htail]
        _ = v % 256 ^ (w + 1) := by rw [pow_succ', Nat.mod_mul]

theorem readNat_byteOf (v w : ℕ) : readNat (byteOf v) 0 w = v % 256 ^ w :=
  readNat_of_bytes fun i _ => by rw [Nat.zero_add]

/-- **Round trip.**  What was stored is read back, up to the width of the field. -/
@[simp] theorem readNat_writeNat (m : Memory) (a w v : ℕ) :
    readNat (writeNat m a w v) a w = v % 256 ^ w := by
  calc readNat (writeNat m a w v) a w
      = readNat (copy m a w (byteOf v)) (a + 0) w := rfl
    _ = readNat (byteOf v) 0 w := readNat_copy_inside m (byteOf v) (by omega)
    _ = v % 256 ^ w := readNat_byteOf v w

theorem readNat_writeNat_of_lt (m : Memory) {a w v : ℕ} (h : v < 256 ^ w) :
    readNat (writeNat m a w v) a w = v := by
  rw [readNat_writeNat, Nat.mod_eq_of_lt h]

theorem readNat_writeNat_of_disjoint (m : Memory) {a w b k : ℕ} (v : ℕ)
    (h : Disjoint a w b k) : readNat (writeNat m b k v) a w = readNat m a w :=
  readNat_copy_of_disjoint m _ h

end ByteMemory
