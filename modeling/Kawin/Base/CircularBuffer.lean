import Kawin.Base.ByteMemory
import Mathlib.Data.Nat.Bitwise
import Mathlib.Data.List.Pairwise

/-!
# Free-running heads over a circular buffer

A circular buffer of `N` bytes is addressed by offsets that only grow: the
producer's head, the consumer's head and the start of every region are natural
numbers, and offset `a` lives at the physical address `a % N`.  The machine keeps
the heads modulo `2 ^ w`; as long as `N` is a power of two below that, the masked
difference of two such heads is the difference of the unwrapped offsets modulo `N`
(`toNat_sub_and_mask`).

`Tiles a rs b` says that the regions `rs` lie end to end between the offsets `a`
and `b`.  Regions of one tiling that spans at most `N` bytes have disjoint
physical blocks (`Tiles.disjoint`), and so does a region behind the tiling that the
producer's head has not reached again (`disjoint_of_le`).
-/

namespace CircularBuffer

open ByteMemory (Disjoint)

/-! ## Heads -/

theorem ofNat_sub_ofNat {w W R : ℕ} (h : R ≤ W) :
    BitVec.ofNat w W - BitVec.ofNat w R = BitVec.ofNat w (W - R) := by
  rw [BitVec.sub_eq_iff_eq_add, ← BitVec.ofNat_add, Nat.sub_add_cancel h]

theorem toNat_and_mask {w k : ℕ} (hk : k ≤ w) (a : ℕ) :
    (BitVec.ofNat w a &&& BitVec.ofNat w (2 ^ k - 1)).toNat = a % 2 ^ k := by
  have hmask : (2 ^ k - 1) % 2 ^ w = 2 ^ k - 1 := by
    apply Nat.mod_eq_of_lt
    have := Nat.pow_le_pow_right (n := 2) (by omega) hk
    have := Nat.two_pow_pos k
    omega
  calc (BitVec.ofNat w a &&& BitVec.ofNat w (2 ^ k - 1)).toNat
      = a % 2 ^ w &&& (2 ^ k - 1) := by
        rw [BitVec.toNat_and, BitVec.toNat_ofNat, BitVec.toNat_ofNat, hmask]
    _ = a % 2 ^ w % 2 ^ k := Nat.and_two_pow_sub_one_eq_mod _ _
    _ = a % 2 ^ k := Nat.mod_mod_of_dvd _ (Nat.pow_dvd_pow 2 hk)

/-- The masked difference of two wrapped heads is the unwrapped difference modulo the
capacity. -/
theorem toNat_sub_and_mask {w k W R : ℕ} (hk : k ≤ w) (h : R ≤ W) :
    ((BitVec.ofNat w W - BitVec.ofNat w R) &&& BitVec.ofNat w (2 ^ k - 1)).toNat =
      (W - R) % 2 ^ k := by
  rw [ofNat_sub_ofNat h, toNat_and_mask hk]

/-! ## Physical blocks -/

/-- Two regions within one lap of each other occupy disjoint blocks. -/
theorem disjoint_of_le {N a n b k : ℕ} (hbehind : a + n ≤ b) (hlap : b + k ≤ a + N) :
    Disjoint (a % N) n (b % N) k := by
  have ha := Nat.div_add_mod a N
  have hb := Nat.div_add_mod b N
  have hlow : a / N ≤ b / N := Nat.div_le_div_right (by omega)
  rcases hlow.eq_or_lt with heq | hlt
  · left
    rw [← heq] at hb
    omega
  · -- the second region is on the next lap
    right
    have hnext : N * (a / N) + N ≤ N * (b / N) := by
      rw [← Nat.mul_succ]
      exact Nat.mul_le_mul_left N hlt
    omega

/-! ## Tilings -/

section Tiles

variable {α : Type*} (start len : α → ℕ)

/-- The regions lie end to end from offset `a` to offset `b`. -/
def Tiles : ℕ → List α → ℕ → Prop
  | a, [], b => a = b
  | a, r :: rs, b => start r = a ∧ Tiles (a + len r) rs b

variable {start len}

theorem Tiles.le {rs : List α} : ∀ {a b : ℕ}, Tiles start len a rs b → a ≤ b := by
  induction rs with
  | nil => exact fun h => Nat.le_of_eq h
  | cons r rs ih => exact fun h => (Nat.le_add_right _ _).trans (ih h.2)

theorem Tiles.snoc {rs : List α} {r : α} : ∀ {a b : ℕ}, Tiles start len a rs b →
    start r = b → Tiles start len a (rs ++ [r]) (b + len r) := by
  induction rs with
  | nil =>
      rintro a b rfl hstart
      exact ⟨hstart, rfl⟩
  | cons q rs ih => exact fun h hstart => ⟨h.1, ih h.2 hstart⟩

/-- A region of a tiling lies between its ends. -/
theorem Tiles.bounds {rs : List α} : ∀ {a b : ℕ}, Tiles start len a rs b →
    ∀ r ∈ rs, a ≤ start r ∧ start r + len r ≤ b := by
  induction rs with
  | nil => exact fun _ r hr => absurd hr (List.not_mem_nil)
  | cons q rs ih =>
      rintro a b ⟨hstart, hrest⟩ r hr
      rcases List.mem_cons.mp hr with rfl | hr
      · exact ⟨hstart.ge, hstart ▸ hrest.le⟩
      · have := ih hrest r hr
        exact ⟨by omega, this.2⟩

/-- Regions of at least `k` bytes bound how many of them fit. -/
theorem Tiles.length_le {k : ℕ} {rs : List α} : ∀ {a b : ℕ}, Tiles start len a rs b →
    (∀ r ∈ rs, k ≤ len r) → a + k * rs.length ≤ b := by
  induction rs with
  | nil => exact fun h _ => Nat.le_of_eq h
  | cons q rs ih =>
      rintro a b ⟨_, hrest⟩ hk
      have hq := hk q (List.mem_cons_self ..)
      have := ih hrest fun r hr => hk r (List.mem_cons_of_mem _ hr)
      rw [List.length_cons, Nat.mul_succ]
      omega

theorem Tiles.pairwise {rs : List α} : ∀ {a b : ℕ}, Tiles start len a rs b →
    rs.Pairwise fun r s => start r + len r ≤ start s := by
  induction rs with
  | nil => exact fun _ => List.Pairwise.nil
  | cons q rs ih =>
      rintro a b ⟨hstart, hrest⟩
      refine List.pairwise_cons.mpr ⟨fun s hs => ?_, ih hrest⟩
      rw [hstart]
      exact (hrest.bounds s hs).1

/-- Regions that tile at most one lap occupy pairwise disjoint blocks. -/
theorem Tiles.disjoint {N : ℕ} {rs : List α} {a b : ℕ} (h : Tiles start len a rs b)
    (hlap : b ≤ a + N) :
    rs.Pairwise fun r s => Disjoint (start r % N) (len r) (start s % N) (len s) := by
  refine h.pairwise.imp_of_mem fun {r s} hr hs hrs => ?_
  have hrb := h.bounds r hr
  have hsb := h.bounds s hs
  exact disjoint_of_le hrs (by omega)

end Tiles

end CircularBuffer
