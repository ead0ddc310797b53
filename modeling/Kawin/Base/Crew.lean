import Mathlib.Algebra.BigOperators.Group.Finset.Basic
import Mathlib.Algebra.Order.BigOperators.Group.Finset
import Mathlib.Logic.Function.Basic
import Mathlib.Tactic.Abel

/-!
# What the members of a crew hold

A crew are the threads of a program, and `crew i` says where thread `i` stands.
`held who share crew` adds up what those in `who` hold: the items in their hands as a multiset, or
how many of them stand at some place.

When one member moves on, the sum changes by what that member holds (`held_update`), and a member
that joins with empty hands leaves it as it is (`held_range_succ`).  So a balance of what came in
and what went out is kept by a move if that one member's part in it is right (`balance_update`).
-/

namespace Crew

open Function

variable {ι Member M : Type*} [DecidableEq ι]

section

variable [AddCommMonoid M]

/-- What those in `who` hold. -/
def held (who : Finset ι) (share : Member → M) (crew : ι → Member) : M :=
  ∑ i ∈ who, share (crew i)

variable {who : Finset ι} {i : ι} {share : Member → M} {crew crew' : ι → Member} {member : Member}

omit [DecidableEq ι] in
theorem held_congr (h : ∀ j ∈ who, share (crew' j) = share (crew j)) :
    held who share crew' = held who share crew :=
  Finset.sum_congr rfl h

/-- Member `i` moves on, and all that the others hold stays. -/
theorem held_update (hi : i ∈ who) :
    held who share (update crew i member) + share (crew i) =
      held who share crew + share member := by
  have hrest : ∑ j ∈ who.erase i, share (update crew i member j) =
      ∑ j ∈ who.erase i, share (crew j) := by
    refine Finset.sum_congr rfl fun j hj => ?_
    rw [update_of_ne (Finset.ne_of_mem_erase hj)]
  calc held who share (update crew i member) + share (crew i)
      = share member + ∑ j ∈ who.erase i, share (crew j) + share (crew i) := by
        rw [held, ← Finset.add_sum_erase _ _ hi, update_self, hrest]
    _ = share (crew i) + ∑ j ∈ who.erase i, share (crew j) + share member := by abel
    _ = held who share crew + share member := by rw [held, ← Finset.add_sum_erase _ _ hi]

/-- A member that moves on with what it had leaves the sum as it is. -/
theorem held_update_of_eq (h : share member = share (crew i)) :
    held who share (update crew i member) = held who share crew := by
  refine held_congr fun j _ => ?_
  by_cases hj : j = i
  · rw [hj, update_self, h]
  · rw [update_of_ne hj]

omit [DecidableEq ι] in
theorem held_eq_zero (h : ∀ i ∈ who, share (crew i) = 0) : held who share crew = 0 :=
  Finset.sum_eq_zero h

/-- A member joins the crew with empty hands. -/
theorem held_range_succ {n : ℕ} {crew : ℕ → Member} (h : share (crew n) = 0) :
    held (Finset.range (n + 1)) share crew = held (Finset.range n) share crew := by
  rw [held, Finset.sum_range_succ, h, add_zero]
  rfl

end

/-- **Conservation.**  What came in is what went out and what the crew holds; it stays so when a
member moves on, if what comes in then and what the member had is what goes out and what it has. -/
theorem balance_update [AddCancelCommMonoid M] {who : Finset ι} {i : ι} {share : Member → M}
    {crew : ι → Member} {member : Member} {came came' went went' : M} (hi : i ∈ who)
    (h : came = went + held who share crew)
    (hmove : came' + share (crew i) + went = came + share member + went') :
    came' = went' + held who share (update crew i member) := by
  have hheld := @held_update ι Member M _ _ who i share crew member hi
  apply add_right_cancel (b := share (crew i) + went)
  calc came' + (share (crew i) + went) = came + share member + went' := by rw [← add_assoc, hmove]
    _ = went + went' + (held who share crew + share member) := by
        rw [h]
        abel
    _ = went' + held who share (update crew i member) + (share (crew i) + went) := by
        rw [← hheld]
        abel

/-- The same where the move is known by what it leaves alone. -/
theorem balance_of_ne [AddCancelCommMonoid M] {who : Finset ι} {i : ι} {share : Member → M}
    {crew crew' : ι → Member} {came came' went went' : M} (hi : i ∈ who)
    (hne : ∀ j, j ≠ i → crew' j = crew j) (h : came = went + held who share crew)
    (hmove : came' + share (crew i) + went = came + share (crew' i) + went') :
    came' = went' + held who share crew' := by
  have hcrew : crew' = update crew i (crew' i) := by
    funext j
    by_cases hj : j = i
    · rw [hj, update_self]
    · rw [update_of_ne hj, hne j hj]
  rw [hcrew]
  exact balance_update hi h hmove

section

variable {who : Finset ι} {i : ι} {share : Member → ℕ} {crew : ι → Member}

omit [DecidableEq ι] in
/-- Where nobody holds anything, a sum of numbers is zero, and only there. -/
theorem held_eq_zero_iff : held who share crew = 0 ↔ ∀ i ∈ who, share (crew i) = 0 := by
  simp [held]

omit [DecidableEq ι] in
theorem held_le {bound : ℕ} (h : ∀ member, share member ≤ bound) :
    held who share crew ≤ who.card * bound := by
  calc held who share crew ≤ ∑ _i ∈ who, bound := Finset.sum_le_sum fun i _ => h (crew i)
    _ = who.card * bound := by rw [Finset.sum_const, Nat.nsmul_eq_mul]

omit [DecidableEq ι] in
theorem held_const {bound : ℕ} (h : ∀ i ∈ who, share (crew i) = bound) :
    held who share crew = who.card * bound := by
  rw [held, Finset.sum_congr rfl h, Finset.sum_const, Nat.nsmul_eq_mul]

omit [DecidableEq ι] in
/-- Where each share grows by `grows` at most, so does the sum for each of the crew. -/
theorem held_le_held_add {share' : Member → ℕ} {grows : ℕ}
    (h : ∀ member, share' member ≤ share member + grows) :
    held who share' crew ≤ held who share crew + who.card * grows := by
  calc held who share' crew
      ≤ ∑ i ∈ who, (share (crew i) + grows) := Finset.sum_le_sum fun i _ => h (crew i)
    _ = held who share crew + who.card * grows := by
        rw [Finset.sum_add_distrib, Finset.sum_const, Nat.nsmul_eq_mul]
        rfl

end

end Crew
