import Mathlib.Data.Int.Notation
import Mathlib.Data.List.Basic

/-!
# Counted references

Objects are counted.  A caller acquires references to them and releases them again, and a slot to
which an object is attached has a reference of its own.

Whatever a caller does, the count of an object is what the slots have and the caller has acquired
and not released (`count_run`).  So from a table with exact counts, the count never falls below
the references actually held just if the caller never releases what it does not hold
(`neverBelow_iff`).  `settle` replays what the caller holds; where it ends with nothing, each
reference was released once (`Balanced.of_settle`).
-/

namespace References

inductive Op (Slot Object : Type*)
  | acquire (object : Object)
  | release (object : Object)
  | attach (slot : Slot) (object : Object)
  | detach (slot : Slot)

structure Table (Slot Object : Type*) where
  count : Object → ℤ
  attached : List (Slot × Object)

variable {Slot Object : Type*} [DecidableEq Slot] [DecidableEq Object]

namespace Table

variable (t : Table Slot Object)

/-- The references of the slots. -/
def attachments (object : Object) : ℕ := t.attached.countP fun entry => entry.2 = object

/-- The part of the count that no slot has. -/
def unattached (object : Object) : ℤ := t.count object - t.attachments object

/-- What is attached to the slot. -/
def lookup (slot : Slot) : Option Object := t.attached.lookup slot

/-- The slot gives up its reference. -/
def detach (slot : Slot) : Table Slot Object where
  count object := t.count object -
    (t.attached.countP fun entry => entry.1 = slot ∧ entry.2 = object : ℕ)
  attached := t.attached.filter fun entry => entry.1 ≠ slot

def add (object : Object) (n : ℤ) : Object → ℤ :=
  Function.update t.count object (t.count object + n)

/-- An attached object replaces what was attached before. -/
def apply : Op Slot Object → Table Slot Object
  | .acquire object => { t with count := t.add object 1 }
  | .release object => { t with count := t.add object (-1) }
  | .attach slot object =>
      { count := (t.detach slot).add object 1
        attached := (slot, object) :: (t.detach slot).attached }
  | .detach slot => t.detach slot

def run (ops : List (Op Slot Object)) : Table Slot Object := ops.foldl apply t

/-- Every reference counted is one that a slot has. -/
def Exact : Prop := ∀ object, t.unattached object = 0

end Table

/-- How often the caller acquires the object. -/
def acquired (object : Object) : List (Op Slot Object) → ℕ
  | [] => 0
  | .acquire object' :: ops => acquired object ops + if object' = object then 1 else 0
  | .release _ :: ops | .attach _ _ :: ops | .detach _ :: ops => acquired object ops

/-- How often the caller releases the object. -/
def released (object : Object) : List (Op Slot Object) → ℕ
  | [] => 0
  | .release object' :: ops => released object ops + if object' = object then 1 else 0
  | .acquire _ :: ops | .attach _ _ :: ops | .detach _ :: ops => released object ops

/-- No count ever falls below the references held by the slots and the caller. -/
def NeverBelow (t : Table Slot Object) (ops : List (Op Slot Object)) : Prop :=
  ∀ first, first <+: ops → ∀ object,
    (((t.run first).attachments object + (acquired object first - released object first) : ℕ) : ℤ) ≤
      (t.run first).count object

/-- Every reference is released exactly once. -/
structure Balanced (t : Table Slot Object) (ops : List (Op Slot Object)) : Prop where
  once : ∀ object, acquired object ops = released object ops
  neverBelow : NeverBelow t ops

/-- What the caller holds after the operations, if it holds all that it releases. -/
def settle : List Object → List (Op Slot Object) → Option (List Object)
  | held, [] => some held
  | held, .acquire object :: ops => settle (held ++ [object]) ops
  | held, .release object :: ops =>
      if object ∈ held then settle (held.erase object) ops else none
  | held, .attach _ _ :: ops | held, .detach _ :: ops => settle held ops

/-! ## Counts -/

section

variable {t : Table Slot Object} {ops : List (Op Slot Object)}

theorem countP_filter_ne (slot : Slot) (object : Object) (entries : List (Slot × Object)) :
    (entries.filter fun entry => entry.1 ≠ slot).countP (fun entry => entry.2 = object) +
      entries.countP (fun entry => entry.1 = slot ∧ entry.2 = object) =
        entries.countP fun entry => entry.2 = object := by
  induction entries with
  | nil => rfl
  | cons entry entries ih =>
      by_cases hslot : entry.1 = slot <;> by_cases hobject : entry.2 = object
      all_goals simp [hslot, hobject] at ih ⊢; omega

/-- A slot that gives up its reference changes nothing for anyone else. -/
theorem unattached_detach (slot : Slot) (object : Object) :
    (t.detach slot).unattached object = t.unattached object := by
  have := countP_filter_ne slot object t.attached
  simp only [Table.unattached, Table.attachments, Table.detach]
  omega

omit [DecidableEq Slot] in
theorem add_apply (object object' : Object) (n : ℤ) :
    t.add object n object' = t.count object' + if object = object' then n else 0 := by
  rw [Table.add, Function.update_apply]
  by_cases heq : object = object'
  · rw [if_pos heq.symm, if_pos heq, heq]
  · rw [if_neg (Ne.symm heq), if_neg heq, Int.add_zero]

/-- Only the caller changes the part of the count that no slot has. -/
theorem unattached_apply (op : Op Slot Object) (object : Object) :
    (t.apply op).unattached object =
      t.unattached object + acquired object [op] - released object [op] := by
  cases op with
  | acquire object' =>
      simp only [Table.unattached, Table.apply, add_apply, Table.attachments, acquired, released]
      split <;> omega
  | release object' =>
      simp only [Table.unattached, Table.apply, add_apply, Table.attachments, acquired, released]
      split <;> omega
  | attach slot object' =>
      have := unattached_detach (t := t) slot object
      simp only [Table.unattached, Table.apply, add_apply, Table.attachments, acquired, released,
        List.countP_cons, decide_eq_true_eq] at this ⊢
      split <;> omega
  | detach slot => simp [Table.apply, unattached_detach, acquired, released]

omit [DecidableEq Slot] in
theorem acquired_cons (object : Object) (op : Op Slot Object) (ops : List (Op Slot Object)) :
    acquired object (op :: ops) = acquired object [op] + acquired object ops := by
  cases op <;> simp [acquired, Nat.add_comm]

omit [DecidableEq Slot] in
theorem released_cons (object : Object) (op : Op Slot Object) (ops : List (Op Slot Object)) :
    released object (op :: ops) = released object [op] + released object ops := by
  cases op <;> simp [released, Nat.add_comm]

theorem unattached_run (object : Object) : (t.run ops).unattached object =
    t.unattached object + acquired object ops - released object ops := by
  induction ops generalizing t with
  | nil => simp [Table.run, acquired, released]
  | cons op ops ih =>
      have hrest := ih (t := t.apply op)
      have hop := unattached_apply (t := t) op object
      have hacquired := acquired_cons object op ops
      have hreleased := released_cons object op ops
      rw [Table.run, List.foldl_cons, ← Table.run]
      omega

theorem neverBelow_iff (h : t.Exact) : NeverBelow t ops ↔
    ∀ first, first <+: ops → ∀ object, released object first ≤ acquired object first := by
  refine forall₂_congr fun first _ => forall_congr' fun object => ?_
  have hcount : (t.run first).unattached object =
      t.unattached object + acquired object first - released object first := unattached_run object
  have hexact := h object
  simp only [Table.unattached] at hcount hexact
  omega

omit [DecidableEq Slot] in
theorem count_settle {held rest : List Object} (h : settle held ops = some rest)
    (object : Object) :
    held.count object + acquired object ops = released object ops + rest.count object := by
  induction ops generalizing held with
  | nil =>
      cases h
      simp [acquired, released]
  | cons op ops ih =>
      cases op with
      | acquire object' =>
          have hrest := ih h
          simp only [List.count_append, List.count_singleton, beq_iff_eq] at hrest
          simp only [acquired, released]
          omega
      | release object' =>
          obtain ⟨hmem, h⟩ : object' ∈ held ∧ settle (held.erase object') ops = some rest := by
            simpa [settle] using h
          have hrest := ih h
          have hpos : 0 < held.count object' := List.count_pos_iff.mpr hmem
          simp only [List.count_erase, beq_iff_eq] at hrest
          simp only [acquired, released]
          split at hrest
          · next heq => cases heq; simp; omega
          · next hne => simp [hne]; omega
      | attach slot object' => exact ih h
      | detach slot => exact ih h

omit [DecidableEq Slot] in
theorem settle_of_prefix {held rest : List Object} {first : List (Op Slot Object)}
    (h : settle held ops = some rest) (hfirst : first <+: ops) :
    ∃ rest', settle held first = some rest' := by
  induction ops generalizing held first with
  | nil =>
      cases List.prefix_nil.mp hfirst
      exact ⟨rest, h⟩
  | cons op ops ih =>
      obtain rfl | ⟨first', rfl, hfirst'⟩ := List.prefix_cons_iff.mp hfirst
      · exact ⟨held, rfl⟩
      cases op with
      | acquire object =>
          have hrest := ih h hfirst'
          exact hrest
      | release object =>
          obtain ⟨hmem, h⟩ : object ∈ held ∧ settle (held.erase object) ops = some rest := by
            simpa [settle] using h
          have hrest := ih h hfirst'
          simpa [settle, hmem] using hrest
      | attach slot object =>
          have hrest := ih h hfirst'
          exact hrest
      | detach slot =>
          have hrest := ih h hfirst'
          exact hrest

/-- **Balance.**  A caller that releases only what it holds, and in the end holds nothing, released
every reference once. -/
theorem Balanced.of_settle (ht : t.Exact) (h : settle [] ops = some []) : Balanced t ops where
  once object := by simpa using count_settle h object
  neverBelow := by
    refine (neverBelow_iff ht).mpr fun first hfirst object => ?_
    obtain ⟨rest, hrest⟩ := settle_of_prefix h hfirst
    have := count_settle hrest object
    simp at this
    omega

/-- After a balanced call the slots have all references again. -/
theorem Table.Exact.run (ht : t.Exact) (h : ∀ object, acquired object ops = released object ops) :
    (t.run ops).Exact := by
  intro object
  rw [unattached_run, ht object, h object]
  omega

end

end References
