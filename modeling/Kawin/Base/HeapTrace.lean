import Mathlib.Data.List.Induction
import Mathlib.Data.Nat.Notation

/-!
# Traces of a heap

What a program does to the blocks of a heap, newest event first: it frees them, and it uses them
on various occasions.  A trace is `SafeOn P` if no use on an occasion in `P` comes after the block
has been freed.  A block that is handed out again after it was freed is a new block: a program
that numbers its blocks in the order of their allocation cannot confuse the two.
-/

namespace HeapTrace

variable {Occasion Block : Type*}

inductive Event (Occasion Block : Type*)
  | free (block : Block)
  | use (occasion : Occasion) (block : Block)
  deriving DecidableEq

/-- The events so far, newest first. -/
abbrev Trace (Occasion Block : Type*) := List (Event Occasion Block)

def Freed (trace : Trace Occasion Block) (block : Block) : Prop := .free block ∈ trace

/-- Using the block of each list, one after the other. -/
def uses (occasion : Occasion) (blocks : List Block) : Trace Occasion Block :=
  blocks.reverse.map (.use occasion)

/-- The later event is no use, on an occasion in `P`, of the block that the earlier one frees. -/
def Respects (P : Occasion → Prop) : Event Occasion Block → Event Occasion Block → Prop
  | .use occasion block, .free other => P occasion → block ≠ other
  | _, _ => True

instance [DecidableEq Block] (P : Occasion → Prop) [DecidablePred P] :
    DecidableRel (@Respects Occasion Block P)
  | .use _ _, .free _ => inferInstanceAs (Decidable (_ → _))
  | .use _ _, .use _ _ | .free _, _ => .isTrue trivial

/-- No use on an occasion in `P` follows the freeing of its block. -/
def SafeOn (P : Occasion → Prop) (trace : Trace Occasion Block) : Prop :=
  trace.Pairwise (Respects P)

instance [DecidableEq Block] (P : Occasion → Prop) [DecidablePred P]
    (trace : Trace Occasion Block) : Decidable (SafeOn P trace) :=
  inferInstanceAs (Decidable (List.Pairwise _ _))

variable {P : Occasion → Prop} {trace : Trace Occasion Block} {occasion : Occasion}
  {block other : Block} {blocks : List Block}

theorem not_freed_nil : ¬ Freed ([] : Trace Occasion Block) block := List.not_mem_nil

theorem freed_free_cons :
    Freed (.free other :: trace) block ↔ block = other ∨ Freed trace block := by
  simp [Freed]

theorem freed_use_cons : Freed (.use occasion other :: trace) block ↔ Freed trace block := by
  simp [Freed]

theorem freed_uses_append : Freed (uses occasion blocks ++ trace) block ↔ Freed trace block := by
  simp [Freed, uses]

theorem freed_append {later : Trace Occasion Block} :
    Freed (later ++ trace) block ↔ Freed later block ∨ Freed trace block := List.mem_append

theorem safeOn_nil : SafeOn P ([] : Trace Occasion Block) := List.Pairwise.nil

theorem safeOn_free_cons : SafeOn P (.free block :: trace) ↔ SafeOn P trace := by
  simp [SafeOn, Respects]

theorem safeOn_use_cons :
    SafeOn P (.use occasion block :: trace) ↔
      (P occasion → ¬ Freed trace block) ∧ SafeOn P trace := by
  rw [SafeOn, List.pairwise_cons, ← SafeOn]
  refine and_congr_left fun _ => ⟨fun h hP hfreed => h _ hfreed hP rfl, ?_⟩
  intro h event hmem
  cases event with
  | free other =>
      rintro hP rfl
      exact h hP hmem
  | use => trivial

theorem safeOn_uses_append :
    SafeOn P (uses occasion blocks ++ trace) ↔
      (P occasion → ∀ block ∈ blocks, ¬ Freed trace block) ∧ SafeOn P trace := by
  induction blocks using List.reverseRecOn with
  | nil => simp [uses]
  | append_singleton blocks block ih =>
      have huses : uses occasion (blocks ++ [block]) ++ trace =
          .use occasion block :: (uses occasion blocks ++ trace) := by
        simp [uses]
      rw [huses, safeOn_use_cons, ih, freed_uses_append]
      simp only [List.mem_append, List.mem_singleton, or_imp, forall_and, forall_eq]
      tauto

/-- A trace was safe at any earlier time. -/
theorem SafeOn.of_append {later : Trace Occasion Block} (h : SafeOn P (later ++ trace)) :
    SafeOn P trace := (List.pairwise_append.mp h).2.1

/-- Where nothing is freed everything is safe. -/
theorem safeOn_of_not_freed (h : ∀ block, ¬ Freed trace block) : SafeOn P trace := by
  induction trace with
  | nil => exact safeOn_nil
  | cons event past ih =>
      have hpast := ih fun block hfreed => h block (List.mem_cons_of_mem event hfreed)
      cases event with
      | free block => exact absurd List.mem_cons_self (h block)
      | use occasion block =>
          exact safeOn_use_cons.mpr ⟨fun _ hfreed => h block (freed_use_cons.mpr hfreed), hpast⟩

end HeapTrace
