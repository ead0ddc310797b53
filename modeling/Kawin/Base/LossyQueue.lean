import Mathlib.Data.List.Basic

/-!
# Queues whose consumer may give an item up

Items are put in at the back of the queue and leave it at the front, one at a time: the consumer
gets an item or gives it up.  `Explains notes queue` says that a queue that was empty at first has
done what the notes say and now holds `queue`.

Whatever the consumer gives up, what it gets was put in, in the same order and no item twice
(`Explains.gots_sublist`); and if it gives up nothing it has got all but what the queue still holds
(`Explains.gots_append`).
-/

namespace LossyQueue

variable {T : Type*}

/-- What a queue has done. -/
inductive Note (T : Type*)
  | put (item : T)
  | got (item : T)
  /-- the item at the front was given up -/
  | lost

/-- The notes, oldest first, are those of a queue that was empty and now holds `queue`. -/
inductive Explains : List (Note T) → List T → Prop
  | nil : Explains [] []
  | put {notes : List (Note T)} {queue : List T} (h : Explains notes queue) (item : T) :
      Explains (notes ++ [.put item]) (queue ++ [item])
  | got {notes : List (Note T)} {item : T} {queue : List T} (h : Explains notes (item :: queue)) :
      Explains (notes ++ [.got item]) queue
  | lost {notes : List (Note T)} {item : T} {queue : List T} (h : Explains notes (item :: queue)) :
      Explains (notes ++ [.lost]) queue

def Note.put? : Note T → Option T
  | .put item => some item
  | .got _ | .lost => none

def Note.got? : Note T → Option T
  | .got item => some item
  | .put _ | .lost => none

def Note.isLost : Note T → Bool
  | .lost => true
  | .put _ | .got _ => false

/-- The items put in, in order. -/
def puts (notes : List (Note T)) : List T := notes.filterMap Note.put?

/-- The items got, in order. -/
def gots (notes : List (Note T)) : List T := notes.filterMap Note.got?

/-- How many items were given up. -/
def losses (notes : List (Note T)) : ℕ := notes.countP Note.isLost

variable {notes : List (Note T)} {queue : List T} {item : T}

@[simp] theorem puts_put : puts (notes ++ [.put item]) = puts notes ++ [item] := by
  simp [puts, Note.put?]

@[simp] theorem puts_got : puts (notes ++ [.got item]) = puts notes := by
  simp [puts, Note.put?]

@[simp] theorem puts_lost : puts (notes ++ [.lost]) = puts notes := by
  simp [puts, Note.put?]

@[simp] theorem gots_put : gots (notes ++ [.put item]) = gots notes := by
  simp [gots, Note.got?]

@[simp] theorem gots_got : gots (notes ++ [.got item]) = gots notes ++ [item] := by
  simp [gots, Note.got?]

@[simp] theorem gots_lost : gots (notes ++ [.lost]) = gots notes := by
  simp [gots, Note.got?]

@[simp] theorem losses_put : losses (notes ++ [.put item]) = losses notes := by
  simp [losses, Note.isLost]

@[simp] theorem losses_got : losses (notes ++ [.got item]) = losses notes := by
  simp [losses, Note.isLost]

@[simp] theorem losses_lost : losses (notes ++ [.lost]) = losses notes + 1 := by
  simp [losses, Note.isLost]

namespace Explains

/-- What was got, and then what the queue holds, was put in in this order. -/
theorem gots_append_sublist (h : Explains notes queue) :
    (gots notes ++ queue).Sublist (puts notes) := by
  induction h with
  | nil => exact List.Sublist.refl _
  | put _ item ih =>
      rw [gots_put, puts_put, ← List.append_assoc]
      exact ih.append_right _
  | got _ ih =>
      rw [gots_got, puts_got, List.append_assoc]
      exact ih
  | @lost notes item queue _ ih =>
      rw [gots_lost, puts_lost]
      exact ((List.sublist_cons_self item queue).append_left _).trans ih

/-- **Order.**  Nothing is got that was not put in, nothing twice, nothing out of turn. -/
theorem gots_sublist (h : Explains notes queue) : (gots notes).Sublist (puts notes) :=
  (List.sublist_append_left _ _).trans h.gots_append_sublist

/-- **Conservation.**  Every item was got, was given up or is still there. -/
theorem length_puts (h : Explains notes queue) :
    (puts notes).length = (gots notes).length + losses notes + queue.length := by
  induction h with
  | nil => rfl
  | put _ item ih =>
      simp only [puts_put, gots_put, losses_put, List.length_append, List.length_singleton]
      omega
  | got _ ih =>
      simp only [puts_got, gots_got, losses_got, List.length_append, List.length_singleton]
      rw [List.length_cons] at ih
      omega
  | lost _ ih =>
      simp only [puts_lost, gots_lost, losses_lost]
      rw [List.length_cons] at ih
      omega

/-- **No loss.**  If no item was given up, the queue is a plain FIFO queue. -/
theorem gots_append (h : Explains notes queue) (hnone : losses notes = 0) :
    gots notes ++ queue = puts notes := by
  have hlength := h.length_puts
  apply h.gots_append_sublist.eq_of_length
  rw [List.length_append]
  omega

end Explains

end LossyQueue
