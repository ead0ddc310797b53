import Mathlib.Data.List.Basic
import Mathlib.Logic.Function.Iterate

/-!
# Bounded queues that can be closed

What a bounded FIFO queue is for: `offer` appends an item unless the queue is full or closed,
`take` removes the oldest one, `close` ends the offers for good, `clear` empties the queue.

A `History` is a log of calls with their results, newest first, that the queue can produce.
What a client may rely on are facts about every history: nothing is lost, repeated or
reordered (`History.conserved`), a pop returns the oldest item there is
(`History.popped`), and nothing is accepted after a close (`History.accepted_open`).
-/

namespace BoundedFifo

variable {T : Type*}

structure Fifo (T : Type*) where
  content : List T
  closed : Bool
  deriving DecidableEq

/-- A call and its result. -/
inductive Event (T : Type*)
  | push (item : T) (accepted : Bool)
  | pop (result : Option T)
  | close
  | clear (items : List T)

namespace Fifo

def empty : Fifo T := ⟨[], false⟩

/-- The queue accepts an item. -/
def accepts (capacity : ℕ) (q : Fifo T) : Bool :=
  !q.closed && decide (q.content.length < capacity)

def offer (capacity : ℕ) (q : Fifo T) (item : T) : Bool × Fifo T :=
  if q.accepts capacity then (true, { q with content := q.content ++ [item] }) else (false, q)

def take (q : Fifo T) : Option T × Fifo T := (q.content.head?, { q with content := q.content.tail })

def close (q : Fifo T) : Fifo T := { q with closed := true }

def clear (q : Fifo T) : Fifo T := { q with content := [] }

/-- The queue performs the call, with this result, and becomes `q'`. -/
def Does (capacity : ℕ) (q : Fifo T) : Event T → Fifo T → Prop
  | .push item accepted, q' => q.offer capacity item = (accepted, q')
  | .pop result, q' => q.take = (result, q')
  | .close, q' => q.close = q'
  | .clear items, q' => q.content = items ∧ q.clear = q'

variable {capacity : ℕ} {q : Fifo T} {item : T}

theorem offer_of_accepts (h : q.accepts capacity = true) :
    q.offer capacity item = (true, { q with content := q.content ++ [item] }) := by
  rw [offer, if_pos h]

theorem offer_of_not_accepts (h : q.accepts capacity = false) :
    q.offer capacity item = (false, q) := by
  rw [offer, h, if_neg (by simp)]

@[simp] theorem offer_fst : (q.offer capacity item).1 = q.accepts capacity := by
  cases h : q.accepts capacity with
  | false => rw [offer_of_not_accepts h]
  | true => rw [offer_of_accepts h]

@[simp] theorem offer_closed : (q.offer capacity item).2.closed = q.closed := by
  cases h : q.accepts capacity with
  | false => rw [offer_of_not_accepts h]
  | true => rw [offer_of_accepts h]

theorem accepts_iff :
    q.accepts capacity = true ↔ q.closed = false ∧ q.content.length < capacity := by
  simp [accepts]

/-- Taking as often as there are items returns the items. -/
theorem take_after (n : ℕ) : (((fun q : Fifo T => q.take.2)^[n]) q).content = q.content.drop n := by
  induction n generalizing q with
  | zero => rfl
  | succ n ih =>
      rw [Function.iterate_succ_apply, ih, take, List.drop_tail]

/-- An accepted item is returned once the items before it are taken. -/
theorem take_of_accepts (h : q.accepts capacity = true) :
    (((fun q : Fifo T => q.take.2)^[q.content.length]) (q.offer capacity item).2).take.1 =
      some item := by
  rw [offer_of_accepts h, take, take_after, List.drop_left]
  rfl

end Fifo

/-! ## One call -/

/-- The item that a call added. -/
def Event.added : Event T → List T
  | .push item true => [item]
  | .push _ false | .pop _ | .close | .clear _ => []

/-- The items that a call removed. -/
def Event.removed : Event T → List T
  | .pop (some item) => [item]
  | .clear items => items
  | .push _ _ | .pop none | .close => []

namespace Fifo

variable {capacity : ℕ} {q q' : Fifo T} {event : Event T}

/-- Whether or not the item is accepted. -/
theorem Does.push_cases {item : T} {accepted : Bool}
    (hdoes : q.Does capacity (.push item accepted) q') :
    (accepted = true ∧ q.accepts capacity = true ∧
        q' = { q with content := q.content ++ [item] }) ∨
      (accepted = false ∧ q' = q) := by
  cases haccepts : q.accepts capacity with
  | false =>
      have hboth := (offer_of_not_accepts haccepts).symm.trans hdoes
      exact Or.inr ⟨(congrArg Prod.fst hboth).symm, (congrArg Prod.snd hboth).symm⟩
  | true =>
      have hboth := (offer_of_accepts haccepts).symm.trans hdoes
      exact Or.inl ⟨(congrArg Prod.fst hboth).symm, rfl, (congrArg Prod.snd hboth).symm⟩

theorem Does.length_le (hdoes : q.Does capacity event q') (h : q.content.length ≤ capacity) :
    q'.content.length ≤ capacity := by
  cases event with
  | push item accepted =>
      rcases hdoes.push_cases with ⟨-, haccepts, rfl⟩ | ⟨-, rfl⟩
      · have hroom := (accepts_iff.mp haccepts).2
        rw [List.length_append, List.length_singleton]
        omega
      · exact h
  | pop result =>
      cases hdoes
      have hle : q.content.tail.length ≤ q.content.length := by
        rw [List.length_tail]
        exact Nat.sub_le _ 1
      exact Nat.le_trans hle h
  | close =>
      cases hdoes
      exact h
  | clear items =>
      obtain ⟨_, rfl⟩ := hdoes
      exact Nat.zero_le _

/-- A call removes from the front and adds at the back. -/
theorem Does.added_removed (hdoes : q.Does capacity event q') :
    event.removed ++ q'.content = q.content ++ event.added := by
  cases event with
  | push item accepted =>
      rcases hdoes.push_cases with ⟨rfl, -, rfl⟩ | ⟨rfl, rfl⟩
      · exact List.nil_append _
      · exact (List.append_nil _).symm
  | pop result =>
      cases hdoes
      cases hcontent : q.content with
      | nil => simp [Event.added, Event.removed]
      | cons item rest => simp [Event.added, Event.removed]
  | close =>
      cases hdoes
      exact (List.append_nil _).symm
  | clear items =>
      obtain ⟨rfl, rfl⟩ := hdoes
      rfl

theorem Does.closed_iff (hdoes : q.Does capacity event q') :
    q'.closed = true ↔ q.closed = true ∨ event = .close := by
  cases event with
  | push item accepted =>
      rcases hdoes.push_cases with ⟨-, -, rfl⟩ | ⟨-, rfl⟩
      · simp
      · simp
  | pop result =>
      cases hdoes
      simp
  | close =>
      cases hdoes
      simp [close]
  | clear items =>
      obtain ⟨_, rfl⟩ := hdoes
      simp [clear]

end Fifo

open Fifo

/-! ## Histories -/

/-- The items accepted so far, oldest first. -/
def pushed : List (Event T) → List T
  | [] => []
  | event :: log => pushed log ++ event.added

/-- The items popped or cleared so far, oldest first. -/
def taken : List (Event T) → List T
  | [] => []
  | event :: log => taken log ++ event.removed

/-- The items accepted and not taken yet. -/
def remaining (log : List (Event T)) : List T := (pushed log).drop (taken log).length

theorem pushed_append (newer older : List (Event T)) :
    pushed (newer ++ older) = pushed older ++ pushed newer := by
  induction newer with
  | nil => exact (List.append_nil _).symm
  | cons event newer ih => rw [List.cons_append, pushed, ih, pushed, List.append_assoc]

theorem taken_append (newer older : List (Event T)) :
    taken (newer ++ older) = taken older ++ taken newer := by
  induction newer with
  | nil => exact (List.append_nil _).symm
  | cons event newer ih => rw [List.cons_append, taken, ih, taken, List.append_assoc]

theorem pushed_eq_nil {log : List (Event T)} (h : ∀ event ∈ log, event.added = []) :
    pushed log = [] := by
  induction log with
  | nil => rfl
  | cons event log ih =>
      rw [List.forall_mem_cons] at h
      rw [pushed, ih h.2, h.1, List.append_nil]

/-- The log, newest call first, of a queue that was empty and open at the beginning. -/
inductive History (capacity : ℕ) : List (Event T) → Fifo T → Prop
  | nil : History capacity [] .empty
  | cons {log : List (Event T)} {q q' : Fifo T} {event : Event T} (history : History capacity log q)
      (hdoes : q.Does capacity event q') : History capacity (event :: log) q'

namespace History

variable {capacity : ℕ} {q q' : Fifo T} {log newer older : List (Event T)} {event : Event T}

theorem bounded (h : History capacity log q) : q.content.length ≤ capacity := by
  induction h with
  | nil => exact Nat.zero_le _
  | cons history hdoes ih => exact hdoes.length_le ih

/-- **Conservation.**  What was taken, followed by what is there, is what was accepted. -/
theorem conserved (h : History capacity log q) : taken log ++ q.content = pushed log := by
  induction h with
  | nil => rfl
  | @cons log q q' event history hdoes ih =>
      calc taken log ++ event.removed ++ q'.content
          = taken log ++ (q.content ++ event.added) := by
            rw [List.append_assoc, hdoes.added_removed]
        _ = pushed log ++ event.added := by rw [← List.append_assoc, ih]

theorem remaining_eq (h : History capacity log q) : remaining log = q.content := by
  rw [remaining, ← h.conserved, List.drop_left]

/-- The queue is closed exactly if it was closed at some time. -/
theorem closed_iff (h : History capacity log q) : q.closed = true ↔ Event.close ∈ log := by
  induction h with
  | nil => exact iff_of_false Bool.false_ne_true List.not_mem_nil
  | cons history hdoes ih => rw [hdoes.closed_iff, ih, List.mem_cons, or_comm, eq_comm]

/-- The queue as it was before the newer calls. -/
theorem before (h : History capacity (newer ++ log) q) : ∃ q₀, History capacity log q₀ := by
  induction newer generalizing q with
  | nil => exact ⟨q, h⟩
  | cons event newer ih =>
      cases h with
      | cons history _ => exact ih history

/-- The step of a history at one of its calls. -/
theorem at_call (h : History capacity (newer ++ event :: older) q) :
    ∃ q₀ q₁, History capacity older q₀ ∧ q₀.Does capacity event q₁ := by
  obtain ⟨q₁, h₁⟩ := h.before
  cases h₁ with
  | cons history hdoes => exact ⟨_, q₁, history, hdoes⟩

/-- A pop returns the oldest of the remaining items, and nothing only if none remains. -/
theorem popped {result : Option T} (h : History capacity (newer ++ .pop result :: older) q) :
    result = (remaining older).head? := by
  obtain ⟨q₀, q₁, history, hdoes⟩ := h.at_call
  rw [history.remaining_eq]
  exact (congrArg Prod.fst hdoes).symm

/-- Nothing is accepted after a close. -/
theorem accepted_open {item : T} (h : History capacity (newer ++ .push item true :: older) q) :
    Event.close ∉ older := by
  obtain ⟨q₀, q₁, history, hdoes⟩ := h.at_call
  have haccepts : q₀.accepts capacity = true := offer_fst.symm.trans (congrArg Prod.fst hdoes)
  rw [← history.closed_iff, (accepts_iff.mp haccepts).1]
  simp

/-- **Draining.**  What remained at a close was taken since then, in order, or is still there. -/
theorem remaining_at_close (h : History capacity (newer ++ .close :: older) q) :
    remaining older = taken newer ++ q.content := by
  have hnone : ∀ event ∈ newer, event.added = [] := by
    intro event hmem
    obtain ⟨later, earlier, rfl⟩ := List.append_of_mem hmem
    cases event with
    | push item accepted =>
        cases accepted with
        | false => rfl
        | true =>
            rw [List.append_assoc, List.cons_append] at h
            exact absurd (List.mem_append_right _ List.mem_cons_self) h.accepted_open
    | _ => rfl
  have hall : taken older ++ (taken newer ++ q.content) = pushed older := by
    have hconserved := h.conserved
    rw [taken_append, pushed_append, pushed_eq_nil hnone, List.append_nil] at hconserved
    simpa [taken, pushed, Event.added, Event.removed] using hconserved
  rw [remaining, ← hall, List.drop_left]

end History

end BoundedFifo
