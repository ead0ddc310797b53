import Mathlib.Data.List.Perm.Basic

/-!
# Condition variables

A condition variable is a set of waiting threads.  A waiting thread sleeps until it is
notified, or until it rouses itself (its timeout expires, or it wakes for no reason); it
resumes once it holds the mutex again.  `notify_one` makes one sleeping thread runnable, if
there is one, and which one is not specified: the caller names it.

`Covers cv n` is the counting invariant against lost wake-ups: while a thread sleeps, at least
`n` threads have been notified and have not resumed.  Every operation has one rule for it, and a
monitor that notifies once for each unit it makes available keeps it with
`n` the number of units there are.
-/

namespace Monitor

variable {Job : Type*}

/-- A waiting thread and what it waits to do. -/
structure Waiter (Job : Type*) where
  thread : ℕ
  job : Job
  deriving DecidableEq

structure CondVar (Job : Type*) where
  /-- waiting, and not notified -/
  sleeping : List (Waiter Job)
  /-- notified, and not resumed yet -/
  notified : List (Waiter Job)
  /-- awake by itself, and not resumed yet -/
  roused : List (Waiter Job)
  deriving DecidableEq

/-- Removes the waiter of a thread from a list. -/
def extract (t : ℕ) : List (Waiter Job) → Option (Waiter Job × List (Waiter Job))
  | [] => none
  | w :: ws => if w.thread = t then some (w, ws) else (extract t ws).map fun r => (r.1, w :: r.2)

theorem perm_of_extract {t : ℕ} {ws rest : List (Waiter Job)} {w : Waiter Job}
    (h : extract t ws = some (w, rest)) : ws.Perm (w :: rest) := by
  induction ws generalizing rest with
  | nil => cases h
  | cons v ws ih =>
      rw [extract] at h
      split at h
      · cases h
        exact .refl _
      · obtain ⟨r, hr, heq⟩ := Option.map_eq_some_iff.mp h
        cases heq
        exact ((ih hr).cons v).trans (.swap _ _ _)

theorem length_of_extract {t : ℕ} {ws rest : List (Waiter Job)} {w : Waiter Job}
    (h : extract t ws = some (w, rest)) : ws.length = rest.length + 1 :=
  (perm_of_extract h).length_eq

theorem ne_nil_of_extract {t : ℕ} {ws rest : List (Waiter Job)} {w : Waiter Job}
    (h : extract t ws = some (w, rest)) : ws ≠ [] := by
  rintro rfl
  cases h

namespace CondVar

/-- Nobody waits. -/
def idle : CondVar Job := ⟨[], [], []⟩

/-- The threads that wait, in whatever state. -/
def waiting (cv : CondVar Job) : List (Waiter Job) := cv.sleeping ++ cv.notified ++ cv.roused

/-- `wait`, up to the moment the thread sleeps. -/
def wait (cv : CondVar Job) (w : Waiter Job) : CondVar Job :=
  { cv with sleeping := w :: cv.sleeping }

/-- `notify_one`: thread `t` is notified; nothing happens if nobody sleeps. -/
def notifyOne (cv : CondVar Job) (t : ℕ) : Option (CondVar Job) :=
  match extract t cv.sleeping with
  | some (w, rest) => some { cv with sleeping := rest, notified := w :: cv.notified }
  | none => if cv.sleeping.isEmpty then some cv else none

/-- `notify_all`. -/
def notifyAll (cv : CondVar Job) : CondVar Job :=
  { cv with sleeping := [], notified := cv.sleeping ++ cv.notified }

/-- Thread `t` wakes without being notified. -/
def rouse (cv : CondVar Job) (t : ℕ) : Option (CondVar Job) :=
  (extract t cv.sleeping).map fun r => { cv with sleeping := r.2, roused := r.1 :: cv.roused }

/-- Thread `t` holds the mutex again and returns from its wait. -/
def resume (cv : CondVar Job) (t : ℕ) : Option (Waiter Job × CondVar Job) :=
  match extract t cv.notified with
  | some (w, rest) => some (w, { cv with notified := rest })
  | none => (extract t cv.roused).map fun r => (r.1, { cv with roused := r.2 })

/-- While a thread sleeps, at least `n` have been notified and have not resumed. -/
def Covers (cv : CondVar Job) (n : ℕ) : Prop := cv.sleeping ≠ [] → n ≤ cv.notified.length

section

variable {cv cv' : CondVar Job} {n m t : ℕ} {w : Waiter Job}

theorem covers_of_sleeping (h : cv.sleeping = []) : cv.Covers n := fun hne => absurd h hne

theorem Covers.mono (h : cv.Covers n) (hle : m ≤ n) : cv.Covers m :=
  fun hne => Nat.le_trans hle (h hne)

/-- One more unit, one more thread notified. -/
theorem Covers.notifyOne (h : cv.Covers n) (hnotify : cv.notifyOne t = some cv') :
    cv'.Covers (n + 1) := by
  rw [CondVar.notifyOne] at hnotify
  split at hnotify
  · rename_i hsleeping
    cases hnotify
    exact fun _ => Nat.succ_le_succ (h (ne_nil_of_extract hsleeping))
  · split at hnotify
    · rename_i hempty
      cases hnotify
      exact covers_of_sleeping (List.isEmpty_iff.mp hempty)
    · cases hnotify

theorem Covers.notifyAll : cv.notifyAll.Covers n := covers_of_sleeping rfl

/-- A thread that rouses itself only leaves fewer to sleep. -/
theorem Covers.rouse (h : cv.Covers n) (hrouse : cv.rouse t = some cv') : cv'.Covers n := by
  obtain ⟨r, hr, rfl⟩ := Option.map_eq_some_iff.mp hrouse
  exact fun _ => h (ne_nil_of_extract hr)

/-- A thread that resumes uses up one notification at most. -/
theorem Covers.resume (h : cv.Covers n) (hresume : cv.resume t = some (w, cv')) :
    cv'.Covers (n - 1) := by
  rw [CondVar.resume] at hresume
  split at hresume
  · rename_i hnotified
    cases hresume
    intro hne
    have hlen := length_of_extract hnotified
    have hle := h hne
    simp only
    omega
  · obtain ⟨r, -, heq⟩ := Option.map_eq_some_iff.mp hresume
    cases heq
    exact h.mono (Nat.sub_le n 1)

theorem sleeping_of_notifyOne (h : cv.sleeping = []) (hnotify : cv.notifyOne t = some cv') :
    cv'.sleeping = [] := by
  rw [CondVar.notifyOne, h] at hnotify
  cases hnotify
  exact h

theorem sleeping_of_rouse (h : cv.sleeping = []) : cv.rouse t = none := by
  rw [CondVar.rouse, h]
  rfl

theorem sleeping_of_resume (h : cv.sleeping = []) (hresume : cv.resume t = some (w, cv')) :
    cv'.sleeping = [] := by
  rw [CondVar.resume] at hresume
  split at hresume
  · cases hresume
    exact h
  · obtain ⟨r, -, heq⟩ := Option.map_eq_some_iff.mp hresume
    cases heq
    exact h

end

end CondVar

end Monitor
