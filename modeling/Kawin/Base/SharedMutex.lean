import Mathlib.Data.List.Basic

/-!
# Mutexes with shared locks

A shared mutex is locked by one thread, or shared by some.  The type has no value for both, so
that what a mutex `Grants` one thread limits what it grants others: while one has locked it
exclusively, nobody shares it (`not_grants_shared`), and no call takes anything from another
thread (`Grants.perform_of_ne`).
-/

inductive SharedMutex (Thread : Type*)
  | shared (readers : List Thread)
  | exclusive (holder : Thread)
  deriving DecidableEq

namespace SharedMutex

variable {Thread : Type*}

/-- How a thread holds a mutex. -/
inductive Mode
  | shared | exclusive
  deriving DecidableEq

inductive Call
  | lock | unlock | lockShared | unlockShared
  deriving DecidableEq

def unlocked : SharedMutex Thread := .shared []

/-- The thread holds the mutex in the mode. -/
def Grants (mutex : SharedMutex Thread) (t : Thread) : Mode → Prop
  | .exclusive => mutex = .exclusive t
  | .shared => ∃ readers, mutex = .shared readers ∧ t ∈ readers

variable {mutex mutex' : SharedMutex Thread} {t u : Thread} {call : Call} {mode : Mode}

/-- Nobody shares a mutex that is locked exclusively. -/
theorem not_grants_shared (h : mutex.Grants t .exclusive) : ¬ mutex.Grants u .shared := by
  rintro ⟨readers, hshared, _⟩
  cases h.symm.trans hshared

variable [DecidableEq Thread]

/-- A call of thread `t`; `none` while it blocks, and where the thread does not hold what it
gives back. -/
def perform (call : Call) (t : Thread) : SharedMutex Thread → Option (SharedMutex Thread)
  | .shared readers =>
      match call with
      | .lock => if readers = [] then some (.exclusive t) else none
      | .unlock => none
      | .lockShared => some (.shared (t :: readers))
      | .unlockShared => if t ∈ readers then some (.shared (readers.erase t)) else none
  | .exclusive holder =>
      match call with
      | .unlock => if holder = t then some .unlocked else none
      | .lock | .lockShared | .unlockShared => none

theorem grants_of_lock (h : mutex.perform .lock t = some mutex') :
    mutex'.Grants t .exclusive := by
  cases mutex with
  | shared readers =>
      obtain ⟨_, h⟩ := Option.ite_none_right_eq_some.mp h
      exact (Option.some.inj h).symm
  | exclusive holder => cases h

theorem grants_of_lockShared (h : mutex.perform .lockShared t = some mutex') :
    mutex'.Grants t .shared := by
  cases mutex with
  | shared readers => exact ⟨t :: readers, (Option.some.inj h).symm, List.mem_cons_self⟩
  | exclusive holder => cases h

/-- Whatever a thread does, the others hold what they held. -/
theorem Grants.perform_of_ne (hgrants : mutex.Grants u mode) (hne : u ≠ t)
    (h : mutex.perform call t = some mutex') : mutex'.Grants u mode := by
  cases mode with
  | exclusive =>
      rw [hgrants] at h
      cases call with
      | unlock => exact absurd (Option.ite_none_right_eq_some.mp h).1 hne
      | lock | lockShared | unlockShared => cases h
  | shared =>
      obtain ⟨readers, rfl, hmem⟩ := hgrants
      cases call with
      | lock =>
          rw [(Option.ite_none_right_eq_some.mp h).1] at hmem
          cases hmem
      | unlock => cases h
      | lockShared => exact ⟨_, (Option.some.inj h).symm, List.mem_cons_of_mem t hmem⟩
      | unlockShared =>
          obtain ⟨_, h⟩ := Option.ite_none_right_eq_some.mp h
          exact ⟨_, (Option.some.inj h).symm, (List.mem_erase_of_ne hne).mpr hmem⟩

end SharedMutex
