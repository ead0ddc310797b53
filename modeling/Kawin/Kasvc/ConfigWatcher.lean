import Kawin.Base.Transition
import Kawin.Kasvc.ConfigStore

/-!
# The configuration watcher

The watch thread compares the modification time of the configuration file with
`last_write_time_` and loads the file again when they differ.  `Load` reads the content of the file
first and its modification time later; `Save` renames a temporary file to the configuration file
and then reads the modification time.  A write from outside that falls between the two is taken for
what `Load` read or `Save` wrote, and the watcher never sees it.

`Load` and `Save` hold the mutex from their first step to their last.  The watch thread reads
`last_write_time_` without it.  Every write to a file gives it a modification time that no file had
before; a renamed file keeps its own.
-/

namespace Kawin.Kasvc

open Transition

structure ConfigFile where
  text : List Char
  writeTime : ℕ

/-- Where the call that holds the mutex is. -/
inductive StoreCall
  /-- `Load`: the mutex is taken -/
  | loadEntered
  /-- the file exists -/
  | loadFound
  /-- the text was read and can be parsed -/
  | loadParsed (text : List Char)
  /-- `Save`: the mutex is taken -/
  | saveEntered (config : Configuration)
  /-- the temporary file is written -/
  | saveWritten (temporary : ConfigFile)
  /-- it is renamed -/
  | saveRenamed (text : List Char)

/-- Where the watch thread is. -/
inductive Watcher
  | stopped
  | sleeping
  /-- the file exists -/
  | found
  /-- its modification time is read -/
  | timeRead (writeTime : ℕ)
  /-- it differs from `last_write_time_`: the thread calls `Load` -/
  | reloading
  /-- the thread is in `Load` -/
  | loading

structure WatchedStore where
  file : Option ConfigFile
  /-- the latest modification time of any file -/
  clock : ℕ
  lastWriteTime : ℕ
  /-- the text most recently loaded or saved -/
  known : Option (List Char)
  call : Option StoreCall
  watcher : Watcher

inductive StoreAction
  /-- someone else writes the file -/
  | externalWrite (text : List Char)
  | beginLoad
  | beginSave (config : Configuration)
  /-- the next step of the call that holds the mutex, and whether the file system grants it -/
  | callStep (granted : Bool)
  | watch
  | stopWatching
  /-- the next step of the watch thread, and whether the file system grants it -/
  | watcherStep (granted : Bool)

namespace WatchedStore

/-- A store that was just constructed; its `last_write_time_` is the epoch. -/
def init (text : Option (List Char)) : WatchedStore :=
  ⟨text.map fun text => ⟨text, 1⟩, 1, 0, none, none, .stopped⟩

/-- A call ends, and the watch thread goes on if it was its call. -/
def endCall (s : WatchedStore) : WatchedStore :=
  { s with
    call := none
    watcher := match s.watcher with
      | .loading => .sleeping
      | watcher => watcher }

/-- The last step of `Load` and `Save`: the modification time is read. -/
def readWriteTime (text : List Char) (s : WatchedStore) : WatchedStore :=
  match s.file with
  | none => s.endCall
  | some file => { s.endCall with lastWriteTime := file.writeTime, known := some text }

section

variable (host : Host) (unassigned : Unassigned)

/-- A step of the call that holds the mutex. -/
def callStep (granted : Bool) (s : WatchedStore) : WatchedStore :=
  match s.call with
  | none => s
  | some .loadEntered =>
      match s.file with
      | none => s.endCall
      | some _ => { s with call := some .loadFound }
  | some .loadFound =>
      match s.file with
      | none => s.endCall
      | some file =>
          if !granted then s.endCall
          else
            match parseJson host unassigned file.text with
            | .error _ => s.endCall
            | .ok _ => { s with call := some (.loadParsed file.text) }
  | some (.loadParsed text) => if granted then s.readWriteTime text else s.endCall
  | some (.saveEntered config) =>
      if !granted then s.endCall
      else
        { s with
          clock := s.clock + 1
          call := some (.saveWritten ⟨toJson host.format config, s.clock + 1⟩) }
  | some (.saveWritten temporary) =>
      if !granted then s.endCall
      else { s with file := some temporary, call := some (.saveRenamed temporary.text) }
  | some (.saveRenamed text) => if granted then s.readWriteTime text else s.endCall

/-- A step of `WatchThreadFunc`. -/
def watcherStep (granted : Bool) (s : WatchedStore) : WatchedStore :=
  match s.watcher with
  | .stopped | .loading => s
  | .sleeping =>
      match s.file with
      | none => s
      | some _ => { s with watcher := .found }
  | .found =>
      match s.file with
      | none => { s with watcher := .sleeping }
      | some file =>
          if granted then { s with watcher := .timeRead file.writeTime }
          else { s with watcher := .sleeping }
  | .timeRead writeTime =>
      if writeTime ≠ s.lastWriteTime then { s with watcher := .reloading }
      else { s with watcher := .sleeping }
  | .reloading =>
      match s.call with
      | some _ => s
      | none => { s with call := some .loadEntered, watcher := .loading }

/-- A thread that finds the mutex taken waits. -/
def act (s : WatchedStore) : StoreAction → WatchedStore
  | .externalWrite text => { s with file := some ⟨text, s.clock + 1⟩, clock := s.clock + 1 }
  | .beginLoad =>
      match s.call with
      | some _ => s
      | none => { s with call := some .loadEntered }
  | .beginSave config =>
      match s.call with
      | some _ => s
      | none => { s with call := some (.saveEntered config) }
  | .callStep granted => s.callStep host unassigned granted
  | .watch =>
      match s.watcher with
      | .stopped => { s with watcher := .sleeping }
      | _ => s
  | .stopWatching =>
      match s.watcher with
      | .sleeping => { s with watcher := .stopped }
      | _ => s
  | .watcherStep granted => s.watcherStep granted

end

end WatchedStore

def storeStep (host : Host) (unassigned : Unassigned) (s : WatchedStore) (action : StoreAction) :
    Option WatchedStore :=
  some (s.act host unassigned action)

/-! ## The law -/

/-- If `last_write_time_` is the modification time of the file, then its content is known. -/
def KnowsCurrent (s : WatchedStore) : Prop :=
  ∀ file, s.file = some file → s.lastWriteTime = file.writeTime → s.known = some file.text

/-- No update is lost: with no call on its way, the content of the file is known or the watcher
will see its modification time. -/
def LosesNoUpdate (_ : WatchedStore) (_ : StoreAction) (t : WatchedStore) : Prop :=
  t.call = none → KnowsCurrent t

/-- The text that the call that holds the mutex has read or renamed, if all it has to do yet is
to read the modification time. -/
def StoreCall.text : StoreCall → Option (List Char)
  | .loadParsed text | .saveRenamed text => some text
  | _ => none

/-- When `Load` or `Save` reads the modification time, the file still has the content that it has
read or renamed. -/
def Undisturbed (s : WatchedStore) : StoreAction → Prop
  | .callStep true => ∀ call, s.call = some call → ∀ text, call.text = some text →
      ∀ file, s.file = some file → file.text = text
  | _ => True

/-- The modification times that matter are not newer than the clock, and that of a temporary
file is newer than `last_write_time_`. -/
structure Stamped (s : WatchedStore) : Prop where
  file : ∀ file, s.file = some file → file.writeTime ≤ s.clock
  lastWriteTime : s.lastWriteTime ≤ s.clock
  temporary : ∀ temporary, s.call = some (.saveWritten temporary) →
    temporary.writeTime ≤ s.clock ∧ s.lastWriteTime < temporary.writeTime

/-! ## What a step does -/

section

variable {host : Host} {unassigned : Unassigned} {s t : WatchedStore}

/-- The file and what the store knows of it stay as they were, and no temporary file is new. -/
structure Unchanged (s t : WatchedStore) : Prop where
  file : t.file = s.file
  clock : t.clock = s.clock
  lastWriteTime : t.lastWriteTime = s.lastWriteTime
  known : t.known = s.known
  temporary : ∀ temporary, t.call = some (.saveWritten temporary) →
    s.call = some (.saveWritten temporary)

/-- What an action can do. -/
inductive StoreEffect (s : WatchedStore) : StoreAction → WatchedStore → Prop
  | unchanged (action : StoreAction) {t : WatchedStore} (h : Unchanged s t) :
      StoreEffect s action t
  | external (text : List Char) : StoreEffect s (.externalWrite text)
      { s with file := some ⟨text, s.clock + 1⟩, clock := s.clock + 1 }
  | written (text : List Char) : StoreEffect s (.callStep true)
      { s with clock := s.clock + 1, call := some (.saveWritten ⟨text, s.clock + 1⟩) }
  | renamed (temporary : ConfigFile) (hcall : s.call = some (.saveWritten temporary)) :
      StoreEffect s (.callStep true)
        { s with file := some temporary, call := some (.saveRenamed temporary.text) }
  | timeRead (call : StoreCall) (text : List Char) (file : ConfigFile) (hcall : s.call = some call)
      (htext : call.text = some text) (hfile : s.file = some file) :
      StoreEffect s (.callStep true)
        { s.endCall with lastWriteTime := file.writeTime, known := some text }

theorem unchanged_endCall : Unchanged s s.endCall where
  file := rfl
  clock := rfl
  lastWriteTime := rfl
  known := rfl
  temporary _ h := absurd h (by simp [WatchedStore.endCall])

theorem readWriteTime_effect {call : StoreCall} {text : List Char} (hcall : s.call = some call)
    (htext : call.text = some text) :
    StoreEffect s (.callStep true) (s.readWriteTime text) := by
  rw [WatchedStore.readWriteTime]
  cases hfile : s.file with
  | none => exact .unchanged _ unchanged_endCall
  | some file => exact .timeRead call text file hcall htext hfile

theorem unchanged_setCall (call : StoreCall) (hcall : ∀ temporary, call ≠ .saveWritten temporary) :
    Unchanged s { s with call := some call } where
  file := rfl
  clock := rfl
  lastWriteTime := rfl
  known := rfl
  temporary temporary h := absurd (Option.some.inj h) (hcall temporary)

theorem unchanged_setWatcher (watcher : Watcher) : Unchanged s { s with watcher := watcher } :=
  ⟨rfl, rfl, rfl, rfl, fun _ h => h⟩

theorem unchanged_refl : Unchanged s s := ⟨rfl, rfl, rfl, rfl, fun _ h => h⟩

theorem callStep_effect (granted : Bool) :
    StoreEffect s (.callStep granted) (s.callStep host unassigned granted) := by
  obtain ⟨file, clock, lastWriteTime, known, call, watcher⟩ := s
  cases call with
  | none => exact .unchanged _ unchanged_refl
  | some call =>
      cases call with
      | loadEntered =>
          cases file with
          | none => exact .unchanged _ unchanged_endCall
          | some file => exact .unchanged _ (unchanged_setCall .loadFound (by simp))
      | loadFound =>
          cases file with
          | none => exact .unchanged _ unchanged_endCall
          | some file =>
              cases granted with
              | false => exact .unchanged _ unchanged_endCall
              | true =>
                  refine .unchanged _ ?_
                  rw [WatchedStore.callStep]
                  cases hparse : parseJson host unassigned file.text with
                  | error =>
                      simp only [hparse]
                      exact unchanged_endCall
                  | ok =>
                      simp only [hparse]
                      exact unchanged_setCall (.loadParsed file.text) (by simp)
      | loadParsed text =>
          cases granted with
          | false => exact .unchanged _ unchanged_endCall
          | true => exact readWriteTime_effect rfl rfl
      | saveEntered config =>
          cases granted with
          | false => exact .unchanged _ unchanged_endCall
          | true => exact .written _
      | saveWritten temporary =>
          cases granted with
          | false => exact .unchanged _ unchanged_endCall
          | true => exact .renamed temporary rfl
      | saveRenamed text =>
          cases granted with
          | false => exact .unchanged _ unchanged_endCall
          | true => exact readWriteTime_effect rfl rfl

theorem watcherStep_unchanged (granted : Bool) : Unchanged s (s.watcherStep granted) := by
  obtain ⟨file, clock, lastWriteTime, known, call, watcher⟩ := s
  cases watcher with
  | stopped | loading => exact unchanged_refl
  | sleeping =>
      cases file with
      | none => exact unchanged_refl
      | some file => exact unchanged_setWatcher _
  | found =>
      cases file with
      | none => exact unchanged_setWatcher _
      | some file =>
          cases granted with
          | false => exact unchanged_setWatcher _
          | true => exact unchanged_setWatcher _
  | timeRead writeTime =>
      show Unchanged _ (ite _ _ _)
      split_ifs
      · exact unchanged_setWatcher _
      · exact unchanged_setWatcher _
  | reloading =>
      cases call with
      | some call => exact unchanged_refl
      | none => exact ⟨rfl, rfl, rfl, rfl, fun _ h => absurd h (by simp [WatchedStore.watcherStep])⟩

theorem act_effect (action : StoreAction) :
    StoreEffect s action (s.act host unassigned action) := by
  obtain ⟨file, clock, lastWriteTime, known, call, watcher⟩ := s
  cases action with
  | externalWrite text => exact .external text
  | beginLoad =>
      cases call with
      | some call => exact .unchanged _ unchanged_refl
      | none => exact .unchanged _ (unchanged_setCall .loadEntered (by simp))
  | beginSave config =>
      cases call with
      | some call => exact .unchanged _ unchanged_refl
      | none => exact .unchanged _ (unchanged_setCall (.saveEntered config) (by simp))
  | callStep granted => exact callStep_effect granted
  | watch =>
      cases watcher with
      | stopped => exact .unchanged _ (unchanged_setWatcher _)
      | _ => exact .unchanged _ unchanged_refl
  | stopWatching =>
      cases watcher with
      | sleeping => exact .unchanged _ (unchanged_setWatcher _)
      | _ => exact .unchanged _ unchanged_refl
  | watcherStep granted => exact .unchanged _ (watcherStep_unchanged granted)

theorem Stamped.effect (h : Stamped s) {action : StoreAction} (heffect : StoreEffect s action t) :
    Stamped t := by
  cases heffect with
  | unchanged _ hsame =>
      refine ⟨?_, ?_, ?_⟩
      · rw [hsame.file, hsame.clock]
        exact h.file
      · rw [hsame.lastWriteTime, hsame.clock]
        exact h.lastWriteTime
      · rw [hsame.lastWriteTime, hsame.clock]
        exact fun temporary hcall => h.temporary temporary (hsame.temporary temporary hcall)
  | external text =>
      refine ⟨fun file hfile => ?_, Nat.le_succ_of_le h.lastWriteTime, fun temporary hcall => ?_⟩
      · cases hfile
        exact Nat.le_refl _
      · obtain ⟨hle, hlt⟩ := h.temporary temporary hcall
        exact ⟨Nat.le_succ_of_le hle, hlt⟩
  | written text =>
      refine ⟨fun file hfile => Nat.le_succ_of_le (h.file file hfile),
        Nat.le_succ_of_le h.lastWriteTime, fun temporary hcall => ?_⟩
      cases hcall
      exact ⟨Nat.le_refl _, Nat.lt_succ_of_le h.lastWriteTime⟩
  | renamed temporary hcall =>
      refine ⟨fun file hfile => ?_, h.lastWriteTime, fun _ h => absurd h (by simp)⟩
      cases hfile
      exact (h.temporary temporary hcall).1
  | timeRead call text file hcall htext hfile =>
      exact ⟨h.file, h.file file hfile, fun _ h => absurd h (by simp [WatchedStore.endCall])⟩

theorem KnowsCurrent.effect (h : KnowsCurrent s) (hstamped : Stamped s) {action : StoreAction}
    (hundisturbed : Undisturbed s action) (heffect : StoreEffect s action t) : KnowsCurrent t := by
  cases heffect with
  | unchanged _ hsame =>
      rw [KnowsCurrent, hsame.file, hsame.lastWriteTime, hsame.known]
      exact h
  | external text =>
      intro file hfile htime
      cases hfile
      have := hstamped.lastWriteTime
      simp only at htime
      omega
  | written text => exact h
  | renamed temporary hcall =>
      intro file hfile htime
      cases hfile
      exact absurd htime (Nat.ne_of_lt (hstamped.temporary temporary hcall).2)
  | timeRead call text file hcall htext hfile =>
      intro file' hfile' _
      have hsame : s.file = some file' := hfile'
      rw [← hundisturbed call hcall text htext file' hsame]

/-- A call that reads the modification time of a file knows its content only if it has not been
disturbed. -/
theorem undisturbed_of_knows {action : StoreAction}
    (h : LosesNoUpdate s action (s.act host unassigned action)) : Undisturbed s action := by
  cases action with
  | callStep granted =>
      cases granted with
      | false => trivial
      | true =>
          intro call hcall text htext file hfile
          have hact : s.act host unassigned (.callStep true) =
              { s.endCall with lastWriteTime := file.writeTime, known := some text } := by
            rw [WatchedStore.act, WatchedStore.callStep, hcall]
            cases call with
            | loadParsed | saveRenamed =>
                cases htext
                show s.readWriteTime text = _
                rw [WatchedStore.readWriteTime, hfile]
            | _ => cases htext
          rw [hact] at h
          exact (Option.some.inj (h rfl file hfile rfl)).symm
  | _ => trivial

end

theorem init_stamped (text : Option (List Char)) : Stamped (.init text) where
  file file hfile := by
    obtain ⟨_, -, rfl⟩ := Option.map_eq_some_iff.mp hfile
    exact Nat.le_refl _
  lastWriteTime := Nat.zero_le _
  temporary _ h := absurd h (by simp [WatchedStore.init])

theorem init_knowsCurrent (text : Option (List Char)) : KnowsCurrent (.init text) := by
  intro file hfile htime
  obtain ⟨_, -, rfl⟩ := Option.map_eq_some_iff.mp hfile
  cases htime

theorem undisturbed_of_losesNoUpdate {host : Host} {unassigned : Unassigned} {s : WatchedStore}
    {actions : List StoreAction} (h : Along (storeStep host unassigned) LosesNoUpdate s actions) :
    Allowed (storeStep host unassigned) Undisturbed s actions := by
  refine allowed_of_along (fun _ => True) (fun _ _ => ⟨_, rfl⟩) (fun _ _ _ _ _ => trivial) ?_
    trivial h
  intro s action t _ hstep hlaw
  cases hstep
  exact undisturbed_of_knows hlaw

/-- **No lost update, exactly.**  In a run no update is ever lost if and only if, whenever `Load` or
`Save` reads the modification time, the file still has the content that it has read or renamed. -/
theorem losesNoUpdate_iff (host : Host) (unassigned : Unassigned) (text : Option (List Char))
    (actions : List StoreAction) :
    Along (storeStep host unassigned) LosesNoUpdate (.init text) actions ↔
      Allowed (storeStep host unassigned) Undisturbed (.init text) actions := by
  refine ⟨undisturbed_of_losesNoUpdate, ?_⟩
  refine along_of_invariant (fun s => Stamped s ∧ KnowsCurrent s) ?_
    ⟨init_stamped text, init_knowsCurrent text⟩
  intro s action t h hundisturbed hstep
  cases hstep
  have heffect : StoreEffect s action (s.act host unassigned action) := act_effect action
  have hknows := h.2.effect h.1 hundisturbed heffect
  exact ⟨fun _ => hknows, h.1.effect heffect, hknows⟩

/-- `Load` reads an empty object, someone writes another text, and `Load` reads the time of that. -/
private def writeDuringLoad : List StoreAction :=
  [.beginLoad, .callStep true, .callStep true, .externalWrite " {}".toList, .callStep true]

/-- The new content is never loaded. -/
theorem not_losesNoUpdate : ¬∀ host unassigned text actions,
    Along (storeStep host unassigned) LosesNoUpdate (.init text) actions := by
  intro h
  have hallowed := undisturbed_of_losesNoUpdate
    (h ⟨⟨fun _ => true, id, fun _ => 0⟩, 8#32⟩ ⟨0, 0, 0, 0⟩ (some "{}".toList) writeDuringLoad)
  obtain ⟨-, hallowed⟩ := hallowed
  obtain ⟨-, hallowed⟩ := hallowed _ rfl
  obtain ⟨-, hallowed⟩ := hallowed _ rfl
  obtain ⟨-, hallowed⟩ := hallowed _ rfl
  obtain ⟨hundisturbed, -⟩ := hallowed _ rfl
  have htext := hundisturbed (.loadParsed "{}".toList) rfl _ rfl ⟨" {}".toList, 2⟩ rfl
  cases htext

end Kawin.Kasvc
