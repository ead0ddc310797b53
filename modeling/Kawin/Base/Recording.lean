import Kawin.Base.Transition

/-!
# Recorded runs

`recording step note` is the system of `step` beside a record: every step adds the notes that
`note` takes of it, and the record does not disturb the system (`recording_eq_some`).  What a run
has done, as opposed to where it has led to, is a property of its record.

A system of several parts is recorded with the notes of all of them.  What is known of the runs of
one part is known of its share in the record (`Run.recorded_part`).
-/

namespace Transition

variable {State Action Note : Type*}

/-- The system beside the notes of what its steps have done, oldest first. -/
def recording (step : State → Action → Option State) (note : State → Action → List Note)
    (p : State × List Note) (action : Action) : Option (State × List Note) :=
  (step p.1 action).map fun t => (t, p.2 ++ note p.1 action)

/-- A run of allowed steps, with its record. -/
abbrev RecordedRun (step : State → Action → Option State) (note : State → Action → List Note)
    (allowed : State → Action → Prop) (s : State) : State × List Note → Prop :=
  Run (recording step note) (fun p => allowed p.1) (s, [])

variable {step : State → Action → Option State} {note : State → Action → List Note}
  {allowed : State → Action → Prop} {s t : State} {p q : State × List Note} {action : Action}

theorem recording_eq_some :
    recording step note p action = some q ↔
      step p.1 action = some q.1 ∧ q.2 = p.2 ++ note p.1 action := by
  rw [recording, Option.map_eq_some_iff]
  constructor
  · rintro ⟨u, hu, rfl⟩
    exact ⟨hu, rfl⟩
  · rintro ⟨hstep, hnotes⟩
    exact ⟨q.1, hstep, Prod.ext rfl hnotes.symm⟩

namespace Run

/-- **Invariant rule for records.**  What holds of the start and the empty record, and is kept
by every allowed step with its notes, holds of every recorded run. -/
theorem recorded_invariant {Inv : State → List Note → Prop}
    (run : RecordedRun step note allowed s q) (hinit : Inv s [])
    (hpres : ∀ t notes action u, Inv t notes → allowed t action → step t action = some u →
      Inv u (notes ++ note t action)) : Inv q.1 q.2 := by
  induction run with
  | refl => exact hinit
  | @tail p q action _ hallowed hstep ih =>
      obtain ⟨hstep, hnotes⟩ := recording_eq_some.mp hstep
      rw [hnotes]
      exact hpres p.1 p.2 action q.1 ih hallowed hstep

/-- A record can be continued. -/
theorem recording_trans {notes : List Note} (first : RecordedRun step note allowed s (t, notes))
    (second : RecordedRun step note allowed t p) :
    RecordedRun step note allowed s (p.1, notes ++ p.2) := by
  induction second with
  | refl =>
      rw [List.append_nil]
      exact first
  | @tail p q action _ hallowed hstep ih =>
      obtain ⟨hstep, hnotes⟩ := recording_eq_some.mp hstep
      rw [hnotes, ← List.append_assoc]
      exact .tail action ih hallowed (recording_eq_some.mpr ⟨hstep, rfl⟩)

/-- **Component rule.**  Where every step of a system is a run of one of its parts, with the notes
that the part would take, so is every run of the system. -/
theorem recorded_part {Part PartAction PartNote : Type*}
    {partStep : Part → PartAction → Option Part} {partNote : Part → PartAction → List PartNote}
    {partAllowed : Part → PartAction → Prop} (proj : State → Part) (keep : Note → Option PartNote)
    (run : RecordedRun step note allowed s q)
    (hpart : ∀ t action u, allowed t action → step t action = some u →
      RecordedRun partStep partNote partAllowed (proj t)
        (proj u, (note t action).filterMap keep)) :
    RecordedRun partStep partNote partAllowed (proj s) (proj q.1, q.2.filterMap keep) := by
  induction run with
  | refl => exact .refl
  | @tail p q action _ hallowed hstep ih =>
      obtain ⟨hstep, hnotes⟩ := recording_eq_some.mp hstep
      rw [hnotes, List.filterMap_append]
      exact recording_trans ih (hpart p.1 action q.1 hallowed hstep)

/-- One step of a part, with its notes. -/
theorem recorded_single (hallowed : allowed s action) (hstep : step s action = some t) :
    RecordedRun step note allowed s (t, note s action) :=
  .single action hallowed (recording_eq_some.mpr ⟨hstep, rfl⟩)

end Run

end Transition
