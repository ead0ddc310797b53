import Mathlib.Data.List.Basic

/-!
# Refinement of objects

An object answers operations: a function from a state and an operation to a result and the next
state.  `Simulates` relates two objects whose operations have the same names: from related states
an operation that the first admits gives the same result in both, and leads to related states.
Then the two cannot be told apart by any sequence of admitted operations
(`Simulates.results_eq`), and the states they end in are related (`Simulates.final`).
-/

namespace Refinement

variable {State Spec Operation Result : Type*}

/-- What the operations return, one after the other. -/
def results (perform : State → Operation → Result × State) : State → List Operation → List Result
  | _, [] => []
  | s, operation :: rest =>
      (perform s operation).1 :: results perform (perform s operation).2 rest

/-- The state after the operations. -/
def final (perform : State → Operation → Result × State) (s : State)
    (operations : List Operation) : State :=
  operations.foldl (fun s operation => (perform s operation).2) s

/-- Every operation is admitted in the state where it is performed. -/
def Admitted (perform : State → Operation → Result × State) (admits : State → Operation → Prop) :
    State → List Operation → Prop
  | _, [] => True
  | s, operation :: rest =>
      admits s operation ∧ Admitted perform admits (perform s operation).2 rest

/-- From related states, an admitted operation returns the same and leads to related states. -/
structure Simulates (perform : State → Operation → Result × State)
    (specified : Spec → Operation → Result × Spec) (admits : State → Operation → Prop)
    (Related : State → Spec → Prop) : Prop where
  result : ∀ s t operation, Related s t → admits s operation →
    (perform s operation).1 = (specified t operation).1
  next : ∀ s t operation, Related s t → admits s operation →
    Related (perform s operation).2 (specified t operation).2

namespace Simulates

variable {perform : State → Operation → Result × State}
  {specified : Spec → Operation → Result × Spec} {admits : State → Operation → Prop}
  {Related : State → Spec → Prop} {operations : List Operation}

/-- **Simulation, results.** -/
theorem results_eq (h : Simulates perform specified admits Related) :
    ∀ {s : State} {t : Spec}, Related s t → Admitted perform admits s operations →
      results perform s operations = results specified t operations := by
  induction operations with
  | nil => exact fun _ _ => rfl
  | cons operation rest ih =>
      rintro s t hrelated ⟨hadmits, hrest⟩
      rw [results, results, h.result s t operation hrelated hadmits,
        ih (h.next s t operation hrelated hadmits) hrest]

/-- **Simulation, states.** -/
theorem final (h : Simulates perform specified admits Related) :
    ∀ {s : State} {t : Spec}, Related s t → Admitted perform admits s operations →
      Related (Refinement.final perform s operations)
        (Refinement.final specified t operations) := by
  induction operations with
  | nil => exact fun hrelated _ => hrelated
  | cons operation rest ih =>
      rintro s t hrelated ⟨hadmits, hrest⟩
      exact ih (h.next s t operation hrelated hadmits) hrest

end Simulates

/-- Where everything is admitted, every sequence is. -/
theorem admitted_of_forall {perform : State → Operation → Result × State}
    {admits : State → Operation → Prop} (h : ∀ s operation, admits s operation) :
    ∀ (s : State) (operations : List Operation), Admitted perform admits s operations := by
  intro s operations
  induction operations generalizing s with
  | nil => trivial
  | cons operation rest ih => exact ⟨h s operation, ih _⟩

end Refinement
