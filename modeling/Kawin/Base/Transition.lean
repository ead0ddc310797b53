import Mathlib.Data.List.Forall2
import Mathlib.Logic.Relation

/-!
# Runs of a transition system

A system is a partial step function `step : State → Action → Option State`.
`Run step allowed s t` says that `t` is reached from `s` by steps whose action is
`allowed` in the state where it is taken; with `allowed := fun _ _ => True` this
is plain reachability.  An invariant that every allowed step preserves holds at
the end of every run (`Run.invariant`); where every allowed step is also enabled, every allowed
list of actions runs to its end (`steps_of_total`).

A law about steps holds along a list of actions (`Along`) if every step the list takes obeys it.
Where a step obeys the law exactly if its action is allowed, a list obeys it exactly if all its
actions are (`along_iff_allowed`).
-/

namespace Transition

variable {State Action : Type*}

/-- `t` is reached from `s` by steps that are `allowed` where they are taken. -/
inductive Run (step : State → Action → Option State) (allowed : State → Action → Prop)
    (s : State) : State → Prop
  | refl : Run step allowed s s
  | tail {t u : State} (action : Action) (run : Run step allowed s t)
      (hallowed : allowed t action) (hstep : step t action = some u) : Run step allowed s u

/-- Reachability by unrestricted steps. -/
abbrev Reaches (step : State → Action → Option State) : State → State → Prop :=
  Run step fun _ _ => True

namespace Run

variable {step : State → Action → Option State} {allowed : State → Action → Prop}
  {s t u : State}

theorem single (action : Action) (hallowed : allowed s action) (hstep : step s action = some t) :
    Run step allowed s t :=
  .tail action .refl hallowed hstep

theorem trans (first : Run step allowed s t) (second : Run step allowed t u) :
    Run step allowed s u := by
  induction second with
  | refl => exact first
  | tail action _ hallowed hstep ih => exact .tail action ih hallowed hstep

theorem head (action : Action) (hallowed : allowed s action) (hstep : step s action = some t)
    (rest : Run step allowed t u) : Run step allowed s u :=
  (single action hallowed hstep).trans rest

/-- A run under a stronger condition is a run under a weaker one. -/
theorem mono {weaker : State → Action → Prop} (h : ∀ t action, allowed t action → weaker t action)
    (run : Run step allowed s t) : Run step weaker s t := by
  induction run with
  | refl => exact .refl
  | tail action _ hallowed hstep ih => exact .tail action ih (h _ _ hallowed) hstep

/-- **Invariant rule.** -/
theorem invariant {Inv : State → Prop} (run : Run step allowed s t) (hinit : Inv s)
    (hpres : ∀ t action u, Inv t → allowed t action → step t action = some u → Inv u) :
    Inv t := by
  induction run with
  | refl => exact hinit
  | tail action _ hallowed hstep ih => exact hpres _ action _ ih hallowed hstep

/-- **Simulation rule.**  Where every step is a run of another system, a single step, several or
none, so is every run. -/
theorem simulated {Abstract AbstractAction : Type*}
    {abstractStep : Abstract → AbstractAction → Option Abstract}
    {abstractAllowed : Abstract → AbstractAction → Prop} (Inv : State → Prop)
    (abstraction : State → Abstract) (run : Run step allowed s t) (hinit : Inv s)
    (hpres : ∀ t action u, Inv t → allowed t action → step t action = some u → Inv u)
    (hsimulates : ∀ t action u, Inv t → allowed t action → step t action = some u →
      Run abstractStep abstractAllowed (abstraction t) (abstraction u)) :
    Run abstractStep abstractAllowed (abstraction s) (abstraction t) := by
  induction run with
  | refl => exact .refl
  | @tail t u action run hallowed hstep ih =>
      have hinv : Inv t := run.invariant hinit hpres
      exact ih.trans (hsimulates t action u hinv hallowed hstep)

end Run

/-- Taking a list of actions one after the other; `none` as soon as one is not enabled. -/
def steps (step : State → Action → Option State) : State → List Action → Option State
  | s, [] => some s
  | s, action :: rest => (step s action).bind fun t => steps step t rest

/-- Every action of the list is `allowed` in the state where it is taken. -/
def Allowed (step : State → Action → Option State) (allowed : State → Action → Prop) :
    State → List Action → Prop
  | _, [] => True
  | s, action :: rest =>
      allowed s action ∧ ∀ t, step s action = some t → Allowed step allowed t rest

instance decidableAllowed {step : State → Action → Option State}
    {allowed : State → Action → Prop} [∀ s action, Decidable (allowed s action)] :
    ∀ s actions, Decidable (Allowed step allowed s actions)
  | _, [] => .isTrue trivial
  | s, action :: rest =>
      match hstep : step s action with
      | none => decidable_of_iff (allowed s action) (by simp [Allowed, hstep])
      | some t =>
          have : Decidable (Allowed step allowed t rest) := decidableAllowed t rest
          decidable_of_iff (allowed s action ∧ Allowed step allowed t rest)
            (by simp [Allowed, hstep])

/-- A list of allowed actions is a run. -/
theorem run_of_steps {step : State → Action → Option State} {allowed : State → Action → Prop}
    {actions : List Action} : ∀ {s t : State}, Allowed step allowed s actions →
      steps step s actions = some t → Run step allowed s t := by
  induction actions with
  | nil =>
      intro s t _ hsteps
      cases hsteps
      exact .refl
  | cons action rest ih =>
      rintro s t ⟨hallowed, hrest⟩ hsteps
      obtain ⟨u, hstep, hmore⟩ := Option.bind_eq_some_iff.mp hsteps
      exact Run.head action hallowed hstep (ih (hrest u hstep) hmore)

/-- A list of actions can be continued. -/
theorem steps_trans {step : State → Action → Option State} {first second : List Action}
    {s t u : State} (hfirst : steps step s first = some t)
    (hsecond : steps step t second = some u) :
    steps step s (first ++ second) = some u := by
  induction first generalizing s with
  | nil =>
      cases hfirst
      exact hsecond
  | cons action rest ih =>
      obtain ⟨v, hstep, hmore⟩ := Option.bind_eq_some_iff.mp hfirst
      rw [List.cons_append, steps, hstep, Option.bind_some, ih hmore]

/-- An action taken once. -/
theorem steps_replicate_one {step : State → Action → Option State} {action : Action} {s t : State}
    (hstep : step s action = some t) : ∃ k, steps step s (.replicate k action) = some t :=
  ⟨1, by rw [List.replicate_one, steps, hstep, Option.bind_some, steps]⟩

/-- An action taken several times, and then several times more. -/
theorem steps_replicate_trans {step : State → Action → Option State} {action : Action}
    {s t u : State} (first : ∃ k, steps step s (.replicate k action) = some t)
    (second : ∃ k, steps step t (.replicate k action) = some u) :
    ∃ k, steps step s (.replicate k action) = some u := by
  obtain ⟨j, hfirst⟩ := first
  obtain ⟨k, hsecond⟩ := second
  refine ⟨j + k, ?_⟩
  rw [← List.replicate_append_replicate]
  exact steps_trans hfirst hsecond

/-- Where each action appends its labels to the trace of the state, a list appends those of all. -/
theorem trace_of_steps {step : State → Action → Option State} {Label : Type*}
    {trace : State → List Label} {labels : Action → List Label}
    (hstep : ∀ s action t, step s action = some t → trace t = trace s ++ labels action)
    {actions : List Action} : ∀ {s t : State}, steps step s actions = some t →
      trace t = trace s ++ actions.flatMap labels := by
  induction actions with
  | nil =>
      intro s t hsteps
      cases hsteps
      exact (List.append_nil _).symm
  | cons action rest ih =>
      intro s t hsteps
      obtain ⟨u, hu, hmore⟩ := Option.bind_eq_some_iff.mp hsteps
      rw [ih hmore, hstep s action u hu, List.append_assoc, List.flatMap_cons]

/-- **Lockstep rule.**  Where related actions lead from related states to related states, so do
lists of related actions. -/
theorem steps_related {step : State → Action → Option State} {Related : State → State → Prop}
    {Same : Action → Action → Prop}
    (hstep : ∀ s s' action action' t, Related s s' → Same action action' →
      step s action = some t → ∃ t', step s' action' = some t' ∧ Related t t')
    {actions actions' : List Action} (hsame : List.Forall₂ Same actions actions') :
    ∀ {s s' t : State}, Related s s' → steps step s actions = some t →
      ∃ t', steps step s' actions' = some t' ∧ Related t t' := by
  induction hsame with
  | nil =>
      intro s s' t hrelated hsteps
      cases hsteps
      exact ⟨s', rfl, hrelated⟩
  | cons haction _ ih =>
      intro s s' t hrelated hsteps
      obtain ⟨u, hu, hmore⟩ := Option.bind_eq_some_iff.mp hsteps
      obtain ⟨u', hu', hrelated'⟩ := hstep _ _ _ _ _ hrelated haction hu
      obtain ⟨t', ht', hlast⟩ := ih hrelated' hmore
      exact ⟨t', by rw [steps, hu', Option.bind_some, ht'], hlast⟩

/-- Any enabled list of actions reaches its final state. -/
theorem reaches_of_steps {step : State → Action → Option State} {actions : List Action} :
    ∀ {s t : State}, steps step s actions = some t → Reaches step s t := by
  induction actions with
  | nil =>
      intro s t hsteps
      cases hsteps
      exact .refl
  | cons action rest ih =>
      intro s t hsteps
      obtain ⟨u, hstep, hmore⟩ := Option.bind_eq_some_iff.mp hsteps
      exact Run.head action trivial hstep (ih hmore)

/-- **Total invariant rule.**  Where every allowed step is enabled and preserves the invariant,
every allowed list of actions runs to its end and leaves the invariant in force. -/
theorem steps_of_total {step : State → Action → Option State} {allowed : State → Action → Prop}
    {Inv : State → Prop} (hstep : ∀ s action, Inv s → allowed s action →
      ∃ t, step s action = some t ∧ Inv t) {actions : List Action} :
    ∀ {s : State}, Inv s → Allowed step allowed s actions →
      ∃ t, steps step s actions = some t ∧ Inv t := by
  induction actions with
  | nil => exact fun {s} hinv _ => ⟨s, rfl, hinv⟩
  | cons action rest ih =>
      rintro s hinv ⟨hallowed, hrest⟩
      obtain ⟨t, ht, hinv'⟩ := hstep s action hinv hallowed
      obtain ⟨u, hu, hinv''⟩ := ih hinv' (hrest t ht)
      exact ⟨u, by rw [steps, ht, Option.bind_some, hu], hinv''⟩

/-- Every step that the list of actions takes obeys the law. -/
def Along (step : State → Action → Option State) (law : State → Action → State → Prop) :
    State → List Action → Prop
  | _, [] => True
  | s, action :: rest => ∀ t, step s action = some t → law s action t ∧ Along step law t rest

section

variable {step : State → Action → Option State} {allowed : State → Action → Prop}
  {law : State → Action → State → Prop} {actions : List Action}

/-- Where each step obeys the law exactly if its action is allowed, so does a list. -/
theorem along_iff_allowed (htotal : ∀ s action, ∃ t, step s action = some t)
    (hlaw : ∀ s action t, step s action = some t → (law s action t ↔ allowed s action)) :
    ∀ {s : State}, Along step law s actions ↔ Allowed step allowed s actions := by
  induction actions with
  | nil => exact fun {s} => Iff.rfl
  | cons action rest ih =>
      intro s
      obtain ⟨t, hstep⟩ := htotal s action
      constructor
      · intro halong
        exact ⟨(hlaw s action t hstep).mp (halong t hstep).1, fun u hu => ih.mp (halong u hu).2⟩
      · rintro ⟨hallowed, hrest⟩ u hu
        exact ⟨(hlaw s action u hu).mpr hallowed, ih.mpr (hrest u hu)⟩

/-- An invariant that allowed steps preserve, and under which they obey the law, gives the law
along every allowed list. -/
theorem along_of_invariant (Inv : State → Prop)
    (hstep : ∀ s action t, Inv s → allowed s action → step s action = some t →
      law s action t ∧ Inv t) :
    ∀ {s : State}, Inv s → Allowed step allowed s actions → Along step law s actions := by
  induction actions with
  | nil => exact fun {s} _ _ => trivial
  | cons action rest ih =>
      rintro s hinv ⟨hallowed, hrest⟩ t ht
      obtain ⟨hlaw, hinv'⟩ := hstep s action t hinv hallowed ht
      exact ⟨hlaw, ih hinv' (hrest t ht)⟩

/-- Where, under an invariant that lawful steps preserve, each step obeys the law exactly if its
action is allowed, so does a list.  An action that is not enabled does no harm. -/
theorem along_iff_allowed_of_invariant (Inv : State → Prop)
    (hdisabled : ∀ s action, step s action = none → allowed s action)
    (hlaw : ∀ s action t, Inv s → step s action = some t →
      (law s action t ↔ allowed s action) ∧ (law s action t → Inv t)) :
    ∀ {s : State}, Inv s → (Along step law s actions ↔ Allowed step allowed s actions) := by
  induction actions with
  | nil => exact fun {s} _ => Iff.rfl
  | cons action rest ih =>
      intro s hinv
      cases hstep : step s action with
      | none =>
          have hnot : ∀ t, step s action ≠ some t := fun t ht => by
            rw [hstep] at ht
            cases ht
          exact iff_of_true (fun t ht => absurd ht (hnot t))
            ⟨hdisabled s action hstep, fun t ht => absurd ht (hnot t)⟩
      | some u =>
          obtain ⟨hiff, hinv'⟩ := hlaw s action u hinv hstep
          constructor
          · intro halong
            obtain ⟨hobeys, hrest⟩ := halong u hstep
            refine ⟨hiff.mp hobeys, fun t ht => ?_⟩
            obtain rfl := Option.some.inj (hstep.symm.trans ht)
            exact (ih (hinv' hobeys)).mp hrest
          · rintro ⟨hallowed, hrest⟩ t ht
            obtain rfl := Option.some.inj (hstep.symm.trans ht)
            have hobeys := hiff.mpr hallowed
            exact ⟨hobeys, (ih (hinv' hobeys)).mpr (hrest u hstep)⟩

/-- A list whose steps obey a law that only allowed actions obey takes allowed actions only. -/
theorem allowed_of_along (Inv : State → Prop)
    (htotal : ∀ s action, ∃ t, step s action = some t)
    (hstep : ∀ s action t, Inv s → step s action = some t → Inv t)
    (hlaw : ∀ s action t, Inv s → step s action = some t → law s action t → allowed s action) :
    ∀ {s : State}, Inv s → Along step law s actions → Allowed step allowed s actions := by
  induction actions with
  | nil => exact fun {s} _ _ => trivial
  | cons action rest ih =>
      intro s hinv halong
      obtain ⟨t, ht⟩ := htotal s action
      refine ⟨hlaw s action t hinv ht (halong t ht).1, fun u hu => ?_⟩
      exact ih (hstep s action u hinv hu) (halong u hu).2

/-- A list of actions is allowed where each of them always is. -/
theorem allowed_of_forall (h : ∀ action ∈ actions, ∀ s, allowed s action) :
    ∀ {s : State}, Allowed step allowed s actions := by
  induction actions with
  | nil => exact trivial
  | cons action rest ih =>
      exact fun {s} => ⟨h action List.mem_cons_self s,
        fun _ _ => ih fun other hother => h other (List.mem_cons_of_mem _ hother)⟩

/-- Where every action is enabled, a condition on actions alone is one on each of the list. -/
theorem allowed_iff_forall {allowed : Action → Prop}
    (htotal : ∀ s action, ∃ t, step s action = some t) :
    ∀ {s : State}, Allowed step (fun _ => allowed) s actions ↔
      ∀ action ∈ actions, allowed action := by
  induction actions with
  | nil => simp [Allowed]
  | cons action rest ih =>
      intro s
      obtain ⟨t, ht⟩ := htotal s action
      simp only [Allowed, ih, ht, Option.some.injEq, forall_eq', List.forall_mem_cons]

/-- A property that a step keeps exactly if its action is allowed holds at the end of a list
exactly if it held at the beginning and every action of the list is allowed. -/
theorem holds_iff_allowed (Inv Holds : State → Prop)
    (hstep : ∀ s action t, Inv s → step s action = some t →
      Inv t ∧ (Holds t ↔ Holds s ∧ allowed s action)) :
    ∀ {s t : State}, Inv s → steps step s actions = some t →
      (Holds t ↔ Holds s ∧ Allowed step allowed s actions) := by
  induction actions with
  | nil =>
      intro s t _ hsteps
      cases hsteps
      simp [Allowed]
  | cons action rest ih =>
      intro s t hinv hsteps
      obtain ⟨u, hu, hmore⟩ := Option.bind_eq_some_iff.mp hsteps
      obtain ⟨hinv', hholds⟩ := hstep s action u hinv hu
      have hrest : (∀ v, step s action = some v → Allowed step allowed v rest) ↔
          Allowed step allowed u rest := by
        rw [hu]
        exact ⟨fun hall => hall u rfl, fun hallowed v hv => Option.some.inj hv ▸ hallowed⟩
      rw [ih hinv' hmore, hholds, Allowed, hrest, and_assoc]

end

end Transition
