import Kawin.Base.Transition
import Mathlib.Data.List.Basic

/-!
# Rankings

Some of the actions of a system are the work of the parties that one waits for; the others come
from outside.  A rank that work lowers and that nothing raises bounds the work that is done before
the rank is used up (`work_le_rank`), however the other actions fall in between.  Together with the
fact that some work can be done as long as something is left to do, this says that the parties come
to an end.
-/

namespace Transition

variable {State Action : Type*} {step : State → Action → Option State}
  {allowed : State → Action → Prop} {works : Action → Bool} {rank : State → ℕ} {Inv : State → Prop}

/-- **Ranking rule.** -/
theorem work_le_rank (hstep : ∀ s action t, Inv s → allowed s action → step s action = some t →
      Inv t ∧ rank t + (works action).toNat ≤ rank s) {actions : List Action} :
    ∀ {s t : State}, Inv s → Allowed step allowed s actions → steps step s actions = some t →
      rank t + actions.countP works ≤ rank s := by
  induction actions with
  | nil =>
      intro s t _ _ hsteps
      cases hsteps
      exact Nat.le_refl _
  | cons action rest ih =>
      rintro s t hinv ⟨hallowed, hrest⟩ hsteps
      obtain ⟨u, hu, hmore⟩ := Option.bind_eq_some_iff.mp hsteps
      obtain ⟨hinv', hfirst⟩ := hstep s action u hinv hallowed hu
      have hothers := ih hinv' (hrest u hu) hmore
      rw [List.countP_cons]
      cases hworks : works action with
      | false =>
          rw [hworks, Bool.toNat_false] at hfirst
          simp only [Bool.false_eq_true, if_false]
          omega
      | true =>
          rw [hworks, Bool.toNat_true] at hfirst
          simp only [if_true]
          omega

end Transition
