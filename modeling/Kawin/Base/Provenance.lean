import Mathlib.Algebra.Order.Group.Multiset
import Mathlib.Data.Multiset.MapFold

/-!
# Where things come from

`Stems r s t` says that everything in `t` comes from something in `s`, no two things from the same
one, in the way that `r` says.  It is what a lossy channel does to what is put into it: it may
change it, lose some of it and hand it out in another order, but it neither makes things up nor
doubles them.  Such channels can be put one behind the other (`Stems.comp`) and side by side
(`Stems.add`).
-/

namespace Provenance

variable {α β γ : Type*} {r : α → β → Prop} {q : β → γ → Prop}

/-- All of `t` comes from `s`, and no two from the same one. -/
def Stems (r : α → β → Prop) (s : Multiset α) (t : Multiset β) : Prop :=
  ∃ sources ≤ s, Multiset.Rel r sources t

namespace Stems

variable {s s' : Multiset α} {t t' : Multiset β} {u : Multiset γ} {a : α} {b : β}

theorem zero : Stems r s 0 := ⟨0, Multiset.zero_le s, .zero⟩

theorem of_rel (h : Multiset.Rel r s t) : Stems r s t := ⟨s, le_rfl, h⟩

/-- There may be more to come from. -/
theorem mono_left (h : Stems r s t) (hle : s ≤ s') : Stems r s' t := by
  obtain ⟨sources, hsources, hrel⟩ := h
  exact ⟨sources, hsources.trans hle, hrel⟩

/-- Some of it may get lost. -/
theorem mono_right (h : Stems r s t) (hle : t' ≤ t) : Stems r s t' := by
  obtain ⟨sources, hsources, hrel⟩ := h
  obtain ⟨lost, rfl⟩ := Multiset.le_iff_exists_add.mp hle
  obtain ⟨kept, gone, hkept, -, rfl⟩ := Multiset.rel_add_right.mp hrel
  exact ⟨kept, (Multiset.le_add_right kept gone).trans hsources, hkept⟩

/-- Side by side. -/
theorem add (h : Stems r s t) (h' : Stems r s' t') : Stems r (s + s') (t + t') := by
  obtain ⟨sources, hsources, hrel⟩ := h
  obtain ⟨others, hothers, hrel'⟩ := h'
  exact ⟨sources + others, add_le_add hsources hothers, hrel.add hrel'⟩

theorem singleton (h : r a b) : Stems r {a} {b} := of_rel (.cons h .zero)

end Stems

/-- What comes from something by way of something else. -/
theorem rel_comp {s : Multiset α} {t : Multiset β} {u : Multiset γ} (h : Multiset.Rel r s t)
    (h' : Multiset.Rel q t u) : Multiset.Rel (fun a c => ∃ b, r a b ∧ q b c) s u := by
  induction h' generalizing s with
  | zero =>
      rw [Multiset.rel_zero_right.mp h]
      exact .zero
  | @cons b c t u hbc _ ih =>
      obtain ⟨a, s', hab, hrel, rfl⟩ := Multiset.rel_cons_right.mp h
      exact .cons ⟨b, hab, hbc⟩ (ih hrel)

namespace Stems

variable {s : Multiset α} {t : Multiset β} {u : Multiset γ}

/-- One behind the other. -/
theorem comp (h : Stems r s t) (h' : Stems q t u) :
    Stems (fun a c => ∃ b, r a b ∧ q b c) s u := by
  obtain ⟨middle, hmiddle, hrel'⟩ := h'
  obtain ⟨sources, hsources, hrel⟩ := h.mono_right hmiddle
  exact ⟨sources, hsources, rel_comp hrel hrel'⟩

theorem mono {r' : α → β → Prop} (h : Stems r s t) (himp : ∀ a b, r a b → r' a b) :
    Stems r' s t := by
  obtain ⟨sources, hsources, hrel⟩ := h
  exact ⟨sources, hsources, hrel.mono fun a _ b _ => himp a b⟩

/-- What is made of each comes from each. -/
theorem map (s : Multiset α) (f : α → β) : Stems (fun a b => f a = b) s (s.map f) := by
  refine of_rel (Multiset.rel_map_right.mpr ?_)
  exact Multiset.rel_refl_of_refl_on fun a _ => rfl

end Stems

end Provenance
