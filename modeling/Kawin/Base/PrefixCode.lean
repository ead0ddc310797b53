import Mathlib.Data.List.Infix
import Mathlib.Logic.Function.Basic

/-!
# Self-delimiting codes

A `PrefixCode` writes each value as a list of symbols from which it can be told where the value
ends: whatever follows, the value and the rest are determined (`splits`).  Codes of a fixed
width are self-delimiting (`fixed`), so is every code that can be read back (`ofRead`), a list
behind its length (`counted`), and a value behind a tag that says how it is written (`tagged`).

Values written one after the other, without separators, are then determined by what was written:
`encodeAll_prefix_iff` says that one text is the beginning of another exactly when its values are.
-/

/-- A code from which it can be told where a value ends. -/
structure PrefixCode (α σ : Type*) where
  encode : α → List σ
  splits : ∀ a b xs ys, encode a ++ xs = encode b ++ ys → a = b ∧ xs = ys

namespace PrefixCode

variable {α β ι σ : Type*}

/-! ## Making codes -/

/-- A code of a fixed width. -/
def fixed (width : ℕ) (encode : α → List σ) (hwidth : ∀ a, (encode a).length = width)
    (hinjective : Function.Injective encode) : PrefixCode α σ where
  encode := encode
  splits a b xs ys h := by
    obtain ⟨hcode, hrest⟩ := List.append_inj h ((hwidth a).trans (hwidth b).symm)
    exact ⟨hinjective hcode, hrest⟩

/-- A code that is read back, whatever follows. -/
def ofRead (encode : α → List σ) (read : List σ → Option (α × List σ))
    (hread : ∀ a xs, read (encode a ++ xs) = some (a, xs)) : PrefixCode α σ where
  encode := encode
  splits a b xs ys h := by
    have hboth : some (a, xs) = some (b, ys) := by rw [← hread, h, hread]
    exact Prod.mk.inj (Option.some.inj hboth)

/-- A list of fewer than `n` symbols behind its length. -/
def counted (n : ℕ) (count : PrefixCode (Fin n) σ) :
    PrefixCode {xs : List σ // xs.length < n} σ where
  encode a := count.encode ⟨a.1.length, a.2⟩ ++ a.1
  splits a b xs ys h := by
    rw [List.append_assoc, List.append_assoc] at h
    obtain ⟨hlength, hrest⟩ := count.splits _ _ _ _ h
    obtain ⟨hlist, htail⟩ := List.append_inj hrest (Fin.mk.inj hlength)
    exact ⟨Subtype.ext hlist, htail⟩

/-- A value behind a tag that says how it is written. -/
def tagged (tag : PrefixCode ι σ) {payload : ι → Type*} (code : ∀ i, PrefixCode (payload i) σ) :
    PrefixCode (Σ i, payload i) σ where
  encode a := tag.encode a.1 ++ (code a.1).encode a.2
  splits a b xs ys h := by
    obtain ⟨i, x⟩ := a
    obtain ⟨j, y⟩ := b
    rw [List.append_assoc, List.append_assoc] at h
    obtain ⟨rfl, hrest⟩ := tag.splits _ _ _ _ h
    obtain ⟨rfl, htail⟩ := (code i).splits _ _ _ _ hrest
    exact ⟨rfl, htail⟩

/-- Values that are written as others are. -/
def comap (code : PrefixCode α σ) (f : β → α) (hinjective : Function.Injective f) :
    PrefixCode β σ where
  encode b := code.encode (f b)
  splits a b xs ys h := by
    obtain ⟨heq, hrest⟩ := code.splits _ _ _ _ h
    exact ⟨hinjective heq, hrest⟩

/-! ## Sequences of values -/

variable (code : PrefixCode α σ)

/-- Values written one after the other. -/
def encodeAll (values : List α) : List σ := values.flatMap code.encode

variable {code} {xs ys : List α}

/-- **Sequences.**  A text is the beginning of another exactly when its values are. -/
theorem encodeAll_prefix_iff (hne : ∀ a, code.encode a ≠ []) :
    code.encodeAll xs <+: code.encodeAll ys ↔ xs <+: ys := by
  induction xs generalizing ys with
  | nil => exact iff_of_true List.nil_prefix List.nil_prefix
  | cons x xs ih =>
      cases ys with
      | nil =>
          refine iff_of_false (fun h => ?_) (fun h => nomatch List.prefix_nil.mp h)
          exact hne x (List.append_eq_nil_iff.mp (List.prefix_nil.mp h)).1
      | cons y ys =>
          rw [List.cons_prefix_cons, ← ih]
          unfold encodeAll
          rw [List.flatMap_cons, List.flatMap_cons]
          constructor
          · rintro ⟨rest, hrest⟩
            rw [List.append_assoc] at hrest
            obtain ⟨heq, htail⟩ := code.splits _ _ _ _ hrest
            exact ⟨heq, rest, htail⟩
          · rintro ⟨rfl, hbegins⟩
            exact (List.prefix_append_right_inj _).mpr hbegins

/-- A text determines its values. -/
theorem encodeAll_injective (hne : ∀ a, code.encode a ≠ []) :
    Function.Injective code.encodeAll := by
  intro xs ys heq
  have hxy : xs <+: ys := (encodeAll_prefix_iff hne).mp (heq ▸ List.prefix_rfl)
  have hyx : ys <+: xs := (encodeAll_prefix_iff hne).mp (heq ▸ List.prefix_rfl)
  exact hxy.eq_of_length_le hyx.length_le

end PrefixCode
