import Mathlib.Data.List.Infix
import Mathlib.Data.Nat.Notation
import Mathlib.Order.MinMax

/-!
# Texts that end with a terminator

A scan of a C string reads the memory from an address on until it meets the terminator, wherever
that is.  Here the memory is the list of the units that can be read from there on, and a scan
that comes to its end faults: the result is `none`.  Beside its result, a scan says how many units
it has read.

`scanLength` is `wcslen` and `search` is `wcsstr`.  Where the terminator is known, both are what
they are meant to be (`scanLength_terminated`, `search_terminated`).  Where it is not,
`search_reads` says what a search that read no more than `k` units has seen among them: the
pattern, or the terminator.
-/

namespace TerminatedText

variable {α : Type*} [DecidableEq α]

/-- The number of units before the terminator. -/
def scanLength (stop : α) : List α → Option ℕ
  | [] => none
  | c :: rest => if c = stop then some 0 else (scanLength stop rest).map Nat.succ

/-- Whether the text begins with the pattern, and how many units were read to find out. -/
def matchHere : List α → List α → Option Bool × ℕ
  | [], _ => (some true, 0)
  | _ :: _, [] => (none, 0)
  | p :: ps, c :: cs =>
      if c = p then
        let tail := matchHere ps cs
        (tail.1, tail.2 + 1)
      else (some false, 1)

/-- Whether the pattern occurs before the terminator, and how many units were read. -/
def search (stop : α) (pattern : List α) : List α → Option Bool × ℕ
  | [] => (none, 0)
  | c :: rest =>
      if c = stop then (some false, 1)
      else
        let here := matchHere pattern (c :: rest)
        if here.1 = some false then
          let later := search stop pattern rest
          (later.1, max here.2 (later.2 + 1))
        else here

variable {stop : α} {pattern text before rest : List α} {answer : Bool} {n k : ℕ}

/-! ## Where the terminator is known -/

theorem scanLength_terminated (h : stop ∉ before) :
    scanLength stop (before ++ stop :: rest) = some before.length := by
  induction before with
  | nil => exact if_pos rfl
  | cons c before ih =>
      have hne : c ≠ stop := fun heq => h (heq ▸ List.mem_cons_self)
      have htail := ih fun hmem => h (List.mem_cons_of_mem c hmem)
      rw [List.cons_append, scanLength, if_neg hne, htail]
      rfl

/-- A scan that comes to an end has found the terminator. -/
theorem scanLength_eq_some (h : scanLength stop text = some n) :
    ∃ rest, text = text.take n ++ stop :: rest ∧ stop ∉ text.take n ∧ n ≤ text.length := by
  induction text generalizing n with
  | nil => cases h
  | cons c text ih =>
      rw [scanLength] at h
      by_cases heq : c = stop
      · rw [if_pos heq] at h
        cases h
        exact ⟨text, by rw [heq]; rfl, List.not_mem_nil, Nat.zero_le _⟩
      · rw [if_neg heq] at h
        obtain ⟨m, hm, rfl⟩ := Option.map_eq_some_iff.mp h
        obtain ⟨rest, htext, hmem, hle⟩ := ih hm
        refine ⟨rest, ?_, ?_, Nat.succ_le_succ hle⟩
        · rw [List.take_succ_cons, List.cons_append, ← htext]
        · rw [List.take_succ_cons]
          intro hcons
          rcases List.mem_cons.mp hcons with hhead | htail
          · exact heq hhead.symm
          · exact hmem htail

theorem scanLength_eq_none_iff : scanLength stop text = none ↔ stop ∉ text := by
  constructor
  · intro hnone hmem
    obtain ⟨before, rest, rfl, hbefore⟩ := List.eq_append_cons_of_mem hmem
    rw [scanLength_terminated hbefore] at hnone
    cases hnone
  · intro hnot
    cases hscan : scanLength stop text with
    | none => rfl
    | some n =>
        obtain ⟨rest, htext, -, -⟩ := scanLength_eq_some hscan
        refine absurd ?_ hnot
        rw [htext]
        exact List.mem_append_right _ List.mem_cons_self

/-- A scan that ends among the first units ends there without the others. -/
theorem scanLength_take (h : scanLength stop text = some n) (hlt : n < k) :
    scanLength stop (text.take k) = some n := by
  obtain ⟨rest, htext, hbefore, hle⟩ := scanLength_eq_some h
  obtain ⟨j, rfl⟩ := Nat.exists_eq_add_of_lt hlt
  have hlength : (text.take n).length = n := List.length_take_of_le hle
  have htake : text.take (n + j + 1) = text.take n ++ stop :: rest.take j := by
    calc text.take (n + j + 1)
        = (text.take n ++ stop :: rest).take (n + (j + 1)) := by rw [← htext, Nat.add_assoc]
      _ = text.take n ++ (stop :: rest).take (j + 1) := by
          rw [List.take_append, hlength, List.take_of_length_le (by omega),
            Nat.add_sub_cancel_left]
      _ = text.take n ++ stop :: rest.take j := by rw [List.take_succ_cons]
  rw [htake, scanLength_terminated hbefore, hlength]

theorem matchHere_terminated (hpattern : stop ∉ pattern) :
    ∃ n ≤ before.length + 1, matchHere pattern (before ++ stop :: rest) =
      (some (decide (pattern <+: before)), n) := by
  induction pattern generalizing before with
  | nil => exact ⟨0, Nat.zero_le _, by simp [matchHere]⟩
  | cons p ps ih =>
      have hp : stop ≠ p := fun heq => hpattern (heq ▸ List.mem_cons_self)
      have hps : stop ∉ ps := fun hmem => hpattern (List.mem_cons_of_mem p hmem)
      cases before with
      -- the terminator stops the comparison
      | nil =>
          refine ⟨1, le_rfl, ?_⟩
          rw [List.nil_append, matchHere, if_neg hp]
          simp
      | cons c before =>
          by_cases hc : c = p
          · obtain ⟨n, hle, htail⟩ := @ih before hps
            refine ⟨n + 1, Nat.succ_le_succ hle, ?_⟩
            rw [List.cons_append, matchHere, if_pos hc, htail]
            simp [List.cons_prefix_cons, hc]
          · refine ⟨1, Nat.succ_le_succ (Nat.zero_le _), ?_⟩
            rw [List.cons_append, matchHere, if_neg hc]
            simp [List.cons_prefix_cons, Ne.symm hc]

/-- **A search of a terminated text** says whether the pattern occurs in it, and reads nothing
behind the terminator. -/
theorem search_terminated (rest : List α) (hpattern : stop ∉ pattern) (hnonempty : pattern ≠ [])
    (hbefore : stop ∉ before) :
    ∃ n ≤ before.length + 1, search stop pattern (before ++ stop :: rest) =
      (some (decide (pattern <:+: before)), n) := by
  induction before with
  | nil =>
      refine ⟨1, le_rfl, ?_⟩
      rw [List.nil_append, search, if_pos rfl]
      simp [hnonempty]
  | cons c before ih =>
      have hc : c ≠ stop := fun heq => hbefore (heq ▸ List.mem_cons_self)
      obtain ⟨here, hhere, hmatch⟩ :=
        @matchHere_terminated _ _ stop pattern (c :: before) rest hpattern
      obtain ⟨later, hlater, hsearch⟩ := ih fun hmem => hbefore (List.mem_cons_of_mem c hmem)
      rw [List.cons_append] at hmatch
      rw [List.cons_append, search, if_neg hc, hmatch]
      by_cases hbegins : pattern <+: c :: before
      · refine ⟨here, hhere, ?_⟩
        simp [hbegins, hbegins.isInfix]
      · refine ⟨max here (later + 1), max_le hhere (Nat.succ_le_succ hlater), ?_⟩
        rw [hsearch]
        simp [hbegins, List.infix_cons_iff]

/-! ## Where it is not -/

theorem matchHere_true (h : matchHere pattern text = (some true, n)) :
    pattern <+: text.take n := by
  induction pattern generalizing text n with
  | nil => exact List.nil_prefix
  | cons p ps ih =>
      cases text with
      | nil => cases h
      | cons c cs =>
          rw [matchHere] at h
          by_cases hc : c = p
          · rw [if_pos hc] at h
            obtain ⟨htail, rfl⟩ := Prod.mk.inj h
            rw [List.take_succ_cons, List.cons_prefix_cons]
            exact ⟨hc.symm, ih (Prod.ext htail rfl)⟩
          · rw [if_neg hc] at h
            cases h

/-- **What a search has read.**  A search that read at most `k` units has seen among them the
pattern, or the terminator. -/
theorem search_reads (h : search stop pattern text = (some answer, n)) (hle : n ≤ k) :
    if answer then pattern <:+: text.take k else stop ∈ text.take k := by
  induction text generalizing n k with
  | nil => cases h
  | cons c text ih =>
      rw [search] at h
      by_cases hc : c = stop
      · rw [if_pos hc] at h
        obtain ⟨hanswer, rfl⟩ := Prod.mk.inj h
        obtain ⟨j, rfl⟩ := Nat.exists_eq_succ_of_ne_zero (Nat.ne_of_gt hle)
        cases hanswer
        rw [if_neg Bool.false_ne_true, List.take_succ_cons, hc]
        exact List.mem_cons_self
      · rw [if_neg hc] at h
        by_cases hhere : (matchHere pattern (c :: text)).1 = some false
        -- not here: what the rest of the search has read begins one unit later
        · simp only [if_pos hhere] at h
          obtain ⟨hlater, hmax⟩ := Prod.mk.inj h
          have hread : (search stop pattern text).2 + 1 ≤ k :=
            (le_max_right _ _).trans (hmax.le.trans hle)
          obtain ⟨j, rfl⟩ := Nat.exists_eq_succ_of_ne_zero (Nat.ne_of_gt (Nat.zero_lt_of_lt hread))
          have hrest := ih (Prod.ext hlater rfl) (Nat.le_of_succ_le_succ hread)
          rw [List.take_succ_cons]
          cases answer with
          | true => exact List.infix_cons_iff.mpr (Or.inr hrest)
          | false => exact List.mem_cons_of_mem c hrest
        · simp only [if_neg hhere] at h
          cases answer with
          | true =>
              have hbegins := (matchHere_true h).trans (List.take_prefix_take_left hle)
              exact hbegins.isInfix
          | false => exact absurd (congrArg Prod.fst h) hhere

end TerminatedText
