import Mathlib.Algebra.BigOperators.Group.Finset.Basic
import Mathlib.Algebra.Order.BigOperators.Group.Finset
import Mathlib.Data.List.Nodup
import Mathlib.Data.Nat.Notation
import Mathlib.Logic.Function.Basic

/-!
# Hash tables with chained buckets

A table is an array of lists.  A search walks the list that the key hashes to and stops at
the first element that satisfies a predicate, so what it sees of a list is the sublist of
the elements that do, its `chain`: a search returns the head of the chain (`find_eq_head?`), an
insertion puts an element in front of it or behind it, and erasing the first match takes the
head away (`chain_eraseFirst`).  A table whose insertions go to the back is a queue for each
key.  How many elements of the whole table satisfy a predicate (`count`) goes up and down with
them.

`ofList` splits one list by the index of its elements, each bucket in the order of the list.
Searches that can only succeed in one bucket then find what a search of the whole list finds
(`find_ofList`), and erase the same element (`eraseFirst_ofList`).
-/

/-- An array of `n` lists. -/
abbrev BucketTable (n : ℕ) (α : Type*) := Fin n → List α

namespace BucketTable

variable {n : ℕ} {α : Type*}

def empty : BucketTable n α := fun _ => []

/-- The elements of list `i` that a search for `p` stops at. -/
def chain (table : BucketTable n α) (i : Fin n) (p : α → Bool) : List α :=
  (table i).filter p

def find (table : BucketTable n α) (i : Fin n) (p : α → Bool) : Option α :=
  (table i).find? p

def pushFront (table : BucketTable n α) (i : Fin n) (a : α) : BucketTable n α :=
  Function.update table i (a :: table i)

def pushBack (table : BucketTable n α) (i : Fin n) (a : α) : BucketTable n α :=
  Function.update table i (table i ++ [a])

/-- Unlinks the first element of list `i` that satisfies `p`. -/
def eraseFirst (table : BucketTable n α) (i : Fin n) (p : α → Bool) : BucketTable n α :=
  Function.update table i ((table i).eraseP p)

variable {table : BucketTable n α} {i j : Fin n} {p q : α → Bool} {a b : α}

theorem find_eq_head? : table.find i p = (table.chain i p).head? :=
  List.head?_filter.symm

theorem mem_of_find (hfind : table.find i p = some a) : a ∈ table i ∧ p a :=
  ⟨List.mem_of_find?_eq_some hfind, List.find?_some hfind⟩

/-- A search that no element of the list tells apart finds the same. -/
theorem find_congr (h : ∀ a ∈ table i, p a = q a) : table.find i p = table.find i q := by
  rw [find_eq_head?, find_eq_head?, chain, chain, List.filter_congr h]

/-! ## Insertion -/

theorem mem_pushFront : b ∈ table.pushFront i a j ↔ (j = i ∧ b = a) ∨ b ∈ table j := by
  rcases eq_or_ne j i with rfl | hne
  · simp [pushFront]
  · simp [pushFront, hne]

theorem find_pushFront :
    (table.pushFront i a).find j p = if j = i ∧ p a then some a else table.find j p := by
  rcases eq_or_ne j i with rfl | hne
  · by_cases hp : p a <;> simp [pushFront, find, hp]
  · simp [pushFront, find, hne]

theorem mem_pushBack : b ∈ table.pushBack i a j ↔ (j = i ∧ b = a) ∨ b ∈ table j := by
  rcases eq_or_ne j i with rfl | hne
  · simp [pushBack, or_comm]
  · simp [pushBack, hne]

theorem nodup_pushBack (hnodup : (table j).Nodup) (hnew : a ∉ table j) :
    (table.pushBack i a j).Nodup := by
  rcases eq_or_ne j i with rfl | hne
  · rw [pushBack, Function.update_self, ← List.concat_eq_append]
    exact hnodup.concat hnew
  · rwa [pushBack, Function.update_of_ne hne]

theorem chain_pushBack_self (hp : p a) :
    (table.pushBack i a).chain i p = table.chain i p ++ [a] := by
  simp [pushBack, chain, hp]

theorem chain_pushBack_of_not (hp : j = i → p a = false) :
    (table.pushBack i a).chain j p = table.chain j p := by
  rcases eq_or_ne j i with rfl | hne
  · simp [pushBack, chain, hp rfl]
  · simp [pushBack, chain, hne]

/-! ## Erasure -/

/-- Erasing the first match takes the head off the chain. -/
theorem chain_eraseFirst : (table.eraseFirst i p).chain i p = (table.chain i p).tail := by
  simp only [eraseFirst, chain, Function.update_self]
  induction table i with
  | nil => rfl
  | cons a as ih =>
      by_cases hp : p a
      · simp [hp]
      · simp [hp, ih]

/-- Erasing a match of `p` leaves the chain of `q` alone when no element matches both. -/
theorem chain_eraseFirst_of_disjoint (h : ∀ a ∈ table i, p a → q a = false) :
    (table.eraseFirst i p).chain j q = table.chain j q := by
  rcases eq_or_ne j i with rfl | hne
  · simp only [eraseFirst, chain, Function.update_self]
    revert h
    induction table j with
    | nil => exact fun _ => rfl
    | cons a as ih =>
        intro h
        by_cases hp : p a
        · simp [hp, h a List.mem_cons_self hp]
        · have htail := ih fun b hb => h b (List.mem_cons_of_mem a hb)
          simp [List.filter_cons, hp, htail]
  · simp [eraseFirst, chain, hne]

theorem mem_of_mem_eraseFirst (hmem : b ∈ table.eraseFirst i p j) : b ∈ table j := by
  rcases eq_or_ne j i with rfl | hne
  · rw [eraseFirst, Function.update_self] at hmem
    exact List.mem_of_mem_eraseP hmem
  · rwa [eraseFirst, Function.update_of_ne hne] at hmem

theorem nodup_eraseFirst (hnodup : (table j).Nodup) : (table.eraseFirst i p j).Nodup := by
  rcases eq_or_ne j i with rfl | hne
  · rw [eraseFirst, Function.update_self]
    exact hnodup.sublist List.eraseP_sublist
  · rwa [eraseFirst, Function.update_of_ne hne]

/-- What is erased from a list without repetitions is gone from it. -/
theorem not_mem_eraseFirst (hnodup : (table i).Nodup) (hfind : table.find i p = some a) :
    a ∉ table.eraseFirst i p i := by
  rw [eraseFirst, Function.update_self]
  obtain ⟨hp, before, after, heq, hbefore⟩ := List.find?_eq_some_iff_append.mp hfind
  have hnone : ∀ b ∈ before, ¬ p b := fun b hb => by simpa using hbefore b hb
  rw [heq, List.eraseP_append_right _ hnone, List.eraseP_cons_of_pos hp]
  rw [heq, List.nodup_append] at hnodup
  obtain ⟨_, hrest, hdisjoint⟩ := hnodup
  rw [List.mem_append, not_or]
  exact ⟨fun hmem => hdisjoint a hmem a List.mem_cons_self rfl, (List.nodup_cons.mp hrest).1⟩

/-- Of a list without repetitions, exactly what the search finds is erased. -/
theorem mem_eraseFirst_iff (hnodup : (table i).Nodup) (hfind : table.find i p = some a) :
    b ∈ table.eraseFirst i p j ↔ b ∈ table j ∧ (j = i → b ≠ a) := by
  constructor
  · intro hmem
    refine ⟨mem_of_mem_eraseFirst hmem, ?_⟩
    rintro rfl rfl
    exact not_mem_eraseFirst hnodup hfind hmem
  · rintro ⟨hmem, hne⟩
    rcases eq_or_ne j i with rfl | hji
    · obtain ⟨hp, before, after, heq, hbefore⟩ := List.find?_eq_some_iff_append.mp hfind
      have hnone : ∀ c ∈ before, ¬ p c := fun c hc => by simpa using hbefore c hc
      rw [eraseFirst, Function.update_self, heq, List.eraseP_append_right _ hnone,
        List.eraseP_cons_of_pos hp]
      rw [heq] at hmem
      simpa [hne rfl] using hmem
    · rwa [eraseFirst, Function.update_of_ne hji]

/-! ## Counting -/

/-- How many elements of the table satisfy `p`. -/
def count (table : BucketTable n α) (p : α → Bool) : ℕ := ∑ i, (table i).countP p

theorem count_empty : (empty : BucketTable n α).count p = 0 := by
  unfold count empty
  simp

/-- Putting another list in place of list `i`. -/
theorem count_update (table : BucketTable n α) (i : Fin n) (l : List α) :
    count (Function.update table i l) p + (table i).countP p = table.count p + l.countP p := by
  have hsum := Finset.add_sum_erase Finset.univ (fun j => (table j).countP p) (Finset.mem_univ i)
  have hsame : ∀ j ∈ Finset.univ.erase i,
      (Function.update table i l j).countP p = (table j).countP p := by
    intro j hj
    rw [Function.update_of_ne (Finset.ne_of_mem_erase hj)]
  unfold count
  rw [← Finset.add_sum_erase _ _ (Finset.mem_univ i), Function.update_self,
    Finset.sum_congr rfl hsame]
  omega

theorem count_pushBack :
    (table.pushBack i a).count p = table.count p + if p a then 1 else 0 := by
  have hupdate := count_update (p := p) table i (table i ++ [a])
  rw [List.countP_append, List.countP_singleton] at hupdate
  unfold pushBack
  omega

theorem count_eraseFirst (hfind : table.find i q = some a) :
    ((table.eraseFirst i q).count p + if p a then 1 else 0) = table.count p := by
  have hupdate := count_update (p := p) table i ((table i).eraseP q)
  obtain ⟨hq, before, after, heq, hbefore⟩ := List.find?_eq_some_iff_append.mp hfind
  have hnone : ∀ b ∈ before, ¬ q b := fun b hb => by simpa using hbefore b hb
  have herase : (table i).eraseP q = before ++ after := by
    rw [heq, List.eraseP_append_right _ hnone, List.eraseP_cons_of_pos hq]
  rw [herase, heq, List.countP_append, List.countP_append, List.countP_cons] at hupdate
  unfold eraseFirst
  rw [herase]
  omega

theorem count_pos_iff : 0 < table.count p ↔ ∃ i, ∃ a ∈ table i, p a := by
  unfold count
  rw [Nat.pos_iff_ne_zero, ne_eq, Finset.sum_eq_zero_iff, not_forall]
  simp only [Finset.mem_univ, forall_const, ← ne_eq, ← Nat.pos_iff_ne_zero, List.countP_pos_iff]

/-! ## One list, split -/

/-- The elements of the list, each in the bucket of its index. -/
def ofList (index : α → Fin n) (l : List α) : BucketTable n α :=
  fun i => l.filter fun a => index a = i

section ofList

variable {index : α → Fin n} {l : List α}

theorem ofList_nil : ofList index [] = empty := rfl

/-- Appending to the list is inserting at the back of a bucket. -/
theorem ofList_append_singleton :
    ofList index (l ++ [a]) = (ofList index l).pushBack (index a) a := by
  funext i
  rcases eq_or_ne i (index a) with rfl | hne
  · simp [ofList, pushBack]
  · simp [ofList, pushBack, hne, Ne.symm hne]

/-- A bucket that all matches belong to is as good as the whole list. -/
theorem find_ofList (h : ∀ a ∈ l, p a → index a = i) : (ofList index l).find i p = l.find? p := by
  rw [find_eq_head?, chain, ofList, List.filter_filter, ← List.head?_filter]
  congr 1
  refine List.filter_congr fun a hmem => ?_
  by_cases hp : p a
  · simp [hp, h a hmem hp]
  · simp [hp]

theorem eraseFirst_ofList (h : ∀ a ∈ l, p a → index a = i) :
    (ofList index l).eraseFirst i p = ofList index (l.eraseP p) := by
  induction l with
  | nil =>
      rw [List.eraseP_nil, ofList_nil, eraseFirst]
      exact Function.update_eq_self i empty
  | cons a as ih =>
      have htail := ih fun b hb => h b (List.mem_cons_of_mem a hb)
      funext j
      have hj := congrFun htail j
      by_cases hp : p a
      -- the first element goes, and it stands first in its bucket
      · obtain rfl := h a List.mem_cons_self hp
        rcases eq_or_ne j (index a) with rfl | hne
        · simp [ofList, eraseFirst, hp]
        · simp [ofList, eraseFirst, hp, hne, Ne.symm hne]
      · rcases eq_or_ne j i with rfl | hne
        · by_cases hindex : index a = j
          · simpa [ofList, eraseFirst, hp, hindex] using hj
          · simpa [ofList, eraseFirst, hp, hindex] using hj
        · by_cases hindex : index a = j
          · simpa [ofList, eraseFirst, hp, hne, hindex] using hj
          · simpa [ofList, eraseFirst, hp, hne, hindex] using hj

end ofList

end BucketTable
