import Kawin.Base.Refinement
import Kawin.Driver.RuleTable

/-!
# The rule table as a list

What the 61 buckets are for is a list of rules, in the order of their insertion: `InsertRule`
appends, `LookupRule` and `RemoveRule` work on the first rule whose path is the argument but for
case.  `ruleTable_refines_list` says that no sequence of requests can tell the table from that
list.

The table is the list, split by the hash of the paths (`Represents`).  Each bucket keeps the order
of the list, and all rules that a search can stop at are in the bucket that it searches, since
equal paths have equal hashes.  Nothing else about the hash matters.
-/

namespace Kawin.Driver

open Refinement

/-! ## Requests -/

inductive RuleRequest
  /-- with whether the allocations of the entry and of its path buffer succeed -/
  | insert (path : UnicodeString) (action : RuleAction) (entryBlock pathBlock : Bool)
  | lookup (path : UnicodeString)
  /-- with what the freed entry holds where its action was -/
  | remove (path : UnicodeString) (freed : RuleAction)

inductive RuleAnswer
  /-- what `InsertRule` and `RemoveRule` return -/
  | done (success : Bool)
  /-- the rule behind the pointer that `LookupRule` returns -/
  | found (rule : Option RuleEntry)
  deriving DecidableEq

section

variable (rtl : RtlStrings)

/-- A request to the table. -/
def Globals.answer (g : Globals) : RuleRequest → RuleAnswer × Globals
  | .insert path action entryBlock pathBlock =>
      let returned := g.insertRule rtl path action entryBlock pathBlock
      (.done returned.1, returned.2)
  | .lookup path => (.found (g.lookupRule rtl path), g)
  | .remove path freed =>
      let returned := g.removeRule rtl path freed
      (.done returned.1, returned.2)

/-! ## The list -/

/-- The rules, oldest first. -/
abbrev RuleList := List RuleEntry

namespace RuleList

/-- The rule is one of the path. -/
def isOf (path : UnicodeString) (rule : RuleEntry) : Bool := rtl.equal rule.path path

/-- A request to the list. -/
def answer (rules : RuleList) : RuleRequest → RuleAnswer × RuleList
  | .insert path action entryBlock pathBlock =>
      if entryBlock && pathBlock then (.done true, rules ++ [⟨path, action⟩])
      else (.done false, rules)
  | .lookup path => (.found (rules.find? (isOf rtl path)), rules)
  | .remove path _ =>
      if rules.any (isOf rtl path) then (.done true, rules.eraseP (isOf rtl path))
      else (.done false, rules)

end RuleList

/-- The table is the list, each rule in the bucket of its path. -/
def Represents (g : Globals) (rules : RuleList) : Prop :=
  g.table = .ofList (fun rule => bucketOf rtl rule.path) rules

/-! ## Refinement -/

variable {rtl} {g : Globals} {rules : RuleList}

theorem represents_init : Represents rtl Globals.init [] := rfl

/-- The rules of a path are in the bucket of the path. -/
theorem bucketOf_of_isOf {path : UnicodeString} {rule : RuleEntry}
    (h : RuleList.isOf rtl path rule) : bucketOf rtl rule.path = bucketOf rtl path :=
  bucketOf_eq h

theorem Represents.lookupRule (h : Represents rtl g rules) (path : UnicodeString) :
    g.lookupRule rtl path = rules.find? (RuleList.isOf rtl path) := by
  rw [Globals.lookupRule, h]
  exact BucketTable.find_ofList fun _ _ => bucketOf_of_isOf

theorem Represents.insertRule (h : Represents rtl g rules) (path : UnicodeString)
    (action : RuleAction) {entryBlock pathBlock : Bool} (hblocks : entryBlock && pathBlock) :
    Represents rtl (g.insertRule rtl path action entryBlock pathBlock).2
      (rules ++ [⟨path, action⟩]) := by
  obtain ⟨rfl, rfl⟩ := Bool.and_eq_true_iff.mp hblocks
  rw [Represents, BucketTable.ofList_append_singleton, ← h]
  rfl

/-- `RemoveRule` finds a rule exactly where the list has one of the path. -/
theorem Represents.removeRule_fst (h : Represents rtl g rules) (path : UnicodeString)
    (freed : RuleAction) :
    (g.removeRule rtl path freed).1 = rules.any (RuleList.isOf rtl path) := by
  rw [Globals.removeRule, h.lookupRule, ← List.isSome_find?]
  cases rules.find? (RuleList.isOf rtl path) with
  | none => rfl
  | some rule => rfl

theorem Represents.removeRule (h : Represents rtl g rules) {path : UnicodeString}
    (freed : RuleAction) (hany : rules.any (RuleList.isOf rtl path)) :
    Represents rtl (g.removeRule rtl path freed).2 (rules.eraseP (RuleList.isOf rtl path)) := by
  rw [← List.isSome_find?] at hany
  obtain ⟨rule, hrule⟩ := Option.isSome_iff_exists.mp hany
  rw [Represents, Globals.removeRule, h.lookupRule, hrule]
  refine Eq.trans ?_ (BucketTable.eraseFirst_ofList fun _ _ => bucketOf_of_isOf)
  rw [← h]
  rfl

/-- A request that fails leaves the table as it was. -/
theorem unchanged_of_failed (g : Globals) (request : RuleRequest)
    (hfailed : (g.answer rtl request).1 = .done false) : (g.answer rtl request).2 = g := by
  cases request with
  | insert path action entryBlock pathBlock =>
      cases hblocks : entryBlock && pathBlock with
      | false =>
          rw [Globals.answer, insertRule_fails hblocks]
      | true =>
          have hfalse : (g.insertRule rtl path action entryBlock pathBlock).1 = false :=
            RuleAnswer.done.inj hfailed
          rw [insertRule_succeeds, hblocks] at hfalse
          cases hfalse
  | lookup path => rfl
  | remove path freed =>
      have hfalse : (g.removeRule rtl path freed).1 = false := RuleAnswer.done.inj hfailed
      rw [Globals.answer]
      rw [Globals.removeRule] at hfalse ⊢
      cases hlookup : g.lookupRule rtl path with
      | none => rfl
      | some rule =>
          rw [hlookup] at hfalse
          cases hfalse

/-- **Step lemma.** -/
theorem simulates_list : Simulates (Globals.answer rtl) (RuleList.answer rtl) (fun _ _ => True)
    (Represents rtl) where
  result := by
    intro g rules request h _
    cases request with
    | insert path action entryBlock pathBlock =>
        simp only [Globals.answer, insertRule_succeeds, RuleList.answer]
        cases hblocks : entryBlock && pathBlock with
        | false => rfl
        | true => rfl
    | lookup path => exact congrArg RuleAnswer.found (h.lookupRule path)
    | remove path freed =>
        simp only [Globals.answer, h.removeRule_fst, RuleList.answer]
        cases hany : rules.any (RuleList.isOf rtl path) with
        | false => rfl
        | true => rfl
  next := by
    intro g rules request h _
    cases request with
    | insert path action entryBlock pathBlock =>
        rw [Globals.answer, RuleList.answer]
        cases hblocks : entryBlock && pathBlock with
        | false =>
            rw [insertRule_fails hblocks]
            exact h
        | true => exact h.insertRule path action hblocks
    | lookup path => exact h
    | remove path freed =>
        cases hany : rules.any (RuleList.isOf rtl path) with
        | false =>
            have hfailed := (h.removeRule_fst path freed).trans hany
            have hsame := unchanged_of_failed g (.remove path freed) (congrArg _ hfailed)
            rw [hsame, RuleList.answer, hany]
            exact h
        | true =>
            rw [RuleList.answer, if_pos hany]
            exact h.removeRule freed hany

/-- **Refinement.**  Whatever is asked of the table after `Init`, the answers are those of the
list, and what fails leaves the table unchanged. -/
theorem ruleTable_refines_list (rtl : RtlStrings) (requests : List RuleRequest) :
    results (Globals.answer rtl) Globals.init requests =
        results (RuleList.answer rtl) [] requests ∧
      ∀ before request after, requests = before ++ request :: after →
        let g := final (Globals.answer rtl) Globals.init before
        (g.answer rtl request).1 = .done false → (g.answer rtl request).2 = g := by
  have hadmitted : Admitted (Globals.answer rtl) (fun _ _ => True) Globals.init requests :=
    admitted_of_forall (fun _ _ => trivial) Globals.init requests
  exact ⟨simulates_list.results_eq represents_init hadmitted,
    fun before request _ _ => unchanged_of_failed _ request⟩

end

/-- Two rules of one path, in different case: with the first removed, the second is found. -/
theorem second_rule_found :
    let lower : UnicodeString := ⟨[97#16], by decide⟩
    let upper : UnicodeString := ⟨[65#16], by decide⟩
    results (Globals.answer asciiStrings) Globals.init
      [.insert lower .audit true true, .insert upper .block true true, .remove upper .audit,
        .lookup lower] =
      [.done true, .done true, .done true, .found (some ⟨upper, .block⟩)] := by
  intro lower upper
  exact (ruleTable_refines_list asciiStrings [.insert lower .audit true true,
    .insert upper .block true true, .remove upper .audit, .lookup lower]).1.trans
    (by decide +kernel)

end Kawin.Driver
