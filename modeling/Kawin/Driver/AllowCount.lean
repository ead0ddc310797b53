import Kawin.Driver.RuleTable

/-!
# The number of Allow rules

`m_ProcessWhitelist` is kept beside the rule table: `InsertRule` adds one for an Allow rule, and
`RemoveRule` takes one away if it finds `Allow` in the entry that it has just freed.  What it finds
there is anything.

`allowCounted_iff_keepsCount` says when the counter is the number of Allow rules throughout: each
removal must find in the freed entry what decides as the rule itself would have done, and the rules
must not be so many that the counter wraps around.  A counter of zero forgives the one mistake of
reading `Allow` where no Allow rule is left, since it is not decremented then.
-/

namespace Kawin.Driver

/-- `IsProcessWhitelist`. -/
def Globals.isProcessWhitelist (g : Globals) : Bool := decide (g.processWhitelist > 0#32)

def RuleEntry.isAllow (rule : RuleEntry) : Bool := decide (rule.action = .allow)

/-- How many rules of the table allow their process. -/
def Globals.allowRules (g : Globals) : ℕ := g.table.count RuleEntry.isAllow

/-- The counter and what it is asked for agree with the table. -/
structure AllowCounted (g : Globals) : Prop where
  counter : g.processWhitelist.toNat = g.allowRules
  present : g.isProcessWhitelist ↔ ∃ i, ∃ rule ∈ g.table i, rule.action = .allow

section

variable (rtl : RtlStrings)

/-- An insertion does not wrap the counter around; a removal finds in the freed entry `Allow` for
an Allow rule, and for another rule something else, unless no Allow rule is left. -/
def KeepsCount (g : Globals) : RuleCall → Prop
  | .insert _ action entryBlock pathBlock =>
      entryBlock && pathBlock → action = .allow → g.allowRules + 1 < 2 ^ 32
  | .remove path freed => ∀ rule ∈ g.lookupRule rtl path,
      if rule.action = .allow then freed = .allow else freed = .allow → g.allowRules = 0

variable {rtl} {g : Globals} {path : UnicodeString} {action freed : RuleAction}
  {entryBlock pathBlock : Bool}

/-- The counter decides both. -/
theorem allowCounted_iff : AllowCounted g ↔ g.processWhitelist.toNat = g.allowRules := by
  constructor
  · exact fun h => h.counter
  · intro hcounter
    refine ⟨hcounter, ?_⟩
    have hpos : g.isProcessWhitelist ↔ 0 < g.allowRules := by
      unfold Globals.isProcessWhitelist
      rw [decide_eq_true_iff, gt_iff_lt, BitVec.lt_def, hcounter]
      exact Iff.rfl
    rw [hpos, Globals.allowRules, BucketTable.count_pos_iff]
    simp only [RuleEntry.isAllow, decide_eq_true_eq]

theorem init_allowCounted : AllowCounted Globals.init := by
  rw [allowCounted_iff, Globals.allowRules, Globals.init, BucketTable.count_empty]
  rfl

/-! ## One call -/

theorem allowRules_insert (hblocks : entryBlock && pathBlock) :
    (g.insertRule rtl path action entryBlock pathBlock).2.allowRules =
      g.allowRules + if action = .allow then 1 else 0 := by
  obtain ⟨rfl, rfl⟩ := Bool.and_eq_true_iff.mp hblocks
  have htable : (g.insertRule rtl path action true true).2.table =
      g.table.pushBack (bucketOf rtl path) ⟨path, action⟩ := rfl
  unfold Globals.allowRules
  rw [htable, BucketTable.count_pushBack]
  simp only [RuleEntry.isAllow, decide_eq_true_eq]

theorem AllowCounted.insert_iff (h : AllowCounted g) :
    AllowCounted (g.insertRule rtl path action entryBlock pathBlock).2 ↔
      (entryBlock && pathBlock → action = .allow → g.allowRules + 1 < 2 ^ 32) := by
  cases hblocks : entryBlock && pathBlock with
  | false =>
      rw [insertRule_fails hblocks]
      exact iff_of_true h (fun hfalse => absurd hfalse Bool.false_ne_true)
  | true =>
      rw [allowCounted_iff, allowRules_insert hblocks]
      obtain ⟨rfl, rfl⟩ := Bool.and_eq_true_iff.mp hblocks
      change BitVec.toNat (if action = .allow then _ else _) = _ ↔ _
      have hcounter := h.counter
      by_cases hallow : action = .allow
      · rw [if_pos hallow, if_pos hallow, BitVec.toNat_add, hcounter,
          show (1#32).toNat = 1 from rfl]
        -- the counter is right again exactly if it has not wrapped around
        constructor
        · intro hsum _ _
          have hlt := Nat.mod_lt (g.allowRules + 1) (Nat.two_pow_pos 32)
          rwa [hsum] at hlt
        · intro hlt
          exact Nat.mod_eq_of_lt (hlt rfl hallow)
      · rw [if_neg hallow, if_neg hallow, Nat.add_zero]
        exact iff_of_true hcounter (fun _ hyes => absurd hyes hallow)

theorem allowRules_remove (freed : RuleAction) {rule : RuleEntry}
    (hlookup : g.lookupRule rtl path = some rule) :
    ((g.removeRule rtl path freed).2.allowRules + if rule.action = .allow then 1 else 0) =
      g.allowRules := by
  have hcount := @BucketTable.count_eraseFirst _ _ g.table (bucketOf rtl path) RuleEntry.isAllow
    (fun entry => matchPath rtl entry path) rule hlookup
  have htable : (g.removeRule rtl path freed).2.table =
      g.table.eraseFirst (bucketOf rtl path) fun entry => matchPath rtl entry path := by
    unfold Globals.removeRule
    rw [hlookup]
  unfold Globals.allowRules
  rw [htable]
  simpa only [RuleEntry.isAllow, decide_eq_true_eq] using hcount

/-- What `RemoveRule` does to the counter. -/
theorem processWhitelist_remove (freed : RuleAction) {rule : RuleEntry}
    (hlookup : g.lookupRule rtl path = some rule) :
    (g.removeRule rtl path freed).2.processWhitelist.toNat =
      if freed = .allow then g.processWhitelist.toNat - 1 else g.processWhitelist.toNat := by
  have hcounter : (g.removeRule rtl path freed).2.processWhitelist =
      if freed = .allow ∧ g.processWhitelist ≠ 0#32 then g.processWhitelist - 1#32
      else g.processWhitelist := by
    unfold Globals.removeRule
    rw [hlookup]
  rw [hcounter]
  by_cases hfreed : freed = .allow
  · by_cases hzero : g.processWhitelist = 0#32
    · simp [hfreed, hzero]
    · rw [if_pos ⟨hfreed, hzero⟩, if_pos hfreed]
      bv_omega
  · rw [if_neg fun hboth => hfreed hboth.1, if_neg hfreed]

theorem AllowCounted.remove_iff (h : AllowCounted g) :
    AllowCounted (g.removeRule rtl path freed).2 ↔ ∀ rule ∈ g.lookupRule rtl path,
      if rule.action = .allow then freed = .allow else freed = .allow → g.allowRules = 0 := by
  cases hlookup : g.lookupRule rtl path with
  | none =>
      have hsame : (g.removeRule rtl path freed).2 = g := by
        unfold Globals.removeRule
        rw [hlookup]
      rw [hsame]
      exact iff_of_true h (fun rule hrule => absurd hrule (Option.not_mem_none rule))
  | some rule =>
      have hrules := allowRules_remove freed hlookup
      have hcounter := processWhitelist_remove freed hlookup
      rw [h.counter] at hcounter
      rw [allowCounted_iff, hcounter]
      simp only [Option.mem_some_iff, forall_eq']
      by_cases hallow : rule.action = .allow
      · rw [if_pos hallow] at hrules ⊢
        by_cases hfreed : freed = .allow
        · rw [if_pos hfreed]
          exact iff_of_true (by omega) hfreed
        · rw [if_neg hfreed]
          exact iff_of_false (by omega) hfreed
      · rw [if_neg hallow] at hrules ⊢
        by_cases hfreed : freed = .allow
        · rw [if_pos hfreed]
          constructor
          · intro hequal _
            omega
          · intro hnone
            have hzero := hnone hfreed
            omega
        · rw [if_neg hfreed]
          exact iff_of_true (by omega) (fun hyes => absurd hyes hfreed)

/-- **Step lemma.**  A call leaves the counter right exactly if it meets the condition. -/
theorem AllowCounted.call_iff (h : AllowCounted g) (call : RuleCall) :
    AllowCounted (g.call rtl call).2 ↔ KeepsCount rtl g call := by
  cases call with
  | insert path action entryBlock pathBlock => exact h.insert_iff
  | remove path freed => exact h.remove_iff

/-! ## Sequences of calls -/

/-- **Run lemma.** -/
theorem allowCounted_of_keepsCount {calls : List RuleCall}
    (h : ∀ before call after, calls = before ++ call :: after →
      KeepsCount rtl (Globals.init.calls rtl before) call) :
    AllowCounted (Globals.init.calls rtl calls) := by
  induction calls using List.reverseRecOn with
  | nil => exact init_allowCounted
  | append_singleton before call ih =>
      have hbefore : AllowCounted (Globals.init.calls rtl before) := by
        apply ih
        intro before' call' after heq
        apply h before' call' (after ++ [call])
        rw [heq, List.append_assoc, List.cons_append]
      rw [calls_append]
      exact (hbefore.call_iff call).mpr (h before call [] rfl)

/-- **The counter, exactly.**  It is right in every state of a sequence of calls if and only if
every call meets the condition in the state before it. -/
theorem allowCounted_iff_keepsCount (rtl : RtlStrings) (calls : List RuleCall) :
    (∀ k, AllowCounted (Globals.init.calls rtl (calls.take k))) ↔
      ∀ before call after, calls = before ++ call :: after →
        KeepsCount rtl (Globals.init.calls rtl before) call := by
  constructor
  · rintro hcounted before call after rfl
    have hbefore := hcounted before.length
    have hafter := hcounted (before.length + 1)
    rw [List.take_left] at hbefore
    rw [List.take_length_add_append, List.take_succ_cons, List.take_zero, calls_append] at hafter
    exact (hbefore.call_iff call).mp hafter
  · intro hkeeps k
    apply allowCounted_of_keepsCount
    intro before call after heq
    apply hkeeps before call (after ++ calls.drop k)
    rw [← List.cons_append, ← List.append_assoc, ← heq, List.take_append_drop]

end

/-- The only rule allows its process and is removed, and the freed entry reads as `Audit`: the
counter stays at one. -/
theorem not_allowCounted : ¬ ∀ rtl calls, AllowCounted (Globals.init.calls rtl calls) := by
  intro hcounted
  let path : UnicodeString := ⟨[97#16], by decide⟩
  have hcounter :=
    (hcounted asciiStrings [.insert path .allow true true, .remove path .audit]).counter
  exact absurd hcounter (by decide +kernel)

end Kawin.Driver
