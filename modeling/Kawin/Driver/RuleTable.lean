import Kawin.Base.BucketTable
import Kawin.Driver.UnicodeString

/-!
# The rule table

`Globals` keeps the rules in 61 chained buckets, by a hash of the path that ignores case.
`InsertRule` appends a rule without looking for one that is there, `LookupRule` returns the
first that matches, and `RemoveRule` removes the first that matches.  The rules of one path
are therefore a queue (`rulesOf`): inserts go to its back (`rulesOf_insert`), lookups and
removals work at its front (`rulesOf_remove`).

A map would behave like that only while a queue holds one rule, or several that agree:
`map_law_iff` says that a sequence of calls obeys the map law exactly when no insert finds
another action in front of it and no removal leaves a second rule behind.

The comparison and the hash are the run-time library's.  `RtlStrings` holds what the driver
relies on: comparison by upper-cased characters, and equal hashes for equal strings.
-/

namespace Kawin.Driver

/-- `RtlUpcaseUnicodeChar`, and `RtlHashUnicodeString` with `CaseInSensitive` set. -/
structure RtlStrings where
  upcase : UINT16 → UINT16
  hash : UnicodeString → ULONG
  hash_eq : ∀ s t : UnicodeString, s.units.map upcase = t.units.map upcase → hash s = hash t

/-- `RtlEqualUnicodeString(s, t, TRUE)`. -/
def RtlStrings.equal (rtl : RtlStrings) (s t : UnicodeString) : Bool :=
  s.units.map rtl.upcase == t.units.map rtl.upcase

/-! ## Rules -/

/-- `RuleAction`; a `SHORT` from user mode is cast to it unchecked. -/
inductive RuleAction
  | audit | block | allow
  | other (code : UINT16)
  deriving DecidableEq, Repr

/-- `RULE_ENTRY`. -/
structure RuleEntry where
  path : UnicodeString
  action : RuleAction
  deriving DecidableEq

/-- `AllocateRuleEntry`; the flags are whether the allocations of the entry and of its path
buffer succeed.  The copy has room for the whole path. -/
def allocateRuleEntry (entryBlock pathBlock : Bool) (path : UnicodeString) (action : RuleAction) :
    Option RuleEntry :=
  if !entryBlock then none else if !pathBlock then none else some ⟨path, action⟩

/-- `NUM_BUCKETS`. -/
def numBuckets : ℕ := 61

/-- The part of `Globals` that concerns the rules. -/
structure Globals where
  processWhitelist : ULONG
  table : BucketTable numBuckets RuleEntry

section

variable (rtl : RtlStrings)

/-- `HashPath`, reduced to an index. -/
def bucketOf (path : UnicodeString) : Fin numBuckets :=
  ⟨(rtl.hash path).toNat % numBuckets, Nat.mod_lt _ (by decide)⟩

/-- `MatchPath`. -/
def matchPath (entry : RuleEntry) (path : UnicodeString) : Bool := rtl.equal entry.path path

namespace Globals

/-- `Init`. -/
def init : Globals := ⟨0#32, .empty⟩

/-- `InsertRule`. -/
def insertRule (g : Globals) (path : UnicodeString) (action : RuleAction)
    (entryBlock pathBlock : Bool) : Bool × Globals :=
  match allocateRuleEntry entryBlock pathBlock path action with
  | none => (false, g)
  | some entry =>
      (true,
        { processWhitelist :=
            if action = .allow then g.processWhitelist + 1#32 else g.processWhitelist
          table := g.table.pushBack (bucketOf rtl path) entry })

/-- `LookupRule`. -/
def lookupRule (g : Globals) (path : UnicodeString) : Option RuleEntry :=
  g.table.find (bucketOf rtl path) fun entry => matchPath rtl entry path

/-- `RemoveRule`, which reads the action of the entry after freeing it: `freed` is what it
finds there. -/
def removeRule (g : Globals) (path : UnicodeString) (freed : RuleAction) : Bool × Globals :=
  match g.lookupRule rtl path with
  | none => (false, g)
  | some _ =>
      (true,
        { processWhitelist :=
            if freed = .allow ∧ g.processWhitelist ≠ 0#32 then g.processWhitelist - 1#32
            else g.processWhitelist
          table := g.table.eraseFirst (bucketOf rtl path) fun entry => matchPath rtl entry path })

end Globals

/-! ## Sequences of calls -/

inductive RuleCall
  | insert (path : UnicodeString) (action : RuleAction) (entryBlock pathBlock : Bool)
  | remove (path : UnicodeString) (freed : RuleAction)

def RuleCall.path : RuleCall → UnicodeString
  | .insert path _ _ _ => path
  | .remove path _ => path

def RuleCall.isInsert : RuleCall → Bool
  | .insert .. => true
  | .remove .. => false

/-- The call returns `TRUE`, and the state it leaves. -/
def Globals.call (g : Globals) : RuleCall → Bool × Globals
  | .insert path action entryBlock pathBlock => g.insertRule rtl path action entryBlock pathBlock
  | .remove path freed => g.removeRule rtl path freed

def Globals.calls (g : Globals) (calls : List RuleCall) : Globals :=
  calls.foldl (fun g call => (g.call rtl call).2) g

/-- The law of a map from paths, compared ignoring case, to actions: what the last call on a
path that returned `TRUE` says is what a lookup finds. -/
structure MapLaw (calls : List RuleCall) : Prop where
  inserted : ∀ before path action entryBlock pathBlock after query,
    calls = before ++ .insert path action entryBlock pathBlock :: after →
    ((Globals.init.calls rtl before).insertRule rtl path action entryBlock pathBlock).1 = true →
    (∀ call ∈ after, rtl.equal call.path path = false) → rtl.equal query path →
    ∃ rule, (Globals.init.calls rtl calls).lookupRule rtl query = some rule ∧ rule.action = action
  removed : ∀ before path freed after query, calls = before ++ .remove path freed :: after →
    ((Globals.init.calls rtl before).removeRule rtl path freed).1 = true →
    (∀ call ∈ after, call.isInsert → rtl.equal call.path path = false) → rtl.equal query path →
    (Globals.init.calls rtl calls).lookupRule rtl query = none

/-- The rules of a path, in the order in which lookups meet them. -/
def Globals.rulesOf (g : Globals) (path : UnicodeString) : List RuleEntry :=
  g.table.chain (bucketOf rtl path) fun entry => matchPath rtl entry path

/-- An insert that succeeds meets no rule of the path with another action first; a removal
meets no second rule of the path. -/
def Unshadowed (g : Globals) : RuleCall → Prop
  | .insert path action entryBlock pathBlock =>
      entryBlock && pathBlock → ∀ rule ∈ g.lookupRule rtl path, rule.action = action
  | .remove path _ => (g.rulesOf rtl path).length ≤ 1

/-! ## The queue of a path -/

variable {rtl} {g : Globals} {path query : UnicodeString} {action freed : RuleAction}
  {entryBlock pathBlock : Bool}

theorem RtlStrings.equal_iff {s t : UnicodeString} :
    rtl.equal s t ↔ s.units.map rtl.upcase = t.units.map rtl.upcase := beq_iff_eq

theorem RtlStrings.equal_refl (s : UnicodeString) : rtl.equal s s := equal_iff.mpr rfl

theorem RtlStrings.equal_symm {s t : UnicodeString} (h : rtl.equal s t) : rtl.equal t s :=
  equal_iff.mpr (equal_iff.mp h).symm

theorem RtlStrings.equal_trans {s t u : UnicodeString} (hst : rtl.equal s t)
    (htu : rtl.equal t u) : rtl.equal s u :=
  equal_iff.mpr ((equal_iff.mp hst).trans (equal_iff.mp htu))

theorem bucketOf_eq (h : rtl.equal query path) : bucketOf rtl query = bucketOf rtl path := by
  rw [bucketOf, bucketOf]
  congr 1
  rw [rtl.hash_eq query path (RtlStrings.equal_iff.mp h)]

/-- The queue of a path does not depend on its case. -/
theorem rulesOf_congr (h : rtl.equal query path) : g.rulesOf rtl query = g.rulesOf rtl path := by
  have hmatch : (fun entry => matchPath rtl entry query) =
      fun entry => matchPath rtl entry path := by
    funext entry
    rw [matchPath, matchPath, RtlStrings.equal, RtlStrings.equal, RtlStrings.equal_iff.mp h]
  rw [Globals.rulesOf, Globals.rulesOf, bucketOf_eq h, hmatch]

theorem lookupRule_eq_head? : g.lookupRule rtl path = (g.rulesOf rtl path).head? :=
  BucketTable.find_eq_head?

/-- What every element of a queue matches is its path. -/
theorem matchPath_disjoint (h : rtl.equal path query = false) (entry : RuleEntry)
    (hmatch : matchPath rtl entry path) : matchPath rtl entry query = false := by
  by_contra htrue
  rw [Bool.not_eq_false] at htrue
  rw [(RtlStrings.equal_trans (RtlStrings.equal_symm hmatch) htrue : rtl.equal path query)] at h
  cases h

theorem allocateRuleEntry_path {entry : RuleEntry}
    (h : allocateRuleEntry entryBlock pathBlock path action = some entry) : entry.path = path := by
  rw [allocateRuleEntry] at h
  obtain ⟨_, h⟩ := Option.ite_none_left_eq_some.mp h
  obtain ⟨_, h⟩ := Option.ite_none_left_eq_some.mp h
  cases h
  rfl

/-- `InsertRule` succeeds when its allocations do. -/
theorem insertRule_succeeds :
    (g.insertRule rtl path action entryBlock pathBlock).1 = (entryBlock && pathBlock) := by
  cases entryBlock <;> cases pathBlock <;> rfl

/-- **Inserts go to the back of the queue.** -/
theorem rulesOf_insert (hblocks : entryBlock && pathBlock) :
    (g.insertRule rtl path action entryBlock pathBlock).2.rulesOf rtl query =
      g.rulesOf rtl query ++ if rtl.equal path query then [⟨path, action⟩] else [] := by
  obtain ⟨rfl, rfl⟩ := Bool.and_eq_true_iff.mp hblocks
  by_cases h : rtl.equal path query
  · rw [if_pos h, ← rulesOf_congr h, ← rulesOf_congr h]
    exact BucketTable.chain_pushBack_self (RtlStrings.equal_refl path)
  · rw [if_neg h, List.append_nil]
    exact BucketTable.chain_pushBack_of_not fun _ => Bool.eq_false_iff.mpr h

theorem insertRule_fails (hblocks : (entryBlock && pathBlock) = false) :
    g.insertRule rtl path action entryBlock pathBlock = (false, g) := by
  cases entryBlock
  · rfl
  · cases pathBlock
    · rfl
    · cases hblocks

/-- `RemoveRule` succeeds when the queue is not empty. -/
theorem removeRule_succeeds :
    (g.removeRule rtl path freed).1 = (g.rulesOf rtl path).head?.isSome := by
  rw [Globals.removeRule, lookupRule_eq_head?]
  cases (g.rulesOf rtl path).head? <;> rfl

/-- **Removals work at the front of the queue.** -/
theorem rulesOf_remove :
    (g.removeRule rtl path freed).2.rulesOf rtl query =
      if rtl.equal path query then (g.rulesOf rtl query).tail else g.rulesOf rtl query := by
  rw [Globals.removeRule]
  cases hlookup : g.lookupRule rtl path with
  | none =>
      rw [lookupRule_eq_head?, List.head?_eq_none_iff] at hlookup
      by_cases h : rtl.equal path query
      · rw [if_pos h, ← rulesOf_congr h, hlookup, List.tail_nil]
      · rw [if_neg h]
  | some rule =>
      by_cases h : rtl.equal path query
      -- the first match of the bucket is the front of the queue
      · rw [if_pos h, ← rulesOf_congr h, ← rulesOf_congr h]
        exact BucketTable.chain_eraseFirst
      · rw [if_neg h]
        exact BucketTable.chain_eraseFirst_of_disjoint fun entry _ =>
          matchPath_disjoint (Bool.eq_false_iff.mpr h) entry

/-! ## Calls on other paths -/

/-- A call on another path leaves the queue alone. -/
theorem rulesOf_call_of_ne {call : RuleCall} (h : rtl.equal call.path path = false) :
    (g.call rtl call).2.rulesOf rtl path = g.rulesOf rtl path := by
  cases call with
  | insert other action entryBlock pathBlock =>
      rw [RuleCall.path] at h
      cases hblocks : entryBlock && pathBlock with
      | false => rw [Globals.call, insertRule_fails hblocks]
      | true =>
          rw [Globals.call, rulesOf_insert hblocks, h, if_neg Bool.false_ne_true, List.append_nil]
  | remove other freed =>
      rw [RuleCall.path] at h
      rw [Globals.call, rulesOf_remove, h, if_neg Bool.false_ne_true]

theorem rulesOf_calls_of_ne {calls : List RuleCall} :
    ∀ {g : Globals}, (∀ call ∈ calls, rtl.equal call.path path = false) →
      (g.calls rtl calls).rulesOf rtl path = g.rulesOf rtl path := by
  induction calls with
  | nil => exact fun _ => rfl
  | cons call rest ih =>
      intro g h
      exact (ih fun call' hmem => h call' (List.mem_cons_of_mem call hmem)).trans
        (rulesOf_call_of_ne (h call List.mem_cons_self))

/-- A queue that is empty stays so until an insert on the path. -/
theorem rulesOf_call_nil {call : RuleCall}
    (h : call.isInsert → rtl.equal call.path path = false) (hnil : g.rulesOf rtl path = []) :
    (g.call rtl call).2.rulesOf rtl path = [] := by
  cases call with
  | insert other action entryBlock pathBlock => rw [rulesOf_call_of_ne (h rfl), hnil]
  | remove other freed => rw [Globals.call, rulesOf_remove, hnil, List.tail_nil, ite_self]

theorem rulesOf_calls_nil {calls : List RuleCall} :
    ∀ {g : Globals}, (∀ call ∈ calls, call.isInsert → rtl.equal call.path path = false) →
      g.rulesOf rtl path = [] → (g.calls rtl calls).rulesOf rtl path = [] := by
  induction calls with
  | nil => exact fun _ hnil => hnil
  | cons call rest ih =>
      intro g h hnil
      exact ih (fun call' hmem => h call' (List.mem_cons_of_mem call hmem))
        (rulesOf_call_nil (h call List.mem_cons_self) hnil)

theorem calls_append {before after : List RuleCall} {call : RuleCall} :
    g.calls rtl (before ++ call :: after) =
      (((g.calls rtl before).call rtl call).2).calls rtl after := by
  simp only [Globals.calls, List.foldl_append, List.foldl_cons]

/-! ## The map law -/

/-- Right after a successful insert, its path has the action that an earlier rule gives it,
if there is one. -/
theorem lookupRule_insert (hblocks : entryBlock && pathBlock) :
    (g.insertRule rtl path action entryBlock pathBlock).2.lookupRule rtl path =
      some ((g.lookupRule rtl path).getD ⟨path, action⟩) := by
  rw [lookupRule_eq_head?, lookupRule_eq_head?, rulesOf_insert hblocks,
    if_pos (RtlStrings.equal_refl path), List.head?_append, List.head?_singleton]
  cases (g.rulesOf rtl path).head? <;> rfl

/-- Right after a successful removal, its path is without a rule if it had only one. -/
theorem rulesOf_remove_eq_nil_iff (freed : RuleAction) :
    (g.removeRule rtl path freed).2.rulesOf rtl path = [] ↔ (g.rulesOf rtl path).length ≤ 1 := by
  rw [rulesOf_remove, if_pos (RtlStrings.equal_refl path), ← List.length_eq_zero_iff,
    List.length_tail]
  omega

private theorem MapLaw.unshadowed {before : List RuleCall} {call : RuleCall}
    (hlaw : MapLaw rtl (before ++ [call])) :
    Unshadowed rtl (Globals.init.calls rtl before) call := by
  cases call with
  | insert path action entryBlock pathBlock =>
      intro hblocks rule hrule
      obtain ⟨rule', hlookup, haction⟩ := hlaw.inserted before path action entryBlock pathBlock []
        path rfl (insertRule_succeeds.trans hblocks) nofun (RtlStrings.equal_refl path)
      rw [calls_append] at hlookup
      have hrule' := (lookupRule_insert hblocks).symm.trans hlookup
      rw [Option.mem_def.mp hrule, Option.getD_some] at hrule'
      rwa [Option.some.inj hrule']
  | remove path freed =>
      rw [Unshadowed, ← rulesOf_remove_eq_nil_iff freed]
      cases hhead : ((Globals.init.calls rtl before).rulesOf rtl path).head? with
      | none =>
          rw [List.head?_eq_none_iff] at hhead
          rw [rulesOf_remove, hhead, List.tail_nil, ite_self]
      | some rule =>
          have hlookup := hlaw.removed before path freed [] path rfl
            (removeRule_succeeds.trans (by rw [hhead]; rfl)) nofun (RtlStrings.equal_refl path)
          rw [calls_append, lookupRule_eq_head?, List.head?_eq_none_iff] at hlookup
          exact hlookup

private theorem MapLaw.of_unshadowed {calls : List RuleCall}
    (h : ∀ before call after, calls = before ++ call :: after →
      Unshadowed rtl (Globals.init.calls rtl before) call) : MapLaw rtl calls where
  inserted := by
    intro before path action entryBlock pathBlock after query heq hsucceeds hafter hquery
    have hblocks := insertRule_succeeds.symm.trans hsucceeds
    refine ⟨((Globals.init.calls rtl before).lookupRule rtl path).getD ⟨path, action⟩, ?_, ?_⟩
    · rw [lookupRule_eq_head?, rulesOf_congr hquery, heq, calls_append,
        rulesOf_calls_of_ne hafter, ← lookupRule_eq_head?]
      exact lookupRule_insert hblocks
    · have hactions := h before _ after heq hblocks
      cases hlookup : (Globals.init.calls rtl before).lookupRule rtl path with
      | none => rfl
      | some rule => exact hactions rule (Option.mem_def.mpr hlookup)
  removed := by
    intro before path freed after query heq _ hafter hquery
    have hone := h before _ after heq
    rw [Unshadowed, ← rulesOf_remove_eq_nil_iff freed] at hone
    rw [lookupRule_eq_head?, rulesOf_congr hquery, heq, calls_append, Globals.call,
      rulesOf_calls_nil hafter hone, List.head?_nil]

/-- **The law, exactly.**  All prefixes of a sequence of calls obey the map law if and only if
no call of the sequence meets a rule that shadows it or is shadowed by it. -/
theorem map_law_iff (rtl : RtlStrings) (calls : List RuleCall) :
    (∀ k, MapLaw rtl (calls.take k)) ↔
      ∀ before call after, calls = before ++ call :: after →
        Unshadowed rtl (Globals.init.calls rtl before) call := by
  constructor
  · rintro hlaw before call after rfl
    have hbegins := hlaw (before.length + 1)
    rw [List.take_length_add_append] at hbegins
    exact hbegins.unshadowed
  · intro hunshadowed k
    refine .of_unshadowed fun before call after heq => ?_
    refine hunshadowed before call (after ++ calls.drop k) ?_
    rw [← List.cons_append, ← List.append_assoc, ← heq, List.take_append_drop]

end

def asciiUpcase (c : UINT16) : UINT16 := if 97#16 ≤ c ∧ c ≤ 122#16 then c - 32#16 else c

/-- Characters and X65599 hashes as the run-time library has them for ASCII paths. -/
def asciiStrings : RtlStrings where
  upcase := asciiUpcase
  hash s := s.units.foldl (fun hash c => hash * 65599#32 + (asciiUpcase c).setWidth 32) 0#32
  hash_eq s t h := by
    rw [← @List.foldl_map _ _ _ asciiUpcase fun (hash : ULONG) c => hash * 65599#32 + c.setWidth 32,
      h, List.foldl_map]

/-- A policy update from `Audit` to `Block` succeeds and changes nothing. -/
theorem not_map_law : ¬∀ rtl calls, MapLaw rtl calls := by
  intro hlaw
  let path : UnicodeString := ⟨[97#16], by decide⟩
  obtain ⟨rule, hlookup, haction⟩ := (hlaw asciiStrings
    [.insert path .audit true true, .insert path .block true true]).inserted
    [.insert path .audit true true] path .block true true [] path rfl rfl nofun rfl
  have haudit : (Globals.init.calls asciiStrings
      [.insert path .audit true true, .insert path .block true true]).lookupRule asciiStrings path =
      some ⟨path, .audit⟩ := by decide +kernel
  cases haudit.symm.trans hlookup
  cases haction

end Kawin.Driver
