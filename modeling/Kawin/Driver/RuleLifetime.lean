import Kawin.Base.HeapTrace
import Kawin.Base.Transition
import Kawin.Driver.RuleTable

/-!
# The life of a rule entry

`KarmorDeviceControl` adds and removes rules, and any number of its calls run at once.
`InsertRule` and `RemoveRule` hold `m_Lock`; the `LookupRule` after an insertion does not.  It
walks its bucket link by link, and the entry that it returns is read after it returned, so a
removal can free the entry that a call stands at.

The entries are blocks, numbered as they are allocated, and a trace records every time one is
freed or read.  Two things can go wrong, and the trace tells them apart by who reads.

* `RemoveRule` itself reads the action of the entry that it has just freed.  No run in which a
  removal finds a rule is therefore safe, however its calls are ordered (`entries_safe_iff`).
* The reads of all others are safe as long as no removal frees an entry that some call stands at
  (`unlocked_safe`), and a call that is left standing there is about to read it
  (`walk_unsafe`).

What the locked sections do to the table is what `insertRule` and `removeRule` say, so that the
table of a run is that of a sequence of calls (`reaches_globals`).
-/

namespace Kawin.Driver

open HeapTrace Transition

/-- Where a call of `KarmorDeviceControl` stands. -/
inductive DeviceCall
  /-- before the call, in it before its request is served, or after it -/
  | outside
  /-- the rule is inserted: `LookupRule` is about to read the first link of its bucket -/
  | entering (path : UnicodeString)
  /-- about to match the entry -/
  | matching (path : UnicodeString) (entry : ℕ)
  /-- the entry does not match: about to follow its link -/
  | following (path : UnicodeString) (entry : ℕ)
  /-- `LookupRule` returned the entry: about to print its path and action -/
  | found (entry : ℕ)
  deriving DecidableEq

/-- The entry that the call stands at. -/
def DeviceCall.standsAt : DeviceCall → Option ℕ
  | .outside | .entering _ => none
  | .matching _ entry | .following _ entry | .found entry => some entry

/-- Who reads an entry. -/
inductive EntryReader
  /-- `LookupRule`, for `KarmorDeviceControl` -/
  | traversal
  /-- `LookupRule`, for `RemoveRule` -/
  | lockedTraversal
  | deviceControl
  | removeRule
  deriving DecidableEq

/-- What a call reads where a freed entry was. -/
structure StaleEntry where
  path : UnicodeString
  flink : Option ℕ

structure RuleHeap where
  processWhitelist : ULONG
  /-- the lists of the table, by the blocks of their entries -/
  table : BucketTable numBuckets ℕ
  /-- the entries that are allocated -/
  pool : ℕ → Option RuleEntry
  /-- the block of the next allocation -/
  next : ℕ
  calls : ℕ → DeviceCall
  trace : Trace EntryReader ℕ

/-- `sizeof(USER_RULE_REQUEST)`: a path of `MAX_PATH_LENGTH` characters and a `SHORT`. -/
def sizeofUserRuleRequest : ℕ := 260 * 2 + 2

inductive DeviceAction
  /-- call `i` serves `IOCTL_ADD_RULE` up to the end of `InsertRule`; the flags are whether its
  allocations succeed -/
  | addRule (i inputBufferLength : ℕ) (path : UnicodeString) (action : RuleAction)
      (entryBlock pathBlock : Bool)
  /-- call `i` serves `IOCTL_REMOVE_RULE`; `freed` is the action that `RemoveRule` finds in the
  freed entry -/
  | removeRule (i inputBufferLength : ℕ) (path : UnicodeString) (freed : RuleAction)
  /-- call `i` takes a step of its `LookupRule`, or reads the entry that it returned -/
  | walk (i : ℕ) (stale : StaleEntry)

section

variable (rtl : RtlStrings)

namespace RuleHeap

/-- `Init`. -/
def init : RuleHeap := ⟨0#32, .empty, fun _ => none, 0, fun _ => .outside, []⟩

def goto (s : RuleHeap) (i : ℕ) (pc : DeviceCall) : RuleHeap :=
  { s with calls := Function.update s.calls i pc }

/-- The entry is read. -/
def reads (s : RuleHeap) (reader : EntryReader) (entry : ℕ) : RuleHeap :=
  { s with trace := .use reader entry :: s.trace }

/-- The path of an entry. -/
def pathOf (s : RuleHeap) (entry : ℕ) (stale : StaleEntry) : UnicodeString :=
  match s.pool entry with
  | some rule => rule.path
  | none => stale.path

/-- The link of an entry; `none` is the head of its bucket. -/
def flinkOf (s : RuleHeap) (entry : ℕ) (stale : StaleEntry) : Option ℕ :=
  match s.pool entry with
  | some rule => ((s.table (bucketOf rtl rule.path)).dropWhile fun b => b ≠ entry).tail.head?
  | none => stale.flink

/-- The loop test of `LookupRule`, after it read a link. -/
def arrive (path : UnicodeString) : Option ℕ → DeviceCall
  | none => .outside
  | some entry => .matching path entry

/-- `MatchPath`, on an entry that a list holds. -/
def matchEntry (s : RuleHeap) (path : UnicodeString) (entry : ℕ) : Bool :=
  (s.pool entry).any fun rule => matchPath rtl rule path

/-- What `LookupRule` returns under the lock. -/
def lookupRule (s : RuleHeap) (path : UnicodeString) : Option ℕ :=
  s.table.find (bucketOf rtl path) (s.matchEntry rtl path)

/-- The entries that `LookupRule` gets past under the lock. -/
def passed (s : RuleHeap) (path : UnicodeString) : List ℕ :=
  (s.table (bucketOf rtl path)).takeWhile fun entry => !s.matchEntry rtl path entry

/-- `InsertRule`, for call `i`, once the entry is allocated. -/
def link (s : RuleHeap) (i : ℕ) (path : UnicodeString) (action : RuleAction)
    (entry : RuleEntry) : RuleHeap :=
  { s with
    processWhitelist :=
      if action = .allow then s.processWhitelist + 1#32 else s.processWhitelist
    table := s.table.pushBack (bucketOf rtl path) s.next
    pool := Function.update s.pool s.next (some entry)
    next := s.next + 1
    calls := Function.update s.calls i (.entering path) }

/-- `InsertRule`, for call `i`. -/
def insertRule (s : RuleHeap) (i : ℕ) (path : UnicodeString) (action : RuleAction)
    (entryBlock pathBlock : Bool) : RuleHeap :=
  match allocateRuleEntry entryBlock pathBlock path action with
  | none => s
  | some entry => s.link rtl i path action entry

/-- `RemoveRule`, once it found the entry. -/
def unlink (s : RuleHeap) (path : UnicodeString) (freed : RuleAction) (entry : ℕ) : RuleHeap :=
  { s with
    processWhitelist :=
      if freed = .allow ∧ s.processWhitelist ≠ 0#32 then s.processWhitelist - 1#32
      else s.processWhitelist
    table := s.table.eraseFirst (bucketOf rtl path) (s.matchEntry rtl path)
    pool := Function.update s.pool entry none
    trace := .use .removeRule entry :: .free entry ::
      (uses .lockedTraversal (s.passed rtl path ++ [entry]) ++ s.trace) }

/-- `RemoveRule`. -/
def removeRule (s : RuleHeap) (path : UnicodeString) (freed : RuleAction) : RuleHeap :=
  match s.lookupRule rtl path with
  | none => { s with trace := uses .lockedTraversal (s.passed rtl path) ++ s.trace }
  | some entry => s.unlink rtl path freed entry

/-- A step of a call that looks up the rule that it inserted. -/
def walk (s : RuleHeap) (i : ℕ) (stale : StaleEntry) : RuleHeap :=
  match s.calls i with
  | .outside => s
  | .entering path => s.goto i (arrive path (s.table (bucketOf rtl path)).head?)
  | .matching path entry =>
      (s.goto i (if rtl.equal (s.pathOf entry stale) path then .found entry
        else .following path entry)).reads .traversal entry
  | .following path entry =>
      (s.goto i (arrive path (s.flinkOf rtl entry stale))).reads .traversal entry
  | .found entry => (s.goto i .outside).reads .deviceControl entry

end RuleHeap

/-- A call is in at most one request at a time, and one whose buffer is too small does nothing. -/
def ruleHeapStep (s : RuleHeap) : DeviceAction → Option RuleHeap
  | .addRule i inputBufferLength path action entryBlock pathBlock =>
      if s.calls i ≠ .outside then none
      else if inputBufferLength < sizeofUserRuleRequest then some s
      else some (s.insertRule rtl i path action entryBlock pathBlock)
  | .removeRule i inputBufferLength path freed =>
      if s.calls i ≠ .outside then none
      else if inputBufferLength < sizeofUserRuleRequest then some s
      else some (s.removeRule rtl path freed)
  | .walk i stale => some (s.walk rtl i stale)

/-! ## Conditions on a step -/

/-- What the request removes, if it removes a rule. -/
def RuleHeap.removes (s : RuleHeap) : DeviceAction → Option ℕ
  | .removeRule _ inputBufferLength path _ =>
      if inputBufferLength < sizeofUserRuleRequest then none else s.lookupRule rtl path
  | _ => none

def RemovesNothing (s : RuleHeap) (action : DeviceAction) : Prop := s.removes rtl action = none

instance (s : RuleHeap) : DecidablePred (RemovesNothing rtl s) :=
  fun action => inferInstanceAs (Decidable (s.removes rtl action = none))

/-- No call stands at the entry that is removed. -/
def RemovesUnheld (s : RuleHeap) (action : DeviceAction) : Prop :=
  ∀ entry ∈ s.removes rtl action, ∀ i, (s.calls i).standsAt ≠ some entry

end

section

variable {rtl : RtlStrings} {s t : RuleHeap} {i : ℕ} {path : UnicodeString} {action : RuleAction}
  {freed : RuleAction} {entryBlock pathBlock : Bool} {stale : StaleEntry} {entry : ℕ}

/-! ## Linking and unlinking -/

@[simp] theorem link_table {rule : RuleEntry} : (s.link rtl i path action rule).table =
    s.table.pushBack (bucketOf rtl path) s.next := rfl

@[simp] theorem link_pool {rule : RuleEntry} :
    (s.link rtl i path action rule).pool = Function.update s.pool s.next (some rule) := rfl

@[simp] theorem link_next {rule : RuleEntry} :
    (s.link rtl i path action rule).next = s.next + 1 := rfl

@[simp] theorem link_calls {rule : RuleEntry} : (s.link rtl i path action rule).calls =
    Function.update s.calls i (.entering path) := rfl

@[simp] theorem goto_calls {pc : DeviceCall} :
    (s.goto i pc).calls = Function.update s.calls i pc := rfl

@[simp] theorem unlink_table : (s.unlink rtl path freed entry).table =
    s.table.eraseFirst (bucketOf rtl path) (s.matchEntry rtl path) := rfl

@[simp] theorem unlink_pool :
    (s.unlink rtl path freed entry).pool = Function.update s.pool entry none := rfl

theorem freed_unlink {other : ℕ} : Freed (s.unlink rtl path freed entry).trace other ↔
    other = entry ∨ Freed s.trace other := by
  rw [RuleHeap.unlink, freed_use_cons, freed_free_cons, freed_uses_append]

/-! ## What a step does to the trace -/

/-- What a removal adds to the trace of the readings. -/
def removalEvents : Option ℕ → Trace EntryReader ℕ
  | none => []
  | some entry => [.use .removeRule entry, .free entry]

theorem insertRule_trace :
    (s.insertRule rtl i path action entryBlock pathBlock).trace = s.trace := by
  rw [RuleHeap.insertRule]
  cases allocateRuleEntry entryBlock pathBlock path action <;> rfl

theorem removeRule_trace (rtl : RtlStrings) (path : UnicodeString) (freed : RuleAction) :
    ∃ readings : List ℕ, (s.removeRule rtl path freed).trace =
      removalEvents (s.lookupRule rtl path) ++ (uses .lockedTraversal readings ++ s.trace) := by
  rw [RuleHeap.removeRule]
  cases s.lookupRule rtl path with
  | none => exact ⟨_, rfl⟩
  | some entry => exact ⟨_, rfl⟩

theorem walk_trace_of_none (hnone : (s.calls i).standsAt = none) :
    (s.walk rtl i stale).trace = s.trace := by
  rw [RuleHeap.walk]
  cases hcall : s.calls i with
  | outside | entering => rfl
  | matching | following | found =>
      rw [hcall] at hnone
      cases hnone

/-- A call that stands at an entry reads that entry. -/
theorem walk_trace_of_some (hsome : (s.calls i).standsAt = some entry) (stale : StaleEntry) :
    ∃ reader, reader ≠ .removeRule ∧
      (s.walk rtl i stale).trace = .use reader entry :: s.trace := by
  rw [RuleHeap.walk]
  cases hcall : s.calls i with
  | outside | entering =>
      rw [hcall] at hsome
      cases hsome
  | matching | following | found =>
      rw [hcall] at hsome
      cases hsome
      exact ⟨_, by decide, rfl⟩

/-- What a step can be. -/
theorem ruleHeapStep_cases {request : DeviceAction} (hstep : ruleHeapStep rtl s request = some t) :
    (t = s ∧ s.removes rtl request = none) ∨
    (∃ i path action entryBlock pathBlock, s.removes rtl request = none ∧
      t = s.insertRule rtl i path action entryBlock pathBlock) ∨
    (∃ path freed, s.removes rtl request = s.lookupRule rtl path ∧
      t = s.removeRule rtl path freed) ∨
    ∃ i stale, s.removes rtl request = none ∧ t = s.walk rtl i stale := by
  cases request with
  | addRule i inputBufferLength path action entryBlock pathBlock =>
      obtain ⟨_, hstep⟩ := Option.ite_none_left_eq_some.mp hstep
      split at hstep
      · exact Or.inl ⟨(Option.some.inj hstep).symm, rfl⟩
      · exact Or.inr (Or.inl ⟨_, _, _, _, _, rfl, (Option.some.inj hstep).symm⟩)
  | removeRule i inputBufferLength path freed =>
      obtain ⟨_, hstep⟩ := Option.ite_none_left_eq_some.mp hstep
      rw [RuleHeap.removes]
      split at hstep
      · next hshort => exact Or.inl ⟨(Option.some.inj hstep).symm, if_pos hshort⟩
      · next hshort =>
          exact Or.inr (Or.inr (Or.inl ⟨_, _, if_neg hshort, (Option.some.inj hstep).symm⟩))
  | walk i stale =>
      exact Or.inr (Or.inr (Or.inr ⟨_, _, rfl, (Option.some.inj hstep).symm⟩))

/-- A step adds to the trace that it reads entries, and what it removes. -/
theorem ruleHeapStep_trace {request : DeviceAction} (hstep : ruleHeapStep rtl s request = some t) :
    ∃ readings : Trace EntryReader ℕ, (∀ entry, ¬ Freed readings entry) ∧
      t.trace = removalEvents (s.removes rtl request) ++ (readings ++ s.trace) := by
  rcases ruleHeapStep_cases hstep with ⟨rfl, hnone⟩ | ⟨i, path, action, entryBlock, pathBlock,
    hnone, rfl⟩ | ⟨path, freed, hremoves, rfl⟩ | ⟨i, stale, hnone, rfl⟩
  · exact ⟨[], fun _ => not_freed_nil, by rw [hnone]; rfl⟩
  · exact ⟨[], fun _ => not_freed_nil, by rw [hnone, insertRule_trace]; rfl⟩
  · obtain ⟨readings, htrace⟩ := removeRule_trace (s := s) rtl path freed
    refine ⟨uses .lockedTraversal readings, ?_, by rw [htrace, hremoves]⟩
    intro entry hfreed
    rw [← List.append_nil (uses _ readings), freed_uses_append] at hfreed
    exact not_freed_nil hfreed
  · rw [hnone]
    cases hentry : (s.calls i).standsAt with
    | none => exact ⟨[], fun _ => not_freed_nil, walk_trace_of_none hentry⟩
    | some entry =>
      obtain ⟨reader, _, htrace⟩ := walk_trace_of_some hentry stale
      exact ⟨[.use reader entry], fun _ hfreed => not_freed_nil (freed_use_cons.mp hfreed), htrace⟩

theorem freed_step {request : DeviceAction} (hstep : ruleHeapStep rtl s request = some t) :
    Freed t.trace entry ↔ s.removes rtl request = some entry ∨ Freed s.trace entry := by
  obtain ⟨readings, hreadings, htrace⟩ := ruleHeapStep_trace hstep
  rw [htrace, freed_append, freed_append, or_iff_right (hreadings entry)]
  refine or_congr_left ?_
  cases s.removes rtl request with
  | none => simp [removalEvents, Freed]
  | some other => simp [removalEvents, Freed, eq_comm]

/-! ## Runs that remove nothing -/

/-- `RemoveRule` frees an entry and then reads its action. -/
theorem not_safe_of_removes {request : DeviceAction} (hstep : ruleHeapStep rtl s request = some t)
    (hremoves : s.removes rtl request = some entry) : ¬ SafeOn (fun _ => True) t.trace := by
  obtain ⟨readings, _, htrace⟩ := ruleHeapStep_trace hstep
  rw [htrace, hremoves]
  intro hsafe
  exact (safeOn_use_cons.mp hsafe).1 trivial (freed_free_cons.mpr (Or.inl rfl))

/-- A run whose readings are all safe has freed nothing. -/
theorem not_freed_of_safe (run : Reaches (ruleHeapStep rtl) .init t)
    (hsafe : SafeOn (fun _ => True) t.trace) : ¬ Freed t.trace entry := by
  induction run with
  | refl => exact not_freed_nil
  | tail request run _ hstep ih =>
      rw [freed_step hstep]
      rintro (hremoves | hfreed)
      · exact not_safe_of_removes hstep hremoves hsafe
      · obtain ⟨readings, _, htrace⟩ := ruleHeapStep_trace hstep
        rw [htrace] at hsafe
        exact ih hsafe.of_append.of_append hfreed

/-- A run frees an entry exactly if one of its removals finds a rule. -/
theorem nothing_freed_iff {requests : List DeviceAction}
    (hsteps : steps (ruleHeapStep rtl) .init requests = some t) :
    (∀ entry, ¬ Freed t.trace entry) ↔
      Allowed (ruleHeapStep rtl) (RemovesNothing rtl) .init requests := by
  refine (holds_iff_allowed (fun _ => True) (fun u => ∀ entry, ¬ Freed u.trace entry) ?_ trivial
    hsteps).trans (and_iff_right fun _ => not_freed_nil)
  intro u request v _ hstep
  refine ⟨trivial, ?_⟩
  simp only [freed_step hstep, not_or, forall_and, RemovesNothing,
    Option.eq_none_iff_forall_ne_some, and_comm]

theorem safe_iff {requests : List DeviceAction}
    (hsteps : steps (ruleHeapStep rtl) .init requests = some t) :
    SafeOn (fun _ => True) t.trace ↔
      Allowed (ruleHeapStep rtl) (RemovesNothing rtl) .init requests := by
  rw [← nothing_freed_iff hsteps]
  exact ⟨fun hsafe entry => not_freed_of_safe (reaches_of_steps hsteps) hsafe,
    safeOn_of_not_freed⟩

/-! ## The heap and its lists -/

/-- The lists hold exactly the entries that are allocated, each in the bucket of its path. -/
structure HeapOk (rtl : RtlStrings) (s : RuleHeap) : Prop where
  listed : ∀ entry j, entry ∈ s.table j ↔
    ∃ rule, s.pool entry = some rule ∧ bucketOf rtl rule.path = j
  nodup : ∀ j, (s.table j).Nodup
  fresh : ∀ entry, s.next ≤ entry → s.pool entry = none
  freed : ∀ entry, Freed s.trace entry → entry < s.next ∧ s.pool entry = none

theorem init_heapOk : HeapOk rtl .init where
  listed entry j := by simp [RuleHeap.init, BucketTable.empty]
  nodup _ := List.nodup_nil
  fresh _ _ := rfl
  freed _ hfreed := absurd hfreed not_freed_nil

namespace HeapOk

/-- The invariant is about the heap, the lists and what was freed. -/
theorem congr (h : HeapOk rtl s) (htable : t.table = s.table) (hpool : t.pool = s.pool)
    (hnext : t.next = s.next) (hfreed : ∀ entry, Freed t.trace entry → Freed s.trace entry) :
    HeapOk rtl t where
  listed entry j := by rw [htable, hpool]; exact h.listed entry j
  nodup j := by rw [htable]; exact h.nodup j
  fresh entry hle := by rw [hpool]; exact h.fresh entry (hnext ▸ hle)
  freed entry hf := by rw [hnext, hpool]; exact h.freed entry (hfreed entry hf)

/-- An entry of a list is allocated. -/
theorem live (h : HeapOk rtl s) {j : Fin numBuckets} (hmem : entry ∈ s.table j) :
    (s.pool entry).isSome := by
  obtain ⟨rule, hrule, _⟩ := (h.listed entry j).mp hmem
  rw [hrule]
  rfl

/-- An entry that is allocated has not been freed. -/
theorem not_freed (h : HeapOk rtl s) (hlive : (s.pool entry).isSome) : ¬ Freed s.trace entry := by
  intro hfreed
  rw [(h.freed entry hfreed).2] at hlive
  cases hlive

theorem lt_next (h : HeapOk rtl s) (hlive : (s.pool entry).isSome) : entry < s.next := by
  by_contra hge
  rw [h.fresh entry (Nat.le_of_not_lt hge)] at hlive
  cases hlive

theorem link (h : HeapOk rtl s) {rule : RuleEntry} (hpath : rule.path = path) :
    HeapOk rtl (s.link rtl i path action rule) where
  listed entry j := by
    rw [link_table, link_pool, BucketTable.mem_pushBack, h.listed]
    rcases eq_or_ne entry s.next with rfl | hne
    · simp [h.fresh s.next le_rfl, hpath, eq_comm]
    · simp [hne]
  nodup j := BucketTable.nodup_pushBack (h.nodup j) fun hmem => (h.lt_next (h.live hmem)).false
  fresh entry hle := by
    have hne : entry ≠ s.next := (Nat.lt_of_succ_le hle).ne'
    rw [link_pool, Function.update_of_ne hne]
    exact h.fresh entry (Nat.le_of_succ_le hle)
  freed entry hfreed := by
    obtain ⟨hlt, hnone⟩ := h.freed entry hfreed
    rw [link_pool, Function.update_of_ne hlt.ne]
    exact ⟨Nat.lt_succ_of_lt hlt, hnone⟩

theorem insertRule (h : HeapOk rtl s) :
    HeapOk rtl (s.insertRule rtl i path action entryBlock pathBlock) := by
  rw [RuleHeap.insertRule]
  cases hentry : allocateRuleEntry entryBlock pathBlock path action with
  | none => exact h
  | some rule => exact h.link (allocateRuleEntry_path hentry)

theorem unlink (h : HeapOk rtl s) (hfound : s.lookupRule rtl path = some entry) :
    HeapOk rtl (s.unlink rtl path freed entry) := by
  have hmem := (BucketTable.mem_of_find hfound).1
  have hlive := h.live hmem
  obtain ⟨rule, hrule, hbucket⟩ := (h.listed _ _).mp hmem
  constructor
  · intro other j
    rw [unlink_table, unlink_pool, BucketTable.mem_eraseFirst_iff (h.nodup _) hfound, h.listed]
    rcases eq_or_ne other entry with rfl | hne
    · -- it was in the bucket of its path only
      simp [hrule, hbucket, eq_comm]
    · simp [hne]
  · intro j
    exact BucketTable.nodup_eraseFirst (h.nodup j)
  · intro other hle
    have hne : other ≠ entry := ((h.lt_next hlive).trans_le hle).ne'
    rw [unlink_pool, Function.update_of_ne hne]
    exact h.fresh other hle
  · intro other hfreed
    rw [freed_unlink] at hfreed
    rw [unlink_pool]
    rcases eq_or_ne other entry with rfl | hne
    · exact ⟨h.lt_next hlive, Function.update_self ..⟩
    · rw [Function.update_of_ne hne]
      exact h.freed other (hfreed.resolve_left hne)

theorem removeRule (h : HeapOk rtl s) : HeapOk rtl (s.removeRule rtl path freed) := by
  rw [RuleHeap.removeRule]
  cases hfound : s.lookupRule rtl path with
  | none => exact h.congr rfl rfl rfl fun _ => freed_uses_append.mp
  | some entry => exact h.unlink hfound

theorem walk (h : HeapOk rtl s) : HeapOk rtl (s.walk rtl i stale) := by
  rw [RuleHeap.walk]
  cases s.calls i with
  | outside => exact h
  | entering => exact h.congr rfl rfl rfl fun _ => id
  | matching | following | found => exact h.congr rfl rfl rfl fun _ => freed_use_cons.mp

theorem step (h : HeapOk rtl s) {request : DeviceAction}
    (hstep : ruleHeapStep rtl s request = some t) : HeapOk rtl t := by
  rcases ruleHeapStep_cases hstep with ⟨rfl, _⟩ | ⟨_, _, _, _, _, _, rfl⟩ | ⟨_, _, _, rfl⟩ |
    ⟨_, _, _, rfl⟩
  · exact h
  · exact h.insertRule
  · exact h.removeRule
  · exact h.walk

end HeapOk

/-! ## The locked sections -/

/-- The table as its entries. -/
def RuleHeap.globals (s : RuleHeap) : Globals :=
  ⟨s.processWhitelist, fun j => (s.table j).filterMap s.pool⟩

theorem globals_lookupRule :
    s.globals.lookupRule rtl path = (s.lookupRule rtl path).bind s.pool :=
  List.find?_filterMap ..

/-- A change of the heap that no entry of a list sees. -/
theorem filterMap_update {l : List ℕ} (pool : ℕ → Option RuleEntry) (rule : Option RuleEntry)
    (hnot : entry ∉ l) : l.filterMap (Function.update pool entry rule) = l.filterMap pool := by
  refine List.filterMap_congr fun other hmem => Function.update_of_ne ?_ _ _
  rintro rfl
  exact hnot hmem

theorem globals_insertRule (h : HeapOk rtl s) :
    (s.insertRule rtl i path action entryBlock pathBlock).globals =
      (s.globals.insertRule rtl path action entryBlock pathBlock).2 := by
  rw [RuleHeap.insertRule, Globals.insertRule]
  cases allocateRuleEntry entryBlock pathBlock path action with
  | none => rfl
  | some rule =>
      refine congrArg (Globals.mk _) (funext fun j => ?_)
      have hnew : s.next ∉ s.table j := fun hmem => (h.lt_next (h.live hmem)).false
      have hold := filterMap_update s.pool (some rule) hnew
      rcases eq_or_ne j (bucketOf rtl path) with rfl | hne
      · simp [BucketTable.pushBack, hold, RuleHeap.globals]
      · simp [BucketTable.pushBack, hold, RuleHeap.globals, hne]

theorem globals_removeRule (h : HeapOk rtl s) :
    (s.removeRule rtl path freed).globals = (s.globals.removeRule rtl path freed).2 := by
  rw [RuleHeap.removeRule, Globals.removeRule, globals_lookupRule]
  cases hfound : s.lookupRule rtl path with
  | none => rfl
  | some entry =>
      have hmem := (BucketTable.mem_of_find hfound).1
      obtain ⟨rule, hrule, hbucket⟩ := (h.listed _ _).mp hmem
      rw [Option.bind_some, hrule]
      refine congrArg (Globals.mk _) (funext fun j => ?_)
      have hgone : entry ∉ (s.unlink rtl path freed entry).table j := fun hin => by
        obtain ⟨other, hother, _⟩ := ((h.unlink hfound).listed _ _).mp hin
        rw [unlink_pool, Function.update_self] at hother
        cases hother
      refine (filterMap_update s.pool none hgone).trans ?_
      rcases eq_or_ne j (bucketOf rtl path) with rfl | hne
      · simp only [unlink_table, BucketTable.eraseFirst, Function.update_self,
          RuleHeap.globals, List.eraseP_filterMap]
        rfl
      · simp [BucketTable.eraseFirst, RuleHeap.globals, hne]

/-! ## Runs that remove no entry that a call stands at -/

/-- Every entry that a call stands at is allocated, and whoever else has read an entry has read
one that was. -/
structure HeldOk (rtl : RtlStrings) (s : RuleHeap) : Prop extends HeapOk rtl s where
  held : ∀ i entry, (s.calls i).standsAt = some entry → (s.pool entry).isSome
  safe : SafeOn (· ≠ .removeRule) s.trace

theorem init_heldOk : HeldOk rtl .init where
  toHeapOk := init_heapOk
  held _ _ hentry := by cases hentry
  safe := safeOn_nil

theorem arrive_standsAt {link : Option ℕ} : (RuleHeap.arrive path link).standsAt = link := by
  cases link <;> rfl

/-- Where the links of an allocated entry lead. -/
theorem HeapOk.live_flinkOf (h : HeapOk rtl s) (hlive : (s.pool entry).isSome) {target : ℕ}
    (hlink : s.flinkOf rtl entry stale = some target) : (s.pool target).isSome := by
  rw [RuleHeap.flinkOf] at hlink
  obtain ⟨rule, hrule⟩ := Option.isSome_iff_exists.mp hlive
  rw [hrule] at hlink
  have hmem := List.mem_of_mem_tail (List.mem_of_head? hlink)
  exact h.live ((List.dropWhile_sublist _).mem hmem)

namespace HeldOk

/-- A call moves to where it stands at an allocated entry, or at none. -/
theorem goto (h : HeldOk rtl s) {pc : DeviceCall}
    (hpc : ∀ entry, pc.standsAt = some entry → (s.pool entry).isSome) :
    HeldOk rtl (s.goto i pc) where
  toHeapOk := h.toHeapOk.congr rfl rfl rfl fun _ => id
  held k entry hentry := by
    rw [goto_calls] at hentry
    rcases eq_or_ne k i with rfl | hne
    · rw [Function.update_self] at hentry
      exact hpc entry hentry
    · rw [Function.update_of_ne hne] at hentry
      exact h.held k entry hentry
  safe := h.safe

/-- Reading an allocated entry is safe. -/
theorem reads (h : HeldOk rtl s) {reader : EntryReader} (hlive : (s.pool entry).isSome) :
    HeldOk rtl (s.reads reader entry) where
  toHeapOk := h.toHeapOk.congr rfl rfl rfl fun _ => freed_use_cons.mp
  held := h.held
  safe := safeOn_use_cons.mpr ⟨fun _ => h.not_freed hlive, h.safe⟩

theorem walk (h : HeldOk rtl s) : HeldOk rtl (s.walk rtl i stale) := by
  have hheld := h.held i
  rw [RuleHeap.walk]
  cases hcall : s.calls i with
  | outside => exact h
  | entering path =>
      refine h.goto fun entry hentry => ?_
      rw [arrive_standsAt] at hentry
      exact h.live (List.mem_of_head? hentry)
  | matching path entry =>
      have hlive := hheld entry (by rw [hcall]; rfl)
      refine (h.goto fun target htarget => ?_).reads hlive
      split at htarget
      · cases htarget
        exact hlive
      · cases htarget
        exact hlive
  | following path entry =>
      have hlive := hheld entry (by rw [hcall]; rfl)
      refine (h.goto fun target htarget => ?_).reads hlive
      rw [arrive_standsAt] at htarget
      exact h.live_flinkOf hlive htarget
  | found entry =>
      have hlive := hheld entry (by rw [hcall]; rfl)
      exact (h.goto fun _ hentry => by cases hentry).reads hlive

theorem link (h : HeldOk rtl s) {rule : RuleEntry} (hpath : rule.path = path) :
    HeldOk rtl (s.link rtl i path action rule) where
  toHeapOk := h.toHeapOk.link hpath
  held k entry hentry := by
    rw [link_calls] at hentry
    rw [link_pool]
    rcases eq_or_ne k i with rfl | hne
    · rw [Function.update_self] at hentry
      cases hentry
    · rw [Function.update_of_ne hne] at hentry
      have hlive := h.held k entry hentry
      rwa [Function.update_of_ne (h.lt_next hlive).ne]
  safe := h.safe

theorem insertRule (h : HeldOk rtl s) :
    HeldOk rtl (s.insertRule rtl i path action entryBlock pathBlock) := by
  rw [RuleHeap.insertRule]
  cases hentry : allocateRuleEntry entryBlock pathBlock path action with
  | none => exact h
  | some rule => exact h.link (allocateRuleEntry_path hentry)

/-- What a removal reads under the lock is listed. -/
theorem safe_lockedTraversal (h : HeldOk rtl s) {readings : List ℕ} {j : Fin numBuckets}
    (hlisted : ∀ entry ∈ readings, entry ∈ s.table j) :
    SafeOn (· ≠ .removeRule) (uses .lockedTraversal readings ++ s.trace) :=
  safeOn_uses_append.mpr
    ⟨fun _ entry hmem => h.not_freed (h.live (hlisted entry hmem)), h.safe⟩

theorem removeRule (h : HeldOk rtl s)
    (hunheld : ∀ entry ∈ s.lookupRule rtl path, ∀ i, (s.calls i).standsAt ≠ some entry) :
    HeldOk rtl (s.removeRule rtl path freed) where
  toHeapOk := h.toHeapOk.removeRule
  held := by
    intro k other hother
    rw [RuleHeap.removeRule] at hother ⊢
    cases hfound : s.lookupRule rtl path with
    | none =>
        rw [hfound] at hother
        exact h.held k other hother
    | some entry =>
        rw [hfound] at hother
        have hne : other ≠ entry := by
          rintro rfl
          exact hunheld other hfound k hother
        rw [unlink_pool, Function.update_of_ne hne]
        exact h.held k other hother
  safe := by
    rw [RuleHeap.removeRule]
    have hpassed : ∀ entry ∈ s.passed rtl path, entry ∈ s.table (bucketOf rtl path) :=
      fun entry hmem => (List.takeWhile_sublist _).mem hmem
    cases hfound : s.lookupRule rtl path with
    | none => exact h.safe_lockedTraversal hpassed
    | some entry =>
        refine safeOn_use_cons.mpr ⟨fun hne => absurd rfl hne, safeOn_free_cons.mpr ?_⟩
        refine h.safe_lockedTraversal (j := bucketOf rtl path) fun other hmem => ?_
        rcases List.mem_append.mp hmem with hmem | hmem
        · exact hpassed other hmem
        · rw [List.mem_singleton.mp hmem]
          exact (BucketTable.mem_of_find hfound).1

theorem step (h : HeldOk rtl s) {request : DeviceAction} (hunheld : RemovesUnheld rtl s request)
    (hstep : ruleHeapStep rtl s request = some t) : HeldOk rtl t := by
  rcases ruleHeapStep_cases hstep with ⟨rfl, _⟩ | ⟨_, _, _, _, _, _, rfl⟩ |
    ⟨path, freed, hremoves, rfl⟩ | ⟨_, _, _, rfl⟩
  · exact h
  · exact h.insertRule
  · rw [RemovesUnheld, hremoves] at hunheld
    exact h.removeRule hunheld
  · exact h.walk

end HeldOk

theorem removesUnheld_of_removesNothing {request : DeviceAction}
    (h : RemovesNothing rtl s request) : RemovesUnheld rtl s request := by
  rw [RemovesUnheld, h]
  exact fun _ hentry => by cases hentry

/-- As long as no removal frees an entry that a call stands at, nobody but `RemoveRule` reads an
entry that has been freed. -/
theorem unlocked_safe (run : Run (ruleHeapStep rtl) (RemovesUnheld rtl) .init t) :
    SafeOn (· ≠ .removeRule) t.trace :=
  (run.invariant init_heldOk fun _ _ _ h hunheld hstep => h.step hunheld hstep).safe

/-- A call that stands at an entry that has been freed is about to read it. -/
theorem walk_unsafe (hentry : (s.calls i).standsAt = some entry) (hfreed : Freed s.trace entry) :
    ¬ SafeOn (· ≠ .removeRule) (s.walk rtl i stale).trace := by
  obtain ⟨reader, hreader, htrace⟩ := walk_trace_of_some hentry stale
  rw [htrace, safeOn_use_cons]
  rintro ⟨hnot, _⟩
  exact hnot hreader hfreed

/-- What the locked sections do to the table. -/
theorem ruleHeapStep_globals {request : DeviceAction} (h : HeapOk rtl s)
    (hstep : ruleHeapStep rtl s request = some t) :
    t.globals = s.globals ∨ ∃ call, t.globals = (s.globals.call rtl call).2 := by
  rcases ruleHeapStep_cases hstep with ⟨rfl, _⟩ | ⟨i, path, action, entryBlock, pathBlock, _, rfl⟩ |
    ⟨path, freed, _, rfl⟩ | ⟨i, stale, _, rfl⟩
  · exact Or.inl rfl
  · exact Or.inr ⟨.insert path action entryBlock pathBlock, globals_insertRule h⟩
  · exact Or.inr ⟨.remove path freed, globals_removeRule h⟩
  · left
    rw [RuleHeap.walk]
    cases s.calls i <;> rfl

/-- The table of a run is what some sequence of insertions and removals, one after the other,
makes of it. -/
theorem reaches_globals (run : Reaches (ruleHeapStep rtl) .init t) :
    ∃ calls, t.globals = Globals.init.calls rtl calls := by
  have hheap : ∀ {u : RuleHeap}, Reaches (ruleHeapStep rtl) .init u → HeapOk rtl u :=
    fun {u} hrun => hrun.invariant init_heapOk fun _ _ _ h _ hstep => h.step hstep
  induction run with
  | refl => exact ⟨[], rfl⟩
  | tail request run _ hstep ih =>
      obtain ⟨calls, hcalls⟩ := ih
      rcases ruleHeapStep_globals (hheap run) hstep with hsame | ⟨call, hcall⟩
      · exact ⟨calls, hsame.trans hcalls⟩
      · exact ⟨calls ++ [call], by rw [calls_append, ← hcalls, hcall]; rfl⟩

/-- **The life of a rule entry.**  All readings of a run are safe exactly if none of its removals
finds a rule; where removals only free entries that no call stands at, all are safe but those of
`RemoveRule` itself. -/
theorem entries_safe_iff (rtl : RtlStrings) (requests : List DeviceAction) (t : RuleHeap)
    (hsteps : steps (ruleHeapStep rtl) .init requests = some t) :
    (SafeOn (fun _ => True) t.trace ↔
      Allowed (ruleHeapStep rtl) (RemovesNothing rtl) .init requests) ∧
    (Allowed (ruleHeapStep rtl) (RemovesUnheld rtl) .init requests →
      SafeOn (· ≠ .removeRule) t.trace) :=
  ⟨safe_iff hsteps, fun hunheld => unlocked_safe (run_of_steps hunheld hsteps)⟩

end

/-- A rule is removed before the lookup that follows its insertion has begun: nobody but
`RemoveRule` reads it. -/
theorem removed_before_lookup :
    let path : UnicodeString := ⟨[97#16], by decide⟩
    ∃ t, steps (ruleHeapStep asciiStrings) .init
        [.addRule 0 522 path .block true true, .removeRule 1 522 path .block,
          .walk 0 ⟨.empty, none⟩] = some t ∧
      ¬ SafeOn (fun _ => True) t.trace ∧ SafeOn (· ≠ .removeRule) t.trace := by
  intro path
  obtain ⟨t, hsteps⟩ : ∃ t, steps (ruleHeapStep asciiStrings) .init
      [.addRule 0 522 path .block true true, .removeRule 1 522 path .block,
        .walk 0 ⟨.empty, none⟩] = some t := ⟨_, rfl⟩
  obtain ⟨hall, hunlocked⟩ := entries_safe_iff asciiStrings _ t hsteps
  refine ⟨t, hsteps, fun hsafe => absurd (hall.mp hsafe) (by decide +kernel), hunlocked ?_⟩
  refine ⟨removesUnheld_of_removesNothing rfl, fun u hu => ?_⟩
  cases hu
  refine ⟨fun entry _ i => ?_, fun _ _ =>
    ⟨removesUnheld_of_removesNothing rfl, fun _ _ => trivial⟩⟩
  -- one call is about to read the first link, and there is no other
  rcases eq_or_ne i 0 with rfl | hne
  · exact Option.some_ne_none entry ∘ Eq.symm
  · change (Function.update RuleHeap.init.calls 0 _ i).standsAt ≠ some entry
    rw [Function.update_of_ne hne]
    exact Option.some_ne_none entry ∘ Eq.symm

/-- A rule is removed while the lookup that follows its insertion stands at its entry: the lookup
matches the freed entry, and goes on along its link. -/
theorem traversal_meets_freed_entry :
    let path : UnicodeString := ⟨[97#16], by decide⟩
    let stale : StaleEntry := ⟨.empty, none⟩
    ∃ t, steps (ruleHeapStep asciiStrings) .init
        [.addRule 0 522 path .block true true, .walk 0 stale, .removeRule 1 522 path .block,
          .walk 0 stale, .walk 0 stale] = some t ∧
      ¬ SafeOn (· = .traversal) t.trace ∧ ¬ SafeOn (fun _ => True) t.trace := by
  exact ⟨_, rfl, by decide +kernel, by decide +kernel⟩

end Kawin.Driver
