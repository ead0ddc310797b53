import Kawin.Base.Transition
import Kawin.Driver.ProcessCache
import Mathlib.Data.Finset.Card

/-!
# References into the process cache

`GetProcessContext` counts a reference into the entry and hands out its address.
`RemoveProcess` unlinks the entry under the lock, leaves the lock, and frees the entry; it
never looks at the count.  A caller that still holds the address then reads freed memory.

A machine of any number of callers runs the locked sections, the reads and the two steps
outside the lock in any order.  `FreesUnreferenced` is the test that is missing: what is
freed has no reference left but the one `AddProcess` gave it.  Under it the count is one more than
the number of callers that hold the entry (`Referenced.counted`), and no entry goes while
it is held.
-/

namespace Kawin.Driver

open Transition

/-! ## The callers -/

/-- Where a caller of the cache stands. -/
inductive CacheCall
  | outside
  /-- in `AddProcess`, with a new block that is not in the table yet -/
  | adding (processId : HANDLE) (a : PoolAddress)
  /-- between `GetProcessContext` and `ReleaseProcessContext` -/
  | holding (processId : HANDLE) (a : PoolAddress)
  /-- in `RemoveProcess`, with a block that is not in the table any more -/
  | removing (a : PoolAddress)
  deriving DecidableEq

structure CacheMachine where
  cache : ProcessCache
  calls : ℕ → CacheCall
  /-- what the reads through held addresses found, with the process they were made for -/
  reads : List (HANDLE × Option ProcessEntry)

/-- The empty cache. -/
def CacheMachine.init : CacheMachine := ⟨.empty, fun _ => .outside, []⟩

def CacheMachine.goto (s : CacheMachine) (i : ℕ) (call : CacheCall) (cache : ProcessCache) :
    CacheMachine :=
  { s with cache := cache, calls := Function.update s.calls i call }

inductive CacheAction
  /-- `AddProcess` up to the lock; `block` is what the allocation returns -/
  | add (i : ℕ) (block : Option PoolAddress)
      (processId parentProcessId createrProcessId : HANDLE) (imagePath : UnicodeString)
  /-- the locked section of `AddProcess` -/
  | insert (i : ℕ)
  /-- `GetProcessContext` -/
  | get (i : ℕ) (processId : HANDLE)
  /-- a read of the held entry -/
  | read (i : ℕ)
  /-- `ReleaseProcessContext` -/
  | release (i : ℕ)
  /-- the locked section of `RemoveProcess` -/
  | remove (i : ℕ) (processId : HANDLE)
  /-- `FreeProcessContext` at the end of `RemoveProcess` -/
  | free (i : ℕ)

def cacheStep (s : CacheMachine) : CacheAction → Option CacheMachine
  | .add i block processId parentProcessId createrProcessId imagePath =>
      if s.calls i = .outside then
        match block with
        | none => some s
        | some a =>
            -- the allocator returns a block that is not in use
            if (s.cache.pool a).isNone then
              some (s.goto i (.adding processId a) (s.cache.allocate a
                (newProcessEntry processId parentProcessId createrProcessId imagePath)))
            else none
      else none
  | .insert i =>
      match s.calls i with
      | .adding processId a => some (s.goto i .outside (s.cache.insertProcess processId a).2)
      | _ => none
  | .get i processId =>
      if s.calls i = .outside then
        match s.cache.getProcessContext processId with
        | (_, some a, cache) => some (s.goto i (.holding processId a) cache)
        | (_, none, _) => some s
      else none
  | .read i =>
      match s.calls i with
      | .holding processId a => some { s with reads := (processId, s.cache.pool a) :: s.reads }
      | _ => none
  | .release i =>
      match s.calls i with
      | .holding _ a => some (s.goto i .outside (s.cache.releaseProcessContext a))
      | _ => none
  | .remove i processId =>
      if s.calls i = .outside then
        match s.cache.unlinkProcess processId with
        | some (a, cache) => some (s.goto i (.removing a) cache)
        | none => some s
      else none
  | .free i =>
      match s.calls i with
      | .removing a => some (s.goto i .outside (s.cache.freeProcessContext a))
      | _ => none

/-! ## The law and the condition -/

/-- Every held address leads to an allocated entry of its process, and every read through
one found such an entry. -/
structure ReferencesSafe (s : CacheMachine) : Prop where
  live : ∀ i processId a, s.calls i = .holding processId a →
    ∃ entry, s.cache.pool a = some entry ∧ entry.processId = processId
  reads : ∀ read ∈ s.reads, ∃ entry, read.2 = some entry ∧ entry.processId = read.1

/-- A block is freed with the reference count at one, and no `GetProcessContext` takes the
count through all of its 32 bits. -/
def FreesUnreferenced (s : CacheMachine) : CacheAction → Prop
  | .free i =>
      match s.calls i with
      | .removing a => (s.cache.pool a).all fun entry => entry.referenceCount == 1#32
      | _ => True
  | .get _ processId =>
      (s.cache.entryOf processId).all fun entry => entry.referenceCount != -1#32
  | _ => True

instance (s : CacheMachine) (action : CacheAction) : Decidable (FreesUnreferenced s action) := by
  cases action with
  | free i =>
      rw [FreesUnreferenced]
      split <;> infer_instance
  | _ => unfold FreesUnreferenced; infer_instance

/-! ## Who knows a block -/

/-- The block whose address the call has. -/
def CacheCall.block : CacheCall → Option PoolAddress
  | .outside => none
  | .adding _ a => some a
  | .holding _ a => some a
  | .removing a => some a

/-- The call has the address from `GetProcessContext`. -/
def CacheCall.holdsBlock (call : CacheCall) (a : PoolAddress) : Prop :=
  ∃ processId, call = .holding processId a

/-- The block is not in the table, and the call will insert or free it. -/
def CacheCall.ownsBlock (call : CacheCall) (a : PoolAddress) : Prop :=
  (∃ processId, call = .adding processId a) ∨ call = .removing a

variable {s : CacheMachine} {cache : ProcessCache} {calls : ℕ → CacheCall} {a b : PoolAddress}
  {i : ℕ} {call : CacheCall} {holders : Finset ℕ} {processId : HANDLE} {entry : ProcessEntry}

theorem CacheCall.block_of_holds (h : call.holdsBlock a) : call.block = some a := by
  obtain ⟨_, rfl⟩ := h
  rfl

theorem CacheCall.block_of_owns (h : call.ownsBlock a) : call.block = some a := by
  rcases h with ⟨_, rfl⟩ | rfl <;> rfl

/-- `holders` are the calls that hold the block. -/
def Holders (calls : ℕ → CacheCall) (a : PoolAddress) (holders : Finset ℕ) : Prop :=
  ∀ i, i ∈ holders ↔ (calls i).holdsBlock a

theorem Holders.update_of_not (h : Holders calls a holders) (hold : ¬(calls i).holdsBlock a)
    (hnew : ¬call.holdsBlock a) : Holders (Function.update calls i call) a holders := by
  intro j
  rcases eq_or_ne j i with rfl | hne
  · rw [Function.update_self, h j]
    exact iff_of_false hold hnew
  · rw [Function.update_of_ne hne, h j]

theorem Holders.insert (h : Holders calls a holders) (hnew : call.holdsBlock a) :
    Holders (Function.update calls i call) a (insert i holders) := by
  intro j
  rcases eq_or_ne j i with rfl | hne
  · rw [Function.update_self]
    exact iff_of_true (Finset.mem_insert_self j holders) hnew
  · rw [Function.update_of_ne hne, Finset.mem_insert, h j]
    exact or_iff_right hne

theorem Holders.erase (h : Holders calls a holders) (hnew : ¬call.holdsBlock a) :
    Holders (Function.update calls i call) a (holders.erase i) := by
  intro j
  rcases eq_or_ne j i with rfl | hne
  · rw [Function.update_self]
    exact iff_of_false (Finset.notMem_erase j holders) hnew
  · rw [Function.update_of_ne hne, Finset.mem_erase, h j]
    exact and_iff_right hne

/-! ## The invariant -/

/-- What holds of one block: a call that owns it is alone in that, a block about to be
inserted is held by nobody, and the count of an allocated block is one more than the number
of its holders. -/
structure BlockReferenced (s : CacheMachine) (a : PoolAddress) : Prop where
  unlisted : ∀ i, (s.calls i).ownsBlock a → s.cache.Unlisted a
  allocated : ∀ i, (s.calls i).block = some a → s.cache.pool a ≠ none
  owner : ∀ i j, (s.calls i).ownsBlock a → (s.calls j).ownsBlock a → i = j
  adding : ∀ i processId, s.calls i = .adding processId a →
    s.cache.holds processId a ∧ ∀ j, ¬(s.calls j).holdsBlock a
  live : ∀ i processId, s.calls i = .holding processId a → s.cache.holds processId a
  counted : ∀ entry, s.cache.pool a = some entry → ∃ holders, Holders s.calls a holders ∧
    entry.referenceCount.toNat = holders.card + 1

structure Referenced (s : CacheMachine) : Prop where
  wf : s.cache.Wf
  blocks : ∀ a, BlockReferenced s a
  reads : ∀ read ∈ s.reads, ∃ entry, read.2 = some entry ∧ entry.processId = read.1

/-- A block that no call knows has the one reference of `AddProcess`. -/
theorem BlockReferenced.of_nobody (hnobody : ∀ j, (s.calls j).block ≠ some a)
    (hcount : ∀ entry, s.cache.pool a = some entry → entry.referenceCount = 1#32) :
    BlockReferenced s a where
  unlisted := fun j howns => absurd (CacheCall.block_of_owns howns) (hnobody j)
  allocated := fun j hblock => absurd hblock (hnobody j)
  owner := fun j _ howns => absurd (CacheCall.block_of_owns howns) (hnobody j)
  adding := fun j _ hcall => absurd (by rw [hcall]; rfl) (hnobody j)
  live := fun j _ hcall => absurd (by rw [hcall]; rfl) (hnobody j)
  counted := fun entry hpool =>
    ⟨∅, fun j => iff_of_false (Finset.notMem_empty j)
      fun hholds => hnobody j (CacheCall.block_of_holds hholds), by rw [hcount entry hpool]; rfl⟩

theorem referenced_init : Referenced .init where
  wf := ProcessCache.wf_empty
  blocks := fun _ => .of_nobody (fun _ => nofun) nofun
  reads := nofun

theorem Referenced.safe (h : Referenced s) : ReferencesSafe s where
  live := fun i processId a hcall => ProcessCache.holds_iff.mp ((h.blocks a).live i processId hcall)
  reads := h.reads

/-! ### The frame of a step -/

theorem calls_goto_self : (s.goto i call cache).calls i = call := Function.update_self ..

theorem calls_goto_of_ne {j : ℕ} (hne : j ≠ i) :
    (s.goto i call cache).calls j = s.calls j := Function.update_of_ne hne ..

/-- A step of one call leaves alone the blocks whose address the call neither had nor gets. -/
theorem BlockReferenced.frame (h : BlockReferenced s b)
    (hpool : cache.pool b = s.cache.pool b)
    (hunlisted : s.cache.Unlisted b → cache.Unlisted b)
    (hold : (s.calls i).block ≠ some b) (hnew : call.block ≠ some b) :
    BlockReferenced (s.goto i call cache) b := by
  have hcalls : ∀ j, ((s.goto i call cache).calls j).block = some b →
      (s.goto i call cache).calls j = s.calls j := by
    intro j hblock
    rcases eq_or_ne j i with rfl | hne
    · rw [calls_goto_self] at hblock
      exact absurd hblock hnew
    · exact calls_goto_of_ne hne
  have howns : ∀ j, ((s.goto i call cache).calls j).ownsBlock b → (s.calls j).ownsBlock b :=
    fun j howns => hcalls j (CacheCall.block_of_owns howns) ▸ howns
  have hsame : ∀ processId, cache.holds processId b = s.cache.holds processId b := by
    intro processId
    rw [ProcessCache.holds, ProcessCache.holds, hpool]
  refine ⟨fun j hj => hunlisted (h.unlisted j (howns j hj)), fun j hj => ?_,
    fun j k hj hk => h.owner j k (howns j hj) (howns k hk), fun j processId hj => ?_,
    fun j processId hj => ?_, fun entry hentry => ?_⟩
  · exact fun hnone => h.allocated j (hcalls j hj ▸ hj) (hpool.symm.trans hnone)
  · obtain ⟨hlive, hunheld⟩ := h.adding j processId (hcalls j (by rw [hj]; rfl) ▸ hj)
    refine ⟨(hsame processId).trans hlive, fun k hk => hunheld k ?_⟩
    exact hcalls k (CacheCall.block_of_holds hk) ▸ hk
  · exact (hsame processId).trans (h.live j processId (hcalls j (by rw [hj]; rfl) ▸ hj))
  · obtain ⟨holders, hholders, hcard⟩ := h.counted entry (hpool.symm.trans hentry)
    exact ⟨holders, hholders.update_of_not (fun hh => hold (CacheCall.block_of_holds hh))
      fun hh => hnew (CacheCall.block_of_holds hh), hcard⟩

/-- A step that touches one block keeps the invariant if it keeps it of that block. -/
theorem Referenced.goto (h : Referenced s) (hwf : cache.Wf)
    (hpool : ∀ b ≠ a, cache.pool b = s.cache.pool b)
    (hunlisted : ∀ b ≠ a, s.cache.Unlisted b → cache.Unlisted b)
    (hold : ∀ b ≠ a, (s.calls i).block ≠ some b) (hnew : ∀ b ≠ a, call.block ≠ some b)
    (hblock : BlockReferenced (s.goto i call cache) a) : Referenced (s.goto i call cache) where
  wf := hwf
  blocks := by
    intro b
    rcases eq_or_ne b a with rfl | hne
    · exact hblock
    · exact (h.blocks b).frame (hpool b hne) (hunlisted b hne) (hold b hne) (hnew b hne)
  reads := h.reads

/-! ### Steps -/

/-- The start of `AddProcess`: nobody knows the new block. -/
theorem Referenced.add (h : Referenced s) (hcall : s.calls i = .outside)
    (hfree : s.cache.pool a = none) (hid : entry.processId = processId)
    (hcount : entry.referenceCount = 1#32) :
    Referenced (s.goto i (.adding processId a) (s.cache.allocate a entry)) := by
  have hunlisted := h.wf.unlisted_of_free hfree
  have hnobody : ∀ j, (s.calls j).block ≠ some a := fun j hj => (h.blocks a).allocated j hj hfree
  have hpool : (s.cache.allocate a entry).pool a = some entry := Function.update_self ..
  have hother : ∀ j, ((s.goto i (.adding processId a) (s.cache.allocate a entry)).calls j).block =
      some a → j = i := by
    intro j hj
    by_contra hne
    rw [calls_goto_of_ne hne] at hj
    exact hnobody j hj
  refine h.goto (h.wf.update hunlisted _) (fun b hne => Function.update_of_ne hne ..)
    (fun _ _ hb => hb) (fun b _ => by rw [hcall]; exact nofun)
    (fun b hne heq => hne (Option.some.inj heq).symm) ⟨fun _ _ => hunlisted, ?_, ?_, ?_, ?_, ?_⟩
  · exact fun _ _ hnone => nomatch hpool.symm.trans hnone
  · intro j k hj hk
    rw [hother j (CacheCall.block_of_owns hj), hother k (CacheCall.block_of_owns hk)]
  · intro j processId' hj
    obtain rfl := hother j (by rw [hj]; rfl)
    rw [calls_goto_self] at hj
    cases hj
    refine ⟨ProcessCache.holds_iff.mpr ⟨entry, hpool, hid⟩, fun k hk => ?_⟩
    obtain rfl := hother k (CacheCall.block_of_holds hk)
    rw [calls_goto_self] at hk
    exact nomatch hk.choose_spec
  · intro j processId' hj
    obtain rfl := hother j (by rw [hj]; rfl)
    rw [calls_goto_self] at hj
    exact nomatch hj
  · intro entry' hentry
    cases hpool.symm.trans hentry
    have hnone : Holders s.calls a ∅ := fun j =>
      iff_of_false (Finset.notMem_empty j) fun hh => hnobody j (CacheCall.block_of_holds hh)
    refine ⟨∅, hnone.update_of_not (by rw [hcall]; exact nofun) nofun, ?_⟩
    rw [hcount]
    rfl

/-- The owner of a block nobody holds steps back: nobody knows the block any more. -/
theorem Referenced.leave (h : Referenced s) (howns : (s.calls i).ownsBlock a)
    (hunheld : ∀ j, ¬(s.calls j).holdsBlock a) (hwf : cache.Wf)
    (hpool : ∀ b ≠ a, cache.pool b = s.cache.pool b)
    (hsame : ∀ entry, cache.pool a = some entry → s.cache.pool a = some entry)
    (hunlisted : ∀ b ≠ a, s.cache.Unlisted b → cache.Unlisted b) :
    Referenced (s.goto i .outside cache) := by
  have hblock := CacheCall.block_of_owns howns
  refine h.goto hwf hpool hunlisted (fun b hne heq => ?_) (fun _ _ => nofun)
    (.of_nobody (fun j hj => ?_) fun entry hentry => ?_)
  · rw [hblock] at heq
    exact hne (Option.some.inj heq).symm
  · rcases eq_or_ne j i with rfl | hne
    · rw [calls_goto_self] at hj
      exact nomatch hj
    · rw [calls_goto_of_ne hne] at hj
      cases hcall : s.calls j with
      | outside => rw [hcall] at hj; exact nomatch hj
      | holding processId b =>
          rw [hcall] at hj
          cases hj
          exact hunheld j ⟨processId, hcall⟩
      | adding processId b =>
          rw [hcall] at hj
          cases hj
          exact hne ((h.blocks a).owner j i (.inl ⟨processId, hcall⟩) howns)
      | removing b =>
          rw [hcall] at hj
          cases hj
          exact hne ((h.blocks a).owner j i (.inr hcall) howns)
  · obtain ⟨holders, hholders, hcard⟩ := (h.blocks a).counted entry (hsame entry hentry)
    have hempty : holders = ∅ :=
      Finset.eq_empty_of_forall_notMem fun j hj => hunheld j ((hholders j).mp hj)
    rw [hempty] at hcard
    exact BitVec.eq_of_toNat_eq hcard

/-- The locked section of `AddProcess`: the block goes into the table or back to the pool. -/
theorem Referenced.insert (h : Referenced s) (hcall : s.calls i = .adding processId a) :
    Referenced (s.goto i .outside (s.cache.insertProcess processId a).2) := by
  have howns : (s.calls i).ownsBlock a := .inl ⟨processId, hcall⟩
  obtain ⟨hholds, hunheld⟩ := (h.blocks a).adding i processId hcall
  obtain ⟨entry, hentry, rfl⟩ := ProcessCache.holds_iff.mp hholds
  have hunlisted := (h.blocks a).unlisted i howns
  have hwf := h.wf.insertProcess hunlisted hentry
  rw [ProcessCache.insertProcess] at hwf ⊢
  split at hwf
  · next hcached =>
      rw [if_pos hcached]
      exact h.leave howns hunheld hwf (fun b hne => Function.update_of_ne hne ..)
        (fun entry' hpool => by rw [ProcessCache.pool_freeProcessContext] at hpool; cases hpool)
        fun _ _ hb => hb
  · next hcached =>
      rw [if_neg hcached]
      refine h.leave howns hunheld hwf (fun _ _ => rfl) (fun _ hpool => hpool)
        fun b hne hb j hmem => ?_
      rcases BucketTable.mem_pushFront.mp hmem with ⟨_, heq⟩ | hmem
      · exact hne heq
      · exact hb j hmem

/-- The end of `RemoveProcess`: with the count at one, nobody holds the block. -/
theorem Referenced.free (h : Referenced s) (hcall : s.calls i = .removing a)
    (hcount : (s.cache.pool a).all fun entry => entry.referenceCount == 1#32) :
    Referenced (s.goto i .outside (s.cache.freeProcessContext a)) := by
  have howns : (s.calls i).ownsBlock a := .inr hcall
  have hunheld : ∀ j, ¬(s.calls j).holdsBlock a := by
    intro j hj
    obtain ⟨entry, hentry⟩ := Option.ne_none_iff_exists'.mp
      ((h.blocks a).allocated i (CacheCall.block_of_owns howns))
    obtain ⟨holders, hholders, hcard⟩ := (h.blocks a).counted entry hentry
    rw [hentry, Option.all_some, beq_iff_eq] at hcount
    rw [hcount] at hcard
    have hempty : holders.card = 0 := (Nat.succ.inj hcard).symm
    have hmem := (hholders j).mpr hj
    rw [Finset.card_eq_zero.mp hempty] at hmem
    exact Finset.notMem_empty j hmem
  exact h.leave howns hunheld (h.wf.update ((h.blocks a).unlisted i howns) none)
    (fun b hne => Function.update_of_ne hne ..)
    (fun entry' hpool => nomatch ProcessCache.pool_freeProcessContext.symm.trans hpool)
    fun _ _ hb => hb

/-- A listed block has no owner. -/
theorem Referenced.not_owns_of_find (h : Referenced s)
    (hfind : s.cache.findProcessContextLocked processId = some a) (j : ℕ) :
    ¬(s.calls j).ownsBlock a :=
  fun howns => (h.blocks a).unlisted j howns _ (ProcessCache.mem_of_find hfind).1

/-- `GetProcessContext` on a cached process: one holder more, one reference more. -/
theorem Referenced.get (h : Referenced s) (hcall : s.calls i = .outside)
    (hfind : s.cache.findProcessContextLocked processId = some a)
    (hcount : (s.cache.entryOf processId).all fun entry => entry.referenceCount != -1#32) :
    Referenced (s.goto i (.holding processId a) (s.cache.addReferences a 1#32)) := by
  obtain ⟨_, entry, hentry, hid⟩ := ProcessCache.mem_of_find hfind
  rw [ProcessCache.entryOf, hfind, Option.bind_some, hentry, Option.all_some, bne_iff_ne] at hcount
  have hpool := @ProcessCache.pool_addReferences _ _ _ 1#32 hentry
  have howns : ∀ j, ¬((s.goto i (.holding processId a)
      (s.cache.addReferences a 1#32)).calls j).ownsBlock a := by
    intro j hj
    rcases eq_or_ne j i with rfl | hne
    · rw [calls_goto_self] at hj
      rcases hj with ⟨_, hj⟩ | hj <;> exact nomatch hj
    · rw [calls_goto_of_ne hne] at hj
      exact h.not_owns_of_find hfind j hj
  refine h.goto (h.wf.modify fun _ => rfl) (fun b hne => ProcessCache.pool_modify_of_ne hne)
    (fun _ _ hb => hb) (fun b _ => by rw [hcall]; exact nofun)
    (fun b hne heq => hne (Option.some.inj heq).symm)
    ⟨fun j hj => absurd hj (howns j), ?_, fun j _ hj => absurd hj (howns j),
      fun j processId hj => absurd (.inl ⟨processId, hj⟩) (howns j), ?_, ?_⟩
  · exact fun _ _ hnone => nomatch hpool.symm.trans hnone
  · intro j processId' hj
    rcases eq_or_ne j i with rfl | hne
    · rw [calls_goto_self] at hj
      cases hj
      exact ProcessCache.holds_iff.mpr ⟨_, hpool, hid⟩
    · rw [calls_goto_of_ne hne] at hj
      exact ProcessCache.holds_addReferences.trans ((h.blocks a).live j processId' hj)
  · intro entry' hentry'
    cases hpool.symm.trans hentry'
    obtain ⟨holders, hholders, hcard⟩ := (h.blocks a).counted entry hentry
    have hi : i ∉ holders := by
      rw [hholders i, hcall]
      exact nofun
    refine ⟨_, hholders.insert ⟨processId, rfl⟩, ?_⟩
    rw [Finset.card_insert_of_notMem hi, ← hcard]
    bv_omega

/-- `ReleaseProcessContext`: one holder less, one reference less. -/
theorem Referenced.release (h : Referenced s) (hcall : s.calls i = .holding processId a) :
    Referenced (s.goto i .outside (s.cache.releaseProcessContext a)) := by
  have hholds := (h.blocks a).live i processId hcall
  obtain ⟨entry, hentry, hid⟩ := ProcessCache.holds_iff.mp hholds
  have hpool : (s.cache.releaseProcessContext a).pool a = _ :=
    ProcessCache.pool_addReferences hentry
  have hne : ∀ j, ((s.goto i .outside (s.cache.releaseProcessContext a)).calls j).block = some a →
      (s.goto i .outside (s.cache.releaseProcessContext a)).calls j = s.calls j := by
    intro j hj
    rcases eq_or_ne j i with rfl | hne
    · rw [calls_goto_self] at hj
      exact nomatch hj
    · exact calls_goto_of_ne hne
  refine h.goto (h.wf.modify fun _ => rfl) (fun b hne => ProcessCache.pool_modify_of_ne hne)
    (fun _ _ hb => hb) (fun b hne => ?_) (fun _ _ => nofun) ⟨?_, ?_, ?_, ?_, ?_, ?_⟩
  · rw [hcall]
    exact fun heq => hne (Option.some.inj heq).symm
  · exact fun j hj => (h.blocks a).unlisted j (hne j (CacheCall.block_of_owns hj) ▸ hj)
  · exact fun _ _ hnone => nomatch hpool.symm.trans hnone
  · exact fun j k hj hk => (h.blocks a).owner j k (hne j (CacheCall.block_of_owns hj) ▸ hj)
      (hne k (CacheCall.block_of_owns hk) ▸ hk)
  · intro j processId' hj
    rw [hne j (by rw [hj]; rfl)] at hj
    exact absurd ⟨processId, hcall⟩ (((h.blocks a).adding j processId' hj).2 i)
  · intro j processId' hj
    rw [hne j (by rw [hj]; rfl)] at hj
    exact ProcessCache.holds_addReferences.trans ((h.blocks a).live j processId' hj)
  · intro entry' hentry'
    rw [← Option.some.inj (hpool.symm.trans hentry')]
    obtain ⟨holders, hholders, hcard⟩ := (h.blocks a).counted entry hentry
    have hi : i ∈ holders := (hholders i).mpr ⟨processId, hcall⟩
    refine ⟨_, hholders.erase nofun, ?_⟩
    have hpos := Finset.card_pos.mpr ⟨i, hi⟩
    rw [Finset.card_erase_of_mem hi]
    bv_omega

/-- The locked section of `RemoveProcess`: the block leaves the table and is the call's own. -/
theorem Referenced.remove (h : Referenced s) (hcall : s.calls i = .outside)
    (hunlink : s.cache.unlinkProcess processId = some (a, cache)) :
    Referenced (s.goto i (.removing a) cache) := by
  obtain ⟨hwf, hunlisted, hallocated⟩ := h.wf.unlinkProcess hunlink
  obtain ⟨hfind, hpools, htable⟩ := ProcessCache.unlinkProcess_some hunlink
  obtain ⟨_, entry, hentry, hid⟩ := ProcessCache.mem_of_find hfind
  have hother : ∀ j, ((s.goto i (.removing a) cache).calls j).ownsBlock a → j = i := by
    intro j hj
    by_contra hne
    rw [calls_goto_of_ne hne] at hj
    exact h.not_owns_of_find hfind j hj
  have hpool : cache.pool a = some { entry with hasExited := true } := by
    rw [hpools, ProcessCache.pool_modify, hentry]
    rfl
  refine h.goto hwf (fun b hne => ?_) (fun b _ hb j hmem => ?_)
    (fun b _ => by rw [hcall]; exact nofun) (fun b hne heq => hne (Option.some.inj heq).symm)
    ⟨fun _ _ => hunlisted, fun _ _ => hallocated, ?_, ?_, ?_, ?_⟩
  · rw [hpools]
    exact ProcessCache.pool_modify_of_ne hne
  · rw [htable] at hmem
    exact hb j (BucketTable.mem_of_mem_eraseFirst hmem)
  · intro j k hj hk
    rw [hother j hj, hother k hk]
  · intro j processId' hj
    obtain rfl := hother j (.inl ⟨processId', hj⟩)
    rw [calls_goto_self] at hj
    exact nomatch hj
  · intro j processId' hj
    rcases eq_or_ne j i with rfl | hne
    · rw [calls_goto_self] at hj
      exact nomatch hj
    · rw [calls_goto_of_ne hne] at hj
      exact (ProcessCache.holds_unlinkProcess hunlink).trans ((h.blocks a).live j processId' hj)
  · intro entry' hentry'
    rw [← Option.some.inj (hpool.symm.trans hentry')]
    obtain ⟨holders, hholders, hcard⟩ := (h.blocks a).counted entry hentry
    exact ⟨holders, hholders.update_of_not (by rw [hcall]; exact nofun) nofun, hcard⟩

/-- A read through a held address finds the entry. -/
theorem Referenced.read (h : Referenced s) (hcall : s.calls i = .holding processId a) :
    Referenced { s with reads := (processId, s.cache.pool a) :: s.reads } where
  wf := h.wf
  blocks := fun b => ⟨(h.blocks b).unlisted, (h.blocks b).allocated, (h.blocks b).owner,
    (h.blocks b).adding, (h.blocks b).live, (h.blocks b).counted⟩
  reads := by
    intro read hread
    rcases List.mem_cons.mp hread with rfl | hread
    · exact ProcessCache.holds_iff.mp ((h.blocks a).live i processId hcall)
    · exact h.reads read hread

/-- **Step lemma.** -/
theorem Referenced.step {s' : CacheMachine} {action : CacheAction} (h : Referenced s)
    (hcond : FreesUnreferenced s action) (hstep : cacheStep s action = some s') :
    Referenced s' := by
  cases action with
  | add i block processId parentProcessId createrProcessId imagePath =>
      simp only [cacheStep] at hstep
      split at hstep
      · next hcall =>
          cases block with
          | none =>
              cases hstep
              exact h
          | some a =>
              simp only at hstep
              split at hstep
              · next hfree =>
                  cases hstep
                  exact h.add hcall (Option.isNone_iff_eq_none.mp hfree) rfl rfl
              · cases hstep
      · cases hstep
  | insert i =>
      simp only [cacheStep] at hstep
      split at hstep
      · next hcall =>
          cases hstep
          exact h.insert hcall
      · cases hstep
  | get i processId =>
      rw [cacheStep, ProcessCache.getProcessContext] at hstep
      split at hstep
      · next hcall =>
          cases hfind : s.cache.findProcessContextLocked processId with
          | none =>
              rw [hfind] at hstep
              cases hstep
              exact h
          | some a =>
              rw [hfind] at hstep
              cases hstep
              exact h.get hcall hfind hcond
      · cases hstep
  | read i =>
      simp only [cacheStep] at hstep
      split at hstep
      · next hcall =>
          cases hstep
          exact h.read hcall
      · cases hstep
  | release i =>
      simp only [cacheStep] at hstep
      split at hstep
      · next hcall =>
          cases hstep
          exact h.release hcall
      · cases hstep
  | remove i processId =>
      rw [cacheStep] at hstep
      split at hstep
      · next hcall =>
          split at hstep
          · next hunlink =>
              cases hstep
              exact h.remove hcall hunlink
          · cases hstep
            exact h
      · cases hstep
  | free i =>
      simp only [cacheStep] at hstep
      split at hstep
      · next hcall =>
          cases hstep
          rw [FreesUnreferenced, hcall] at hcond
          exact h.free hcall hcond
      · cases hstep

/-! ## The law -/

/-- **Run theorem.**  As long as every block is freed with its count at one, no entry is freed
while it is held, and every read of a held entry finds it. -/
theorem references_safe {s : CacheMachine} (run : Run cacheStep FreesUnreferenced .init s) :
    ReferencesSafe s :=
  (run.invariant referenced_init fun _ _ _ hinv hcond hstep => hinv.step hcond hstep).safe

/-- The condition leaves out no harmless free: with any other count, somebody is left holding
a freed entry. -/
theorem unsafe_of_free_referenced {s s' : CacheMachine} {i : ℕ} {a : PoolAddress}
    (run : Run cacheStep FreesUnreferenced .init s) (hcall : s.calls i = .removing a)
    (hcond : ¬FreesUnreferenced s (.free i)) (hstep : cacheStep s (.free i) = some s') :
    ¬ReferencesSafe s' := by
  have hinv : Referenced s :=
    run.invariant referenced_init fun _ _ _ hinv hcond hstep => hinv.step hcond hstep
  obtain ⟨entry, hentry⟩ := Option.ne_none_iff_exists'.mp
    ((hinv.blocks a).allocated i (by rw [hcall]; rfl))
  obtain ⟨holders, hholders, hcard⟩ := (hinv.blocks a).counted entry hentry
  have hcount : entry.referenceCount ≠ 1#32 := by
    intro hone
    simp [FreesUnreferenced, hcall, hentry, hone] at hcond
  have hsome : holders.Nonempty := by
    rw [Finset.nonempty_iff_ne_empty]
    rintro rfl
    exact hcount (BitVec.eq_of_toNat_eq hcard)
  obtain ⟨j, hj⟩ := hsome
  obtain ⟨processId, hheld⟩ := (hholders j).mp hj
  have hne : j ≠ i := by
    rintro rfl
    exact nomatch hcall.symm.trans hheld
  simp only [cacheStep, hcall] at hstep
  cases hstep
  intro hsafe
  obtain ⟨entry', hentry', _⟩ := hsafe.live j processId a ((calls_goto_of_ne hne).trans hheld)
  exact nomatch ProcessCache.pool_freeProcessContext.symm.trans hentry'

/-- A process is cached, read once, and removed after the reader has let go of it. -/
private def releasedBeforeRemoved : List CacheAction :=
  [.add 0 (some 7) 4#64 1#64 1#64 .empty, .insert 0, .get 1 4#64, .read 1, .release 1,
    .remove 2 4#64, .free 2]

/-- The theorem at a reader that comes before the removal. -/
theorem references_safe_released :
    ∃ s, s.reads = [(4#64, some { newProcessEntry 4#64 1#64 1#64 .empty with
      referenceCount := 2#32 })] ∧ ReferencesSafe s := by
  obtain ⟨s, hs, hreads⟩ := Option.map_eq_some_iff.mp
    (show (steps cacheStep .init releasedBeforeRemoved).map (·.reads) =
      some [(4#64, some { newProcessEntry 4#64 1#64 1#64 .empty with referenceCount := 2#32 })]
      by decide +kernel)
  exact ⟨s, hreads, references_safe (run_of_steps (by decide +kernel) hs)⟩

/-- A process creates a child as it terminates: the create notification has its entry, the
terminate notification removes it, and the create notification reads its image path. -/
private def removedWhileHeld : List CacheAction :=
  [.add 0 (some 7) 4#64 1#64 1#64 .empty, .insert 0, .get 1 4#64, .remove 2 4#64, .free 2, .read 1]

theorem not_references_safe :
    ¬∀ s, Reaches cacheStep .init s → ReferencesSafe s := by
  intro hsafe
  obtain ⟨s, hs, hreads⟩ := Option.map_eq_some_iff.mp
    (show (steps cacheStep .init removedWhileHeld).map (·.reads) = some [(4#64, none)]
      by decide +kernel)
  obtain ⟨entry, hentry, _⟩ := (hsafe s (reaches_of_steps hs)).reads (4#64, none)
    (hreads ▸ List.mem_cons_self)
  exact nomatch hentry

end Kawin.Driver
