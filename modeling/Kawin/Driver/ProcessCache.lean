import Kawin.Base.BucketTable
import Kawin.Driver.Dispatcher
import Kawin.Driver.UnicodeString

/-!
# The process cache

`ProcessCache` maps process ids to `ProcessEntry` blocks of the non-paged pool through 4096
chained buckets.  The entries are known by their addresses: a caller of `GetProcessContext`
keeps an address, and whether the block behind it is still there is for the pool to say, so
the cache carries the pool as a partial map.  An allocation is a free address that the
caller supplies, or none where it fails.

Each locked section is a function of its own; `addProcess` and `removeProcess` are the
complete calls.  The locked sections keep `ProcessCache.Wf`, so that what the table lists is
allocated, listed once, and in the bucket of its process.
-/

namespace Kawin.Driver

abbrev HANDLE := UINT64

/-- An address in the pool. -/
abbrev PoolAddress := ℕ

def statusNotFound : NTSTATUS := 0xC0000225#32
def statusObjectNameCollision : NTSTATUS := 0xC0000035#32

/-! ## Entries -/

/-- `ProcessEntry`, less its times, which nothing reads. -/
structure ProcessEntry where
  referenceCount : LONG
  processId : HANDLE
  parentProcessId : HANDLE
  createrProcessId : HANDLE
  hasExited : Bool
  imagePath : UnicodeString
  deriving DecidableEq

/-- The characters in `imagePathBuffer`. -/
def imagePathCapacity : ℕ := 260

/-- `AllocateProcessContext` and the stores of `AddProcess` into the new block. -/
def newProcessEntry (processId parentProcessId createrProcessId : HANDLE)
    (imagePath : UnicodeString) : ProcessEntry where
  referenceCount := 1#32
  processId := processId
  parentProcessId := parentProcessId
  createrProcessId := createrProcessId
  hasExited := false
  imagePath := imagePath.copyInto imagePathCapacity

/-! ## The cache -/

/-- `HASH_TABLE_SIZE`. -/
def hashTableSize : ℕ := 4096

/-- `ComputeHash`. -/
def computeHash (processId : HANDLE) : Fin hashTableSize :=
  ⟨(processId.setWidth 32 * 2654435761#32).toNat % hashTableSize, Nat.mod_lt _ (by decide)⟩

structure ProcessCache where
  pool : PoolAddress → Option ProcessEntry
  hashTable : BucketTable hashTableSize PoolAddress

namespace ProcessCache

def empty : ProcessCache := ⟨fun _ => none, .empty⟩

/-- The block at `a` is an entry of the process. -/
def holds (cache : ProcessCache) (processId : HANDLE) (a : PoolAddress) : Bool :=
  (cache.pool a).any fun entry => entry.processId == processId

/-- `FindProcessContextLocked`. -/
def findProcessContextLocked (cache : ProcessCache) (processId : HANDLE) : Option PoolAddress :=
  cache.hashTable.find (computeHash processId) (cache.holds processId)

/-- `IsProcessCached`. -/
def isProcessCached (cache : ProcessCache) (processId : HANDLE) : Bool :=
  (cache.findProcessContextLocked processId).isSome

/-- The entry that a search for the process finds. -/
def entryOf (cache : ProcessCache) (processId : HANDLE) : Option ProcessEntry :=
  (cache.findProcessContextLocked processId).bind cache.pool

def allocate (cache : ProcessCache) (a : PoolAddress) (entry : ProcessEntry) : ProcessCache :=
  { cache with pool := Function.update cache.pool a (some entry) }

/-- `FreeProcessContext`. -/
def freeProcessContext (cache : ProcessCache) (a : PoolAddress) : ProcessCache :=
  { cache with pool := Function.update cache.pool a none }

/-- A store into the block at `a`. -/
def modify (cache : ProcessCache) (a : PoolAddress) (f : ProcessEntry → ProcessEntry) :
    ProcessCache :=
  { cache with pool := Function.update cache.pool a ((cache.pool a).map f) }

/-- `InterlockedAdd` on the reference count. -/
def addReferences (cache : ProcessCache) (a : PoolAddress) (delta : LONG) : ProcessCache :=
  cache.modify a fun entry => { entry with referenceCount := entry.referenceCount + delta }

/-! ## Locked sections -/

/-- The locked section of `AddProcess`, with the new block at `a`. -/
def insertProcess (cache : ProcessCache) (processId : HANDLE) (a : PoolAddress) :
    NTSTATUS × ProcessCache :=
  if cache.isProcessCached processId then
    -- the process is in the table already: the new block goes back to the pool
    (statusObjectNameCollision, cache.freeProcessContext a)
  else
    (statusSuccess,
      { cache with hashTable := cache.hashTable.pushFront (computeHash processId) a })

/-- `GetProcessContext`. -/
def getProcessContext (cache : ProcessCache) (processId : HANDLE) :
    NTSTATUS × Option PoolAddress × ProcessCache :=
  match cache.findProcessContextLocked processId with
  | some a => (statusSuccess, some a, cache.addReferences a 1#32)
  | none => (statusNotFound, none, cache)

/-- `ReleaseProcessContext`, which takes no lock: one interlocked decrement. -/
def releaseProcessContext (cache : ProcessCache) (a : PoolAddress) : ProcessCache :=
  cache.addReferences a (-1#32)

/-- The locked section of `RemoveProcess`: the block it is to free, if it found one. -/
def unlinkProcess (cache : ProcessCache) (processId : HANDLE) :
    Option (PoolAddress × ProcessCache) :=
  (cache.findProcessContextLocked processId).map fun a =>
    (a, { cache.modify a fun entry => { entry with hasExited := true } with
      hashTable := cache.hashTable.eraseFirst (computeHash processId) (cache.holds processId) })

/-! ## Complete calls -/

/-- `AddProcess`; `block` is what the allocation returned. -/
def addProcess (cache : ProcessCache) (block : Option PoolAddress)
    (processId parentProcessId createrProcessId : HANDLE) (imagePath : UnicodeString) :
    NTSTATUS × ProcessCache :=
  match block with
  | none => (statusInsufficientResources, cache)
  | some a =>
      (cache.allocate a
        (newProcessEntry processId parentProcessId createrProcessId imagePath)).insertProcess
        processId a

/-- `RemoveProcess`. -/
def removeProcess (cache : ProcessCache) (processId : HANDLE) : NTSTATUS × ProcessCache :=
  match cache.unlinkProcess processId with
  | none => (statusNotFound, cache)
  | some (a, unlinked) => (statusSuccess, unlinked.freeProcessContext a)

/-! ## Well-formed caches -/

/-- What the table lists is allocated, in the bucket of its process, and listed once. -/
structure Wf (cache : ProcessCache) : Prop where
  listed : ∀ i, ∀ a ∈ cache.hashTable i, ∃ entry, cache.pool a = some entry ∧
    computeHash entry.processId = i
  nodup : ∀ i, (cache.hashTable i).Nodup

/-- No bucket lists the block. -/
def Unlisted (cache : ProcessCache) (a : PoolAddress) : Prop :=
  ∀ i, a ∉ cache.hashTable i

theorem wf_empty : empty.Wf where
  listed := fun _ _ hmem => absurd hmem List.not_mem_nil
  nodup := fun _ => List.nodup_nil

variable {cache unlinked : ProcessCache} {a b : PoolAddress} {processId other : HANDLE}
  {entry : ProcessEntry} {f : ProcessEntry → ProcessEntry}

theorem Wf.allocated_of_listed (hwf : cache.Wf) {i : Fin hashTableSize}
    (hmem : a ∈ cache.hashTable i) : cache.pool a ≠ none := by
  obtain ⟨entry, hentry, _⟩ := hwf.listed i a hmem
  rw [hentry]
  exact Option.some_ne_none entry

/-- A block that is not allocated is not listed. -/
theorem Wf.unlisted_of_free (hwf : cache.Wf) (hfree : cache.pool a = none) :
    cache.Unlisted a :=
  fun _ hmem => hwf.allocated_of_listed hmem hfree

theorem holds_iff : cache.holds processId a ↔
    ∃ entry, cache.pool a = some entry ∧ entry.processId = processId := by
  cases hpool : cache.pool a <;> simp [holds, hpool]

@[simp] theorem pool_freeProcessContext : (cache.freeProcessContext a).pool a = none :=
  Function.update_self ..

@[simp] theorem pool_modify : (cache.modify a f).pool a = (cache.pool a).map f :=
  Function.update_self ..

theorem pool_modify_of_ne (hne : b ≠ a) : (cache.modify a f).pool b = cache.pool b :=
  Function.update_of_ne hne ..

/-- A store that leaves the process id alone leaves every block an entry of its process. -/
theorem holds_modify (hid : ∀ entry, (f entry).processId = entry.processId) :
    (cache.modify a f).holds processId b = cache.holds processId b := by
  rcases eq_or_ne b a with rfl | hne
  · cases hpool : cache.pool b <;> simp [holds, hpool, hid]
  · simp [holds, pool_modify_of_ne hne]

theorem pool_addReferences {delta : LONG} (hpool : cache.pool a = some entry) :
    (cache.addReferences a delta).pool a =
      some { entry with referenceCount := entry.referenceCount + delta } := by
  rw [addReferences, pool_modify, hpool]
  rfl

theorem holds_addReferences {delta : LONG} :
    (cache.addReferences a delta).holds processId b = cache.holds processId b :=
  holds_modify fun _ => rfl

/-- A reference taken and released leaves the cache as it was. -/
theorem release_addReferences : (cache.addReferences a 1#32).releaseProcessContext a = cache := by
  have hcount : ∀ block : Option ProcessEntry,
      (block.map fun entry => { entry with referenceCount := entry.referenceCount + 1#32 }).map
        (fun entry => { entry with referenceCount := entry.referenceCount + -1#32 }) = block := by
    intro block
    cases block with
    | none => rfl
    | some entry =>
        simp only [Option.map_some, BitVec.add_assoc, show (1#32 + -1#32) = 0#32 from rfl,
          BitVec.add_zero]
  rw [releaseProcessContext, addReferences, addReferences]
  simp only [modify, Function.update_self, Function.update_idem, hcount, Function.update_eq_self]

/-- What a search finds is listed and an entry of the process. -/
theorem mem_of_find (hfind : cache.findProcessContextLocked processId = some a) :
    a ∈ cache.hashTable (computeHash processId) ∧
      ∃ entry, cache.pool a = some entry ∧ entry.processId = processId := by
  obtain ⟨hmem, hholds⟩ := BucketTable.mem_of_find hfind
  exact ⟨hmem, holds_iff.mp hholds⟩

/-- A listed block is in one bucket only. -/
theorem Wf.bucket_eq (hwf : cache.Wf) (hpool : cache.pool a = some entry) {i : Fin hashTableSize}
    (hmem : a ∈ cache.hashTable i) : i = computeHash entry.processId := by
  obtain ⟨entry', hentry', hhash⟩ := hwf.listed i a hmem
  rw [hpool] at hentry'
  cases hentry'
  exact hhash.symm

/-- Stores to blocks that are not listed, allocations and frees among them, keep the cache
well formed. -/
theorem Wf.of_pool (hwf : cache.Wf) {pool : PoolAddress → Option ProcessEntry}
    (hpool : ∀ i, ∀ b ∈ cache.hashTable i, pool b = cache.pool b) :
    ({ cache with pool := pool } : ProcessCache).Wf where
  listed := by
    intro i b hmem
    obtain ⟨entry, hentry, hhash⟩ := hwf.listed i b hmem
    exact ⟨entry, (hpool i b hmem).trans hentry, hhash⟩
  nodup := hwf.nodup

theorem Wf.update (hwf : cache.Wf) (hunlisted : cache.Unlisted a) (block : Option ProcessEntry) :
    ({ cache with pool := Function.update cache.pool a block } : ProcessCache).Wf :=
  hwf.of_pool fun i _ hmem =>
    Function.update_of_ne (ne_of_mem_of_not_mem hmem (hunlisted i)) _ _

/-- A store that leaves the process id alone keeps the cache well formed. -/
theorem Wf.modify (hwf : cache.Wf) (hid : ∀ entry, (f entry).processId = entry.processId) :
    (cache.modify a f).Wf where
  listed := by
    intro i b hmem
    obtain ⟨entry, hentry, hhash⟩ := hwf.listed i b hmem
    rcases eq_or_ne b a with rfl | hne
    · exact ⟨f entry, by rw [pool_modify, hentry]; rfl, by rw [hid, hhash]⟩
    · exact ⟨entry, (pool_modify_of_ne hne).trans hentry, hhash⟩
  nodup := hwf.nodup

/-- Listing an allocated block that is not listed yet. -/
theorem Wf.pushFront (hwf : cache.Wf) (hunlisted : cache.Unlisted a)
    (hpool : cache.pool a = some entry) :
    ({ cache with
      hashTable := cache.hashTable.pushFront (computeHash entry.processId) a } :
      ProcessCache).Wf where
  listed := by
    intro i b hmem
    rcases BucketTable.mem_pushFront.mp hmem with ⟨rfl, rfl⟩ | hold
    · exact ⟨entry, hpool, rfl⟩
    · exact hwf.listed i b hold
  nodup := by
    intro i
    rcases eq_or_ne i (computeHash entry.processId) with rfl | hne
    · simp only [BucketTable.pushFront, Function.update_self]
      exact List.nodup_cons.mpr ⟨hunlisted _, hwf.nodup _⟩
    · simp only [BucketTable.pushFront, Function.update_of_ne hne]
      exact hwf.nodup i

theorem Wf.insertProcess (hwf : cache.Wf) (hunlisted : cache.Unlisted a)
    (hpool : cache.pool a = some entry) :
    (cache.insertProcess entry.processId a).2.Wf := by
  rw [ProcessCache.insertProcess]
  split
  · exact hwf.update hunlisted none
  · exact hwf.pushFront hunlisted hpool

/-- What `unlinkProcess` does: a mark on the entry the search finds, and a shorter list. -/
theorem unlinkProcess_some (hunlink : cache.unlinkProcess processId = some (a, unlinked)) :
    cache.findProcessContextLocked processId = some a ∧
      unlinked.pool = (cache.modify a fun entry => { entry with hasExited := true }).pool ∧
      unlinked.hashTable =
        cache.hashTable.eraseFirst (computeHash processId) (cache.holds processId) := by
  obtain ⟨b, hfind, heq⟩ := Option.map_eq_some_iff.mp hunlink
  cases heq
  exact ⟨hfind, rfl, rfl⟩

/-- Unlinking: the block is allocated, an entry of the process, and listed no longer. -/
theorem Wf.unlinkProcess (hwf : cache.Wf)
    (hunlink : cache.unlinkProcess processId = some (a, unlinked)) :
    unlinked.Wf ∧ unlinked.Unlisted a ∧ unlinked.pool a ≠ none := by
  obtain ⟨hfind, hpools, htable⟩ := unlinkProcess_some hunlink
  obtain ⟨hmem, entry, hpool, rfl⟩ := mem_of_find hfind
  have hmod := @Wf.modify cache a (fun entry => { entry with hasExited := true }) hwf
    fun _ => rfl
  refine ⟨⟨fun i b hb => ?_, fun i => ?_⟩, fun i hb => ?_, by simp [hpools, hpool]⟩
  · rw [htable] at hb
    rw [hpools]
    exact hmod.listed i b (BucketTable.mem_of_mem_eraseFirst hb)
  · rw [htable]
    rcases eq_or_ne i (computeHash entry.processId) with rfl | hne
    · rw [BucketTable.eraseFirst, Function.update_self]
      exact (hwf.nodup _).eraseP _
    · rw [BucketTable.eraseFirst, Function.update_of_ne hne]
      exact hwf.nodup i
  · rw [htable] at hb
    obtain rfl := hwf.bucket_eq hpool (BucketTable.mem_of_mem_eraseFirst hb)
    exact BucketTable.not_mem_eraseFirst (hwf.nodup _) hfind hb

/-- Unlinking leaves every block an entry of its process. -/
theorem holds_unlinkProcess (hunlink : cache.unlinkProcess processId = some (a, unlinked)) :
    unlinked.holds other b = cache.holds other b := by
  obtain ⟨_, hpools, _⟩ := unlinkProcess_some hunlink
  rw [holds, hpools]
  exact holds_modify fun _ => rfl

end ProcessCache

end Kawin.Driver
