import Kawin.Base.Refinement
import Kawin.Driver.ProcessCache
import Mathlib.Data.Finmap

/-!
# The process cache as a finite map

What the 4096 buckets and the blocks of the pool are for is a finite map from process ids to what
`AddProcess` was told about the process.  `processCache_refines_map` says that no sequence of
calls can tell the two apart, and that the four statistics count what their names say.

Each process that is cached has one entry, linked in the bucket of its id (`Linked`, `Single`).
All that a call does is said through `Linked` and the pool (`linked_addProcess`,
`linked_removeProcess`); how the lists of the buckets look is left to the library.
-/

namespace Kawin.Driver

open Refinement

/-! ## The statistics -/

/-- `ProcessCache`, with its statistics. -/
structure CountedCache where
  cache : ProcessCache
  totalProcesses : LONGLONG
  activeProcesses : LONGLONG
  cacheHits : LONGLONG
  cacheMisses : LONGLONG

namespace CountedCache

/-- The constructor. -/
def construct : CountedCache := ⟨.empty, 0, 0, 0, 0⟩

/-- `AddProcess`; `block` is what the allocation returned. -/
def addProcess (s : CountedCache) (block : Option PoolAddress)
    (processId parentProcessId createrProcessId : HANDLE) (imagePath : UnicodeString) :
    NTSTATUS × CountedCache :=
  let added := s.cache.addProcess block processId parentProcessId createrProcessId imagePath
  -- only the path through `InsertHeadList` returns success
  if added.1 = statusSuccess then
    (added.1,
      { s with
        cache := added.2
        totalProcesses := s.totalProcesses + 1
        activeProcesses := s.activeProcesses + 1 })
  else (added.1, { s with cache := added.2 })

/-- `RemoveProcess`. -/
def removeProcess (s : CountedCache) (processId : HANDLE) : NTSTATUS × CountedCache :=
  let removed := s.cache.removeProcess processId
  if removed.1 = statusSuccess then
    (removed.1, { s with cache := removed.2, activeProcesses := s.activeProcesses - 1 })
  else (removed.1, { s with cache := removed.2 })

/-- `GetProcessContext`, with an `outContext` that is not null, as its annotation asks. -/
def getProcessContext (s : CountedCache) (processId : HANDLE) :
    NTSTATUS × Option PoolAddress × CountedCache :=
  match s.cache.getProcessContext processId with
  | (status, some a, held) =>
      (status, some a, { s with cache := held, cacheHits := s.cacheHits + 1 })
  | (status, none, same) =>
      (status, none, { s with cache := same, cacheMisses := s.cacheMisses + 1 })

end CountedCache

/-! ## Requests -/

/-- What an entry says about its process. -/
structure ProcessRecord where
  parentProcessId : HANDLE
  createrProcessId : HANDLE
  imagePath : UnicodeString
  deriving DecidableEq

def ProcessEntry.record (entry : ProcessEntry) : ProcessRecord :=
  ⟨entry.parentProcessId, entry.createrProcessId, entry.imagePath⟩

inductive CacheRequest
  | addProcess (block : Option PoolAddress)
      (processId parentProcessId createrProcessId : HANDLE) (imagePath : UnicodeString)
  | removeProcess (processId : HANDLE)
  | getProcessContext (processId : HANDLE)
  | isProcessCached (processId : HANDLE)

inductive CacheAnswer
  | status (status : NTSTATUS)
  /-- the id and the record in the entry that `outContext` points to -/
  | context (status : NTSTATUS) (found : Option (HANDLE × ProcessRecord))
  | cached (cached : Bool)
  deriving DecidableEq

/-- A request to the cache. -/
def CountedCache.answer (s : CountedCache) : CacheRequest → CacheAnswer × CountedCache
  | .addProcess block processId parentProcessId createrProcessId imagePath =>
      let added := s.addProcess block processId parentProcessId createrProcessId imagePath
      (.status added.1, added.2)
  | .removeProcess processId =>
      let removed := s.removeProcess processId
      (.status removed.1, removed.2)
  | .getProcessContext processId =>
      let got := s.getProcessContext processId
      (.context got.1 ((got.2.1.bind got.2.2.cache.pool).map fun entry =>
        (entry.processId, entry.record)), got.2.2)
  | .isProcessCached processId => (.cached (s.cache.isProcessCached processId), s)

/-- The allocator returns a block that is not in use. -/
def Allocates (s : CountedCache) : CacheRequest → Prop
  | .addProcess (some a) .. => s.cache.pool a = none
  | _ => True

/-! ## The map -/

/-- The processes that are cached, and how often `AddProcess` succeeded and `GetProcessContext`
was called. -/
structure ProcessMap where
  entries : Finmap fun _ : HANDLE => ProcessRecord
  adds : ℕ
  gets : ℕ

namespace ProcessMap

def empty : ProcessMap := ⟨∅, 0, 0⟩

/-- The first 260 characters of a path. -/
def truncated (path : UnicodeString) : UnicodeString :=
  ⟨path.units.take 260,
    (Nat.mul_le_mul_left 2 (path.units.length_take_le' 260)).trans_lt path.short⟩

/-- A request to the map. -/
def answer (map : ProcessMap) : CacheRequest → CacheAnswer × ProcessMap
  | .addProcess none .. => (.status statusInsufficientResources, map)
  | .addProcess (some _) processId parentProcessId createrProcessId imagePath =>
      if processId ∈ map.entries then (.status statusObjectNameCollision, map)
      else
        (.status statusSuccess,
          { map with
            entries := map.entries.insert processId
              ⟨parentProcessId, createrProcessId, truncated imagePath⟩
            adds := map.adds + 1 })
  | .removeProcess processId =>
      if processId ∈ map.entries then
        (.status statusSuccess, { map with entries := map.entries.erase processId })
      else (.status statusNotFound, map)
  | .getProcessContext processId =>
      (.context (if processId ∈ map.entries then statusSuccess else statusNotFound)
        ((map.entries.lookup processId).map fun record => (processId, record)),
        { map with gets := map.gets + 1 })
  | .isProcessCached processId => (.cached (decide (processId ∈ map.entries)), map)

end ProcessMap

namespace ProcessCache

/-- The block is an entry of the process, linked in the bucket of its id. -/
def Linked (cache : ProcessCache) (processId : HANDLE) (a : PoolAddress) : Prop :=
  a ∈ cache.hashTable (computeHash processId) ∧ cache.holds processId a

/-- No process has two entries. -/
def Single (cache : ProcessCache) : Prop :=
  ∀ processId a b, cache.Linked processId a → cache.Linked processId b → a = b

/-- The cache has an entry of the process, and it says this. -/
def Records (cache : ProcessCache) (processId : HANDLE) (record : ProcessRecord) : Prop :=
  ∃ a entry, cache.Linked processId a ∧ cache.pool a = some entry ∧ entry.record = record

end ProcessCache

/-- The cache represents the map. -/
structure RepresentsMap (s : CountedCache) (map : ProcessMap) : Prop where
  /-- what is linked is allocated, in the bucket of its process, and linked once -/
  wf : s.cache.Wf
  single : s.cache.Single
  entries : ∀ processId record,
    map.entries.lookup processId = some record ↔ s.cache.Records processId record
  active : s.activeProcesses = BitVec.ofNat 64 map.entries.keys.card
  total : s.totalProcesses = BitVec.ofNat 64 map.adds
  lookups : s.cacheHits + s.cacheMisses = BitVec.ofNat 64 map.gets

/-! ## Searches -/

namespace ProcessCache

variable {cache unlinked : ProcessCache} {processId other : HANDLE} {a b : PoolAddress}
  {entry : ProcessEntry} {record : ProcessRecord}

theorem linked_of_find (hfind : cache.findProcessContextLocked processId = some a) :
    cache.Linked processId a :=
  BucketTable.mem_of_find hfind

/-- A search finds an entry where there is one. -/
theorem exists_find (h : cache.Linked processId a) :
    ∃ b, cache.findProcessContextLocked processId = some b := by
  refine Option.isSome_iff_exists.mp ?_
  exact List.find?_isSome.mpr ⟨a, h.1, h.2⟩

theorem Single.find_iff (h : cache.Single) :
    cache.findProcessContextLocked processId = some a ↔ cache.Linked processId a := by
  constructor
  · exact linked_of_find
  · intro hlinked
    obtain ⟨b, hfind⟩ := exists_find hlinked
    rw [hfind, h processId b a (linked_of_find hfind) hlinked]

theorem isProcessCached_iff : cache.isProcessCached processId ↔ ∃ a, cache.Linked processId a := by
  rw [isProcessCached, Option.isSome_iff_exists]
  exact ⟨fun ⟨a, hfind⟩ => ⟨a, linked_of_find hfind⟩, fun ⟨_, hlinked⟩ => exists_find hlinked⟩

theorem cached_iff_records : cache.isProcessCached processId ↔ ∃ record,
    cache.Records processId record := by
  rw [isProcessCached_iff]
  constructor
  · rintro ⟨a, hlinked⟩
    obtain ⟨entry, hentry, -⟩ := holds_iff.mp hlinked.2
    exact ⟨entry.record, a, entry, hlinked, hentry, rfl⟩
  · rintro ⟨record, a, entry, hlinked, -⟩
    exact ⟨a, hlinked⟩

/-! ## Adding an entry -/

/-- The cache with an entry in the free block `a`, linked. -/
def added (cache : ProcessCache) (a : PoolAddress) (entry : ProcessEntry) : ProcessCache :=
  { pool := Function.update cache.pool a (some entry)
    hashTable := cache.hashTable.pushFront (computeHash entry.processId) a }

/-- A block that is not allocated holds nothing. -/
theorem Linked.ne_of_free (h : cache.Linked processId b) (hfree : cache.pool a = none) : b ≠ a := by
  rintro rfl
  obtain ⟨entry, hentry, -⟩ := holds_iff.mp h.2
  rw [hfree] at hentry
  cases hentry

theorem linked_added (hfree : cache.pool a = none) :
    (cache.added a entry).Linked processId b ↔
      (processId = entry.processId ∧ b = a) ∨ cache.Linked processId b := by
  rw [Linked, added, BucketTable.mem_pushFront, holds_iff]
  by_cases hba : b = a
  · subst hba
    simp only [Function.update_self, Option.some.injEq, exists_eq_left', and_true]
    constructor
    · exact fun h => .inl h.2.symm
    · rintro (rfl | hlinked)
      · exact ⟨.inl rfl, rfl⟩
      · exact absurd rfl (hlinked.ne_of_free hfree)
  · simp only [Function.update_of_ne hba, hba, and_false, false_or, ← holds_iff]
    rfl

/-- The records with a new entry: its own, and those of the other processes. -/
theorem records_added (hfree : cache.pool a = none)
    (hnew : ∀ b, ¬cache.Linked entry.processId b) :
    (cache.added a entry).Records processId record ↔
      if processId = entry.processId then entry.record = record
      else cache.Records processId record := by
  have hpool (b : PoolAddress) (hne : b ≠ a) : (cache.added a entry).pool b = cache.pool b :=
    Function.update_of_ne hne ..
  have hself : (cache.added a entry).pool a = some entry := Function.update_self ..
  split_ifs with hid
  · subst hid
    constructor
    · rintro ⟨b, found, hlinked, hfound, rfl⟩
      rcases (linked_added hfree).mp hlinked with ⟨-, rfl⟩ | hold
      · rw [hself] at hfound
        cases hfound
        rfl
      · exact absurd hold (hnew b)
    · rintro rfl
      exact ⟨a, entry, (linked_added hfree).mpr (.inl ⟨rfl, rfl⟩), hself, rfl⟩
  · constructor
    · rintro ⟨b, found, hlinked, hfound, rfl⟩
      rcases (linked_added hfree).mp hlinked with ⟨hsame, -⟩ | hold
      · exact absurd hsame hid
      · exact ⟨b, found, hold, hpool b (hold.ne_of_free hfree) ▸ hfound, rfl⟩
    · rintro ⟨b, found, hold, hfound, rfl⟩
      exact ⟨b, found, (linked_added hfree).mpr (.inr hold),
        (hpool b (hold.ne_of_free hfree)).trans hfound, rfl⟩

theorem Single.added (h : cache.Single) (hfree : cache.pool a = none)
    (hnew : ∀ b, ¬cache.Linked entry.processId b) : (cache.added a entry).Single := by
  intro processId b c hb hc
  rcases (linked_added hfree).mp hb with ⟨rfl, rfl⟩ | hold
  · rcases (linked_added hfree).mp hc with ⟨-, rfl⟩ | hold
    · rfl
    · exact absurd hold (hnew c)
  · rcases (linked_added hfree).mp hc with ⟨rfl, -⟩ | hold'
    · exact absurd hold (hnew b)
    · exact h processId b c hold hold'

theorem Wf.added (hwf : cache.Wf) (hfree : cache.pool a = none) : (cache.added a entry).Wf :=
  (hwf.update (hwf.unlisted_of_free hfree) (some entry)).pushFront (hwf.unlisted_of_free hfree)
    (Function.update_self ..)

/-! ## Removing an entry -/

/-- What `RemoveProcess` leaves behind: the entry is neither linked nor allocated. -/
theorem removeProcess_of_find (hwf : cache.Wf)
    (hfind : cache.findProcessContextLocked processId = some a) :
    ∃ removed, cache.removeProcess processId = (statusSuccess, removed) ∧ removed.Wf ∧
      removed.pool = Function.update cache.pool a none ∧
      ∀ i b, b ∈ removed.hashTable i ↔
        b ∈ cache.hashTable i ∧ (i = computeHash processId → b ≠ a) := by
  obtain ⟨unlinked, hunlink⟩ : ∃ unlinked, cache.unlinkProcess processId = some (a, unlinked) :=
    ⟨_, by rw [unlinkProcess, hfind]; rfl⟩
  obtain ⟨hwf', hunlisted, -⟩ := hwf.unlinkProcess hunlink
  obtain ⟨-, hpool, htable⟩ := unlinkProcess_some hunlink
  refine ⟨unlinked.freeProcessContext a, ?_, hwf'.update hunlisted none, ?_, ?_⟩
  · rw [removeProcess, hunlink]
  · rw [freeProcessContext, hpool]
    exact Function.update_idem ..
  · intro i b
    change b ∈ unlinked.hashTable i ↔ _
    rw [htable]
    exact BucketTable.mem_eraseFirst_iff (hwf.nodup _) hfind

theorem removeProcess_of_not_find (hfind : cache.findProcessContextLocked processId = none) :
    cache.removeProcess processId = (statusNotFound, cache) := by
  rw [removeProcess, unlinkProcess, hfind]
  rfl

/-- The entries of the other processes stay linked. -/
theorem linked_removed {removed : ProcessCache} (hsingle : cache.Single)
    (hlinked : cache.Linked processId a) (hpool : removed.pool = Function.update cache.pool a none)
    (htable : ∀ i b, b ∈ removed.hashTable i ↔
      b ∈ cache.hashTable i ∧ (i = computeHash processId → b ≠ a)) :
    removed.Linked other b ↔ other ≠ processId ∧ cache.Linked other b := by
  have hholds (hne : b ≠ a) : removed.holds other b = cache.holds other b := by
    rw [holds, hpool, Function.update_of_ne hne]
    rfl
  constructor
  · rintro ⟨hmem, hother⟩
    have hne : b ≠ a := by
      rintro rfl
      obtain ⟨entry, hentry, -⟩ := holds_iff.mp hother
      rw [hpool, Function.update_self] at hentry
      cases hentry
    have hold : cache.Linked other b := ⟨((htable _ _).mp hmem).1, hholds hne ▸ hother⟩
    refine ⟨?_, hold⟩
    rintro rfl
    exact hne (hsingle other b a hold hlinked)
  · rintro ⟨hne, hold⟩
    have hba : b ≠ a := by
      rintro rfl
      obtain ⟨entry, hentry, rfl⟩ := holds_iff.mp hold.2
      obtain ⟨entry', hentry', rfl⟩ := holds_iff.mp hlinked.2
      rw [hentry] at hentry'
      cases hentry'
      exact hne rfl
    exact ⟨(htable _ _).mpr ⟨hold.1, fun _ => hba⟩, hholds hba ▸ hold.2⟩

/-- The records without the entry. -/
theorem records_removed {removed : ProcessCache} (hsingle : cache.Single)
    (hlinked : cache.Linked processId a) (hpool : removed.pool = Function.update cache.pool a none)
    (htable : ∀ i b, b ∈ removed.hashTable i ↔
      b ∈ cache.hashTable i ∧ (i = computeHash processId → b ≠ a)) :
    removed.Records other record ↔ other ≠ processId ∧ cache.Records other record := by
  have hiff (b : PoolAddress) := @linked_removed cache processId other a b removed hsingle
    hlinked hpool htable
  have hne {b : PoolAddress} {entry : ProcessEntry} (hentry : removed.pool b = some entry) :
      cache.pool b = some entry := by
    by_cases hba : b = a
    · rw [hba, hpool, Function.update_self] at hentry
      cases hentry
    · rwa [hpool, Function.update_of_ne hba] at hentry
  constructor
  · rintro ⟨b, entry, hremoved, hentry, rfl⟩
    obtain ⟨hother, hold⟩ := (hiff b).mp hremoved
    exact ⟨hother, b, entry, hold, hne hentry, rfl⟩
  · rintro ⟨hother, b, entry, hold, hentry, rfl⟩
    have hremoved := (hiff b).mpr ⟨hother, hold⟩
    obtain ⟨entry', hentry', -⟩ := holds_iff.mp hremoved.2
    refine ⟨b, entry, hremoved, ?_, rfl⟩
    rw [hentry', ← hne hentry', hentry]

end ProcessCache

/-! ## Refinement -/

section

variable {s : CountedCache} {map : ProcessMap}

theorem represents_construct : RepresentsMap .construct .empty where
  wf := ProcessCache.wf_empty
  single := fun _ _ _ h => absurd h.1 List.not_mem_nil
  entries := by
    intro processId record
    constructor
    · intro hlookup
      cases hlookup
    · rintro ⟨a, entry, hlinked, -⟩
      exact absurd hlinked.1 List.not_mem_nil
  active := rfl
  total := rfl
  lookups := rfl

theorem RepresentsMap.mem_iff (h : RepresentsMap s map) (processId : HANDLE) :
    processId ∈ map.entries ↔ s.cache.isProcessCached processId := by
  rw [Finmap.mem_iff, ProcessCache.cached_iff_records]
  exact exists_congr fun record => h.entries processId record

/-- The size of the map with one process more. -/
theorem card_keys_insert {processId : HANDLE} (record : ProcessRecord)
    (hnew : processId ∉ map.entries) :
    (map.entries.insert processId record).keys.card = map.entries.keys.card + 1 := by
  have hkeys : (map.entries.insert processId record).keys =
      insert processId map.entries.keys := by
    ext other
    rw [Finmap.mem_keys, Finmap.mem_insert, Finset.mem_insert, Finmap.mem_keys]
  rw [hkeys, Finset.card_insert_of_notMem]
  rwa [Finmap.mem_keys]

/-- And with one less. -/
theorem card_keys_erase {processId : HANDLE} (hmem : processId ∈ map.entries) :
    (map.entries.erase processId).keys.card + 1 = map.entries.keys.card := by
  rw [Finmap.keys_erase]
  exact Finset.card_erase_add_one (Finmap.mem_keys.mpr hmem)

theorem isProcessCached_allocate {cache : ProcessCache} {a : PoolAddress} {processId : HANDLE}
    (hwf : cache.Wf) (hfree : cache.pool a = none) (entry : ProcessEntry) :
    (cache.allocate a entry).isProcessCached processId = cache.isProcessCached processId := by
  have hholds : ∀ b ∈ cache.hashTable (computeHash processId),
      (cache.allocate a entry).holds processId b = cache.holds processId b := by
    intro b hmem
    have hba : b ≠ a := by
      rintro rfl
      exact hwf.allocated_of_listed hmem hfree
    exact congrArg (Option.any _) (Function.update_of_ne hba ..)
  exact congrArg Option.isSome (BucketTable.find_congr hholds)

/-- `AddProcess` on a process that is cached gives the new block back. -/
theorem addProcess_of_cached {a : PoolAddress} (hwf : s.cache.Wf) (hfree : s.cache.pool a = none)
    {processId : HANDLE} (hcached : s.cache.isProcessCached processId)
    (parentProcessId createrProcessId : HANDLE) (imagePath : UnicodeString) :
    s.addProcess (some a) processId parentProcessId createrProcessId imagePath =
      (statusObjectNameCollision, s) := by
  have hblock : ((s.cache.allocate a (newProcessEntry processId parentProcessId createrProcessId
      imagePath)).freeProcessContext a) = s.cache := by
    have hpool : Function.update s.cache.pool a none = s.cache.pool := by
      funext b
      by_cases hba : b = a
      · rw [hba, Function.update_self, hfree]
      · rw [Function.update_of_ne hba]
    rw [ProcessCache.freeProcessContext, ProcessCache.allocate]
    simp only [Function.update_idem, hpool]
  have hadd : s.cache.addProcess (some a) processId parentProcessId createrProcessId imagePath =
      (statusObjectNameCollision, s.cache) := by
    rw [ProcessCache.addProcess, ProcessCache.insertProcess,
      isProcessCached_allocate hwf hfree, if_pos hcached, hblock]
  rw [CountedCache.addProcess, hadd]
  exact if_neg (show statusObjectNameCollision ≠ statusSuccess by decide)

/-- `AddProcess` on a process that is not cached links the new block. -/
theorem addProcess_of_not_cached {a : PoolAddress} (hwf : s.cache.Wf)
    (hfree : s.cache.pool a = none) {processId : HANDLE}
    (hcached : ¬s.cache.isProcessCached processId)
    (parentProcessId createrProcessId : HANDLE) (imagePath : UnicodeString) :
    s.addProcess (some a) processId parentProcessId createrProcessId imagePath =
      (statusSuccess,
        { s with
          cache := s.cache.added a
            (newProcessEntry processId parentProcessId createrProcessId imagePath)
          totalProcesses := s.totalProcesses + 1
          activeProcesses := s.activeProcesses + 1 }) := by
  have hadd : s.cache.addProcess (some a) processId parentProcessId createrProcessId imagePath =
      (statusSuccess, s.cache.added a
        (newProcessEntry processId parentProcessId createrProcessId imagePath)) := by
    rw [ProcessCache.addProcess, ProcessCache.insertProcess,
      isProcessCached_allocate hwf hfree, if_neg hcached]
    rfl
  rw [CountedCache.addProcess, hadd]
  rfl

/-- The map gets the process that `AddProcess` links. -/
theorem RepresentsMap.added (h : RepresentsMap s map) {a : PoolAddress}
    (hfree : s.cache.pool a = none) {entry : ProcessEntry}
    (hnew : entry.processId ∉ map.entries) :
    RepresentsMap
      { s with
        cache := s.cache.added a entry
        totalProcesses := s.totalProcesses + 1
        activeProcesses := s.activeProcesses + 1 }
      { map with
        entries := map.entries.insert entry.processId entry.record
        adds := map.adds + 1 } where
  wf := h.wf.added hfree
  single := h.single.added hfree fun b hlinked =>
    hnew ((h.mem_iff _).mpr (ProcessCache.isProcessCached_iff.mpr ⟨b, hlinked⟩))
  entries := by
    intro processId record
    rw [ProcessCache.records_added hfree fun b hlinked =>
      hnew ((h.mem_iff _).mpr (ProcessCache.isProcessCached_iff.mpr ⟨b, hlinked⟩))]
    split_ifs with hid
    · rw [hid, Finmap.lookup_insert, Option.some.injEq]
    · rw [Finmap.lookup_insert_of_ne _ hid]
      exact h.entries processId record
  active := by
    rw [card_keys_insert _ hnew, BitVec.ofNat_add, ← h.active]
    rfl
  total := by
    rw [BitVec.ofNat_add, ← h.total]
    rfl
  lookups := h.lookups

/-- The map loses the process that `RemoveProcess` unlinks. -/
theorem RepresentsMap.removed (h : RepresentsMap s map) {processId : HANDLE}
    (hmem : processId ∈ map.entries) :
    (s.removeProcess processId).1 = statusSuccess ∧
      RepresentsMap (s.removeProcess processId).2
        { map with entries := map.entries.erase processId } := by
  obtain ⟨a, hlinked⟩ := ProcessCache.isProcessCached_iff.mp ((h.mem_iff processId).mp hmem)
  obtain ⟨removed, hremove, hwf, hpool, htable⟩ :=
    ProcessCache.removeProcess_of_find h.wf (h.single.find_iff.mpr hlinked)
  rw [CountedCache.removeProcess, hremove]
  refine ⟨rfl, hwf, ?_, ?_, ?_, h.total, h.lookups⟩
  · intro other b c hb hc
    have hiff (b : PoolAddress) := @ProcessCache.linked_removed s.cache processId other a b removed
      h.single hlinked hpool htable
    exact h.single other b c ((hiff b).mp hb).2 ((hiff c).mp hc).2
  · intro other record
    refine Iff.trans ?_ (ProcessCache.records_removed h.single hlinked hpool htable).symm
    by_cases hother : other = processId
    · rw [hother, Finmap.lookup_erase]
      simp
    · rw [Finmap.lookup_erase_ne hother, h.entries other record]
      simp [hother]
  · change s.activeProcesses - 1 = _
    rw [h.active, ← card_keys_erase hmem, BitVec.ofNat_add]
    exact BitVec.add_sub_cancel ..

theorem removeProcess_of_not_cached {processId : HANDLE}
    (hcached : ¬s.cache.isProcessCached processId) :
    s.removeProcess processId = (statusNotFound, s) := by
  have hfind : s.cache.findProcessContextLocked processId = none := by
    rw [ProcessCache.isProcessCached, Bool.not_eq_true, Option.isSome_eq_false_iff,
      Option.isNone_iff_eq_none] at hcached
    exact hcached
  rw [CountedCache.removeProcess, ProcessCache.removeProcess_of_not_find hfind]
  exact if_neg (show statusNotFound ≠ statusSuccess by decide)

/-- A reference more changes nothing that the map knows. -/
theorem RepresentsMap.got (h : RepresentsMap s map) {processId : HANDLE} {a : PoolAddress}
    (hlinked : s.cache.Linked processId a) :
    RepresentsMap
      { s with cache := s.cache.addReferences a 1#32, cacheHits := s.cacheHits + 1 }
      { map with gets := map.gets + 1 } := by
  have hiff (other : HANDLE) (b : PoolAddress) :
      (s.cache.addReferences a 1#32).Linked other b ↔ s.cache.Linked other b := by
    rw [ProcessCache.Linked, ProcessCache.holds_addReferences]
    rfl
  have hrecords (other : HANDLE) (record : ProcessRecord) :
      (s.cache.addReferences a 1#32).Records other record ↔ s.cache.Records other record := by
    constructor
    · rintro ⟨b, entry, hb, hentry, rfl⟩
      obtain ⟨entry', hentry', -⟩ := ProcessCache.holds_iff.mp ((hiff other b).mp hb).2
      refine ⟨b, entry', (hiff other b).mp hb, hentry', ?_⟩
      by_cases hba : b = a
      · rw [hba] at hentry hentry'
        rw [ProcessCache.pool_addReferences hentry'] at hentry
        cases hentry
        rfl
      · rw [ProcessCache.addReferences, ProcessCache.pool_modify_of_ne hba, hentry'] at hentry
        cases hentry
        rfl
    · rintro ⟨b, entry, hb, hentry, rfl⟩
      by_cases hba : b = a
      · subst hba
        exact ⟨b, _, (hiff other b).mpr hb, ProcessCache.pool_addReferences hentry, rfl⟩
      · exact ⟨b, entry, (hiff other b).mpr hb,
          (ProcessCache.pool_modify_of_ne hba).trans hentry, rfl⟩
  constructor
  · exact h.wf.modify fun _ => rfl
  · exact fun other b c hb hc => h.single other b c ((hiff other b).mp hb) ((hiff other c).mp hc)
  · exact fun other record => (h.entries other record).trans (hrecords other record).symm
  · exact h.active
  · exact h.total
  · change s.cacheHits + 1 + s.cacheMisses = _
    rw [BitVec.ofNat_add, ← h.lookups, BitVec.add_assoc, BitVec.add_comm 1, ← BitVec.add_assoc]
    rfl

/-- What `GetProcessContext` returns and does. -/
theorem RepresentsMap.getProcessContext (h : RepresentsMap s map) (processId : HANDLE) :
    (s.answer (.getProcessContext processId)).1 =
        (map.answer (.getProcessContext processId)).1 ∧
      RepresentsMap (s.answer (.getProcessContext processId)).2
        (map.answer (.getProcessContext processId)).2 := by
  have hmem := h.mem_iff processId
  rw [CountedCache.answer, ProcessMap.answer, CountedCache.getProcessContext,
    ProcessCache.getProcessContext]
  cases hfind : s.cache.findProcessContextLocked processId with
  | none =>
      have hnot : processId ∉ map.entries := by
        rw [hmem, ProcessCache.isProcessCached, hfind]
        exact Bool.false_ne_true
      rw [if_neg hnot, Finmap.lookup_eq_none.mpr hnot]
      refine ⟨rfl, h.wf, h.single, h.entries, h.active, h.total, ?_⟩
      change s.cacheHits + (s.cacheMisses + 1) = _
      rw [BitVec.ofNat_add, ← h.lookups, BitVec.add_assoc]
      rfl
  | some a =>
      have hlinked := ProcessCache.linked_of_find hfind
      obtain ⟨entry, hentry, rfl⟩ := ProcessCache.holds_iff.mp hlinked.2
      have hlookup := (h.entries entry.processId entry.record).mpr ⟨a, entry, hlinked, hentry, rfl⟩
      refine ⟨?_, h.got hlinked⟩
      rw [if_pos (Finmap.mem_of_lookup_eq_some hlookup), hlookup]
      simp only [Option.bind_some, ProcessCache.pool_addReferences hentry, Option.map_some]
      rfl

/-- **Step lemma.** -/
theorem simulates_map :
    Simulates CountedCache.answer ProcessMap.answer Allocates RepresentsMap := by
  have hstep : ∀ s map request, RepresentsMap s map → Allocates s request →
      (s.answer request).1 = (map.answer request).1 ∧
        RepresentsMap (s.answer request).2 (map.answer request).2 := by
    intro s map request h hfree
    cases request with
    | addProcess block processId parentProcessId createrProcessId imagePath =>
        cases block with
        | none => exact ⟨rfl, h⟩
        | some a =>
            rw [CountedCache.answer, ProcessMap.answer]
            by_cases hmem : processId ∈ map.entries
            · rw [addProcess_of_cached h.wf hfree ((h.mem_iff processId).mp hmem), if_pos hmem]
              exact ⟨rfl, h⟩
            · rw [addProcess_of_not_cached h.wf hfree (fun hc => hmem ((h.mem_iff _).mpr hc)),
                if_neg hmem]
              exact ⟨rfl, h.added hfree hmem⟩
    | removeProcess processId =>
        rw [CountedCache.answer, ProcessMap.answer]
        by_cases hmem : processId ∈ map.entries
        · obtain ⟨hstatus, hremoved⟩ := h.removed hmem
          rw [if_pos hmem]
          exact ⟨congrArg CacheAnswer.status hstatus, hremoved⟩
        · rw [removeProcess_of_not_cached (fun hc => hmem ((h.mem_iff _).mpr hc)), if_neg hmem]
          exact ⟨rfl, h⟩
    | getProcessContext processId => exact h.getProcessContext processId
    | isProcessCached processId =>
        refine ⟨congrArg CacheAnswer.cached ?_, h⟩
        rw [Bool.eq_iff_iff, decide_eq_true_eq]
        exact (h.mem_iff processId).symm
  exact ⟨fun s map request h hfree => (hstep s map request h hfree).1,
    fun s map request h hfree => (hstep s map request h hfree).2⟩

/-- **Refinement.**  Whatever is asked of the cache, the answers are those of the finite map, and
it goes on to represent it. -/
theorem processCache_refines_map (requests : List CacheRequest)
    (hallocates : Admitted CountedCache.answer Allocates .construct requests) :
    results CountedCache.answer .construct requests =
        results ProcessMap.answer .empty requests ∧
      RepresentsMap (final CountedCache.answer .construct requests)
        (final ProcessMap.answer .empty requests) :=
  ⟨simulates_map.results_eq represents_construct hallocates,
    simulates_map.final represents_construct hallocates⟩

end

/-- A path of so many characters `p`. -/
private def pathOf (n : ℕ) (h : 2 * n < 2 ^ 16) : UnicodeString :=
  ⟨List.replicate n 112#16, by rwa [List.length_replicate]⟩

/-- A process with a path of 300 characters added, looked up under another process with its hash,
added again, looked up, and removed. -/
theorem cache_as_map :
    results CountedCache.answer .construct
      [.addProcess (some 1) 4#64 0#64 0#64 (pathOf 300 (by decide)), .getProcessContext 4100#64,
        .addProcess (some 2) 4#64 8#64 8#64 .empty, .getProcessContext 4#64,
        .removeProcess 4#64, .isProcessCached 4#64] =
      [.status statusSuccess, .context statusNotFound none, .status statusObjectNameCollision,
        .context statusSuccess (some (4#64, ⟨0#64, 0#64, pathOf 260 (by decide)⟩)),
        .status statusSuccess, .cached false] := by
  refine (processCache_refines_map _ ?_).1.trans (by decide +kernel)
  exact ⟨rfl, trivial, rfl, trivial, trivial, trivial, trivial⟩

end Kawin.Driver
