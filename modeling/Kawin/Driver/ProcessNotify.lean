import Kawin.Base.Transition
import Kawin.Driver.EventSerializers

/-!
# Process notifications

`OnProcessNotify` serializes a process event, and the process cache is kept up on the way:
`SerializeProcessEvent` adds the process of a create notification and removes that of a terminate
notification.  Where the buffer of a terminate notification cannot be allocated, the entry of the
process stays, and `AddProcess` does not replace it when the process id is used again.

`attributed_of_run` says what it takes for the cache to be right about the processes that run.
As long as no create notification finds an entry of its process id, and its path fits the 260
characters of an entry, the entry of a process has the parent and the path that the process was
created with.
-/

namespace Kawin.Driver

open Transition

namespace ProcessCache

variable {cache unlinked : ProcessCache} {a : PoolAddress} {processId other : HANDLE}
  {parentProcessId createrProcessId : HANDLE} {imagePath : UnicodeString} {entry : ProcessEntry}

/-! ## What a search sees of the calls -/

/-- A block that is not listed may change, come and go. -/
theorem find_update (hunlisted : cache.Unlisted a) (block : Option ProcessEntry) :
    ({ cache with pool := Function.update cache.pool a block } :
      ProcessCache).findProcessContextLocked other = cache.findProcessContextLocked other :=
  BucketTable.find_congr fun b hmem => by
    have hsame := Function.update_of_ne (ne_of_mem_of_not_mem hmem (hunlisted _)) block cache.pool
    simp only [holds, hsame]

theorem entryOf_update (hunlisted : cache.Unlisted a) (block : Option ProcessEntry) :
    ({ cache with pool := Function.update cache.pool a block } : ProcessCache).entryOf other =
      cache.entryOf other := by
  rw [entryOf, entryOf, find_update hunlisted]
  cases hfind : cache.findProcessContextLocked other with
  | none => rfl
  | some b =>
      have hmem := (mem_of_find hfind).1
      exact Function.update_of_ne (ne_of_mem_of_not_mem hmem (hunlisted _)) ..

theorem entryOf_insertProcess_of_ne (hunlisted : cache.Unlisted a)
    (hpool : cache.pool a = some entry) (hid : entry.processId = processId)
    (hne : processId ≠ other) :
    (cache.insertProcess processId a).2.entryOf other = cache.entryOf other := by
  rw [insertProcess]
  split
  · exact entryOf_update hunlisted none
  · have hholds : ¬cache.holds other a := by simp [holds, hpool, hid, hne]
    have hfind := @BucketTable.find_pushFront _ _ cache.hashTable (computeHash processId)
      (computeHash other) (cache.holds other) a
    rw [if_neg fun h => hholds h.2] at hfind
    exact congrArg (Option.bind · cache.pool) hfind

theorem entryOf_insertProcess_self (hcached : cache.isProcessCached processId = false)
    (hpool : cache.pool a = some entry) (hid : entry.processId = processId) :
    (cache.insertProcess processId a).2.entryOf processId = some entry := by
  rw [insertProcess, hcached, if_neg Bool.false_ne_true]
  have hholds : cache.holds processId a := by simp [holds, hpool, hid]
  have hfind := @BucketTable.find_pushFront _ _ cache.hashTable (computeHash processId)
    (computeHash processId) (cache.holds processId) a
  rw [if_pos ⟨rfl, hholds⟩] at hfind
  exact (congrArg (Option.bind · cache.pool) hfind).trans hpool

theorem entryOf_unlinkProcess_of_ne (hne : other ≠ processId)
    (hunlink : cache.unlinkProcess processId = some (a, unlinked)) :
    unlinked.entryOf other = cache.entryOf other := by
  obtain ⟨hfind, hpools, htable⟩ := unlinkProcess_some hunlink
  obtain ⟨_, entry, hpool, hid⟩ := mem_of_find hfind
  have hsame : unlinked.findProcessContextLocked other = cache.findProcessContextLocked other := by
    rw [findProcessContextLocked, findProcessContextLocked, htable,
      BucketTable.find_congr fun _ _ => holds_unlinkProcess hunlink, BucketTable.find_eq_head?,
      BucketTable.find_eq_head?, BucketTable.chain_eraseFirst_of_disjoint]
    intro b _ hholds
    obtain ⟨entry', hpool', hid'⟩ := holds_iff.mp hholds
    simp [holds, hpool', hid', hne.symm]
  rw [entryOf, entryOf, hsame, hpools]
  cases hother : cache.findProcessContextLocked other with
  | none => rfl
  | some b =>
      refine pool_modify_of_ne ?_
      rintro rfl
      obtain ⟨_, entry', hpool', hid'⟩ := mem_of_find hother
      rw [hpool] at hpool'
      cases hpool'
      exact hne (hid'.symm.trans hid)

/-! ## What a search sees of the complete calls -/

/-- `AddProcess` leaves the other processes alone. -/
theorem Wf.addProcess (hwf : cache.Wf) {block : Option PoolAddress}
    (hfree : ∀ a ∈ block, cache.pool a = none) :
    (cache.addProcess block processId parentProcessId createrProcessId imagePath).2.Wf ∧
      ∀ other ≠ processId,
        (cache.addProcess block processId parentProcessId createrProcessId imagePath).2.entryOf
          other = cache.entryOf other := by
  cases block with
  | none => exact ⟨hwf, fun _ _ => rfl⟩
  | some a =>
      have hunlisted := hwf.unlisted_of_free (hfree a rfl)
      rw [ProcessCache.addProcess]
      obtain ⟨entry, hentry⟩ : ∃ entry, newProcessEntry processId parentProcessId createrProcessId
        imagePath = entry := ⟨_, rfl⟩
      have hid : entry.processId = processId := by rw [← hentry, newProcessEntry]
      have hpool : (cache.allocate a entry).pool a = some entry := Function.update_self ..
      have hallocated : (cache.allocate a entry).Wf := hwf.update hunlisted _
      have hnew : (cache.allocate a entry).Unlisted a := hunlisted
      rw [hentry]
      refine ⟨?_, fun other hne => ?_⟩
      · rw [← hid]
        exact hallocated.insertProcess hnew hpool
      · rw [entryOf_insertProcess_of_ne hnew hpool hid hne.symm]
        exact entryOf_update hunlisted _

/-- A process that was not cached has a new entry, or none where there is no block for it. -/
theorem Wf.entryOf_addProcess (hwf : cache.Wf) {block : Option PoolAddress}
    (hfree : ∀ a ∈ block, cache.pool a = none)
    (hcached : cache.isProcessCached processId = false) :
    (cache.addProcess block processId parentProcessId createrProcessId imagePath).2.entryOf
      processId = block.map fun _ =>
        newProcessEntry processId parentProcessId createrProcessId imagePath := by
  cases block with
  | none =>
      rw [isProcessCached, Option.isSome_eq_false_iff, Option.isNone_iff_eq_none] at hcached
      exact congrArg (Option.bind · cache.pool) hcached
  | some a =>
      have hunlisted := hwf.unlisted_of_free (hfree a rfl)
      have hsame : (cache.allocate a (newProcessEntry processId parentProcessId createrProcessId
          imagePath)).isProcessCached processId = cache.isProcessCached processId :=
        congrArg Option.isSome (find_update hunlisted _)
      rw [ProcessCache.addProcess]
      exact entryOf_insertProcess_self (hsame.trans hcached) (Function.update_self ..) rfl

/-- `AddProcess` keeps an entry that is there. -/
theorem addProcess_of_cached {block : Option PoolAddress} (hwf : cache.Wf)
    (hfree : ∀ a ∈ block, cache.pool a = none) (hcached : cache.isProcessCached processId) :
    (cache.addProcess block processId parentProcessId createrProcessId imagePath).2 = cache := by
  cases block with
  | none => rfl
  | some a =>
      have hnone := hfree a rfl
      have hsame : (cache.allocate a (newProcessEntry processId parentProcessId createrProcessId
          imagePath)).isProcessCached processId = cache.isProcessCached processId :=
        congrArg Option.isSome (find_update (hwf.unlisted_of_free hnone) _)
      rw [addProcess, insertProcess, if_pos (hsame.trans hcached)]
      simp only [freeProcessContext, allocate, Function.update_idem]
      rw [← hnone, Function.update_eq_self]

/-- `RemoveProcess` leaves the other processes alone. -/
theorem Wf.removeProcess (hwf : cache.Wf) :
    (cache.removeProcess processId).2.Wf ∧
      ∀ other ≠ processId, (cache.removeProcess processId).2.entryOf other =
        cache.entryOf other := by
  rw [ProcessCache.removeProcess]
  cases hunlink : cache.unlinkProcess processId with
  | none => exact ⟨hwf, fun _ _ => rfl⟩
  | some found =>
      obtain ⟨a, unlinked⟩ := found
      obtain ⟨hwf', hunlisted, _⟩ := hwf.unlinkProcess hunlink
      refine ⟨hwf'.update hunlisted none, fun other hne => ?_⟩
      exact (entryOf_update hunlisted none).trans (entryOf_unlinkProcess_of_ne hne hunlink)

end ProcessCache

/-! ## `OnProcessNotify` -/

/-- What a call of `OnProcessNotify` is given, by its caller and by the pool. -/
structure Notification where
  processId : HANDLE
  /-- absent when the process terminates -/
  createInfo : Option CreateNotifyInfo
  /-- whether the allocation of `Buffer` succeeds -/
  allocated : Bool
  /-- the allocation of `AddProcess` -/
  block : Option PoolAddress
  timestamp : UINT64
  clientConnected : Bool

/-- `OnProcessNotify`: the message it sends, if any, and the cache it leaves behind. -/
def onProcessNotify (cache : ProcessCache) (n : Notification) :
    Option (List ByteMemory.Byte) × ProcessCache :=
  let event := Buffer.new n.allocated
  -- without a `Buffer` the notification does not get to the cache
  if !event.valid then (none, cache)
  else
    let (status, serialized, cache') :=
      serializeProcessEvent event n.processId n.createInfo cache n.block n.timestamp
    if !ntSuccess status then (none, cache')
    else if !n.clientConnected then (none, cache')
    else (some serialized.bytes, cache')

/-! ## Processes that run -/

/-- The driver's cache, and the processes that run. -/
structure NotifyMachine where
  cache : ProcessCache
  /-- the create notification of each -/
  alive : HANDLE → Option CreateNotifyInfo

def NotifyMachine.init : NotifyMachine := ⟨.empty, fun _ => none⟩

/-- A process is created under an id that is not in use, and the allocator returns a block that
is not in use. -/
def notifyStep (s : NotifyMachine) (n : Notification) : Option NotifyMachine :=
  if (n.createInfo.isNone || (s.alive n.processId).isNone) &&
      n.block.all (fun a => (s.cache.pool a).isNone) then
    some
      { cache := (onProcessNotify s.cache n).2
        alive := Function.update s.alive n.processId n.createInfo }
  else none

/-- What the cache has about a process that runs is what the process was created with. -/
def Attributed (s : NotifyMachine) : Prop :=
  ∀ processId info entry, s.alive processId = some info → s.cache.entryOf processId = some entry →
    entry.parentProcessId = info.parentProcessId ∧ entry.imagePath = info.imageFileName

/-- A create notification finds no entry of its process, and the path that `AddProcess` copies
fits the entry. -/
def StartsAfresh (s : NotifyMachine) (n : Notification) : Prop :=
  ∀ info ∈ n.createInfo, s.cache.isProcessCached n.processId = false ∧
    (n.allocated → n.block ≠ none → info.imageFileName.units.length ≤ imagePathCapacity)

variable {s s' : NotifyMachine} {n : Notification}

/-- What serializing a process event does to the cache. -/
theorem serializeProcessEvent_cache (processId : HANDLE) (createInfo : Option CreateNotifyInfo)
    (cache : ProcessCache) (block : Option PoolAddress) (timestamp : UINT64) :
    (serializeProcessEvent (.new true) processId createInfo cache block timestamp).2.2 =
      match createInfo with
      | some info => (cache.addProcess block processId info.parentProcessId info.creatingProcess
          info.imageFileName).2
      | none => (cache.removeProcess processId).2 := by
  have hwritten := (@Buffer.writeBytes_new ⟨timestamp, .hostLog, .process, false, .zero⟩).1
  rw [serializeProcessEvent, show (Buffer.new true).valid = true from rfl, Bool.not_true,
    if_neg Bool.false_ne_true]
  simp only [hwritten, Bool.not_true, Bool.false_eq_true, if_false]
  cases createInfo with
  | some info => simp only [ProcessCache.appendParentPath_eq]
  | none =>
      simp only [ProcessCache.getProcessContext]
      cases hfind : cache.findProcessContextLocked processId with
      | none => simp [ProcessCache.removeProcess, ProcessCache.unlinkProcess, hfind]
      | some a => simp only [ProcessCache.release_addReferences]

/-- What a notification does to the cache. -/
theorem onProcessNotify_cache (cache : ProcessCache) (n : Notification) :
    (onProcessNotify cache n).2 =
      if n.allocated then
        match n.createInfo with
        | some info => (cache.addProcess n.block n.processId info.parentProcessId
            info.creatingProcess info.imageFileName).2
        | none => (cache.removeProcess n.processId).2
      else cache := by
  rw [onProcessNotify]
  cases n.allocated with
  | false => rfl
  | true =>
      rw [show (Buffer.new true).valid = true from rfl, Bool.not_true, if_neg Bool.false_ne_true,
        if_pos rfl, ← serializeProcessEvent_cache]
      dsimp only
      split
      · rfl
      split
      · rfl
      · rfl

theorem notifyStep_some (hstep : notifyStep s n = some s') :
    (∀ a ∈ n.block, s.cache.pool a = none) ∧ s'.cache = (onProcessNotify s.cache n).2 ∧
      s'.alive = Function.update s.alive n.processId n.createInfo := by
  rw [notifyStep] at hstep
  split at hstep
  · next henabled =>
      cases hstep
      rw [Bool.and_eq_true] at henabled
      refine ⟨fun a ha => ?_, rfl, rfl⟩
      have hfree := henabled.2
      rw [Option.mem_def.mp ha] at hfree
      exact Option.isNone_iff_eq_none.mp hfree
  · cases hstep

/-! ## Attribution -/

/-- The other processes keep their entries. -/
theorem other_entries (hwf : s.cache.Wf) (hstep : notifyStep s n = some s') :
    s'.cache.Wf ∧ ∀ processId ≠ n.processId,
      s'.cache.entryOf processId = s.cache.entryOf processId := by
  obtain ⟨hfree, hcache, _⟩ := notifyStep_some hstep
  rw [hcache, onProcessNotify_cache]
  split
  · cases n.createInfo with
    | some info => exact hwf.addProcess hfree
    | none => exact hwf.removeProcess
  · exact ⟨hwf, fun _ _ => rfl⟩

/-- A process that is created has the entry that was there before, or else the one made for it. -/
theorem created_entry {info : CreateNotifyInfo} (hwf : s.cache.Wf)
    (hstep : notifyStep s n = some s') (hcreate : n.createInfo = some info) :
    s'.cache.entryOf n.processId =
      if s.cache.isProcessCached n.processId then s.cache.entryOf n.processId
      else if n.allocated then n.block.map fun _ => newProcessEntry n.processId
        info.parentProcessId info.creatingProcess info.imageFileName
      else none := by
  obtain ⟨hfree, hcache, _⟩ := notifyStep_some hstep
  rw [hcache, onProcessNotify_cache, hcreate]
  cases hcached : s.cache.isProcessCached n.processId with
  | true =>
      dsimp only
      rw [ProcessCache.addProcess_of_cached hwf hfree hcached, ite_self, if_pos rfl]
  | false =>
      rw [if_neg Bool.false_ne_true]
      split
      · exact hwf.entryOf_addProcess hfree hcached
      · rw [ProcessCache.isProcessCached, Option.isSome_eq_false_iff,
          Option.isNone_iff_eq_none] at hcached
        rw [ProcessCache.entryOf, hcached, Option.bind_none]

/-- The invariant: a well-formed cache that is right about the processes that run. -/
structure NotifyOk (s : NotifyMachine) : Prop where
  wf : s.cache.Wf
  attributed : Attributed s

theorem notifyOk_init : NotifyOk .init where
  wf := ProcessCache.wf_empty
  attributed := fun _ _ _ hinfo => nomatch hinfo

theorem NotifyOk.step (h : NotifyOk s) (hafresh : StartsAfresh s n)
    (hstep : notifyStep s n = some s') : NotifyOk s' where
  wf := (other_entries h.wf hstep).1
  attributed := by
    obtain ⟨_, _, halive⟩ := notifyStep_some hstep
    intro processId info entry hinfo hentry
    rw [halive] at hinfo
    rcases eq_or_ne processId n.processId with rfl | hne
    · rw [Function.update_self] at hinfo
      obtain ⟨hcached, hfits⟩ := hafresh info hinfo
      rw [created_entry h.wf hstep hinfo, hcached, if_neg Bool.false_ne_true] at hentry
      split at hentry
      · next hallocated =>
          obtain ⟨a, hblock, rfl⟩ := Option.map_eq_some_iff.mp hentry
          have hpath := hfits hallocated (by rw [hblock]; exact Option.some_ne_none a)
          exact ⟨rfl, UnicodeString.copyInto_eq_self_iff.mpr hpath⟩
      · cases hentry
    · rw [Function.update_of_ne hne] at hinfo
      rw [(other_entries h.wf hstep).2 processId hne] at hentry
      exact h.attributed processId info entry hinfo hentry

/-- **Run theorem.**  As long as every process starts afresh, the cache is right about every
process that runs. -/
theorem attributed_of_run (s : NotifyMachine) (run : Run notifyStep StartsAfresh .init s) :
    Attributed s :=
  (run.invariant notifyOk_init fun _ _ _ h hafresh hstep => h.step hafresh hstep).attributed

/-! ## A process id that is used twice -/

instance : Decidable (StartsAfresh s n) :=
  inferInstanceAs (Decidable (∀ info ∈ n.createInfo, _))

private def createdBy (parentProcessId : HANDLE) (unit : UINT16) : CreateNotifyInfo where
  parentProcessId := parentProcessId
  creatingProcess := parentProcessId
  fileOpenNameAvailable := true
  imageFileName := ⟨[unit], by rw [List.length_singleton]; decide⟩
  commandLine := .empty

/-- Process 8 is created by process 1, terminates, and is created by process 2. -/
private def reuse (terminateAllocated : Bool) : List Notification :=
  [⟨8#64, some (createdBy 1#64 97#16), true, some 100, 0#64, true⟩,
    ⟨8#64, none, terminateAllocated, none, 0#64, true⟩,
    ⟨8#64, some (createdBy 2#64 98#16), true, some 200, 0#64, true⟩]

/-- The theorem at a process id that is used twice. -/
theorem attributed_reuse : ∃ s, steps notifyStep .init (reuse true) = some s ∧
    (s.cache.entryOf 8#64).map (·.parentProcessId) = some 2#64 ∧ Attributed s := by
  obtain ⟨s, hs, hentry⟩ := Option.map_eq_some_iff.mp (show (steps notifyStep .init
    (reuse true)).map (fun s => (s.cache.entryOf 8#64).map (·.parentProcessId)) =
      some (some 2#64) by decide +kernel)
  exact ⟨s, hs, hentry, attributed_of_run s (run_of_steps (by decide +kernel) hs)⟩

/-- Without a buffer for the terminate notification, the entry of the first process is taken for
that of the second. -/
theorem not_attributed : ¬∀ s, Reaches notifyStep .init s → Attributed s := by
  intro hattributed
  obtain ⟨s, hs, hfacts⟩ := Option.map_eq_some_iff.mp (show (steps notifyStep .init
    (reuse false)).map (fun s => ((s.alive 8#64).map (·.parentProcessId),
      (s.cache.entryOf 8#64).map (·.parentProcessId))) = some (some 2#64, some 1#64) by
    decide +kernel)
  rw [Prod.mk.injEq] at hfacts
  obtain ⟨info, hinfo, hcreated⟩ := Option.map_eq_some_iff.mp hfacts.1
  obtain ⟨entry, hentry, hcached⟩ := Option.map_eq_some_iff.mp hfacts.2
  have hparent := (hattributed s (reaches_of_steps hs) 8#64 info entry hinfo hentry).1
  rw [hcached, hcreated] at hparent
  exact absurd hparent (by decide)

end Kawin.Driver
