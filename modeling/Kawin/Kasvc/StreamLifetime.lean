import Kawin.Kasvc.StreamMachine

/-!
# The life of a stream

What a thread holds is what it has locked (`LocksOk`).  A writer is in the map only while its
handler is between `Subscribe` and `Unsubscribe` (`EntriesOk`), and a thread that is somewhere in
the map finds there what it saw before, since nobody changes the map meanwhile (`WalksOk`).  So a
publisher only writes to streams whose call is still there, and nobody else writes to them.

The ids are those of a counter of 64 bits, and different until it has gone round (`IdsOk`); the
rest does not depend on them, since a second subscription of an id takes the place of the first.
-/

namespace Kawin.Kasvc

open SharedMutex Transition

/-! ## Locks -/

/-- Whoever is where the mutex is locked has locked it. -/
structure LocksOk (s : StreamMachine) : Prop where
  handler : ∀ i, (s.handlers i).holds → s.mutex.Grants (.handler i) .exclusive
  publisher : ∀ p, (s.publishers p).shares → s.mutex.Grants (.publisher p) .shared

section

variable {s t : StreamMachine} {i p : ℕ} {pc : WatchCall} {pc' : PublishCall} {id : ℕ}
  {call : SharedMutex.Call} {thread : StreamThread} {outcome : WriteOutcome}
  {subscriber : StreamSubscriber} {writeMutex : Option ℕ}

theorem init_locksOk : LocksOk .init where
  handler _ hholds := by cases hholds
  publisher _ hshares := by cases hshares

theorem mutexCall_cases (h : s.mutexCall call thread = some t) :
    ∃ mutex, s.mutex.perform call thread = some mutex ∧ t = { s with mutex } := by
  obtain ⟨mutex, hmutex, rfl⟩ := Option.map_eq_some_iff.mp h
  exact ⟨mutex, hmutex, rfl⟩

/-- Publishers change the mutex, the flags of an entry and where they stand. -/
theorem publisherStep_frame (hstep : s.publisherStep p outcome pc' = some t) :
    ∃ mutex subscribers publishers, t = { s with mutex, subscribers, publishers } ∧
      (subscribers = s.subscribers ∨ ∃ id active writeMutex,
        subscribers = (s.modify id active writeMutex).subscribers) := by
  cases pc' with
  | outside =>
      cases hstep
      exact ⟨_, _, _, rfl, Or.inl rfl⟩
  | starting =>
      obtain ⟨u, hcall, rfl⟩ := Option.map_eq_some_iff.mp hstep
      obtain ⟨mutex, _, rfl⟩ := mutexCall_cases hcall
      exact ⟨_, _, _, rfl, Or.inl rfl⟩
  | iterating entry =>
      cases entry with
      | none =>
          obtain ⟨u, hcall, rfl⟩ := Option.map_eq_some_iff.mp hstep
          obtain ⟨mutex, _, rfl⟩ := mutexCall_cases hcall
          exact ⟨_, _, _, rfl, Or.inl rfl⟩
      | some id =>
          obtain ⟨subscriber, _, rfl⟩ := Option.map_eq_some_iff.mp hstep
          exact ⟨_, _, _, rfl, Or.inl rfl⟩
  | lockingWrite id =>
      obtain ⟨subscriber, _, hstep⟩ := Option.bind_eq_some_iff.mp hstep
      obtain ⟨_, hstep⟩ := Option.ite_none_left_eq_some.mp hstep
      cases hstep
      exact ⟨_, _, _, rfl, Or.inr ⟨_, _, _, rfl⟩⟩
  | calling id =>
      obtain ⟨subscriber, _, rfl⟩ := Option.map_eq_some_iff.mp hstep
      exact ⟨_, _, _, rfl, Or.inl rfl⟩
  | writing id writer | wrote id =>
      obtain ⟨subscriber, _, rfl⟩ := Option.map_eq_some_iff.mp hstep
      exact ⟨_, _, _, rfl, Or.inr ⟨_, _, _, rfl⟩⟩

namespace LocksOk

theorem handlerGoto (h : LocksOk s)
    (hself : pc.holds → s.mutex.Grants (.handler i) .exclusive) :
    LocksOk (s.handlerGoto i pc) where
  handler := (Function.forall_update_iff s.handlers fun j pc =>
    pc.holds → s.mutex.Grants (.handler j) .exclusive).mpr ⟨hself, fun j _ => h.handler j⟩
  publisher := h.publisher

theorem publisherGoto (h : LocksOk s)
    (hself : pc'.shares → s.mutex.Grants (.publisher p) .shared) :
    LocksOk (s.publisherGoto p pc') where
  handler := h.handler
  publisher := (Function.forall_update_iff s.publishers fun q pc =>
    pc.shares → s.mutex.Grants (.publisher q) .shared).mpr ⟨hself, fun q _ => h.publisher q⟩

/-- A handler calls the mutex and goes to where it holds what the call gave it. -/
theorem handlerCall (h : LocksOk s) (hcall : s.mutexCall call (.handler i) = some t)
    (hself : pc.holds → t.mutex.Grants (.handler i) .exclusive) :
    LocksOk (t.handlerGoto i pc) := by
  obtain ⟨mutex, hmutex, rfl⟩ := mutexCall_cases hcall
  constructor
  · apply (Function.forall_update_iff s.handlers fun j pc =>
      pc.holds → mutex.Grants (.handler j) .exclusive).mpr
    refine ⟨hself, fun j hne hholds => (h.handler j hholds).perform_of_ne ?_ hmutex⟩
    exact fun heq => hne (StreamThread.handler.inj heq)
  · intro q hshares
    exact (h.publisher q hshares).perform_of_ne (StreamThread.noConfusion : _ ≠ .handler i) hmutex

theorem publisherCall (h : LocksOk s) (hcall : s.mutexCall call (.publisher p) = some t)
    (hself : pc'.shares → t.mutex.Grants (.publisher p) .shared) :
    LocksOk (t.publisherGoto p pc') := by
  obtain ⟨mutex, hmutex, rfl⟩ := mutexCall_cases hcall
  constructor
  · intro i hholds
    exact (h.handler i hholds).perform_of_ne StreamThread.noConfusion hmutex
  · apply (Function.forall_update_iff s.publishers fun q pc =>
      pc.shares → mutex.Grants (.publisher q) .shared).mpr
    refine ⟨hself, fun q hne hshares => (h.publisher q hshares).perform_of_ne ?_ hmutex⟩
    exact fun heq => hne (StreamThread.publisher.inj heq)

/-- The invariant is about the mutex and where the calls stand. -/
theorem congr (h : LocksOk s) (hmutex : t.mutex = s.mutex) (hhandlers : t.handlers = s.handlers)
    (hpublishers : t.publishers = s.publishers) : LocksOk t where
  handler i := by rw [hmutex, hhandlers]; exact h.handler i
  publisher p := by rw [hmutex, hpublishers]; exact h.publisher p

theorem handlerStep (h : LocksOk s) (hpc : s.handlers i = pc)
    (hstep : s.handlerStep i pc = some t) : LocksOk t := by
  have hheld := h.handler i
  rw [hpc] at hheld
  cases pc with
  | outside | waiting id =>
      cases hstep
      exact h.handlerGoto fun hholds => by cases hholds
  | subscribing | unsubscribing id =>
      obtain ⟨u, hcall, rfl⟩ := Option.map_eq_some_iff.mp hstep
      obtain ⟨_, hmutex, rfl⟩ := mutexCall_cases hcall
      exact h.handlerCall hcall fun _ => grants_of_lock hmutex
  | locked =>
      cases hstep
      exact (h.congr rfl rfl rfl : LocksOk s.takeId).handlerGoto fun _ => hheld rfl
  | tookId id =>
      cases hstep
      exact (h.congr rfl rfl rfl : LocksOk (s.assign ⟨id, i, true, none⟩)).handlerGoto
        fun _ => hheld rfl
  | erasing id =>
      cases hstep
      exact (h.congr rfl rfl rfl : LocksOk (s.erase id)).handlerGoto fun _ => hheld rfl
  | inserted id | erased =>
      obtain ⟨u, hcall, rfl⟩ := Option.map_eq_some_iff.mp hstep
      exact h.handlerCall hcall fun hholds => by cases hholds
  | returned => cases hstep

theorem publisherStep (h : LocksOk s) (hpc : s.publishers p = pc')
    (hstep : s.publisherStep p outcome pc' = some t) : LocksOk t := by
  have hheld := h.publisher p
  rw [hpc] at hheld
  cases pc' with
  | outside =>
      cases hstep
      exact h.publisherGoto fun hshares => by cases hshares
  | starting =>
      obtain ⟨u, hcall, rfl⟩ := Option.map_eq_some_iff.mp hstep
      obtain ⟨_, hmutex, rfl⟩ := mutexCall_cases hcall
      exact h.publisherCall hcall fun _ => grants_of_lockShared hmutex
  | iterating entry =>
      cases entry with
      | none =>
          obtain ⟨u, hcall, rfl⟩ := Option.map_eq_some_iff.mp hstep
          exact h.publisherCall hcall fun hshares => by cases hshares
      | some id =>
          obtain ⟨subscriber, _, rfl⟩ := Option.map_eq_some_iff.mp hstep
          exact h.publisherGoto fun _ => hheld rfl
  | lockingWrite id =>
      obtain ⟨subscriber, _, hstep⟩ := Option.bind_eq_some_iff.mp hstep
      obtain ⟨_, hstep⟩ := Option.ite_none_left_eq_some.mp hstep
      cases hstep
      exact (h.congr rfl rfl rfl : LocksOk (s.modify ..)).publisherGoto fun _ => hheld rfl
  | calling id =>
      obtain ⟨subscriber, _, rfl⟩ := Option.map_eq_some_iff.mp hstep
      exact h.publisherGoto fun _ => hheld rfl
  | writing id writer | wrote id =>
      obtain ⟨subscriber, _, rfl⟩ := Option.map_eq_some_iff.mp hstep
      exact (h.congr rfl rfl rfl : LocksOk (s.modify ..)).publisherGoto fun _ => hheld rfl

/-- While a handler has locked the mutex, nobody walks the map. -/
theorem not_shares (h : LocksOk s) (hholds : (s.handlers i).holds) :
    (s.publishers p).shares = false := by
  by_contra hshares
  rw [Bool.not_eq_false] at hshares
  exact not_grants_shared (h.handler i hholds) (h.publisher p hshares)

end LocksOk

/-! ## Entries -/

/-- Whoever has its writer in the map is registered under the id of the entry. -/
def EntriesOk (s : StreamMachine) : Prop :=
  ∀ subscriber ∈ s.subscribers, (s.handlers subscriber.writer).registered = some subscriber.id

theorem init_entriesOk : EntriesOk .init := fun _ hmem => absurd hmem List.not_mem_nil

namespace EntriesOk

theorem congr (h : EntriesOk s) (hsubscribers : t.subscribers = s.subscribers)
    (hhandlers : ∀ i, (t.handlers i).registered = (s.handlers i).registered) : EntriesOk t := by
  intro subscriber hmem
  rw [hhandlers]
  exact h subscriber (hsubscribers ▸ hmem)

/-- A handler goes to where it is registered as before. -/
theorem handlerGoto (h : EntriesOk s) (hself : pc.registered = (s.handlers i).registered) :
    EntriesOk (s.handlerGoto i pc) := by
  refine h.congr rfl fun j => ?_
  rw [handlers_handlerGoto]
  rcases eq_or_ne j i with rfl | hne
  · rw [Function.update_self, hself]
  · rw [Function.update_of_ne hne]

theorem modify (h : EntriesOk s) (active : Bool) (writeMutex : Option ℕ) :
    EntriesOk (s.modify id active writeMutex) := by
  intro subscriber hmem
  obtain ⟨old, hold, rfl⟩ := List.mem_map.mp hmem
  have hregistered := h old hold
  split
  · exact hregistered
  · exact hregistered

theorem tookId (h : EntriesOk s) (hpc : s.handlers i = .tookId id) :
    EntriesOk ((s.assign ⟨id, i, true, none⟩).handlerGoto i (.inserted id)) := by
  intro subscriber hmem
  rw [handlers_handlerGoto]
  rcases (List.mem_orderedInsert _).mp hmem with rfl | hmem
  · rw [Function.update_self]
    rfl
  · have hregistered := h subscriber (List.mem_of_mem_filter hmem)
    -- the writer of the handler was not in the map
    have hne : subscriber.writer ≠ i := by
      intro heq
      rw [heq, hpc] at hregistered
      cases hregistered
    rw [Function.update_of_ne hne]
    exact hregistered

theorem erasing (h : EntriesOk s) (hpc : s.handlers i = .erasing id) :
    EntriesOk ((s.erase id).handlerGoto i .erased) := by
  intro subscriber hmem
  obtain ⟨hmem, hid⟩ := List.mem_filter.mp hmem
  have hregistered := h subscriber hmem
  -- the writer of the handler is under its id, if it is there at all
  have hne : subscriber.writer ≠ i := by
    intro heq
    rw [heq, hpc] at hregistered
    exact (decide_eq_true_eq.mp hid) (Option.some.inj hregistered).symm
  rw [handlers_handlerGoto, Function.update_of_ne hne]
  exact hregistered

theorem handlerStep (h : EntriesOk s) (hpc : s.handlers i = pc)
    (hstep : s.handlerStep i pc = some t) : EntriesOk t := by
  cases pc with
  | outside | waiting id =>
      cases hstep
      exact h.handlerGoto (by rw [hpc]; rfl)
  | subscribing | unsubscribing id | inserted id | erased =>
      obtain ⟨u, hcall, rfl⟩ := Option.map_eq_some_iff.mp hstep
      obtain ⟨mutex, _, rfl⟩ := mutexCall_cases hcall
      exact (h.congr rfl fun _ => rfl : EntriesOk { s with mutex }).handlerGoto (by rw [hpc]; rfl)
  | locked =>
      cases hstep
      exact (h.congr rfl fun _ => rfl : EntriesOk s.takeId).handlerGoto
        ((congrArg WatchCall.registered hpc).symm)
  | tookId id =>
      cases hstep
      exact h.tookId hpc
  | erasing id =>
      cases hstep
      exact h.erasing hpc
  | returned => cases hstep

theorem publisherStep (h : EntriesOk s) (hstep : s.publisherStep p outcome pc' = some t) :
    EntriesOk t := by
  obtain ⟨mutex, subscribers, publishers, rfl, hsame | ⟨id, active, writeMutex, hmodified⟩⟩ :=
    publisherStep_frame hstep
  · exact h.congr hsame fun _ => rfl
  · exact (h.modify active writeMutex).congr hmodified fun _ => rfl

end EntriesOk

/-! ## Walks -/

/-- Whoever walks the map finds there what it saw and did. -/
structure WalksOk (s : StreamMachine) : Prop where
  position : ∀ p id, (s.publishers p).position = some id → (s.lookup id).isSome
  locks : ∀ p id, (s.publishers p).locks = some id →
    ∃ subscriber, s.lookup id = some subscriber ∧ subscriber.writeMutex = some p
  writing : ∀ p id writer, s.publishers p = .writing id writer →
    ∃ subscriber, s.lookup id = some subscriber ∧ subscriber.writer = writer

theorem init_walksOk : WalksOk .init where
  position _ _ hposition := by cases hposition
  locks _ _ hlocks := by cases hlocks
  writing _ _ _ hwriting := by cases hwriting

namespace WalksOk

/-- The invariant is about the map and where the publishers stand. -/
theorem congr (h : WalksOk s) (hsubscribers : t.subscribers = s.subscribers)
    (hpublishers : t.publishers = s.publishers) : WalksOk t := by
  have hlookup : t.lookup = s.lookup := by
    funext id
    rw [StreamMachine.lookup, StreamMachine.lookup, hsubscribers]
  constructor
  · rw [hlookup, hpublishers]
    exact h.position
  · rw [hlookup, hpublishers]
    exact h.locks
  · rw [hlookup, hpublishers]
    exact h.writing

/-- Nobody walks the map. -/
theorem of_not_shares (h : ∀ p, (s.publishers p).shares = false) : WalksOk s where
  position p id hposition := by
    have hnot := h p
    cases hpc : s.publishers p <;> rw [hpc] at hnot hposition <;> cases hnot <;> cases hposition
  locks p id hlocks := by
    have hnot := h p
    cases hpc : s.publishers p <;> rw [hpc] at hnot hlocks <;> cases hnot <;> cases hlocks
  writing p id writer hwriting := by
    have hnot := h p
    rw [hwriting] at hnot
    cases hnot

/-- Handlers change the map only while nobody walks it. -/
theorem handlerStep (h : WalksOk s) (hlocks : LocksOk s) (hpc : s.handlers i = pc)
    (hstep : s.handlerStep i pc = some t) : WalksOk t := by
  cases pc with
  | outside | waiting id | locked =>
      cases hstep
      exact h.congr rfl rfl
  | subscribing | unsubscribing id | inserted id | erased =>
      obtain ⟨u, hcall, rfl⟩ := Option.map_eq_some_iff.mp hstep
      obtain ⟨mutex, _, rfl⟩ := mutexCall_cases hcall
      exact h.congr rfl rfl
  | tookId id | erasing id =>
      cases hstep
      exact of_not_shares fun p => hlocks.not_shares (by rw [hpc]; rfl)
  | returned => cases hstep

/-- A publisher moves to where it finds the entry that it goes to. -/
theorem publisherGoto (h : WalksOk s)
    (hposition : ∀ id, pc'.position = some id → (s.lookup id).isSome)
    (hlocks : ∀ id, pc'.locks = some id →
      ∃ subscriber, s.lookup id = some subscriber ∧ subscriber.writeMutex = some p)
    (hwriting : ∀ id writer, pc' = .writing id writer →
      ∃ subscriber, s.lookup id = some subscriber ∧ subscriber.writer = writer) :
    WalksOk (s.publisherGoto p pc') where
  position := (Function.forall_update_iff s.publishers fun _ pc =>
    ∀ id, pc.position = some id → (s.lookup id).isSome).mpr ⟨hposition, fun q _ => h.position q⟩
  locks := (Function.forall_update_iff s.publishers fun q pc => ∀ id, pc.locks = some id →
    ∃ subscriber, s.lookup id = some subscriber ∧ subscriber.writeMutex = some q).mpr
      ⟨hlocks, fun q _ => h.locks q⟩
  writing := (Function.forall_update_iff s.publishers fun _ pc => ∀ id writer,
    pc = .writing id writer → ∃ subscriber, s.lookup id = some subscriber ∧
      subscriber.writer = writer).mpr ⟨hwriting, fun q _ => h.writing q⟩

/-- A publisher that has locked no entry only has to find the one at which it stands. -/
theorem publisherGoto_unlocked (h : WalksOk s) (hunlocked : pc'.locks = none)
    (hposition : ∀ id, pc'.position = some id → (s.lookup id).isSome) :
    WalksOk (s.publisherGoto p pc') := by
  refine h.publisherGoto hposition ?_ ?_
  · intro id hlocks
    rw [hunlocked] at hlocks
    cases hlocks
  · rintro id writer rfl
    cases hunlocked

/-- The publisher that may lock the entry, or has locked it, changes the flags of the entry. -/
theorem modify (h : WalksOk s) (hlookup : s.lookup id = some subscriber)
    (hmine : ∀ q, (s.publishers q).locks = some id → writeMutex = some q) (active : Bool) :
    WalksOk (s.modify id active writeMutex) where
  position q other hposition := by
    rw [lookup_modify, Option.isSome_map]
    exact h.position q other hposition
  locks q other hlocks := by
    rcases eq_or_ne other id with rfl | hne
    · exact ⟨_, lookup_modify_self hlookup _ _, hmine q hlocks⟩
    · rw [lookup_modify_of_ne hne]
      exact h.locks q other hlocks
  writing q other writer hwriting := by
    obtain ⟨old, hold, rfl⟩ := h.writing q other writer hwriting
    rcases eq_or_ne other id with rfl | hne
    · refine ⟨_, lookup_modify_self hlookup _ _, ?_⟩
      rw [Option.some.inj (hlookup.symm.trans hold)]
    · exact ⟨old, (lookup_modify_of_ne hne _ _).trans hold, rfl⟩

theorem writeMutex_of_lookup (h : WalksOk s) (hlookup : s.lookup id = some subscriber)
    (hlocks : (s.publishers p).locks = some id) : subscriber.writeMutex = some p := by
  obtain ⟨old, hold, hmutex⟩ := h.locks p id hlocks
  rwa [Option.some.inj (hlookup.symm.trans hold)]

theorem publisherStep (h : WalksOk s) (hpc : s.publishers p = pc')
    (hstep : s.publisherStep p outcome pc' = some t) : WalksOk t := by
  cases pc' with
  | outside =>
      cases hstep
      exact h.publisherGoto_unlocked rfl (by simp [PublishCall.position])
  | starting =>
      obtain ⟨u, hcall, rfl⟩ := Option.map_eq_some_iff.mp hstep
      obtain ⟨mutex, _, rfl⟩ := mutexCall_cases hcall
      have hmutex : WalksOk { s with mutex } := h.congr rfl rfl
      exact hmutex.publisherGoto_unlocked rfl fun _ => isSome_lookup_first
  | iterating entry =>
      cases entry with
      | none =>
          obtain ⟨u, hcall, rfl⟩ := Option.map_eq_some_iff.mp hstep
          obtain ⟨mutex, _, rfl⟩ := mutexCall_cases hcall
          have hmutex : WalksOk { s with mutex } := h.congr rfl rfl
          exact hmutex.publisherGoto_unlocked rfl (by simp [PublishCall.position])
      | some id =>
          obtain ⟨subscriber, hlookup, rfl⟩ := Option.map_eq_some_iff.mp hstep
          split
          · refine h.publisherGoto_unlocked rfl ?_
            rintro _ ⟨⟩
            rw [hlookup]
            rfl
          · exact h.publisherGoto_unlocked rfl fun _ => isSome_lookup_next
  | lockingWrite id =>
      obtain ⟨subscriber, hlookup, hstep⟩ := Option.bind_eq_some_iff.mp hstep
      obtain ⟨hfree, hstep⟩ := Option.ite_none_left_eq_some.mp hstep
      cases hstep
      have hnobody : ∀ q, (s.publishers q).locks = some id → some p = some q := by
        intro q hlocks
        rw [h.writeMutex_of_lookup hlookup hlocks] at hfree
        exact absurd (Option.some_ne_none q) hfree
      refine (h.modify hlookup hnobody subscriber.active).publisherGoto ?_ ?_ (by simp)
      · rintro _ ⟨⟩
        rw [lookup_modify_self hlookup]
        rfl
      · rintro _ ⟨⟩
        exact ⟨_, lookup_modify_self hlookup _ _, rfl⟩
  | calling id =>
      obtain ⟨subscriber, hlookup, rfl⟩ := Option.map_eq_some_iff.mp hstep
      have hmine := h.locks p id (by rw [hpc]; rfl)
      refine h.publisherGoto ?_ ?_ ?_
      · rintro _ ⟨⟩
        rw [hlookup]
        rfl
      · rintro _ ⟨⟩
        exact hmine
      · rintro _ _ ⟨⟩
        exact ⟨subscriber, hlookup, rfl⟩
  | writing id writer =>
      obtain ⟨subscriber, hlookup, rfl⟩ := Option.map_eq_some_iff.mp hstep
      have howner : ∀ q, (s.publishers q).locks = some id → subscriber.writeMutex = some q :=
        fun q => h.writeMutex_of_lookup hlookup
      refine (h.modify hlookup howner _).publisherGoto ?_ ?_ (by simp)
      · rintro _ ⟨⟩
        rw [lookup_modify_self hlookup]
        rfl
      · rintro _ ⟨⟩
        exact ⟨_, lookup_modify_self hlookup _ _, howner p (by rw [hpc]; rfl)⟩
  | wrote id =>
      obtain ⟨subscriber, hlookup, rfl⟩ := Option.map_eq_some_iff.mp hstep
      have hleft : WalksOk (s.publisherGoto p (.iterating (s.next id))) :=
        h.publisherGoto_unlocked rfl fun _ => isSome_lookup_next
      refine hleft.modify hlookup (fun q hlocks => ?_) subscriber.active
      -- the mutex was the publisher's, and so nobody else's
      rw [publishers_publisherGoto] at hlocks
      rcases eq_or_ne q p with rfl | hne
      · rw [Function.update_self] at hlocks
        cases hlocks
      · rw [Function.update_of_ne hne] at hlocks
        have hother := h.writeMutex_of_lookup hlookup hlocks
        have hself := h.writeMutex_of_lookup hlookup (by rw [hpc]; rfl : _ = some id)
        exact absurd (Option.some.inj (hother.symm.trans hself)) hne

end WalksOk

/-! ## Ids -/

/-- The ids that were handed out, as long as they have not been used up. -/
structure IdsOk (s : StreamMachine) : Prop where
  nextId : s.nextId = (s.subscriptions + 1) % 2 ^ 64
  le : s.subscriptions < 2 ^ 64 → ∀ i id, (s.handlers i).subscription = some id →
    id ≤ s.subscriptions
  distinct : s.subscriptions < 2 ^ 64 → ∀ i j id, (s.handlers i).subscription = some id →
    (s.handlers j).subscription = some id → i = j

theorem init_idsOk : IdsOk .init where
  nextId := rfl
  le _ _ _ hsubscription := by cases hsubscription
  distinct _ _ _ _ hsubscription := by cases hsubscription

namespace IdsOk

theorem congr (h : IdsOk s) (hnext : t.nextId = s.nextId)
    (hcount : t.subscriptions = s.subscriptions)
    (hhandlers : ∀ i id, (t.handlers i).subscription = some id →
      (s.handlers i).subscription = some id) : IdsOk t where
  nextId := by rw [hnext, hcount]; exact h.nextId
  le hlt i id hsubscription := by
    rw [hcount] at hlt ⊢
    exact h.le hlt i id (hhandlers i id hsubscription)
  distinct hlt i j id hi hj := by
    rw [hcount] at hlt
    exact h.distinct hlt i j id (hhandlers i id hi) (hhandlers j id hj)

/-- A handler goes to where it has the subscription that it had, or none. -/
theorem handlerGoto (h : IdsOk s) (hself : ∀ id, pc.subscription = some id →
    (s.handlers i).subscription = some id) : IdsOk (s.handlerGoto i pc) := by
  refine h.congr rfl rfl ?_
  exact (Function.forall_update_iff s.handlers fun j pc => ∀ id, pc.subscription = some id →
    (s.handlers j).subscription = some id).mpr ⟨hself, fun _ _ _ hsame => hsame⟩

/-- The id that a handler takes is larger than all others. -/
theorem locked (h : IdsOk s) : IdsOk (s.takeId.handlerGoto i (.tookId s.nextId)) := by
  have hothers : ∀ {j id}, j ≠ i →
      ((s.takeId.handlerGoto i (.tookId s.nextId)).handlers j).subscription = some id →
      (s.handlers j).subscription = some id := by
    intro j id hne hsubscription
    rw [handlers_handlerGoto, Function.update_of_ne hne] at hsubscription
    exact hsubscription
  have hmine : ∀ {id},
      ((s.takeId.handlerGoto i (.tookId s.nextId)).handlers i).subscription = some id →
      id = s.nextId := by
    intro id hsubscription
    rw [handlers_handlerGoto, Function.update_self] at hsubscription
    exact (Option.some.inj hsubscription).symm
  have hnew : s.subscriptions + 1 < 2 ^ 64 → s.nextId = s.subscriptions + 1 := fun hlt =>
    h.nextId.trans (Nat.mod_eq_of_lt hlt)
  constructor
  · change (s.nextId + 1) % 2 ^ 64 = (s.subscriptions + 1 + 1) % 2 ^ 64
    rw [h.nextId, Nat.mod_add_mod]
  · intro hlt j id hsubscription
    change s.subscriptions + 1 < 2 ^ 64 at hlt
    rcases eq_or_ne j i with rfl | hne
    · rw [hmine hsubscription, hnew hlt]
      exact le_rfl
    · exact (h.le (by omega) j id (hothers hne hsubscription)).trans (Nat.le_succ _)
  · intro hlt j k id hj hk
    change s.subscriptions + 1 < 2 ^ 64 at hlt
    have hlarge : ∀ l, l ≠ i →
        ((s.takeId.handlerGoto i (.tookId s.nextId)).handlers l).subscription = some id →
        id ≠ s.nextId := by
      intro l hne hl
      have hle := h.le (by omega) l id (hothers hne hl)
      rw [hnew hlt]
      omega
    by_cases hji : j = i
    · subst hji
      by_contra hkj
      exact hlarge k (Ne.symm hkj) hk (hmine hj)
    · by_cases hki : k = i
      · subst hki
        exact absurd (hmine hk) (hlarge j hji hj)
      · exact h.distinct (by omega) j k id (hothers hji hj) (hothers hki hk)

theorem handlerStep (h : IdsOk s) (hpc : s.handlers i = pc)
    (hstep : s.handlerStep i pc = some t) : IdsOk t := by
  cases pc with
  | outside | waiting id =>
      cases hstep
      exact h.handlerGoto fun _ hsubscription => by rw [hpc]; exact hsubscription
  | subscribing | unsubscribing id | inserted id | erased =>
      obtain ⟨u, hcall, rfl⟩ := Option.map_eq_some_iff.mp hstep
      obtain ⟨mutex, _, rfl⟩ := mutexCall_cases hcall
      have hmutex : IdsOk { s with mutex } := h.congr rfl rfl fun _ _ hsame => hsame
      exact hmutex.handlerGoto fun _ hsubscription => by
        rw [hpc]
        exact hsubscription
  | locked =>
      cases hstep
      exact h.locked
  | tookId id =>
      cases hstep
      have hassign : IdsOk (s.assign ⟨id, i, true, none⟩) := h.congr rfl rfl fun _ _ hsame => hsame
      exact hassign.handlerGoto fun _ hsubscription => by
        rw [show (s.assign ⟨id, i, true, none⟩).handlers i = _ from hpc]
        exact hsubscription
  | erasing id =>
      cases hstep
      have herase : IdsOk (s.erase id) := h.congr rfl rfl fun _ _ hsame => hsame
      exact herase.handlerGoto fun _ hsubscription => by cases hsubscription
  | returned => cases hstep

/-- Publishers hand out no ids. -/
theorem publisherStep (h : IdsOk s) (hstep : s.publisherStep p outcome pc' = some t) :
    IdsOk t := by
  obtain ⟨mutex, subscribers, publishers, rfl, -⟩ := publisherStep_frame hstep
  exact h.congr rfl rfl fun _ _ hsame => hsame

end IdsOk

/-! ## The law -/

structure StreamOk (s : StreamMachine) : Prop where
  locks : LocksOk s
  entries : EntriesOk s
  walks : WalksOk s
  ids : IdsOk s

theorem init_streamOk : StreamOk .init := ⟨init_locksOk, init_entriesOk, init_walksOk, init_idsOk⟩

/-- **Step lemma.** -/
theorem StreamOk.step (h : StreamOk s) {action : StreamAction}
    (hstep : streamStep s action = some t) : StreamOk t := by
  cases action with
  | handler i =>
      exact ⟨h.locks.handlerStep rfl hstep, h.entries.handlerStep rfl hstep,
        h.walks.handlerStep h.locks rfl hstep, h.ids.handlerStep rfl hstep⟩
  | publisher p outcome =>
      exact ⟨h.locks.publisherStep rfl hstep, h.entries.publisherStep hstep,
        h.walks.publisherStep rfl hstep, h.ids.publisherStep hstep⟩

/-- Both kinds. -/
def StreamsOk (s : StreamKind → StreamMachine) : Prop := ∀ kind, StreamOk (s kind)

theorem StreamsOk.step {s t : StreamKind → StreamMachine} (h : StreamsOk s)
    {action : StreamKind × StreamAction} (hstep : streamsStep s action = some t) :
    StreamsOk t := by
  obtain ⟨stream, hstream, rfl⟩ := Option.map_eq_some_iff.mp hstep
  exact (Function.forall_update_iff s fun _ stream => StreamOk stream).mpr
    ⟨(h action.1).step hstream, fun kind _ => h kind⟩

theorem isLive_of_registered (hregistered : pc.registered = some id) (hholds : ¬ pc.holds) :
    pc.isLive := by
  cases pc with
  | waiting id | unsubscribing id => rfl
  | inserted id | erasing id => exact absurd rfl hholds
  | outside | subscribing | locked | tookId id | erased | returned => cases hregistered

namespace StreamOk

/-- The writer that a publisher writes to is in the map, and the publisher has locked it. -/
theorem writes (h : StreamOk s) {writer : ℕ} (hwrites : (s.publishers p).writes = some writer) :
    ∃ id subscriber, s.lookup id = some subscriber ∧
      (s.handlers writer).registered = some id ∧ subscriber.writeMutex = some p := by
  cases hpc : s.publishers p with
  | writing id other =>
      rw [hpc] at hwrites
      obtain rfl := Option.some.inj hwrites
      obtain ⟨subscriber, hlookup, rfl⟩ := h.walks.writing p id other hpc
      refine ⟨id, subscriber, hlookup, ?_, ?_⟩
      · rw [h.entries subscriber (mem_of_lookup hlookup), id_of_lookup hlookup]
      · exact h.walks.writeMutex_of_lookup hlookup (by rw [hpc]; rfl)
  | outside | starting | iterating | lockingWrite | calling | wrote =>
      rw [hpc] at hwrites
      cases hwrites

/-- A writer is written to only while its handler waits. -/
theorem isLive (h : StreamOk s) {writer : ℕ} (hwrites : (s.publishers p).writes = some writer) :
    (s.handlers writer).isLive := by
  obtain ⟨id, _, _, hregistered, _⟩ := h.writes hwrites
  refine isLive_of_registered hregistered fun hholds => ?_
  have hnot : (s.publishers p).shares = false := h.locks.not_shares hholds
  cases hpc : s.publishers p <;> rw [hpc] at hnot hwrites <;> cases hnot <;> cases hwrites

theorem eq_of_writes (h : StreamOk s) {q writer : ℕ}
    (hp : (s.publishers p).writes = some writer) (hq : (s.publishers q).writes = some writer) :
    p = q := by
  obtain ⟨id, subscriber, hlookup, hregistered, hmutex⟩ := h.writes hp
  obtain ⟨id', subscriber', hlookup', hregistered', hmutex'⟩ := h.writes hq
  obtain rfl := Option.some.inj (hregistered.symm.trans hregistered')
  obtain rfl := Option.some.inj (hlookup.symm.trans hlookup')
  exact Option.some.inj (hmutex.symm.trans hmutex')

end StreamOk

/-- **The life of a stream.**  In every interleaving, whoever writes to a stream does so after the
`Subscribe` and before the end of the `Unsubscribe` of the call that it belongs to, nobody else is
writing to it, and the subscriptions of a kind have different ids as long as there have been fewer
than 2^64 of them. -/
theorem stream_lifetime (s : StreamKind → StreamMachine)
    (run : Reaches streamsStep (fun _ => .init) s) (kind : StreamKind) :
    (∀ p writer, ((s kind).publishers p).writes = some writer →
      ((s kind).handlers writer).isLive) ∧
    (∀ p q writer, ((s kind).publishers p).writes = some writer →
      ((s kind).publishers q).writes = some writer → p = q) ∧
    ((s kind).subscriptions < 2 ^ 64 → ∀ i j id,
      ((s kind).handlers i).subscription = some id →
      ((s kind).handlers j).subscription = some id → i = j) := by
  have hinv : StreamsOk s :=
    run.invariant (fun _ => init_streamOk) fun _ _ _ h _ hstep => h.step hstep
  exact ⟨fun _ _ => (hinv kind).isLive, fun _ _ _ => (hinv kind).eq_of_writes,
    (hinv kind).ids.distinct⟩

end

/-- A client watches alerts, and an event is being written to it. -/
theorem alert_written : ∃ s, Reaches streamsStep (fun _ => .init) s ∧
    ((s .alert).publishers 0).writes = some 0 ∧ ((s .alert).handlers 0).isLive := by
  obtain ⟨s, hsteps, hwrites⟩ : ∃ s, steps streamsStep (fun _ => .init)
      (List.replicate 5 (.alert, .handler 0) ++
        List.replicate 5 (.alert, .publisher 0 .written)) = some s ∧
      ((s .alert).publishers 0).writes = some 0 := ⟨_, rfl, rfl⟩
  have run := reaches_of_steps hsteps
  exact ⟨s, run, hwrites, (stream_lifetime s run .alert).1 0 0 hwrites⟩

end Kawin.Kasvc
