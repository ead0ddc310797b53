import Kawin.Driver.PoisonRecovery

/-!
# Late producers

A producer whose slot was given up keeps its raw header pointer and goes on storing through
it.  Its stores stay inside the region it claimed (`Interleaved.stores_within`), so they are
harmless until the ring has come round to that region; from then on they hit the slots of
later calls.  And a producer that commits after its slot was given up still counts its
event, which is then both poisoned and enqueued.

`CountedMachine` adds to the ring machine which slots the two counters have counted.
`InTime` is the condition on a step under which late producers are harmless: the step is
orderly, and a slot is not both committed and given up.
-/

namespace Kawin.Driver

open ByteMemory CircularBuffer Transition

/-! ## What the counters have counted -/

/-- The ring machine with the slots, by the number of their claim, behind its counters. -/
structure CountedMachine where
  ring : RingMachine
  /-- the region each call has committed last -/
  committing : ℕ → Option ℕ
  /-- the slot the consumer has given up last -/
  givenUp : Option ℕ
  /-- the slots counted in `m_enqueued` -/
  enqueued : List ℕ
  /-- the slots counted in `m_poisoned` -/
  poisoned : List ℕ

namespace CountedMachine

def init (outside : Memory) (freq : UINT64) : CountedMachine :=
  ⟨RingMachine.init outside freq, fun _ => none, none, [], []⟩

variable (s : CountedMachine)

def nextCommitting : RingAction → ℕ → Option ℕ
  | .producer i =>
      match s.ring.producers i with
      | .commit f => Function.update s.committing i (some f.index)
      | _ => s.committing
  | _ => s.committing

def nextEnqueued : RingAction → List ℕ
  | .producer i =>
      match s.ring.producers i with
      | .countEnqueued => (s.committing i).toList ++ s.enqueued
      | _ => s.enqueued
  | _ => s.enqueued

def nextGivenUp : RingAction → Option ℕ
  | .consumer =>
      match s.ring.consumer with
      | .advancePoisoned _ => some s.ring.consumed
      | _ => s.givenUp
  | _ => s.givenUp

def nextPoisoned : RingAction → List ℕ
  | .consumer =>
      match s.ring.consumer with
      | .countPoisoned => s.givenUp.toList ++ s.poisoned
      | _ => s.poisoned
  | _ => s.poisoned

end CountedMachine

def countedStep (s : CountedMachine) (action : RingAction) : Option CountedMachine :=
  (ringStep s.ring action).map fun ring =>
    ⟨ring, s.nextCommitting action, s.nextGivenUp action, s.nextEnqueued action,
      s.nextPoisoned action⟩

/-- No step of a producer changes a byte of a region claimed after its own or turns the header
of one into `Committed`, and no slot is counted as enqueued and as poisoned. -/
structure LateHarmless (s : CountedMachine) (action : RingAction) (s' : CountedMachine) : Prop where
  bytes : ∀ i f, action = .producer i → (s.ring.producers i).fill? = some f →
    ∀ j q, f.index < j → s.ring.claims[j]? = some q →
      ∀ a, q.hdr ≤ a → a < q.hdr + q.len → s'.ring.disp.ring a = s.ring.disp.ring a
  headers : ∀ i f, action = .producer i → (s.ring.producers i).fill? = some f →
    ∀ j q, f.index < j → s.ring.claims[j]? = some q →
      Field.state.get s'.ring.disp.ring q.hdr = slotCommitted →
      Field.state.get s.ring.disp.ring q.hdr = slotCommitted
  once : ∀ k, ¬ (k ∈ s'.enqueued ∧ k ∈ s'.poisoned)

/-! ## The condition -/

/-- A producer stores `Committed` only to a region that the consumer has neither passed nor
begun to give up. -/
def Producer.CommitsInTime (s : RingMachine) : Producer → Prop
  | .commit f => s.consumed ≤ f.index ∧ (f.index = s.consumed → ¬ s.consumer.poisoning)
  | _ => True

/-- The consumer does not begin to give up a slot that was committed since it read `state`. -/
def Consumer.GivesUpInTime (s : RingMachine) : Consumer → Prop
  | .queryCounter claimedTick => s.disp.expired claimedTick s.now = true → s.front ≠ .committed
  | _ => True

/-- An orderly step that does not let a slot be both committed and given up. -/
def InTime (s : CountedMachine) (action : RingAction) : Prop :=
  Orderly s.ring action ∧
    match action with
    | .producer i => (s.ring.producers i).CommitsInTime s.ring
    | .consumer => s.ring.consumer.GivesUpInTime s.ring
    | _ => True

instance (s : RingMachine) : DecidablePred (Producer.CommitsInTime s)
  | .commit f => (inferInstance : Decidable
      (s.consumed ≤ f.index ∧ (f.index = s.consumed → ¬s.consumer.poisoning)))
  | .idle | .checkSize _ | .countDropped | .readWriteHead _ | .readReadHead _ _ | .exchange _ _
  | .mark _ | .queryCounter _ | .store _ _ | .nextSeq _ | .storeSeq _ _ | .copyPayload _
  | .countEnqueued | .returned => .isTrue trivial

instance (s : RingMachine) : DecidablePred (Consumer.GivesUpInTime s)
  | .queryCounter claimedTick => (inferInstance : Decidable
      (s.disp.expired claimedTick s.now = true → s.front ≠ .committed))
  | .returned _ | .readPending | .readState | .readPayload | .readFlags _ | .freePad _
  | .advancePad _ | .copyPayload _ | .freeSlot _ | .advanceSlot _ | .readTick | .readStride
  | .zeroSlot _ | .freePoisoned _ | .advancePoisoned _ | .countPoisoned
  | .advanceFree => .isTrue trivial

instance (s : CountedMachine) : DecidablePred (InTime s)
  | .producer i => (inferInstance : Decidable
      (Orderly s.ring (.producer i) ∧ (s.ring.producers i).CommitsInTime s.ring))
  | .consumer => (inferInstance : Decidable
      (Orderly s.ring .consumer ∧ s.ring.consumer.GivesUpInTime s.ring))
  | .tick | .produce _ _ | .consume => (inferInstance : Decidable (True ∧ True))

/-- A run of the machine with its counted slots. -/
abbrev CountedRun (outside : Memory) (freq : UINT64) : CountedMachine → Prop :=
  Reaches countedStep (CountedMachine.init outside freq)

/-- A run whose steps are in time. -/
abbrev InTimeRun (outside : Memory) (freq : UINT64) : CountedMachine → Prop :=
  Run countedStep InTime (CountedMachine.init outside freq)

/-! ## Where a producer stores -/

section

variable {s s' : RingMachine} {i : ℕ} {f : Fill} {r : Region}

/-- A store to a field of the header stays inside the region. -/
theorem Fill.Of.set_outside (hof : f.Of r) (m : Memory) (field : Field) (v : ℕ) {a : ℕ}
    (ha : a < r.hdr ∨ r.hdr + r.len ≤ a) : field.set m f.hdr v a = m a := by
  have hwithin := field.offset_add_width_le
  have hheader := hof.shaped.header
  rw [hof.hdr]
  exact copy_of_not_mem _ _ (by omega)

/-- A filling call changes the ring only inside its region, which the ring has not come round
to. -/
theorem Interleaved.stores_within (h : Interleaved s) (hf : (s.producers i).fill? = some f)
    (hr : s.claims[f.index]? = some r) (horderly : (s.producers i).Orderly s)
    (hstep : producerStep s i (s.producers i) = some s') :
    s'.disp.ring = s.disp.ring ∨ NotLapped s f.index ∧
      ∀ a, a < r.hdr ∨ r.hdr + r.len ≤ a → s'.disp.ring a = s.disp.ring a := by
  obtain ⟨r', hr', hof, _, hproper⟩ := h.owner i f hf
  obtain rfl : r' = r := Option.some.inj (hr'.symm.trans hr)
  cases hpc : s.producers i with
  | mark g =>
      rw [hpc] at hf horderly hstep
      cases hf
      cases hstep
      exact Or.inr ⟨horderly, fun a ha => hof.set_outside _ _ _ ha⟩
  | store g rest =>
      rw [hpc] at hf horderly hstep
      cases hf
      cases rest with
      | nil =>
          cases hstep
          exact Or.inl rfl
      | cons st rest =>
          cases hstep
          exact Or.inr ⟨horderly, fun a ha => hof.set_outside _ _ _ ha⟩
  | storeSeq g seq | commit g =>
      rw [hpc] at hf horderly hstep
      cases hf
      cases hstep
      exact Or.inr ⟨horderly, fun a ha => hof.set_outside _ _ _ ha⟩
  | copyPayload g =>
      rw [hpc] at hf horderly hstep hproper
      cases hf
      cases hstep
      have hpayload := hof.payload_le_of_slot hproper
      refine Or.inr ⟨horderly, fun a ha => copy_of_not_mem _ _ ?_⟩
      rw [hof.hdr, payloadOf_eq]
      omega
  | queryCounter g | nextSeq g =>
      rw [hpc] at hstep
      cases hstep
      exact Or.inl rfl
  | _ =>
      rw [hpc] at hf
      cases hf

/-- A claimed region and every later one are disjoint until the ring has come round. -/
theorem Claimed.later_disjoint {base k j : ℕ} {q : Region} (h : Claimed base s)
    (hr : s.claims[k]? = some r) (hlap : NotLapped s k) (hkj : k < j)
    (hq : s.claims[j]? = some q) : Disjoint r.hdr r.len q.hdr q.len := by
  obtain ⟨hklt, rfl⟩ := List.getElem?_eq_some_iff.mp hr
  obtain ⟨hjlt, rfl⟩ := List.getElem?_eq_some_iff.mp hq
  have hbehind := List.pairwise_iff_getElem.mp h.tiles.pairwise k j hklt hjlt hkj
  have hbounds := h.tiles.bounds _ (List.getElem_mem hjlt)
  have hlapped := hlap _ hr
  exact disjoint_of_le hbehind (by omega)

/-- The bytes of a later region are safe from a producer. -/
theorem Interleaved.later_bytes {base j : ℕ} {q : Region} (h : Interleaved s)
    (hclaimed : Claimed base s) (hf : (s.producers i).fill? = some f)
    (horderly : (s.producers i).Orderly s)
    (hstep : producerStep s i (s.producers i) = some s') (hj : f.index < j)
    (hq : s.claims[j]? = some q) {a : ℕ} (hlow : q.hdr ≤ a) (hhigh : a < q.hdr + q.len) :
    s'.disp.ring a = s.disp.ring a := by
  obtain ⟨r, hr, _⟩ := h.owner i f hf
  rcases h.stores_within hf hr horderly hstep with hsame | ⟨hlap, houtside⟩
  · rw [hsame]
  -- the store stays in a region that no later one overlaps yet
  · have hdisj := hclaimed.later_disjoint hr hlap hj hq
    unfold ByteMemory.Disjoint at hdisj
    exact houtside a (by omega)

/-! ## What a step does to the progress of the regions -/

/-- A producer's step sets the progress of the region it fills, or of a new one. -/
theorem producerStep_progress {pc : Producer} (hstep : producerStep s i pc = some s') :
    s'.progress = s.progress ∨
      (∃ f v, pc.fill? = some f ∧ s'.progress = Function.update s.progress f.index v ∧
        (v = .committed → pc = .commit f)) ∨
      s'.progress = Function.update s.progress s.claims.length .claimed := by
  rcases producerStep_cases hstep with
    ⟨_, _, rfl, _⟩ | ⟨f, _, pc', hf, rfl, hcommit⟩ | ⟨_, _, _, _, rfl, _⟩
  · exact Or.inl rfl
  · exact Or.inr (Or.inl ⟨f, pc'.progress, hf, rfl, hcommit⟩)
  · exact Or.inr (Or.inr rfl)

/-- No step of another kind than a producer's touches the progress. -/
theorem ringStep_progress {action : RingAction} (hstep : ringStep s action = some s') :
    s'.progress = s.progress ∨ ∃ i, action = .producer i := by
  cases action with
  | tick => cases hstep; exact Or.inl rfl
  | produce i event =>
      obtain ⟨_, rfl⟩ := ringStep_produce hstep
      exact Or.inl rfl
  | producer i => exact Or.inr ⟨i, rfl⟩
  | consume =>
      obtain ⟨_, rfl⟩ := ringStep_consume hstep
      exact Or.inl rfl
  | consumer => exact Or.inl (consumerStep_sameClaims hstep).progress

/-- A committed region stays committed. -/
theorem Interleaved.committed_kept (h : Interleaved s) {action : RingAction}
    (hstep : ringStep s action = some s') {k : ℕ} (hk : k < s.claims.length)
    (hcommitted : s.progress k = .committed) : s'.progress k = .committed := by
  rcases ringStep_progress hstep with hsame | ⟨i, rfl⟩
  · rw [hsame, hcommitted]
  · rcases producerStep_progress hstep with hsame | ⟨f, v, hf, hupdate, _⟩ | hnew
    · rw [hsame, hcommitted]
    · obtain ⟨r, _, _, hprogress, _⟩ := h.owner i f hf
      -- the region a call fills is short of `Committed`
      have hne : k ≠ f.index := by
        rintro rfl
        rw [hprogress] at hcommitted
        exact progress_ne_of_fill hf hcommitted
      rw [hupdate, Function.update_of_ne hne, hcommitted]
    · rw [hnew, Function.update_of_ne hk.ne, hcommitted]

/-- A region stays uncommitted until its producer stores `Committed`. -/
theorem uncommitted_kept {action : RingAction} (hstep : ringStep s action = some s') {k : ℕ}
    (hnot : s.progress k ≠ .committed)
    (hcommit : ∀ i f, action = .producer i → s.producers i = .commit f → f.index ≠ k) :
    s'.progress k ≠ .committed := by
  rcases ringStep_progress hstep with hsame | ⟨i, rfl⟩
  · rwa [hsame]
  · rcases producerStep_progress hstep with hsame | ⟨f, v, hf, hupdate, hv⟩ | hnew
    · rwa [hsame]
    · by_cases hk : k = f.index
      · rw [hupdate, hk, Function.update_self]
        exact fun hcommitted => hcommit i f rfl (hv hcommitted) hk.symm
      · rwa [hupdate, Function.update_of_ne hk]
    · by_cases hk : k = s.claims.length
      · rw [hnew, hk, Function.update_self]
        decide
      · rwa [hnew, Function.update_of_ne hk]

theorem ringStep_mono {action : RingAction} (hstep : ringStep s action = some s') :
    s.consumed ≤ s'.consumed ∧ s.claims.length ≤ s'.claims.length := by
  cases action with
  | tick => cases hstep; exact ⟨le_rfl, le_rfl⟩
  | produce i event =>
      obtain ⟨_, rfl⟩ := ringStep_produce hstep
      exact ⟨le_rfl, le_rfl⟩
  | producer i =>
      obtain ⟨_, hconsumed, hclaims⟩ := producerStep_consumer hstep
      exact ⟨hconsumed.ge, hclaims⟩
  | consume =>
      obtain ⟨_, rfl⟩ := ringStep_consume hstep
      exact ⟨le_rfl, le_rfl⟩
  | consumer =>
      have hsame := consumerStep_sameClaims hstep
      exact ⟨hsame.consumed_le, by rw [hsame.claims]⟩

/-- No step but its own moves a call, apart from its beginning. -/
theorem ringStep_producers {action : RingAction} (hstep : ringStep s action = some s') {j : ℕ}
    (hne : action ≠ .producer j) :
    s'.producers j = s.producers j ∨ ∃ event, s'.producers j = .checkSize event := by
  cases action with
  | tick =>
      cases hstep
      exact Or.inl rfl
  | produce i event =>
      obtain ⟨_, rfl⟩ := ringStep_produce hstep
      by_cases hj : j = i
      · subst hj
        exact Or.inr ⟨event, RingMachine.goto_self⟩
      · exact Or.inl (RingMachine.goto_of_ne hj)
  | producer i =>
      have hj : j ≠ i := by
        rintro rfl
        exact hne rfl
      exact Or.inl (producers_of_ne hstep hj)
  | consume =>
      obtain ⟨_, rfl⟩ := ringStep_consume hstep
      exact Or.inl rfl
  | consumer => exact Or.inl (congrFun (consumerStep_sameClaims hstep).producers j)

/-- A call is about to count its event only after it stored `Committed`. -/
theorem producerStep_countEnqueued {pc : Producer} (hstep : producerStep s i pc = some s')
    (hcount : s'.producers i = .countEnqueued) : ∃ f, pc = .commit f := by
  rcases producerStep_cases hstep with
    ⟨pc', d, rfl, _, _, hne⟩ | ⟨f, m, pc', _, rfl, hcommit⟩ | ⟨_, _, _, pc', rfl, hne⟩
  · exact absurd (RingMachine.goto_self.symm.trans hcount) hne
  · rw [RingMachine.write_self] at hcount
    subst hcount
    exact ⟨f, hcommit rfl⟩
  · exact absurd (RingMachine.claim_self.symm.trans hcount) hne

/-- A slot is about to be counted as poisoned only after the consumer stepped over it. -/
theorem consumerStep_countPoisoned {pc : Consumer} (hstep : consumerStep s pc = some s')
    (hcount : s'.consumer = .countPoisoned) :
    (∃ n, pc = .advancePoisoned n) ∧ s'.consumed = s.consumed + 1 := by
  have hgoto : ∀ pc : Consumer, (s.consumerGoto pc).consumer = pc := fun _ => rfl
  cases pc with
  | advancePoisoned n =>
      cases hstep
      exact ⟨⟨n, rfl⟩, rfl⟩
  | returned => cases hstep
  | readPending | readState | readFlags | readTick | queryCounter =>
      cases hstep
      rw [hgoto] at hcount
      split at hcount <;> first | cases hcount | (split at hcount <;> cases hcount)
  | _ =>
      cases hstep
      cases hcount

end

/-! ## Slots that were counted -/

/-- The region is committed for good. -/
def Final (s : RingMachine) (k : ℕ) : Prop := k < s.claims.length ∧ s.progress k = .committed

/-- The consumer has passed the region uncommitted. -/
def Lost (s : RingMachine) (k : ℕ) : Prop := k < s.consumed ∧ s.progress k ≠ .committed

/-- A slot counted as enqueued is committed, one counted as poisoned was passed uncommitted. -/
structure Counted (s : CountedMachine) : Prop where
  interleaved : Interleaved s.ring
  claimed : Claimed 0 s.ring
  committing : ∀ i, s.ring.producers i = .countEnqueued →
    ∃ k, s.committing i = some k ∧ Final s.ring k
  enqueued : ∀ k ∈ s.enqueued, Final s.ring k
  givenUp : s.ring.consumer = .countPoisoned → ∃ k, s.givenUp = some k ∧ Lost s.ring k
  poisoned : ∀ k ∈ s.poisoned, Lost s.ring k
  poisoning : s.ring.consumer.poisoning → s.ring.front ≠ .committed

theorem init_counted (outside : Memory) (freq : UINT64) :
    Counted (CountedMachine.init outside freq) where
  interleaved := init_interleaved outside freq
  claimed := startAt_claimed (Nat.zero_mod 8) outside freq
  committing := fun _ h => nomatch h
  enqueued := fun _ h => absurd h List.not_mem_nil
  givenUp := fun h => nomatch h
  poisoned := fun _ h => absurd h List.not_mem_nil
  poisoning := fun h => h.elim

section

variable {s s' : CountedMachine} {ring : RingMachine} {action : RingAction}

theorem Counted.final_kept (h : Counted s) (hstep : ringStep s.ring action = some ring) {k : ℕ}
    (hk : Final s.ring k) : Final ring k :=
  ⟨hk.1.trans_le (ringStep_mono hstep).2, h.interleaved.committed_kept hstep hk.1 hk.2⟩

/-- In time, no lost region is committed after all. -/
theorem Lost.kept {k : ℕ} (hk : Lost s.ring k) (htime : InTime s action)
    (hstep : ringStep s.ring action = some ring) : Lost ring k := by
  refine ⟨hk.1.trans_le (ringStep_mono hstep).1, uncommitted_kept hstep hk.2 ?_⟩
  rintro i f rfl hpc rfl
  have hcommits := htime.2
  simp only [hpc, Producer.CommitsInTime] at hcommits
  exact absurd hk.1 (by omega)

theorem Counted.nextEnqueued (h : Counted s) : ∀ k ∈ s.nextEnqueued action, Final s.ring k := by
  intro k hk
  unfold CountedMachine.nextEnqueued at hk
  split at hk
  · rename_i i
    split at hk
    · rename_i hpc
      obtain ⟨k', hk', hfinal⟩ := h.committing i hpc
      rw [hk', Option.toList_some, List.singleton_append, List.mem_cons] at hk
      rcases hk with rfl | hk
      · exact hfinal
      · exact h.enqueued k hk
    · exact h.enqueued k hk
  · exact h.enqueued k hk

theorem Counted.nextPoisoned (h : Counted s) : ∀ k ∈ s.nextPoisoned action, Lost s.ring k := by
  intro k hk
  unfold CountedMachine.nextPoisoned at hk
  split at hk
  · split at hk
    · rename_i hpc
      obtain ⟨k', hk', hlost⟩ := h.givenUp hpc
      rw [hk', Option.toList_some, List.singleton_append, List.mem_cons] at hk
      rcases hk with rfl | hk
      · exact hlost
      · exact h.poisoned k hk
    · exact h.poisoned k hk
  · exact h.poisoned k hk

/-- No step but its own changes what a call has committed last. -/
theorem nextCommitting_of_ne {j : ℕ} (hne : action ≠ .producer j) :
    s.nextCommitting action j = s.committing j := by
  cases action with
  | producer i =>
      have hj : j ≠ i := by
        rintro rfl
        exact hne rfl
      cases hpc : s.ring.producers i with
      | commit f =>
          simp only [CountedMachine.nextCommitting, hpc]
          exact Function.update_of_ne hj ..
      | _ => simp only [CountedMachine.nextCommitting, hpc]
  | _ => rfl

theorem Counted.next_committing (h : Counted s) (hstep : ringStep s.ring action = some ring)
    (j : ℕ) (hcount : ring.producers j = .countEnqueued) :
    ∃ k, s.nextCommitting action j = some k ∧ Final ring k := by
  by_cases hown : action = .producer j
  · subst hown
    obtain ⟨f, hpc⟩ := producerStep_countEnqueued hstep hcount
    have hf : (s.ring.producers j).fill? = some f := by rw [hpc]; rfl
    obtain ⟨r, hr, _⟩ := h.interleaved.owner j f hf
    refine ⟨f.index, ?_, ?_, ?_⟩
    · simp only [CountedMachine.nextCommitting, hpc, Function.update_self]
    · exact (List.getElem?_eq_some_iff.mp hr).1.trans_le (ringStep_mono hstep).2
    · rw [ringStep, hpc] at hstep
      cases hstep
      rw [RingMachine.write_progress_self]
      split <;> rfl
  · rcases ringStep_producers hstep hown with hsame | ⟨event, hbegun⟩
    · obtain ⟨k, hk, hfinal⟩ := h.committing j (hsame.symm.trans hcount)
      exact ⟨k, (nextCommitting_of_ne hown).trans hk, h.final_kept hstep hfinal⟩
    · rw [hbegun] at hcount
      cases hcount

/-- The last slot given up changes with the consumer's steps only. -/
theorem nextGivenUp_of_ne (hne : action ≠ .consumer) : s.nextGivenUp action = s.givenUp := by
  cases action with
  | consumer => exact absurd rfl hne
  | _ => rfl

theorem Counted.next_givenUp (h : Counted s) (htime : InTime s action)
    (hstep : ringStep s.ring action = some ring) (hcount : ring.consumer = .countPoisoned) :
    ∃ k, s.nextGivenUp action = some k ∧ Lost ring k := by
  by_cases hown : action = .consumer
  · subst hown
    obtain ⟨⟨n, hpc⟩, hconsumed⟩ := consumerStep_countPoisoned hstep hcount
    have hfront := h.poisoning (by rw [hpc]; trivial)
    refine ⟨s.ring.consumed, ?_, hconsumed ▸ Nat.lt_succ_self _, ?_⟩
    · simp only [CountedMachine.nextGivenUp, hpc]
    · rwa [(consumerStep_sameClaims hstep).progress]
  · rcases (ringStep_consumer hstep hown).1 with hsame | hbegun
    · obtain ⟨k, hk, hlost⟩ := h.givenUp (hsame.symm.trans hcount)
      exact ⟨k, (nextGivenUp_of_ne hown).trans hk, hlost.kept htime hstep⟩
    · rw [hbegun] at hcount
      cases hcount

theorem Counted.next_poisoning (h : Counted s) (htime : InTime s action)
    (hstep : ringStep s.ring action = some ring) (hpoison : ring.consumer.poisoning) :
    ring.front ≠ .committed := by
  by_cases hown : action = .consumer
  · subst hown
    obtain ⟨hconsumed, hpc⟩ := consumerStep_poisoning hstep hpoison
    rw [RingMachine.front, (consumerStep_sameClaims hstep).progress, hconsumed]
    rcases hpc with hpc | ⟨claimedTick, hpc, hexpired⟩
    · exact h.poisoning hpc
    · have hgives := htime.2
      simp only [hpc, Consumer.GivesUpInTime] at hgives
      exact hgives hexpired
  · obtain ⟨hsame | hbegun, hconsumed⟩ := ringStep_consumer hstep hown
    · -- the producer of the front does not commit it while it is being given up
      rw [hsame] at hpoison
      rw [RingMachine.front, hconsumed]
      refine uncommitted_kept hstep (h.poisoning hpoison) ?_
      rintro i f rfl hpc hindex
      have hcommits := htime.2
      simp only [hpc, Producer.CommitsInTime] at hcommits
      exact hcommits.2 hindex hpoison
    · rw [hbegun] at hpoison
      exact hpoison.elim

/-- **Step lemma.** -/
theorem Counted.step (h : Counted s) (htime : InTime s action)
    (hstep : countedStep s action = some s') : Counted s' := by
  obtain ⟨ring, hring, rfl⟩ := Option.map_eq_some_iff.mp hstep
  exact {
    interleaved := h.interleaved.step htime.1 hring
    claimed := h.claimed.step hring
    committing := h.next_committing hring
    enqueued := fun k hk => h.final_kept hring (h.nextEnqueued k hk)
    givenUp := h.next_givenUp htime hring
    poisoned := fun k hk => (h.nextPoisoned k hk).kept htime hring
    poisoning := h.next_poisoning htime hring }

/-- **Run lemma.** -/
theorem InTimeRun.counted {outside : Memory} {freq : UINT64} (run : InTimeRun outside freq s) :
    Counted s :=
  run.invariant (init_counted outside freq) fun _ _ _ h htime hstep => h.step htime hstep

theorem Counted.once (h : Counted s) (k : ℕ) : ¬ (k ∈ s.enqueued ∧ k ∈ s.poisoned) := by
  rintro ⟨henqueued, hpoisoned⟩
  exact (h.poisoned k hpoisoned).2 (h.enqueued k henqueued).2

theorem Counted.harmless (h : Counted s) (htime : InTime s action)
    (hstep : countedStep s action = some s') : LateHarmless s action s' := by
  have h' := h.step htime hstep
  obtain ⟨ring, hring, rfl⟩ := Option.map_eq_some_iff.mp hstep
  have hbytes : ∀ i f, action = .producer i → (s.ring.producers i).fill? = some f →
      ∀ j q, f.index < j → s.ring.claims[j]? = some q →
        ∀ a, q.hdr ≤ a → a < q.hdr + q.len → ring.disp.ring a = s.ring.disp.ring a := by
    rintro i f rfl hf j q hj hq a hlow hhigh
    exact h.interleaved.later_bytes h.claimed hf htime.1 hring hj hq hlow hhigh
  refine ⟨hbytes, fun i f haction hf j q hj hq hcommitted => ?_, h'.once⟩
  have hlen := (h.claimed.placed q (List.mem_of_getElem? hq)).nonempty
  rw [← hcommitted]
  refine readNat_congr fun a hlow hhigh => (hbytes i f haction hf j q hj hq a ?_ ?_).symm
  · exact hlow
  · have hwidth : Field.state.width = 4 := rfl
    have hoffset : Field.state.offset = 0 := rfl
    omega

end

/-- **Late producers.**  In a run whose steps are in time, producers whose slots were given up
harm neither later slots nor the counters. -/
theorem lateHarmless_of_inTimeRun (outside : Memory) (freq : UINT64) (s s' : CountedMachine)
    (action : RingAction) (run : InTimeRun outside freq s) (htime : InTime s action)
    (hstep : countedStep s action = some s') : LateHarmless s action s' :=
  run.counted.harmless htime hstep

/-- A producer stops after its store of `Claimed`, over a header of an earlier lap, and its slot is
given up by the tick that was left there. -/
private def loseSlot : List RingAction :=
  claimOverHeader ++ [RingAction.consume] ++ List.replicate 10 RingAction.consumer

/-- Another call claims the next slot before the first one goes on. -/
private def resumeSoon : List RingAction :=
  loseSlot ++ [RingAction.produce 8 (twoHundredBytes 9)] ++
    List.replicate 4 (RingAction.producer 8) ++ List.replicate 9 (RingAction.producer 7)

theorem lateHarmless_resumed_soon : ∃ s s', steps countedStep
    (CountedMachine.init (fun _ => 0) 10000000) resumeSoon = some s ∧
    countedStep s (.producer 7) = some s' ∧ s.poisoned = [7] ∧ s.ring.claims.length = 9 ∧
    (s.ring.producers 7).progress = .filling [] ∧ LateHarmless s (.producer 7) s' := by
  have hfacts : ((steps countedStep (CountedMachine.init (fun _ => 0) 10000000) resumeSoon).bind
      fun s => (countedStep s (.producer 7)).map fun _ => (s.poisoned, s.ring.claims.length,
        decide ((s.ring.producers 7).progress = .filling []), decide (InTime s (.producer 7)))) =
      some ([7], 9, true, true) := by decide +kernel
  obtain ⟨s, hs, hstep⟩ := Option.bind_eq_some_iff.mp hfacts
  obtain ⟨s', hs', hfacts⟩ := Option.map_eq_some_iff.mp hstep
  simp only [Prod.mk.injEq, decide_eq_true_eq] at hfacts
  obtain ⟨hpoisoned, hclaims, hprogress, htime⟩ := hfacts
  have run : InTimeRun (fun _ => 0) 10000000 s := run_of_steps (by decide +kernel) hs
  exact ⟨s, s', hs, hs', hpoisoned, hclaims, hprogress,
    lateHarmless_of_inTimeRun (fun _ => 0) 10000000 s s' (.producer 7) run htime hs'⟩

/-- The ring comes round to the slot that was given up, and a later call has claimed it when the
first producer goes on. -/
private def resumeLate : List RingAction :=
  loseSlot ++
    passEvents 8 [mostBytes 9, mostBytes 9, mostBytes 9, equalBytes 9 65252 (by decide),
      hundredBytes 9] ++
    [RingAction.produce 13 (hundredBytes 9)] ++ List.replicate 5 (RingAction.producer 13) ++
    List.replicate 10 (RingAction.producer 7)

theorem late_producer_commits_later_slot :
    ¬ ∀ (s s' : CountedMachine) (action : RingAction), CountedRun (fun _ => 0) 10000000 s →
      countedStep s action = some s' → LateHarmless s action s' := by
  intro hharmless
  have hfacts : ((steps countedStep (CountedMachine.init (fun _ => 0) 10000000) resumeLate).bind
      fun s => (countedStep s (.producer 7)).map fun s' =>
        (((s.ring.producers 7).fill?.map Fill.index, s.ring.claims[13]?),
          (Field.state.get s.ring.disp.ring 128, Field.state.get s'.ring.disp.ring 128))) =
      some ((some 7, some ⟨.slot, 524416, 128, 100⟩), (slotClaimed, slotCommitted)) := by
    decide +kernel
  obtain ⟨s, hs, hstep⟩ := Option.bind_eq_some_iff.mp hfacts
  obtain ⟨s', hs', hfacts⟩ := Option.map_eq_some_iff.mp hstep
  simp only [Prod.mk.injEq, Option.map_eq_some_iff] at hfacts
  obtain ⟨⟨⟨f, hf, hindex⟩, hclaim⟩, hbefore, hafter⟩ := hfacts
  have hkept := (hharmless s s' (.producer 7) (reaches_of_steps hs) hs').headers 7 f rfl hf 13 _
    (by rw [hindex]; decide) hclaim hafter
  exact absurd (hbefore.symm.trans hkept) (by decide)

end Kawin.Driver
