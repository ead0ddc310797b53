import Kawin.Driver.OrderlySteps

/-!
# Patient steps

`ConsumeOne` gives a claimed slot up by the difference between `now` and the slot's tick.  Both
are what `KeQueryPerformanceCounter` stores through its argument, so the tick of a producer is never
out of date (`not_expired_now`), and the zero of a pad is not looked at.  What makes a slot expire
is a tick that an earlier lap left where the producer has not yet stored its own.

`Waited` is the invariant of the runs in which the consumer reads such a tick only when the claim
has timed out: in the poison branch it has.
-/

namespace Kawin.Driver

open ByteMemory CircularBuffer Transition

/-- The consumer is in the poison branch. -/
def Consumer.poisoning : Consumer → Prop
  | .readStride | .zeroSlot _ | .freePoisoned _ | .advancePoisoned _ => True
  | _ => False

instance : DecidablePred Consumer.poisoning
  | .readStride | .zeroSlot _ | .freePoisoned _ | .advancePoisoned _ => .isTrue trivial
  | .returned _ | .readPending | .readState | .readPayload | .readFlags _ | .freePad _
  | .advancePad _ | .copyPayload _ | .freeSlot _ | .advanceSlot _ | .readTick | .queryCounter _
  | .countPoisoned | .advanceFree => .isFalse id

/-! ## Time -/

section

variable {s s' : RingMachine} {action : RingAction}

/-- What every step keeps of the claims and their times. -/
structure SameTimes (s s' : RingMachine) : Prop where
  freqHz : s'.freqHz = s.freqHz
  clock_le : s.clock ≤ s'.clock
  claims : ∀ k < s.claims.length, s'.claims[k]? = s.claims[k]?
  claimedAt : ∀ k < s.claims.length, s'.claimedAt k = s.claimedAt k

theorem producerStep_sameTimes {i : ℕ} {pc : Producer}
    (hstep : producerStep s i pc = some s') : SameTimes s s' := by
  rcases producerStep_cases hstep with
    ⟨_, _, rfl, _, hhistory, _⟩ | ⟨_, _, _, _, rfl, _⟩ | ⟨_, _, _, _, rfl, _⟩
  · refine ⟨rfl, le_rfl, fun k _ => ?_, fun _ _ => rfl⟩
    exact congrArg (fun h : History => h.claims[k]?) hhistory
  · exact ⟨rfl, le_rfl, fun _ _ => rfl, fun _ _ => rfl⟩
  · refine ⟨rfl, le_rfl, fun k hk => ?_, fun k hk => ?_⟩
    · rw [RingMachine.claim_claims, List.getElem?_append_left hk]
    · exact RingMachine.claim_claimedAt_of_ne hk.ne

theorem ringStep_sameTimes (hstep : ringStep s action = some s') : SameTimes s s' := by
  cases action with
  | tick =>
      cases hstep
      exact ⟨rfl, Nat.le_succ _, fun _ _ => rfl, fun _ _ => rfl⟩
  | produce i event =>
      obtain ⟨_, rfl⟩ := ringStep_produce hstep
      exact ⟨rfl, le_rfl, fun _ _ => rfl, fun _ _ => rfl⟩
  | producer i => exact producerStep_sameTimes hstep
  | consume =>
      obtain ⟨_, rfl⟩ := ringStep_consume hstep
      exact ⟨rfl, le_rfl, fun _ _ => rfl, fun _ _ => rfl⟩
  | consumer =>
      have hsame := consumerStep_sameClaims hstep
      refine ⟨hsame.freqHz, hsame.clock.ge, fun k _ => ?_, fun k _ => congrFun hsame.claimedAt k⟩
      rw [hsame.claims]

/-- A claim that has timed out stays so, while it is the oldest. -/
theorem RingMachine.FrontTimedOut.kept (h : s.FrontTimedOut) (htimes : SameTimes s s')
    (hconsumed : s'.consumed = s.consumed) : s'.FrontTimedOut := by
  obtain ⟨hkind, hfreq, htimed⟩ := h
  obtain ⟨r, hr, _⟩ := Option.map_eq_some_iff.mp hkind
  have hlt : s.consumed < s.claims.length := (List.getElem?_eq_some_iff.mp hr).1
  have hclock := htimes.clock_le
  refine ⟨?_, ?_, ?_⟩
  · rw [RingMachine.oldest?, hconsumed, htimes.claims _ hlt]
    exact hkind
  · rw [htimes.freqHz]
    exact hfreq
  · rw [htimes.freqHz, hconsumed, htimes.claimedAt _ hlt]
    omega

/-- The front that has timed out is the slot at the read head. -/
theorem RingMachine.FrontTimedOut.oldest (h : s.FrontTimedOut) :
    ∃ r, s.Oldest r ∧ r.kind = .slot ∧ s.TimedOut s.consumed := by
  obtain ⟨r, hr, hkind⟩ := Option.map_eq_some_iff.mp h.1
  exact ⟨r, hr, hkind, h.2⟩

/-- A tick does not expire in no time. -/
theorem not_expired_now (d : Dispatcher) (now : UINT64) : ¬d.expired now now = true := by
  have hzero : d.ticksToMs (now - now) = 0 := by
    rw [BitVec.sub_self, Dispatcher.ticksToMs]
    split
    · rfl
    · exact BitVec.zero_udiv
  rw [Dispatcher.expired, hzero]
  decide

/-! ## The consumer -/

/-- A producer's step leaves the consumer alone. -/
theorem producerStep_consumer {pc : Producer} (hstep : producerStep s i pc = some s') :
    s'.consumer = s.consumer ∧ s'.consumed = s.consumed ∧
      s.claims.length ≤ s'.claims.length := by
  rcases producerStep_cases hstep with
    ⟨_, d, rfl, _, hhistory, _⟩ | ⟨_, _, _, _, rfl, _⟩ | ⟨_, _, _, _, rfl, _⟩
  · have hclaims : d.history.claims = s.claims := congrArg History.claims hhistory
    exact ⟨rfl, congrArg History.consumed hhistory, hclaims ▸ le_rfl⟩
  · exact ⟨rfl, rfl, le_rfl⟩
  · refine ⟨rfl, rfl, ?_⟩
    rw [RingMachine.claim_claims, List.length_append]
    exact Nat.le_add_right _ _

/-- No step but its own moves the consumer, apart from the call of `ConsumeOne`. -/
theorem ringStep_consumer {action : RingAction} (hstep : ringStep s action = some s')
    (hne : action ≠ .consumer) :
    (s'.consumer = s.consumer ∨ s'.consumer = .readPending) ∧ s'.consumed = s.consumed := by
  cases action with
  | tick =>
      cases hstep
      exact ⟨Or.inl rfl, rfl⟩
  | produce i event =>
      obtain ⟨_, rfl⟩ := ringStep_produce hstep
      exact ⟨Or.inl rfl, rfl⟩
  | producer i =>
      obtain ⟨hconsumer, hconsumed, _⟩ := producerStep_consumer hstep
      exact ⟨Or.inl hconsumer, hconsumed⟩
  | consume =>
      obtain ⟨_, rfl⟩ := ringStep_consume hstep
      exact ⟨Or.inr rfl, rfl⟩
  | consumer => exact absurd rfl hne

/-- How the consumer comes to be in the poison branch. -/
theorem consumerStep_poisoning {pc : Consumer} (hstep : consumerStep s pc = some s')
    (hpoison : s'.consumer.poisoning) : s'.consumed = s.consumed ∧
      (pc.poisoning ∨ ∃ claimedTick, pc = .queryCounter claimedTick ∧
        s.disp.expired claimedTick s.now = true) := by
  have hgoto : ∀ pc : Consumer, (s.consumerGoto pc).consumer = pc := fun _ => rfl
  cases pc with
  | readStride | zeroSlot | freePoisoned =>
      cases hstep
      exact ⟨rfl, Or.inl trivial⟩
  | queryCounter claimedTick =>
      cases hstep
      rw [hgoto] at hpoison
      split at hpoison
      · exact ⟨rfl, Or.inr ⟨claimedTick, rfl, ‹_›⟩⟩
      · exact hpoison.elim
  | returned => cases hstep
  | readPending | readState | readFlags | readTick =>
      cases hstep
      rw [hgoto] at hpoison
      split at hpoison <;> first | exact hpoison.elim | (split at hpoison <;> exact hpoison.elim)
  | _ =>
      cases hstep
      exact hpoison.elim

/-- The consumer is about to call `KeQueryPerformanceCounter` only after it read a tick. -/
theorem consumerStep_queryCounter {pc : Consumer} {claimedTick : UINT64}
    (hstep : consumerStep s pc = some s') (hasks : s'.consumer = .queryCounter claimedTick) :
    pc = .readTick ∧ s'.consumed = s.consumed ∧ claimedTick ≠ 0 ∧ claimedTick =
      BitVec.ofNat 64 (Field.claimedTick.get s.disp.ring (slotAt s.disp.readHead)) := by
  have hgoto : ∀ pc : Consumer, (s.consumerGoto pc).consumer = pc := fun _ => rfl
  have hconsumed : ∀ pc : Consumer, (s.consumerGoto pc).consumed = s.consumed := fun _ => rfl
  cases pc with
  | readTick =>
      cases hstep
      rw [hgoto] at hasks
      split at hasks
      · next hne =>
          obtain rfl := Consumer.queryCounter.inj hasks
          exact ⟨rfl, hconsumed _, hne, rfl⟩
      · cases hasks
  | returned => cases hstep
  | readPending | readState | readFlags | queryCounter =>
      cases hstep
      rw [hgoto] at hasks
      split at hasks <;> first | cases hasks | (split at hasks <;> cases hasks)
  | _ =>
      cases hstep
      cases hasks

/-! ## The invariant -/

/-- The consumer compares `now` with itself or with a tick left in the header of a slot that has
timed out, and it gives up only such a slot. -/
structure Waited (s : RingMachine) : Prop where
  interleaved : Interleaved s
  asks : ∀ claimedTick, s.consumer = .queryCounter claimedTick →
    claimedTick = s.now ∨ s.FrontTimedOut
  givesUp : s.consumer.poisoning → s.FrontTimedOut

theorem init_waited (outside : Memory) (freq : UINT64) :
    Waited (RingMachine.init outside freq) where
  interleaved := init_interleaved outside freq
  asks := fun _ hasks => nomatch hasks
  givesUp := fun hpoison => hpoison.elim

/-- A patient consumer that found a tick other than zero found `now`, or the slot has timed out. -/
theorem Waited.readTick (h : Waited s) (hpc : s.consumer = .readTick)
    (hpatient : Consumer.readTick.Patient s) {claimedTick : UINT64} (hne : claimedTick ≠ 0)
    (htick : claimedTick =
      BitVec.ofNat 64 (Field.claimedTick.get s.disp.ring (slotAt s.disp.readHead))) :
    claimedTick = s.now ∨ s.FrontTimedOut := by
  rcases hpatient with hholds | hzero | htimed
  · obtain ⟨r, hr, _⟩ := h.interleaved.oldest_at hpc id
    have hok := h.interleaved.tick_of_holds hr (by rw [hpc]; exact id) hholds
    rw [TickOk] at hok
    split at hok
    -- the tick of a pad is zero
    · rw [hok] at htick
      exact absurd htick hne
    · rw [htick, hok, BitVec.ofNat_toNat, BitVec.setWidth_eq]
      exact Or.inl rfl
  · rw [hzero] at htick
    exact absurd htick hne
  · exact Or.inr htimed

/-- What the consumer may compare stays so, while the oldest claim stays the oldest. -/
theorem asks_kept {claimedTick : UINT64} (h : claimedTick = s.now ∨ s.FrontTimedOut)
    (htimes : SameTimes s s') (hconsumed : s'.consumed = s.consumed) :
    claimedTick = s'.now ∨ s'.FrontTimedOut := by
  refine h.imp (fun hnow => hnow.trans ?_) fun htimed => htimed.kept htimes hconsumed
  exact htimes.freqHz.symm

/-- A step of the consumer. -/
theorem Waited.consumer (h : Waited s) (hpatient : Patient s .consumer)
    (hstep : ringStep s .consumer = some s') : Waited s' := by
  have htimes := ringStep_sameTimes hstep
  refine ⟨h.interleaved.step hpatient.1 hstep, fun claimedTick hasks => ?_, fun hpoison => ?_⟩
  · obtain ⟨hpc, hconsumed, hne, htick⟩ := consumerStep_queryCounter hstep hasks
    have hreads : s.consumer.Patient s := hpatient.2
    rw [hpc] at hreads
    exact asks_kept (h.readTick hpc hreads hne htick) htimes hconsumed
  · obtain ⟨hconsumed, hpc | ⟨claimedTick, hpc, hexpired⟩⟩ := consumerStep_poisoning hstep hpoison
    · exact (h.givesUp hpc).kept htimes hconsumed
    -- a tick that is `now` has not expired
    · rcases h.asks claimedTick hpc with rfl | htimed
      · exact absurd hexpired (not_expired_now _ _)
      · exact htimed.kept htimes hconsumed

/-- **Step lemma.** -/
theorem Waited.step (h : Waited s) (hpatient : Patient s action)
    (hstep : ringStep s action = some s') : Waited s' := by
  by_cases hown : action = .consumer
  · subst hown
    exact h.consumer hpatient hstep
  have htimes := ringStep_sameTimes hstep
  have hinterleaved := h.interleaved.step hpatient.1 hstep
  obtain ⟨hsame | hbegun, hconsumed⟩ := ringStep_consumer hstep hown
  · refine ⟨hinterleaved, fun claimedTick hasks => ?_, fun hpoison => ?_⟩
    · exact asks_kept (h.asks claimedTick (hsame.symm.trans hasks)) htimes hconsumed
    · rw [hsame] at hpoison
      exact (h.givesUp hpoison).kept htimes hconsumed
  · refine ⟨hinterleaved, fun claimedTick hasks => ?_, fun hpoison => ?_⟩
    · rw [hbegun] at hasks
      cases hasks
    · rw [hbegun] at hpoison
      exact hpoison.elim

/-- **Run lemma.** -/
theorem PatientRun.waited {outside : Memory} {freq : UINT64} (run : PatientRun outside freq s) :
    Waited s :=
  run.invariant (init_waited outside freq) fun _ _ _ h hpatient hstep => h.step hpatient hstep

end

end Kawin.Driver
