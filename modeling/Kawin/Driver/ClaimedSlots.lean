import Kawin.Driver.PatientSteps

/-!
# Claimed slots

A region whose claim succeeded but whose producer has not stored `Committed` is not
to be passed by the consumer: the read head moves neither over it nor into it,
and it is not returned as a payload, unless `ASYNC_CLAIM_TIMEOUT_MS` have passed since
the claim.

The code keeps this on patient runs only.  Between the compare-exchange and the store
of `Claimed` the header holds what an earlier lap left there, and a zero is read as
a free slot, over which the consumer steps.
-/

namespace Kawin.Driver

open ByteMemory CircularBuffer Transition

/-- In the step from `s` to `s'` the consumer passes byte `b`: the read head moves over it, or
a payload found at it is being returned. -/
def Passes (s s' : RingMachine) (b : ℕ) : Prop :=
  s.disp.history.readTotal ≤ b ∧ b < s'.disp.history.readTotal ∨
    (∃ payload, s.consumer = .advanceSlot payload) ∧ b = s.disp.history.readTotal

/-- The consumer passes no byte of a region short of `Committed`, unless its claim has timed
out. -/
def ClaimedSlotsKept (s s' : RingMachine) : Prop :=
  ∀ k r b, s.claims[k]? = some r → s.progress k ≠ .committed → r.start ≤ b →
    b < r.start + r.len → Passes s s' b → s.TimedOut k

section

variable {s s' : RingMachine} {r : Region}

/-- Producers leave the read head alone. -/
theorem producerStep_readTotal {i : ℕ} {pc : Producer} (hstep : producerStep s i pc = some s') :
    s'.disp.history.readTotal = s.disp.history.readTotal := by
  rcases producerStep_cases hstep with
    ⟨_, _, rfl, _, hhistory, _⟩ | ⟨_, _, _, _, rfl, _⟩ | ⟨_, _, _, _, rfl, _⟩
  · exact congrArg History.readTotal hhistory
  · rfl
  · exact claim_readTotal ..

/-- Only the oldest region reaches into its own bytes. -/
theorem Interleaved.index_of_overlap (h : Interleaved s) (hr : s.Oldest r) {k b : ℕ} {q : Region}
    (hq : s.claims[k]? = some q) (hqlow : q.start ≤ b) (hqhigh : b < q.start + q.len)
    (hlow : s.disp.history.readTotal ≤ b) (hhigh : b < s.disp.history.readTotal + r.len) :
    k = s.consumed := by
  obtain ⟨rest, hlive⟩ := live_of_oldest hr
  have hstart := h.ordered.start_head hlive
  rcases Nat.lt_trichotomy k s.consumed with hlt | heq | hgt
  · have := h.ordered.start_le hq hr hlt le_rfl
    omega
  · exact heq
  · have := h.ordered.start_le hr hq hgt hgt.le
    omega

/-- Taking the oldest region, committed or timed out, passes no other. -/
theorem Interleaved.take_kept (h : Interleaved s) (hr : s.Oldest r) {n : UINT32} {pc : Consumer}
    (hn : n.toNat = r.len)
    (hdone : s.front ≠ .committed → s.TimedOut s.consumed) :
    ClaimedSlotsKept s (s.take n pc) := by
  intro k q b hq hnot hlow hhigh hpasses
  have hheader := (h.shaped_oldest hr).header
  have hadvance : (s.take n pc).disp.history.readTotal = s.disp.history.readTotal + n.toNat := rfl
  -- every byte that is passed lies in the oldest region
  have hk : k = s.consumed := by
    rcases hpasses with hmoved | ⟨_, hb⟩
    · exact h.index_of_overlap hr hq hlow hhigh hmoved.1 (by omega)
    · exact h.index_of_overlap hr hq hlow hhigh hb.ge (by omega)
  subst hk
  exact hdone hnot

/-- A step that leaves the read head alone passes nothing, but for a committed payload. -/
theorem Interleaved.still_kept (h : Interleaved s)
    (hsame : s'.disp.history.readTotal = s.disp.history.readTotal) : ClaimedSlotsKept s s' := by
  intro k q b hq hnot hlow hhigh hpasses
  rcases hpasses with hmoved | ⟨⟨payload, hpc⟩, rfl⟩
  · omega
  · obtain ⟨r, hr, hproper⟩ := h.oldest_at hpc id
    have hheader := (h.shaped_oldest hr).header
    obtain rfl := h.index_of_overlap hr hq hlow hhigh le_rfl (by omega)
    exact absurd hproper.1 hnot

theorem Waited.kept (hw : Waited s) {action : RingAction}
    (hstep : ringStep s action = some s') : ClaimedSlotsKept s s' := by
  have h := hw.interleaved
  cases action with
  | tick => cases hstep; exact h.still_kept rfl
  | produce i event =>
      obtain ⟨_, rfl⟩ := ringStep_produce hstep
      exact h.still_kept rfl
  | producer i => exact h.still_kept (producerStep_readTotal hstep)
  | consume =>
      obtain ⟨_, rfl⟩ := ringStep_consume hstep
      exact h.still_kept rfl
  | consumer =>
      cases hpc : s.consumer with
      | advancePad payload | advanceSlot payload =>
          obtain ⟨r, hr, hproper⟩ := h.oldest_at hpc id
          rw [ringStep, hpc] at hstep
          cases hstep
          exact h.take_kept hr ((h.shaped_oldest hr).stride_of_payload hproper.2.1)
            fun hnot => absurd hproper.1 hnot
      | advancePoisoned n =>
          obtain ⟨r, hr, hproper⟩ := h.oldest_at hpc id
          have htimed := hw.givesUp (by rw [hpc]; trivial)
          rw [ringStep, hpc] at hstep
          cases hstep
          exact h.take_kept hr hproper.2 fun _ => htimed.2
      | advanceFree =>
          obtain ⟨r, _, hproper⟩ := h.oldest_at hpc id
          exact hproper.elim
      | _ =>
          rw [ringStep, hpc] at hstep
          cases hstep
          try exact h.still_kept rfl

end

/-- **Claimed-slot safety.**  After a patient run, no step of any party passes a region short
of `Committed` whose claim has not timed out. -/
theorem claimedSlotsKept_of_patientRun (outside : Memory) (freq : UINT64) (s s' : RingMachine)
    (action : RingAction) (run : PatientRun outside freq s) (hstep : ringStep s action = some s') :
    ClaimedSlotsKept s s' :=
  run.waited.kept hstep

/-- Behind the slot that is being returned, a second one is claimed and marked. -/
private def claimBehind : List RingAction :=
  [RingAction.tick, .produce 0 (hundredBytes 7), .produce 1 (hundredBytes 7)] ++
    List.replicate 17 (RingAction.producer 0) ++ List.replicate 5 (RingAction.producer 1) ++
    [RingAction.consume] ++ List.replicate 6 RingAction.consumer

theorem claimedSlotsKept_claim_behind : ∃ s s', steps ringStep
    (RingMachine.init (fun _ => 0) 10000000) claimBehind = some s ∧
    ringStep s .consumer = some s' ∧ ClaimedSlotsKept s s' := by
  obtain ⟨s, hs⟩ := Option.isSome_iff_exists.mp (show (steps ringStep
    (RingMachine.init (fun _ => 0) 10000000) claimBehind).isSome by decide +kernel)
  have hnext : (steps ringStep (RingMachine.init (fun _ => 0) 10000000) claimBehind).bind
      (ringStep · .consumer) |>.isSome := by decide +kernel
  rw [hs, Option.bind_some] at hnext
  obtain ⟨s', hs'⟩ := Option.isSome_iff_exists.mp hnext
  have run : PatientRun (fun _ => 0) 10000000 s := run_of_steps (by decide +kernel) hs
  exact ⟨s, s', hs, hs',
    claimedSlotsKept_of_patientRun (fun _ => 0) 10000000 s s' .consumer run hs'⟩

/-- Between the compare-exchange and the store of `Claimed` the consumer finds a zero, takes the
slot for free and steps into it, at clock zero. -/
private def freeWindow : List RingAction :=
  [RingAction.produce 0 (hundredBytes 7)] ++ List.replicate 4 (RingAction.producer 0) ++
    [RingAction.consume, .consumer, .consumer]

theorem claimedSlots_passed_before_mark :
    ¬ ∀ (s s' : RingMachine) (action : RingAction), RingRun (fun _ => 0) 10000000 s →
      ringStep s action = some s' → ClaimedSlotsKept s s' := by
  intro hkept
  have hfacts : (steps ringStep (RingMachine.init (fun _ => 0) 10000000) freeWindow).bind
      (fun s => (ringStep s .consumer).map fun s' => (s.claims[0]?, s.progress 0,
        decide (s.TimedOut 0), s.disp.history.readTotal, s'.disp.history.readTotal)) =
      some (some ⟨.slot, 0, 128, 100⟩, .claimed, false, 0, 32) := by decide +kernel
  obtain ⟨s, hs, hstep⟩ := Option.bind_eq_some_iff.mp hfacts
  obtain ⟨s', hs', hfacts⟩ := Option.map_eq_some_iff.mp hstep
  simp only [Prod.mk.injEq] at hfacts
  obtain ⟨hclaim, hprogress, htimed, hread, hread'⟩ := hfacts
  exact of_decide_eq_false htimed (hkept s s' .consumer (reaches_of_steps hs) hs' 0 _ 0 hclaim
    (by rw [hprogress]; decide) le_rfl (by decide) (Or.inl ⟨by omega, by omega⟩))

end Kawin.Driver
