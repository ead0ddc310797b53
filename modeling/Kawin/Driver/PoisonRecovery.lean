import Kawin.Driver.PatientSteps

/-!
# Poison recovery

A slot whose producer seems dead is given up: `ConsumeOne` compares `claimedTick` with `now` to
see that the claim is `ASYNC_CLAIM_TIMEOUT_MS` old, reads `strideBytes`, zeroes the slot and steps
over it.  Both fields are stores of the very producer that is stuck, after its store of
`Claimed`, and a tick that it has stored never expires; so the consumer always acts on what an
earlier lap left in their place.  On patient runs that does no harm, and recovery is exact
(`poisonExact_of_patientRun`).
-/

namespace Kawin.Driver

open ByteMemory CircularBuffer Transition

/-- The consumer, in the poison branch, stands at the start of a claimed slot whose claim has
timed out; when it steps on, it steps over exactly that slot, to the start of the next claim. -/
def PoisonExact (s s' : RingMachine) : Prop :=
  s.consumer.poisoning → ∃ k r, s.claims[k]? = some r ∧ r.kind = .slot ∧
    r.start = s.disp.history.readTotal ∧ s.TimedOut k ∧
    ∀ n, s.consumer = .advancePoisoned n →
      s'.disp.history.readTotal = r.start + r.len ∧
      s'.disp.readHead = s.disp.readHead + BitVec.ofNat 32 r.len ∧
      ∀ q, s.claims[k + 1]? = some q → q.start = s'.disp.history.readTotal

section

variable {s s' : RingMachine} {r : Region}

/-- In the poison branch the consumer acts on the oldest slot. -/
theorem Interleaved.poisoned_slot (h : Interleaved s) (hpoison : s.consumer.poisoning) :
    ∃ r, s.Oldest r ∧ r.kind = .slot ∧
      ∀ n, s.consumer = .advancePoisoned n → n.toNat = r.len := by
  have hbusy : ¬ s.consumer.between := by
    intro hbetween
    cases hpc : s.consumer <;> rw [hpc] at hpoison hbetween <;>
      first | exact hpoison | exact hbetween
  obtain ⟨r, hr, hproper⟩ := h.oldest hbusy
  cases hpc : s.consumer with
  | readStride =>
      rw [hpc] at hproper
      exact ⟨r, hr, hproper, fun _ hn => nomatch hn⟩
  | zeroSlot n | freePoisoned n =>
      rw [hpc] at hproper
      exact ⟨r, hr, hproper.1, fun _ hn => nomatch hn⟩
  | advancePoisoned n =>
      rw [hpc] at hproper
      refine ⟨r, hr, hproper.1, fun m hm => ?_⟩
      obtain rfl : n = m := Consumer.advancePoisoned.inj hm
      exact hproper.2
  | _ =>
      rw [hpc] at hpoison
      exact hpoison.elim

/-- The claim after the oldest one starts where the oldest one ends. -/
theorem Interleaved.next_start (h : Interleaved s) (hr : s.Oldest r) {q : Region}
    (hq : s.claims[s.consumed + 1]? = some q) : q.start = r.start + r.len := by
  obtain ⟨rest, hlive⟩ := live_of_oldest hr
  have htiles := h.ordered.tiles
  rw [hlive] at htiles
  obtain ⟨hstart, hrest⟩ := htiles
  have hnext : rest.head? = some q := by
    have htail : s.disp.history.live[1]? = some q := by
      rw [History.live, List.getElem?_drop]
      exact hq
    rw [hlive, List.getElem?_cons_succ] at htail
    rw [List.head?_eq_getElem?]
    exact htail
  cases rest with
  | nil => cases hnext
  | cons p more =>
      obtain rfl : p = q := Option.some.inj hnext
      rw [hrest.1, hstart]

theorem Waited.poison_exact (hw : Waited s) (hstep : ringStep s .consumer = some s') :
    PoisonExact s s' := by
  intro hpoison
  have h := hw.interleaved
  have htimed := (hw.givesUp hpoison).2
  obtain ⟨r, hr, hslot, hlen⟩ := h.poisoned_slot hpoison
  obtain ⟨rest, hlive⟩ := live_of_oldest hr
  have hstart := h.ordered.start_head hlive
  refine ⟨s.consumed, r, hr, hslot, hstart, htimed, fun n hn => ?_⟩
  rw [ringStep, hn] at hstep
  cases hstep
  -- stepping over the slot moves both heads by the length that was claimed
  have hadvance : (s.take n .countPoisoned).disp.history.readTotal =
      s.disp.history.readTotal + n.toNat := rfl
  have hhead : (s.take n .countPoisoned).disp.readHead = s.disp.readHead + n := rfl
  have hn' : BitVec.ofNat 32 r.len = n := by
    rw [← hlen n hn, BitVec.ofNat_toNat, BitVec.setWidth_eq]
  refine ⟨?_, ?_, fun q hq => ?_⟩
  · rw [hadvance, hlen n hn, hstart]
  · rw [hhead, hn']
  · rw [h.next_start hr hq, hadvance, hlen n hn, hstart]

end

/-- **Poison recovery.**  After a patient run the consumer gives up only slots whose claims have
timed out, and steps over exactly what was claimed. -/
theorem poisonExact_of_patientRun (outside : Memory) (freq : UINT64) (s s' : RingMachine)
    (run : PatientRun outside freq s) (hstep : ringStep s .consumer = some s') :
    PoisonExact s s' :=
  run.waited.poison_exact hstep

/-- A whole `ProduceSlot` call. -/
private def produceAll (i : ℕ) (event : Payload) : List RingAction :=
  .produce i event :: List.replicate 17 (.producer i)

/-- A whole `ConsumeOne` call that returns an event. -/
private def consumeEvent : List RingAction := .consume :: List.replicate 7 .consumer

/-- Calls, from number `first` on, whose events are consumed one by one. -/
def passEvents (first : ℕ) (events : List Payload) : List RingAction :=
  (events.zipIdx first).flatMap fun (event, i) => produceAll i event ++ consumeEvent

/-- A lap of events, then one that ends eight bytes before the header of the second, and a call
that claims the slot behind it and stores `Claimed`.  Where its stride will go the payload size
of the second event is left, which is the same number; where its tick will go lie the sequence
number and the stride of that event. -/
def claimOverHeader : List RingAction :=
  passEvents 0 [equalBytes 7 108 (by decide), equalBytes 7 128 (by decide), mostBytes 7,
    mostBytes 7, mostBytes 7, equalBytes 7 65212 (by decide), hundredBytes 7] ++
  [RingAction.produce 7 (hundredBytes 7)] ++ List.replicate 5 (RingAction.producer 7)

/-- The producer stops there; half a second later, at one count a millisecond, the consumer is
about to step over its slot. -/
private def giveUp : List RingAction :=
  claimOverHeader ++ List.replicate 500 RingAction.tick ++ [RingAction.consume] ++
    List.replicate 7 RingAction.consumer

theorem poisonExact_after_timeout : ∃ s s', steps ringStep
    (RingMachine.init (fun _ => 0) 1000) giveUp = some s ∧ ringStep s .consumer = some s' ∧
    s.consumer.poisoning ∧ s'.disp.history.readTotal = s.disp.history.readTotal + 128 ∧
    PoisonExact s s' := by
  have hfacts : ((steps ringStep (RingMachine.init (fun _ => 0) 1000) giveUp).bind fun s =>
      (ringStep s .consumer).map fun s' => (decide s.consumer.poisoning,
        decide (s'.disp.history.readTotal = s.disp.history.readTotal + 128))) =
      some (true, true) := by
    decide +kernel
  obtain ⟨s, hs, hstep⟩ := Option.bind_eq_some_iff.mp hfacts
  obtain ⟨s', hs', hfacts⟩ := Option.map_eq_some_iff.mp hstep
  simp only [Prod.mk.injEq, decide_eq_true_eq] at hfacts
  have run : PatientRun (fun _ => 0) 1000 s := run_of_steps (by decide +kernel) hs
  exact ⟨s, s', hs, hs', hfacts.1, hfacts.2,
    poisonExact_of_patientRun (fun _ => 0) 1000 s s' run hs'⟩

/-- After a lap of large events the header of the second slot lies in an old payload.  Its
producer has only stored `Claimed` when the consumer reads that payload as a tick. -/
private def staleTick : List RingAction :=
  passEvents 0 [mostBytes 7, mostBytes 7, mostBytes 7, mostBytes 7, hundredBytes 7] ++
    [RingAction.produce 5 (hundredBytes 7)] ++ List.replicate 5 (RingAction.producer 5) ++
    [RingAction.consume] ++ List.replicate 4 RingAction.consumer

theorem poisons_by_stale_tick :
    ¬ ∀ s s' : RingMachine, RingRun (fun _ => 0) 10000000 s → ringStep s .consumer = some s' →
      PoisonExact s s' := by
  intro hexact
  have hfacts : ((steps ringStep (RingMachine.init (fun _ => 0) 10000000) staleTick).bind fun s =>
      (ringStep s .consumer).map fun _ => (decide s.consumer.poisoning, s.clock, s.freqHz)) =
      some (true, 0, 10000000) := by decide +kernel
  obtain ⟨s, hs, hstep⟩ := Option.bind_eq_some_iff.mp hfacts
  obtain ⟨s', hs', hfacts⟩ := Option.map_eq_some_iff.mp hstep
  simp only [Prod.mk.injEq, decide_eq_true_eq] at hfacts
  obtain ⟨hpoison, hclock, hfreq⟩ := hfacts
  obtain ⟨k, r, _, _, _, htimed, _⟩ := hexact s s' (reaches_of_steps hs) hs' hpoison
  have hpassed := htimed.2
  rw [hclock, hfreq] at hpassed
  exact absurd hpassed (by simp [asyncClaimTimeoutMs])

end Kawin.Driver
