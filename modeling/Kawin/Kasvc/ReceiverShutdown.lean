import Kawin.Base.Crew
import Kawin.Base.Ranking
import Kawin.Kasvc.ReceiverLifetime
import Mathlib.Order.Interval.Finset.Nat

/-!
# Shutting down a receiver

`Disconnect` waits for its workers, so it matters that they come to an end (`disconnect_returns`).
Each of them finds `running_` cleared at the latest when it has dealt with the packet that it has in
hand; what it had tested before it still does, so up to one receive for each worker is submitted
after `CancelIoEx`.
-/

namespace Kawin.Kasvc

open Crew Transition

/-! ## What is left to do -/

/-- `Disconnect` has cleared `running_` and has not returned. -/
def ReceiverControl.stopping : ReceiverControl → Bool
  | .idle | .submitting | .clearing => false
  | .cancelling | .posting _ | .joining _ | .closingCompletionPort | .closingFilterPort | .freeing
  | .closingQueue => true

/-- A step of `Disconnect` or of a thread that it waits for. -/
def ReceiverAction.ofCrew : ReceiverAction → Bool
  | .control => true
  | .port action => action.party?.isSome
  | .connect _ | .disconnect => false

/-- How many steps are left to a worker once `running_` is cleared. -/
def Party.left : Party → ℕ
  | .done | .allocate _ => 0
  | .loop => 1
  | .resubmit _ | .free _ _ | .post _ _ => 2
  | .process _ | .check _ _ | .getMessage _ _ => 3
  | .dequeue => 4

/-- How many steps are left to `Disconnect`. -/
def ReceiverControl.left (workerThreads : ℕ) : ReceiverControl → ℕ
  | .idle | .submitting | .clearing => 0
  | .cancelling => 2 * workerThreads + 7
  | .posting left => left + workerThreads + 6
  | .joining joined => workerThreads - joined + 5
  | .closingCompletionPort => 4
  | .closingFilterPort => 3
  | .freeing => 2
  | .closingQueue => 1

/-- How many receives a worker can still submit then. -/
def Party.submissions : Party → ℕ
  | .getMessage _ _ => 1
  | _ => 0

/-- Where a worker can be: the loop of `Connect` is not its own. -/
def Party.ofWorker : Party → Bool
  | .loop | .dequeue | .process _ | .resubmit _ | .done => true
  | .check _ back | .getMessage _ back | .post _ back | .free _ back => back.isNone
  | .allocate _ => false

section

variable {s t : PortMachine} {i : ℕ} {pc : Party}

theorem Party.left_le (pc : Party) : pc.left ≤ 4 := by
  cases pc <;> simp [Party.left]

theorem Packet.next_worker (packet : Packet) :
    packet.next.left ≤ 3 ∧ packet.next.submissions = 0 ∧ packet.next.ofWorker = true := by
  unfold Packet.next
  split
  · exact ⟨by simp [Party.left], rfl, rfl⟩
  · split
    · exact ⟨le_rfl, rfl, rfl⟩
    · exact ⟨by simp [Party.left], rfl, rfl⟩

theorem afterSubmit_worker {back : Option ℕ} (hback : back.isNone = true) :
    afterSubmit back = .loop := by
  rw [Option.isNone_iff_eq_none.mp hback]
  rfl

@[simp] theorem goto_self {party : Party} : (s.goto i party).parties i = party :=
  Function.update_self ..

/-- A worker stays one. -/
theorem PartyMove.ofWorker (hmove : PartyMove s i pc t) (hworker : pc.ofWorker = true) :
    (t.parties i).ofWorker = true := by
  cases hmove with
  | take _ =>
      simp only [goto_self]
      exact (Packet.next_worker _).2.2
  | pending c back | post c back | free c back =>
      simp only [goto_self, @afterSubmit_worker back hworker]
      rfl
  | submittedAll | skip _ _ | allocate _ _ _ _ => cases hworker
  | run _ | leave _ | timeout | pass _ | again _ _ | drop _ _ =>
      simp only [goto_self]
      rfl
  | connected _ _ _ | refused _ _ _ | failed _ _ | succeeded _ _ =>
      simp only [goto_self]
      exact hworker

/-- **Step lemma for the workers.**  Once `running_` is cleared, a worker has fewer steps left after
each, and a receive that it submits was the one it could still submit. -/
theorem PartyMove.left_lt (hmove : PartyMove s i pc t) (hstopped : s.running = false)
    (hworker : pc.ofWorker = true) : (t.parties i).left < pc.left ∧
      t.submitted.length + (t.parties i).submissions ≤ s.submitted.length + pc.submissions := by
  cases hmove with
  | run hrunning | again _ hrunning | connected _ _ hrunning =>
      rw [hstopped] at hrunning
      cases hrunning
  | submittedAll | skip _ _ | allocate _ _ _ _ => cases hworker
  | @take packet rest _ =>
      simp only [goto_self]
      obtain ⟨hleft, hsubmissions, -⟩ := Packet.next_worker packet
      refine ⟨Nat.lt_succ_of_le hleft, ?_⟩
      rw [hsubmissions]
      exact le_rfl
  | pending c back =>
      simp only [goto_self, @afterSubmit_worker back hworker]
      exact ⟨by simp [Party.left], le_rfl⟩
  | post c back | free c back =>
      simp only [goto_self, @afterSubmit_worker back hworker]
      exact ⟨by simp [Party.left], le_rfl⟩
  | leave _ | timeout | pass _ | drop _ _ | refused _ _ _ | succeeded _ _ =>
      simp only [goto_self]
      exact ⟨by simp [Party.left], le_rfl⟩
  | failed _ _ =>
      simp only [goto_self]
      exact ⟨by simp [Party.left], Nat.le_succ _⟩

end

section

variable {s t : Receiver} {control : ReceiverControl}

/-- A step of a call touches neither a thread nor what is submitted. -/
theorem CallMove.port_eq (hmove : CallMove s control t) :
    t.port.parties = s.port.parties ∧ t.port.submitted = s.port.submitted := by
  cases hmove <;> exact ⟨rfl, rfl⟩

/-- A step of `Disconnect` itself. -/
theorem CallMove.left_lt (h : s.Ok) (hcontrol : s.control = control)
    (hstopping : control.stopping = true) (hmove : CallMove s control t) :
    t.control.left t.comm.workerThreads < control.left s.comm.workerThreads := by
  have hstage := h.stage
  rw [hcontrol] at hstage
  cases hmove with
  | submitted _ | clear => cases hstopping
  | cancel | posted | post _ | joinedAll _ _ | closeCompletionPort | closeFilterPort | free
  | closeQueue =>
      simp only [ReceiverControl.left]
      omega
  | join joined hmore _ =>
      have hlt : joined < s.comm.workerThreads := Nat.lt_of_le_of_ne hstage.2.2.1 hmore
      simp only [ReceiverControl.left]
      omega

end

namespace Receiver

variable {s t : Receiver} {port : PortMachine} {action : PortAction} {i n : ℕ}

/-- The threads besides party 0 are workers. -/
def Workers (s : Receiver) : Prop := ∀ i, i ≠ 0 → (s.port.parties i).ofWorker = true

theorem workers_step (hworkers : s.Workers) {action : ReceiverAction}
    (hstep : receiverStep s action = some t) : t.Workers := by
  cases receiverMove_of_step hstep with
  | connect outcome hidle =>
      rw [Receiver.connect]
      split
      · intro i hi
        show ((PortMachine.init _ _ _).parties i).ofWorker = true
        rw [PortMachine.init]
        dsimp only
        rw [if_neg hi]
        split
        · rfl
        · rfl
      · exact hworkers
  | disconnect _ _ | nothing _ | completed _ _ _ _ => exact hworkers
  | call hmove =>
      unfold Workers
      rw [hmove.port_eq.1]
      exact hworkers
  | @party action i port _ hmove =>
      intro j hj
      by_cases hji : j = i
      · subst hji
        exact hmove.ofWorker (hworkers j hj)
      · show (port.parties j).ofWorker = true
        rw [hmove.parties_of_ne hji]
        exact hworkers j hj

/-- How many steps are left until `Disconnect` returns, for a receiver with `n` workers. -/
def left (n : ℕ) (s : Receiver) : ℕ :=
  s.control.left s.comm.workerThreads + held (Finset.Icc 1 n) Party.left s.port.parties

/-- How many receives were submitted or can still be. -/
def submissions (n : ℕ) (s : Receiver) : ℕ :=
  s.port.submitted.length + held (Finset.Icc 1 n) Party.submissions s.port.parties

/-- What is known while `Disconnect` waits for `n` workers. -/
structure Waiting (n : ℕ) (s : Receiver) : Prop where
  ok : s.Ok
  workers : s.Workers
  others : ∀ i, i ∉ Finset.Icc 1 n → s.port.parties i = .done

theorem Ok.stopped (h : s.Ok) (hstopping : s.control.stopping = true) :
    s.port.running = false := by
  rw [h.running]
  have hstage := h.stage
  cases hcontrol : s.control with
  | idle | submitting | clearing =>
      rw [hcontrol] at hstopping
      cases hstopping
  | cancelling | posting _ | joining _ | closingCompletionPort | closingFilterPort =>
      rw [hcontrol] at hstage
      exact hstage.1
  | freeing =>
      rw [hcontrol] at hstage
      exact hstage.running
  | closingQueue =>
      rw [hcontrol] at hstage
      exact hstage.running

theorem Waiting.step (h : Waiting n s) (hstopping : s.control.stopping = true)
    {action : ReceiverAction} (hstep : receiverStep s action = some t) : Waiting n t := by
  refine ⟨h.ok.step hstep, workers_step h.workers hstep, fun j hj => ?_⟩
  cases receiverMove_of_step hstep with
  | connect _ hidle | disconnect hidle _ =>
      rw [hidle] at hstopping
      cases hstopping
  | nothing _ | completed _ _ _ _ => exact h.others j hj
  | call hmove =>
      rw [hmove.port_eq.1]
      exact h.others j hj
  | @party action i port _ hmove =>
      have hji : j ≠ i := by
        rintro rfl
        exact hmove.not_done (h.others j hj)
      show port.parties j = .done
      rw [hmove.parties_of_ne hji]
      exact h.others j hj

/-- A step of a worker. -/
theorem Waiting.left_party (h : Waiting n s) (hstopping : s.control.stopping = true)
    (hmove : PartyMove s.port i (s.port.parties i) port) :
    ({ s with port } : Receiver).left n < s.left n ∧
      ({ s with port } : Receiver).submissions n ≤ s.submissions n := by
  have hi : i ∈ Finset.Icc 1 n := by
    by_contra hnot
    exact hmove.not_done (h.others i hnot)
  have hne : i ≠ 0 := by
    have := (Finset.mem_Icc.mp hi).1
    omega
  obtain ⟨hleft, hsubmissions⟩ := hmove.left_lt (h.ok.stopped hstopping) (h.workers i hne)
  have hsum := @held_update ℕ Party ℕ _ _ (Finset.Icc 1 n) i Party.left s.port.parties
    (port.parties i) hi
  have hsum' := @held_update ℕ Party ℕ _ _ (Finset.Icc 1 n) i Party.submissions s.port.parties
    (port.parties i) hi
  rw [← hmove.parties_eq] at hsum hsum'
  unfold left submissions
  refine ⟨?_, ?_⟩
  · show s.control.left s.comm.workerThreads + held (Finset.Icc 1 n) Party.left port.parties < _
    omega
  · show port.submitted.length + held (Finset.Icc 1 n) Party.submissions port.parties ≤ _
    omega

/-- **Step lemma for `Disconnect`.**  Its own steps and those of the threads come to an end, and the
others do not put it off; and no receive is submitted but those that could be already. -/
theorem Waiting.left_step (h : Waiting n s) (hstopping : s.control.stopping = true)
    {action : ReceiverAction} (hstep : receiverStep s action = some t) :
    t.left n + action.ofCrew.toNat ≤ s.left n ∧ t.submissions n ≤ s.submissions n := by
  cases receiverMove_of_step hstep with
  | connect _ hidle | disconnect hidle _ | nothing hidle =>
      rw [hidle] at hstopping
      cases hstopping
  | @completed action c packet buffers haction _ _ =>
      have hparty : action.party? = none := by
        cases action with
        | deliver _ _ | fail _ => rfl
        | advance _ | dequeue _ | timeout _ | getMessage _ _ | stop | postDummy => cases haction
      have hcrew : (ReceiverAction.port action).ofCrew = false := by
        rw [ReceiverAction.ofCrew, hparty]
        rfl
      rw [hcrew]
      exact ⟨le_rfl, le_rfl⟩
  | call hmove =>
      have hless := hmove.left_lt h.ok rfl hstopping
      obtain ⟨hparties, hsubmitted⟩ := hmove.port_eq
      unfold left submissions
      rw [hparties, hsubmitted]
      exact ⟨Nat.add_right_comm _ _ 1 ▸ Nat.add_le_add_right hless _, le_rfl⟩
  | @party action i port haction hmove =>
      have hcrew : (ReceiverAction.port action).ofCrew = true := by
        rw [ReceiverAction.ofCrew, haction]
        rfl
      rw [hcrew]
      exact h.left_party hstopping hmove

theorem left_le (s : Receiver) (hcleared : s.control = .cancelling) :
    s.left s.comm.workerThreads ≤ 6 * s.comm.workerThreads + 7 := by
  have hheld : held (Finset.Icc 1 s.comm.workerThreads) Party.left s.port.parties ≤
      s.comm.workerThreads * 4 := by
    have hle := @held_le ℕ Party (Finset.Icc 1 s.comm.workerThreads) Party.left s.port.parties 4
      Party.left_le
    rwa [Nat.card_Icc, Nat.add_sub_cancel] at hle
  unfold left
  rw [hcleared, ReceiverControl.left]
  omega

theorem submissions_le (s : Receiver) (n : ℕ) :
    s.submissions n ≤ s.port.submitted.length + n := by
  have hle := @held_le ℕ Party (Finset.Icc 1 n) Party.submissions s.port.parties 1
    fun pc => by cases pc <;> simp [Party.submissions]
  rw [Nat.card_Icc, Nat.add_sub_cancel, Nat.mul_one] at hle
  exact Nat.add_le_add_left hle _

/-- A thread that has not returned can take a step: what it waits for comes within a second. -/
theorem party_enabled (hlive : s.port.parties i ≠ .done) :
    ∃ action, action.party? = some i ∧ (portStep s.port action).isSome = true := by
  cases hpc : s.port.parties i with
  | done => exact absurd hpc hlive
  | dequeue => exact ⟨.timeout i, rfl, by rw [portStep, hpc]; rfl⟩
  | getMessage c back => exact ⟨.getMessage i .fails, rfl, by rw [portStep, hpc]; rfl⟩
  | allocate left =>
      refine ⟨.advance i, rfl, ?_⟩
      rw [portStep, hpc]
      cases left with
      | zero => rfl
      | succ left =>
          rw [PortMachine.advance]
          split
          · rfl
          · split
            · rfl
            · rfl
  | loop | process _ | resubmit _ | check _ _ | post _ _ | free _ _ =>
      exact ⟨.advance i, rfl, by rw [portStep, hpc]; rfl⟩

/-- As long as `Disconnect` has not returned, it or the worker that it joins can take a step. -/
theorem crew_enabled (hstopping : s.control.stopping = true) :
    ∃ action, action.ofCrew = true ∧ (receiverStep s action).isSome = true := by
  cases hcontrol : s.control with
  | idle | submitting | clearing =>
      rw [hcontrol] at hstopping
      cases hstopping
  | posting left =>
      refine ⟨.control, rfl, ?_⟩
      rw [receiverStep, hcontrol]
      cases left with
      | zero => rfl
      | succ left => rfl
  | joining joined =>
      by_cases hall : joined = s.comm.workerThreads
      · exact ⟨.control, rfl, by rw [receiverStep, hcontrol, advance, if_pos hall]; rfl⟩
      · by_cases hdone : s.port.parties (joined + 1) = .done
        · refine ⟨.control, rfl, ?_⟩
          rw [receiverStep, hcontrol, advance, if_neg hall, if_pos hdone]
          rfl
        · obtain ⟨action, haction, hsome⟩ := party_enabled hdone
          refine ⟨.port action, by rw [ReceiverAction.ofCrew, haction]; rfl, ?_⟩
          rw [receiverStep, haction, Option.isSome_some, Bool.true_or, if_pos rfl,
            Option.isSome_map, hsome]
  | cancelling | closingCompletionPort | closingFilterPort | freeing | closingQueue =>
      exact ⟨.control, rfl, by rw [receiverStep, hcontrol]; rfl⟩

/-- The same, and there are and will be at most so many submissions. -/
structure WithAtMost (n bound : ℕ) (s : Receiver) : Prop extends Waiting n s where
  submissions_le : s.submissions n ≤ bound

theorem WithAtMost.step {bound : ℕ} (h : WithAtMost n bound s)
    (hstopping : s.control.stopping = true) {action : ReceiverAction}
    (hstep : receiverStep s action = some t) : WithAtMost n bound t where
  toWaiting := h.toWaiting.step hstopping hstep
  submissions_le := (h.left_step hstopping hstep).2.trans h.submissions_le

/-- The receiver when `Disconnect` begins to wait. -/
theorem waiting_of_cleared (h : s.Ok) (hworkers : s.Workers) (hcleared : s.control = .cancelling) :
    Waiting s.comm.workerThreads s := by
  refine ⟨h, hworkers, fun i hi => ?_⟩
  have hstage := h.stage
  rw [hcleared] at hstage
  obtain ⟨-, hpresent, hzero⟩ := hstage
  rcases Nat.eq_zero_or_pos i with rfl | hpos
  · exact hzero
  · refine hpresent.threads i ?_
    by_contra hle
    exact hi (Finset.mem_Icc.mpr ⟨hpos, Nat.le_of_not_lt hle⟩)

theorem workers_of_reaches {config : IOCPConfig}
    (run : Reaches receiverStep (.construct config) s) : s.Workers :=
  run.invariant (fun _ _ => rfl) fun _ _ _ h _ hstep => workers_step h hstep

end Receiver

/-- **`Disconnect` returns.**  Once it has cleared `running_`, it and its workers take at most six
steps for each worker and seven more until it has returned, whatever the Filter Manager does
meanwhile; they submit at most one more receive each; and as long as `Disconnect` has not returned,
it or a worker can take a step. -/
theorem disconnect_returns (config : IOCPConfig) (s t : Receiver)
    (run : Reaches receiverStep (.construct config) s) (hcleared : s.control = .cancelling)
    (actions : List ReceiverAction)
    (hwaiting : Allowed receiverStep (fun u _ => u.control.stopping = true) s actions)
    (hsteps : steps receiverStep s actions = some t) :
    actions.countP ReceiverAction.ofCrew ≤ 6 * s.comm.workerThreads + 7 ∧
      t.port.submitted.length ≤ s.port.submitted.length + s.comm.workerThreads ∧
      (t.control.stopping = true →
        ∃ action, action.ofCrew = true ∧ (receiverStep t action).isSome = true) := by
  have hinit := Receiver.waiting_of_cleared (Receiver.ok_of_reaches run)
    (Receiver.workers_of_reaches run) hcleared
  refine ⟨?_, ?_, Receiver.crew_enabled⟩
  · have hwork : t.left s.comm.workerThreads + actions.countP ReceiverAction.ofCrew ≤
        s.left s.comm.workerThreads :=
      work_le_rank (fun u action v hu hallowed hstep =>
        And.intro (hu.step hallowed hstep) (hu.left_step hallowed hstep).1) hinit hwaiting hsteps
    have hbound := s.left_le hcleared
    omega
  · have hfinal : Receiver.WithAtMost s.comm.workerThreads (s.submissions s.comm.workerThreads) t :=
      (run_of_steps hwaiting hsteps).invariant ⟨hinit, le_rfl⟩ fun u action v hu hallowed hstep =>
        hu.step hallowed hstep
    calc t.port.submitted.length ≤ t.submissions s.comm.workerThreads := Nat.le_add_right _ _
      _ ≤ s.submissions s.comm.workerThreads := hfinal.submissions_le
      _ ≤ s.port.submitted.length + s.comm.workerThreads := s.submissions_le _

/-- A receiver with two workers, when `Disconnect` has cleared `running_`: one waits for a packet
and one is about to submit a receive. -/
private def clearing : List ReceiverAction :=
  [.connect ⟨0#32, none, fun _ => true, fun _ => true⟩, .port (.advance 0), .port (.advance 0),
    .port (.getMessage 0 .pending), .port (.advance 0), .control, .port (.advance 1),
    .port (.advance 2), .port (.deliver 0 100), .port (.dequeue 2), .port (.advance 2),
    .port (.advance 2), .port (.advance 2), .disconnect, .control]

private def waiting : List ReceiverAction :=
  [.control, .port (.getMessage 2 .pending), .control, .control, .control, .port (.advance 2)]

theorem disconnect_returns_waiting : ∃ s t : Receiver, s.control = .cancelling ∧
    s.comm.workerThreads = 2 ∧ t.control = .joining 0 ∧ t.port.submitted.length = 2 ∧
      ∃ action, action.ofCrew = true ∧ (receiverStep t action).isSome = true := by
  have hfacts : (steps receiverStep (.construct ⟨2, 1, 4096, 1⟩) clearing).map
      (fun s => (s.control, s.comm.workerThreads,
        decide (Allowed receiverStep (fun u _ => u.control.stopping = true) s waiting),
        (steps receiverStep s waiting).map fun t => (t.control, t.port.submitted.length))) =
      some (.cancelling, 2, true, some (.joining 0, 2)) := by
    decide +kernel
  obtain ⟨s, hs, hfacts⟩ := Option.map_eq_some_iff.mp hfacts
  simp only [Prod.mk.injEq] at hfacts
  obtain ⟨hcleared, hworkers, hwaiting, ht⟩ := hfacts
  obtain ⟨t, ht, hend⟩ := Option.map_eq_some_iff.mp ht
  obtain ⟨hcontrol, hsubmitted⟩ := Prod.mk.inj hend
  have hreturns := disconnect_returns ⟨2, 1, 4096, 1⟩ s t (reaches_of_steps hs) hcleared waiting
    (of_decide_eq_true hwaiting) ht
  exact ⟨s, t, hcleared, hworkers, hcontrol, hsubmitted, hreturns.2.2 (by rw [hcontrol]; rfl)⟩

end Kawin.Kasvc
