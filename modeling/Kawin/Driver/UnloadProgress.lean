import Kawin.Driver.WorkerProgress

/-!
# `Uninitialize` returns

`Uninitialize` clears `m_active`, sets the stop event, and waits for the worker without a timeout
before it frees the ring.  From the stop event on the rank of the dispatcher goes down with every
step of the worker and of the calls that are under way, so the wait ends.

What comes after the ring is freed is left to `Unload`: the runs here are those in which it is still
there (`KeepsRing`).
-/

namespace Kawin.Driver

open ByteMemory Transition Crew

/-! ## The unload callback -/

/-- `Uninitialize` has set `m_stopEvent` and not yet freed the ring. -/
def Unload.stopping : Unload → Bool
  | .setDataReady | .waitWorker | .freeSendBuf | .freeRing => true
  | _ => false

/-- How many steps are left to `Uninitialize` before it frees the ring. -/
def Unload.left : Unload → ℕ
  | .setDataReady => 3
  | .waitWorker => 2
  | .freeSendBuf => 1
  | _ => 0

def UnloadMachine.left (n : ℕ) (s : UnloadMachine) : ℕ := s.disp.left n + s.unload.left

/-- The step is not the one that frees the ring. -/
def KeepsRing (s : UnloadMachine) : UnloadAction → Prop
  | .unload => s.unload ≠ .freeRing
  | .dispatcher _ => True

instance decidableKeepsRing (s : UnloadMachine) : ∀ action, Decidable (KeepsRing s action)
  | .unload => inferInstanceAs (Decidable (s.unload ≠ .freeRing))
  | .dispatcher _ => .isTrue trivial

/-- A step of `Uninitialize`, of a call, of the worker or of `FltSendMessage`. -/
def UnloadAction.works : UnloadAction → Bool
  | .unload => true
  | .dispatcher action => action.works

/-- The calls that passed the `m_active` check are the first ones: once one is refused, all are. -/
structure PassedFirst (s : DispatcherMachine) : Prop where
  active : s.active = true → s.calls = s.passed
  fresh : ∀ i, s.passed ≤ i → s.enqueuers i = .outside ∧ s.ring.producers i = .idle

/-- What holds in every run before the ring is freed. -/
structure Begun (s : UnloadMachine) : Prop where
  uses : UsesOk s
  passed : PassedFirst s.disp
  stopEvent : s.unload.stopping → s.disp.stopEvent = true
  aligned : ReadAligned s.disp.ring
  calls : ∀ n, s.disp.passed ≤ n → s.disp.ring.left n ≤ 6 * n ^ 2 + 34 * n
  kept : s.unload.ringFreed = false

/-- The calls, the worker and `Uninitialize` as the dispatcher is being stopped. -/
structure Stopping (n : ℕ) (s : UnloadMachine) : Prop where
  winding : Winding n s.disp
  stopping : s.unload.stopping

section

variable {n : ℕ} {s t : UnloadMachine}

theorem Unload.deactivated_of_stopping {unload : Unload} (h : unload.stopping = true) :
    unload.deactivated = true := by
  cases unload with
  | notCalled | clearActive => cases h
  | _ => rfl

theorem PassedFirst.sameCalls {d d' : DispatcherMachine} (h : PassedFirst d)
    (hsame : SameCalls d d') : PassedFirst d' where
  active := by
    rw [hsame.active, hsame.calls, hsame.passed]
    exact h.active
  fresh := by
    rw [hsame.passed, hsame.enqueuers, hsame.producers]
    exact h.fresh

theorem PassedFirst.step {d d' : DispatcherMachine} (h : PassedFirst d) {action : DispatcherAction}
    (hstep : dispatcherStep d action = some d') : PassedFirst d' := by
  cases action with
  | enqueue request =>
      cases hstep
      unfold enqueueStep
      split
      · next hactive =>
          have hcalls := h.active hactive
          refine ⟨fun _ => congrArg (· + 1) hcalls, fun i hi => ?_⟩
          have hlt : d.passed + 1 ≤ i := hi
          obtain ⟨henqueuer, hproducer⟩ := h.fresh i (by omega)
          exact ⟨(Function.update_of_ne (by omega) ..).trans henqueuer, hproducer⟩
      · next hinactive => exact ⟨fun hactive => absurd hactive hinactive, h.fresh⟩
  | enqueuer i =>
      -- the call is past the check, so that it is among the first
      have hleaves : ∀ ring : RingMachine,
          (∀ j, j ≠ i → ring.producers j = d.ring.producers j) → d.enqueuers i ≠ .outside →
          ∀ j, d.passed ≤ j → (d.enqueuerGoto i .outside).enqueuers j = .outside ∧
            ring.producers j = .idle := by
        intro ring hothers hinside j hj
        obtain ⟨henqueuer, hproducer⟩ := h.fresh j hj
        have hji : j ≠ i := by
          rintro rfl
          exact hinside henqueuer
        exact ⟨(Function.update_of_ne hji ..).trans henqueuer, (hothers j hji).trans hproducer⟩
      rcases enqueuerStep_cases hstep with ⟨request, hpc, rfl⟩ | ⟨event, hpc, _, rfl⟩
      · exact ⟨h.active, hleaves d.ring (fun _ _ => rfl) (by simp [hpc])⟩
      · exact ⟨h.active, hleaves _ (fun j hj => RingMachine.goto_of_ne hj) (by simp [hpc])⟩
  | producer i =>
      obtain ⟨ring, hring, rfl⟩ := Option.map_eq_some_iff.mp hstep
      refine ⟨h.active, fun j hj => ?_⟩
      obtain ⟨henqueuer, hproducer⟩ := h.fresh j hj
      refine ⟨henqueuer, ?_⟩
      by_cases hji : j = i
      · rw [ringStep, ← hji, hproducer] at hring
        cases hring
      · exact (producers_of_ne hring hji).trans hproducer
  | deactivate =>
      cases hstep
      exact ⟨fun hactive => absurd hactive Bool.false_ne_true, h.fresh⟩
  | _ => exact h.sameCalls (dispatcherStep_sameCalls (by simp) (by simp) (by simp) (by simp) hstep)

theorem begun_init (outside : Memory) (freq : UINT64) :
    Begun (UnloadMachine.init outside freq) where
  uses := init_usesOk outside freq
  passed := ⟨fun _ => rfl, fun _ _ => ⟨rfl, rfl⟩⟩
  stopEvent h := by cases h
  aligned := readAligned_init outside freq
  calls _ _ := (left_init outside freq).le
  kept := rfl

theorem Begun.step (h : Begun s) {action : UnloadAction} (hkeeps : KeepsRing s action)
    (hstep : unloadMachineStep s action = some t) : Begun t := by
  cases action with
  | unload =>
      have huses := @UsesOk.step s t h.uses .unload (fun heq => absurd heq hkeeps) hstep
      obtain ⟨disp, unload⟩ := s
      have hstop := h.stopEvent
      cases unload with
      | notCalled | setDataReady | freeSendBuf =>
          cases hstep
          exact ⟨huses, h.passed, hstop, h.aligned, h.calls, rfl⟩
      | clearActive =>
          cases hstep
          exact ⟨huses, @PassedFirst.step _ _ h.passed .deactivate rfl, hstop, h.aligned, h.calls,
            rfl⟩
      | setStopEvent =>
          cases hstep
          exact ⟨huses, @PassedFirst.step _ _ h.passed .stop rfl, fun _ => rfl, h.aligned, h.calls,
            rfl⟩
      | waitWorker =>
          obtain ⟨_, hnext⟩ := Option.ite_none_right_eq_some.mp hstep
          cases hnext
          exact ⟨huses, h.passed, hstop, h.aligned, h.calls, rfl⟩
      | freeRing => exact absurd rfl hkeeps
      | _ =>
          have hfreed := h.kept
          cases hfreed
  | dispatcher action =>
      have huses := @UsesOk.step s t h.uses (.dispatcher action) trivial hstep
      obtain ⟨_, hmoves⟩ := Option.ite_none_left_eq_some.mp hstep
      obtain ⟨disp, hdisp, rfl⟩ := Option.map_eq_some_iff.mp hmoves
      have hring := dispatcherStep_ringGoes hdisp
      refine ⟨huses, h.passed.step hdisp, fun hstopping => hring.stopEvent (h.stopEvent hstopping),
        hring.aligned h.aligned, fun n hn => ?_, h.kept⟩
      have hbefore : s.disp.passed ≤ n := hring.passed.trans hn
      have hwithin : s.disp.ring.Within n := fun i hi => (h.passed.fresh i (hbefore.trans hi)).2
      exact (hring.left_le hwithin).trans (h.calls n hbefore)

theorem Begun.winding (h : Begun s) (hstopping : s.unload.stopping) :
    Winding s.disp.passed s.disp where
  active := h.uses.inactive (Unload.deactivated_of_stopping hstopping)
  stopEvent := h.stopEvent hstopping
  enqueuers i hi := (h.passed.fresh i hi).1
  producers i hi := (h.passed.fresh i hi).2
  aligned := h.aligned

/-- What is left when the stop event is set. -/
theorem Begun.left_le (h : Begun s) :
    s.left s.disp.passed ≤ (6 * s.disp.passed ^ 2 + 35 * s.disp.passed) * 524800 + 524322 := by
  have hcalls := h.calls s.disp.passed le_rfl
  have henqueuers : held (Finset.range s.disp.passed) Enqueuer.left s.disp.enqueuers ≤
      (Finset.range s.disp.passed).card * 1 :=
    held_le fun pc => by cases pc <;> simp [Enqueuer.left]
  have hworker := workerLeft_le s.disp
  have hunload : s.unload.left ≤ 3 := by cases s.unload <;> simp [Unload.left]
  rw [Finset.card_range, Nat.mul_one] at henqueuers
  unfold UnloadMachine.left DispatcherMachine.left DispatcherMachine.callsLeft
  omega

/-- **Step lemma.** -/
theorem Stopping.step (h : Stopping n s) {action : UnloadAction} (hkeeps : KeepsRing s action)
    (hstep : unloadMachineStep s action = some t) :
    Stopping n t ∧ t.left n + action.works.toNat ≤ s.left n := by
  cases action with
  | unload =>
      obtain ⟨disp, unload⟩ := s
      have hgoes : ∀ unload', unload'.left + 1 = unload.left →
          UnloadMachine.left n ⟨disp, unload'⟩ + UnloadAction.unload.works.toNat ≤
            UnloadMachine.left n ⟨disp, unload⟩ := by
        intro unload' hless
        have hworks : UnloadAction.unload.works = true := rfl
        rw [hworks, Bool.toNat_true]
        unfold UnloadMachine.left
        dsimp only
        omega
      have hstopping := h.stopping
      cases unload with
      | setDataReady | freeSendBuf =>
          cases hstep
          exact ⟨⟨h.winding, rfl⟩, hgoes _ rfl⟩
      | waitWorker =>
          obtain ⟨_, hnext⟩ := Option.ite_none_right_eq_some.mp hstep
          cases hnext
          exact ⟨⟨h.winding, rfl⟩, hgoes _ rfl⟩
      | freeRing => exact absurd rfl hkeeps
      | _ => cases hstopping
  | dispatcher action =>
      obtain ⟨_, hmoves⟩ := Option.ite_none_left_eq_some.mp hstep
      obtain ⟨disp, hdisp, rfl⟩ := Option.map_eq_some_iff.mp hmoves
      refine ⟨⟨h.winding.step hdisp, h.stopping⟩, ?_⟩
      have hless := h.winding.left_step hdisp
      have hworks : UnloadAction.works (.dispatcher action) = action.works := rfl
      rw [hworks]
      unfold UnloadMachine.left
      dsimp only
      omega

theorem workerStep_enabled {s : DispatcherMachine} {pc : Worker} (hlive : pc ≠ .exited)
    (hwaiting : pc ≠ .waiting) (hsending : ∀ port, pc ≠ .sending port) :
    ∃ s', workerStep s pc = some s' := by
  cases pc with
  | exited => exact absurd rfl hlive
  | waiting => exact absurd rfl hwaiting
  | sending port => exact absurd rfl (hsending port)
  | consuming =>
      cases hpc : s.ring.consumer with
      | returned payload => exact ⟨_, by rw [workerStep, hpc]⟩
      | _ => exact ⟨_, by rw [workerStep, hpc, ringStep, hpc]; rfl⟩
  | snapshot bytes =>
      cases hport : s.clientPort with
      | none => exact ⟨_, by rw [workerStep, hport]⟩
      | some port => exact ⟨_, by rw [workerStep, hport]⟩
  | sendReturned status =>
      rw [workerStep]
      split
      · exact ⟨_, rfl⟩
      · split
        · exact ⟨_, rfl⟩
        · exact ⟨_, rfl⟩
  | _ => exact ⟨_, rfl⟩

/-- The worker, or `FltSendMessage` for it, can go on until the worker has exited. -/
theorem worker_enabled (s : DispatcherMachine) (hlive : s.worker ≠ .exited) :
    ∃ action s', DispatcherAction.works action = true ∧ action.ofUninitialize = false ∧
      dispatcherStep s action = some s' := by
  by_cases hwaiting : s.worker = .waiting
  · exact ⟨.wake, _, rfl, rfl, by rw [dispatcherStep, hwaiting]⟩
  · by_cases hsending : ∃ port, s.worker = .sending port
    · obtain ⟨port, hsending⟩ := hsending
      exact ⟨.sendReturns statusTimeout, _, rfl, rfl, by rw [dispatcherStep, hsending]⟩
    · obtain ⟨s', hstep⟩ := workerStep_enabled (s := s) hlive hwaiting
        fun port hport => hsending ⟨port, hport⟩
      exact ⟨.worker, s', rfl, rfl, hstep⟩

/-- Until `Uninitialize` frees the ring it can go on, or the worker for which it waits can. -/
theorem Stopping.enabled (h : Stopping n s) (hbefore : s.unload ≠ .freeRing) :
    ∃ action t, UnloadAction.works action = true ∧ KeepsRing s action ∧
      unloadMachineStep s action = some t := by
  have hstopping := h.stopping
  cases hpc : s.unload with
  | setDataReady | freeSendBuf =>
      exact ⟨.unload, _, rfl, hbefore, by rw [unloadMachineStep, unloadStep, hpc]⟩
  | waitWorker =>
      by_cases hexited : s.disp.worker = .exited
      · refine ⟨.unload, ⟨s.disp, .freeSendBuf⟩, rfl, hbefore, ?_⟩
        rw [unloadMachineStep, unloadStep, hpc]
        exact if_pos hexited
      · obtain ⟨action, disp, hworks, hown, hdisp⟩ := worker_enabled s.disp hexited
        refine ⟨.dispatcher action, ⟨disp, s.unload⟩, hworks, trivial, ?_⟩
        rw [unloadMachineStep, hown, hpc, hdisp]
        rfl
  | freeRing => exact absurd hpc hbefore
  | _ =>
      rw [hpc] at hstopping
      cases hstopping

end

/-- A bound on what is left to `n` calls, to the worker and to `Uninitialize`. -/
def uninitializeBound (n : ℕ) : ℕ := (6 * n ^ 2 + 35 * n) * 524800 + 524322

/-- **`Uninitialize` returns.**  Once it has set the stop event, whatever the calls that passed the
`m_active` check, the clients and `FltSendMessage` do meanwhile: it, those calls and the worker take
a bounded number of steps before it comes to free the ring, and until then it or the worker can take
a step. -/
theorem uninitialize_returns (outside : Memory) (freq : UINT64) {s : UnloadMachine}
    (run : Run unloadMachineStep KeepsRing (UnloadMachine.init outside freq) s)
    (hstop : s.unload.stopping = true) :
    (∀ actions t, Allowed unloadMachineStep KeepsRing s actions →
      steps unloadMachineStep s actions = some t →
      actions.countP UnloadAction.works ≤ uninitializeBound s.disp.passed) ∧
    ∀ t, Run unloadMachineStep KeepsRing s t → t.unload ≠ .freeRing →
      ∃ action u, UnloadAction.works action = true ∧ KeepsRing t action ∧
        unloadMachineStep t action = some u := by
  have hbegun : Begun s := run.invariant (begun_init outside freq)
    fun _ _ _ h hkeeps hstep => h.step hkeeps hstep
  have hstopping : Stopping s.disp.passed s := ⟨hbegun.winding hstop, hstop⟩
  constructor
  · intro actions t hallowed hsteps
    have hwork := @work_le_rank _ _ unloadMachineStep KeepsRing UnloadAction.works
      (UnloadMachine.left s.disp.passed) (Stopping s.disp.passed)
      (fun _ _ _ h hkeeps hstep => h.step hkeeps hstep) actions _ _ hstopping hallowed hsteps
    have hbound := hbegun.left_le
    unfold uninitializeBound
    omega
  · intro t hmore hbefore
    have hinv : Stopping s.disp.passed t := hmore.invariant hstopping
      fun _ _ _ h hkeeps hstep => (h.step hkeeps hstep).1
    exact hinv.enabled hbefore

/-- A driver that is unloaded while a call is in the claim loop; another call is refused. -/
private def stoppedInLoop : List UnloadAction :=
  [.dispatcher (.enqueue (.serialized (twoHundredBytes 3))), .dispatcher (.enqueuer 0),
    .dispatcher (.producer 0), .dispatcher (.producer 0), .unload, .unload, .unload,
    .dispatcher (.enqueue .noBuffer)]

theorem uninitialize_returns_inLoop : ∃ s : UnloadMachine,
    s.unload = .setDataReady ∧ s.disp.calls = 2 ∧ s.disp.passed = 1 ∧
      ∀ actions t, Allowed unloadMachineStep KeepsRing s actions →
        steps unloadMachineStep s actions = some t →
        actions.countP UnloadAction.works ≤ uninitializeBound 1 := by
  have hfacts : (steps unloadMachineStep (UnloadMachine.init (fun _ => 0) 10000000)
      stoppedInLoop).map (fun s => (s.unload, s.disp.calls, s.disp.passed)) =
        some (.setDataReady, 2, 1) := by
    decide +kernel
  obtain ⟨s, hs, hfacts⟩ := Option.map_eq_some_iff.mp hfacts
  simp only [Prod.mk.injEq] at hfacts
  obtain ⟨hunload, hcalls, hpassed⟩ := hfacts
  have hbound := (uninitialize_returns (fun _ => 0) 10000000
    (run_of_steps (by decide +kernel) hs) (by rw [hunload]; rfl)).1
  rw [hpassed] at hbound
  exact ⟨s, hunload, hcalls, hpassed, hbound⟩

end Kawin.Driver
