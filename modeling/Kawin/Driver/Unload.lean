import Kawin.Driver.DispatcherMachine
import Kawin.Driver.ClaimTiling

/-!
# Unloading the driver

`InstanceFilterUnloadCallback` calls `Uninitialize` first and `FltUnregisterFilter` last.
`Uninitialize` clears `m_active`, wakes the worker, waits for its thread and frees the ring.
Nothing in it waits for the `Enqueue` calls that have passed the `m_active` check; the Filter
Manager waits for the callbacks that make them, but only in `FltUnregisterFilter`, after the
ring is gone.

`DrainedAtFree` is the condition that makes up for it: when the ring is freed, every call
that passed the check is through with it.  `UsesOk` keeps that: no call passes the check
afterwards.
-/

namespace Kawin.Driver

open ByteMemory Transition

/-! ## The unload callback -/

/-- What `InstanceFilterUnloadCallback` is about to do. -/
inductive Unload
  | notCalled
  | clearActive
  | setStopEvent
  | setDataReady
  /-- waiting for the worker thread -/
  | waitWorker
  | freeSendBuf
  | freeRing
  | closeClientPort
  | closeServerPort
  | unregisterFilter
  | unloaded
  deriving DecidableEq, Repr

/-- `m_active` has been cleared. -/
def Unload.deactivated : Unload → Bool
  | .notCalled | .clearActive => false
  | _ => true

/-- The ring has been freed. -/
def Unload.ringFreed : Unload → Bool
  | .closeClientPort | .closeServerPort | .unregisterFilter | .unloaded => true
  | _ => false

structure UnloadMachine where
  disp : DispatcherMachine
  unload : Unload

/-- The dispatcher after `Initialize`, with the driver loaded. -/
def UnloadMachine.init (outside : Memory) (freq : UINT64) : UnloadMachine :=
  ⟨DispatcherMachine.init outside freq, .notCalled⟩

/-- The call has not begun or has returned. -/
def DispatcherMachine.callReturned (s : DispatcherMachine) (i : ℕ) : Bool :=
  match s.enqueuers i, s.ring.producers i with
  | .outside, .idle | .outside, .returned => true
  | _, _ => false

/-- The next step of the unload callback. -/
def unloadStep (s : UnloadMachine) : Option UnloadMachine :=
  let d := s.disp
  match s.unload with
  | .notCalled => some ⟨d, .clearActive⟩
  | .clearActive => some ⟨{ d with active := false }, .setStopEvent⟩
  | .setStopEvent => some ⟨{ d with stopEvent := true }, .setDataReady⟩
  | .setDataReady => some ⟨d, .waitWorker⟩
  | .waitWorker => if d.worker = .exited then some ⟨d, .freeSendBuf⟩ else none
  | .freeSendBuf => some ⟨d, .freeRing⟩
  | .freeRing => some ⟨d, .closeClientPort⟩
  | .closeClientPort =>
      some ⟨{ d with closed := d.scannerPort.toList ++ d.closed, scannerPort := none },
        .closeServerPort⟩
  | .closeServerPort => some ⟨d, .unregisterFilter⟩
  | .unregisterFilter =>
      -- the Filter Manager waits for the callbacks that are still running
      if ∀ i < d.calls, d.callReturned i then some ⟨d, .unloaded⟩ else none
  | .unloaded => none

inductive UnloadAction
  | dispatcher (action : DispatcherAction)
  | unload

/-- A step of `Uninitialize`, which is the unload callback's to take. -/
def DispatcherAction.ofUninitialize : DispatcherAction → Bool
  | .deactivate | .stop => true
  | _ => false

/-- The dispatcher runs on beside the unload callback, until the driver is unloaded. -/
def unloadMachineStep (s : UnloadMachine) : UnloadAction → Option UnloadMachine
  | .unload => unloadStep s
  | .dispatcher action =>
      if action.ofUninitialize || s.unload = .unloaded then none
      else (dispatcherStep s.disp action).map fun d => ⟨d, s.unload⟩

/-! ## The law and the condition -/

/-- The next step of the call reads or writes the ring. -/
def Producer.touchesRing : Producer → Bool
  | .mark _ | .store _ (_ :: _) | .storeSeq _ _ | .copyPayload _ | .commit _ => true
  | _ => false

/-- The call has the ring behind it, or never comes to it. -/
def Producer.pastRing : Producer → Bool
  | .idle | .countDropped | .countEnqueued | .returned => true
  | _ => false

def Enqueuer.pastRing : Enqueuer → Bool
  | .prepare (.serialized _) => false
  | _ => true

def DispatcherMachine.callPastRing (s : DispatcherMachine) (i : ℕ) : Bool :=
  (s.enqueuers i).pastRing && (s.ring.producers i).pastRing

/-- Once the ring is freed, no call is about to touch it, and every call that passed the
`m_active` check has finished its commit or gone without one. -/
structure UnloadSafe (s : UnloadMachine) : Prop where
  untouched : s.unload.ringFreed → ∀ i, (s.disp.ring.producers i).touchesRing = false
  finished : s.unload.ringFreed → ∀ i, s.disp.callPastRing i

/-- The ring is freed only when every call that passed the `m_active` check is through with it. -/
def DrainedAtFree (s : UnloadMachine) : UnloadAction → Prop
  | .unload => s.unload = .freeRing → ∀ i < s.disp.calls, s.disp.callPastRing i
  | _ => True

instance (s : UnloadMachine) (action : UnloadAction) : Decidable (DrainedAtFree s action) := by
  cases action <;> (unfold DrainedAtFree; infer_instance)

/-! ## What a step does to the calls -/

section

variable {s s' : DispatcherMachine}

/-- The calls stay where they are. -/
structure SameCalls (s s' : DispatcherMachine) : Prop where
  active : s'.active = s.active
  calls : s'.calls = s.calls
  passed : s'.passed = s.passed
  enqueuers : s'.enqueuers = s.enqueuers
  producers : s'.ring.producers = s.ring.producers

theorem workerStep_sameCalls {pc : Worker} (hstep : workerStep s pc = some s') :
    SameCalls s s' := by
  cases pc with
  | waiting | sending | exited => cases hstep
  | consuming =>
      rcases workerStep_consuming hstep with ⟨_, _, rfl⟩ | ⟨ring, hring, rfl⟩
      · exact ⟨rfl, rfl, rfl, rfl, rfl⟩
      · exact ⟨rfl, rfl, rfl, rfl, (consumerStep_sameClaims hring).producers⟩
  | snapshot =>
      rcases workerStep_snapshot hstep with ⟨_, rfl⟩ | ⟨_, _, rfl⟩
      · exact ⟨rfl, rfl, rfl, rfl, rfl⟩
      · exact ⟨rfl, rfl, rfl, rfl, rfl⟩
  | sendReturned =>
      rcases workerStep_sendReturned hstep with rfl | rfl <;> exact ⟨rfl, rfl, rfl, rfl, rfl⟩
  | _ =>
      cases hstep
      exact ⟨rfl, rfl, rfl, rfl, rfl⟩

theorem linkStep_sameCalls {pc : Link} (hstep : linkStep s pc = some s') : SameCalls s s' := by
  cases pc with
  | disconnected | connected => cases hstep
  | _ =>
      cases hstep
      exact ⟨rfl, rfl, rfl, rfl, rfl⟩

/-- Only the calls themselves move calls. -/
theorem dispatcherStep_sameCalls {action : DispatcherAction}
    (henqueue : ∀ request, action ≠ .enqueue request) (henqueuer : ∀ i, action ≠ .enqueuer i)
    (hproducer : ∀ i, action ≠ .producer i) (hactive : action ≠ .deactivate)
    (hstep : dispatcherStep s action = some s') : SameCalls s s' := by
  cases action with
  | tick | stop => cases hstep; exact ⟨rfl, rfl, rfl, rfl, rfl⟩
  | enqueue request => exact absurd rfl (henqueue request)
  | enqueuer i => exact absurd rfl (henqueuer i)
  | producer i => exact absurd rfl (hproducer i)
  | deactivate => exact absurd rfl hactive
  | worker => exact workerStep_sameCalls hstep
  | link => exact linkStep_sameCalls hstep
  | wake =>
      obtain ⟨_, rfl⟩ := dispatcherStep_wake hstep
      exact ⟨rfl, rfl, rfl, rfl, rfl⟩
  | sendReturns status =>
      obtain ⟨_, rfl⟩ := dispatcherStep_sendReturns hstep
      exact ⟨rfl, rfl, rfl, rfl, rfl⟩
  | connect port =>
      obtain ⟨_, _, rfl⟩ := dispatcherStep_connect hstep
      exact ⟨rfl, rfl, rfl, rfl, rfl⟩
  | disconnect =>
      obtain ⟨_, rfl⟩ := dispatcherStep_disconnect hstep
      exact ⟨rfl, rfl, rfl, rfl, rfl⟩

/-- A call that is past the ring stays past it. -/
theorem producerStep_pastRing {s s' : RingMachine} {i : ℕ} {pc : Producer} (hpast : pc.pastRing)
    (hstep : producerStep s i pc = some s') : (s'.producers i).pastRing := by
  cases pc with
  | idle | returned => cases hstep
  | countDropped | countEnqueued =>
      cases hstep
      have hself : (s.goto i .returned).producers i = .returned := RingMachine.goto_self
      exact (congrArg Producer.pastRing hself).trans rfl
  | _ => cases hpast

end

/-! ## The invariant -/

structure UsesOk (s : UnloadMachine) : Prop where
  fresh : ∀ i, s.disp.calls ≤ i → s.disp.enqueuers i = .outside ∧ s.disp.ring.producers i = .idle
  inactive : s.unload.deactivated → s.disp.active = false
  past : s.unload.ringFreed → ∀ i, s.disp.callPastRing i

theorem Unload.deactivated_of_ringFreed {u : Unload} (h : u.ringFreed) : u.deactivated := by
  cases u <;> simp_all [Unload.ringFreed, Unload.deactivated]

theorem init_usesOk (outside : Memory) (freq : UINT64) :
    UsesOk (UnloadMachine.init outside freq) where
  fresh := fun _ _ => ⟨rfl, rfl⟩
  inactive := fun h => nomatch h
  past := fun h => nomatch h

section

variable {s s' : UnloadMachine} {d : DispatcherMachine} {i : ℕ}

theorem UsesOk.sameCalls (h : UsesOk s) (hsame : SameCalls s.disp d) : UsesOk ⟨d, s.unload⟩ where
  fresh := by
    rw [hsame.calls, hsame.enqueuers, hsame.producers]
    exact h.fresh
  inactive := by
    rw [hsame.active]
    exact h.inactive
  past := by
    unfold DispatcherMachine.callPastRing
    rw [hsame.enqueuers, hsame.producers]
    exact h.past

/-- After the ring is freed no call passes the `m_active` check. -/
theorem UsesOk.enqueue (h : UsesOk s) (request : Request) :
    UsesOk ⟨enqueueStep s.disp request, s.unload⟩ := by
  unfold enqueueStep
  split
  · rename_i hactive
    refine ⟨fun i hi => ?_, h.inactive, fun hfreed => ?_⟩
    · have hlt : s.disp.calls + 1 ≤ i := hi
      obtain ⟨henqueuer, hproducer⟩ := h.fresh i (by omega)
      exact ⟨(Function.update_of_ne (by omega) ..).trans henqueuer, hproducer⟩
    -- the ring is freed only after `m_active` was cleared
    · have hinactive := h.inactive (Unload.deactivated_of_ringFreed hfreed)
      rw [hinactive] at hactive
      cases hactive
  · exact ⟨fun i hi => h.fresh i ((Nat.le_succ _).trans hi), h.inactive, h.past⟩

theorem UsesOk.enqueuer (h : UsesOk s)
    (hstep : enqueuerStep s.disp i (s.disp.enqueuers i) = some d) : UsesOk ⟨d, s.unload⟩ := by
  -- a call past its own `Buffer` and serialization leaves `Enqueue`
  have hleaves : ∀ ring, (∀ j, j ≠ i → ring.producers j = s.disp.ring.producers j) →
      (s.unload.ringFreed → (ring.producers i).pastRing) →
      s.disp.enqueuers i ≠ .outside →
      UsesOk ⟨{ s.disp.enqueuerGoto i .outside with ring := ring }, s.unload⟩ := by
    intro ring hothers hself hinside
    refine ⟨fun j hj => ?_, h.inactive, fun hfreed j => ?_⟩
    · obtain ⟨henqueuer, hproducer⟩ := h.fresh j hj
      have hji : j ≠ i := by
        rintro rfl
        exact hinside henqueuer
      exact ⟨(Function.update_of_ne hji ..).trans henqueuer, (hothers j hji).trans hproducer⟩
    · have hpast := h.past hfreed j
      unfold DispatcherMachine.callPastRing at hpast ⊢
      rw [Bool.and_eq_true] at hpast ⊢
      by_cases hji : j = i
      · subst hji
        refine ⟨?_, hself hfreed⟩
        simp [DispatcherMachine.enqueuerGoto, Enqueuer.pastRing]
      · simp only [DispatcherMachine.enqueuerGoto, Function.update_of_ne hji, hothers j hji]
        exact hpast
  rcases enqueuerStep_cases hstep with ⟨request, hpc, rfl⟩ | ⟨event, hpc, _, rfl⟩
  · refine hleaves _ (fun _ _ => rfl) (fun hfreed => ?_) (by simp [hpc])
    exact (Bool.and_eq_true_iff.mp (h.past hfreed i)).2
  · refine hleaves _ (fun j hj => RingMachine.goto_of_ne hj) (fun hfreed => ?_) (by simp [hpc])
    -- a call with a serialised event has the ring before it
    have hpast := (Bool.and_eq_true_iff.mp (h.past hfreed i)).1
    rw [hpc] at hpast
    cases hpast

theorem UsesOk.producer (h : UsesOk s) {ring : RingMachine}
    (hstep : ringStep s.disp.ring (.producer i) = some ring) :
    UsesOk ⟨{ s.disp with ring := ring }, s.unload⟩ := by
  refine ⟨fun j hj => ?_, h.inactive, fun hfreed j => ?_⟩
  · obtain ⟨henqueuer, hproducer⟩ := h.fresh j hj
    refine ⟨henqueuer, ?_⟩
    by_cases hji : j = i
    · rw [ringStep, ← hji, hproducer] at hstep
      cases hstep
    · exact (producers_of_ne hstep hji).trans hproducer
  · have hpast := h.past hfreed j
    unfold DispatcherMachine.callPastRing at hpast ⊢
    rw [Bool.and_eq_true] at hpast ⊢
    refine ⟨hpast.1, ?_⟩
    by_cases hji : j = i
    · subst hji
      exact producerStep_pastRing hpast.2 hstep
    · show (ring.producers j).pastRing = true
      rw [producers_of_ne hstep hji]
      exact hpast.2

/-- The unload callback's own steps. -/
theorem UsesOk.unload (h : UsesOk s) (hdrained : DrainedAtFree s .unload)
    (hstep : unloadStep s = some s') : UsesOk s' := by
  obtain ⟨disp, unload⟩ := s
  cases unload with
  | notCalled =>
      cases hstep
      exact ⟨h.fresh, (fun hdeactivated => nomatch hdeactivated), fun hfreed => nomatch hfreed⟩
  | clearActive =>
      cases hstep
      exact ⟨h.fresh, fun _ => rfl, fun hfreed => nomatch hfreed⟩
  | setStopEvent | setDataReady | freeSendBuf =>
      cases hstep
      exact ⟨h.fresh, h.inactive, fun hfreed => nomatch hfreed⟩
  | waitWorker =>
      simp only [unloadStep] at hstep
      split at hstep <;> cases hstep
      exact ⟨h.fresh, h.inactive, fun hfreed => nomatch hfreed⟩
  | freeRing =>
      cases hstep
      refine ⟨h.fresh, h.inactive, fun _ i => ?_⟩
      rcases Nat.lt_or_ge i disp.calls with hlt | hge
      · exact hdrained rfl i hlt
      · obtain ⟨henqueuer, hproducer⟩ := h.fresh i hge
        rw [DispatcherMachine.callPastRing, henqueuer, hproducer]
        rfl
  | closeClientPort | closeServerPort =>
      cases hstep
      exact ⟨h.fresh, h.inactive, h.past⟩
  | unregisterFilter =>
      simp only [unloadStep] at hstep
      split at hstep <;> cases hstep
      exact ⟨h.fresh, h.inactive, h.past⟩
  | unloaded => cases hstep

/-- **Step lemma.** -/
theorem UsesOk.step (h : UsesOk s) {action : UnloadAction} (hdrained : DrainedAtFree s action)
    (hstep : unloadMachineStep s action = some s') : UsesOk s' := by
  cases action with
  | unload => exact h.unload hdrained hstep
  | dispatcher action =>
      rw [unloadMachineStep] at hstep
      split at hstep
      · cases hstep
      · rename_i hallowed
        obtain ⟨d, hd, rfl⟩ := Option.map_eq_some_iff.mp hstep
        cases action with
        | deactivate => exact absurd rfl hallowed
        | enqueue request =>
            cases hd
            exact h.enqueue request
        | enqueuer i => exact h.enqueuer hd
        | producer i =>
            obtain ⟨ring, hring, rfl⟩ := Option.map_eq_some_iff.mp hd
            exact h.producer hring
        | _ =>
            exact h.sameCalls (dispatcherStep_sameCalls (by simp) (by simp) (by simp) (by simp) hd)

end

theorem Producer.touchesRing_of_pastRing {pc : Producer} (h : pc.pastRing) :
    pc.touchesRing = false := by
  cases pc <;> first | rfl | cases h

/-- **Unload safety.**  If every call that passed the `m_active` check is through with the ring
whenever it is freed, no call touches freed memory. -/
theorem unloadSafe_of_drainedAtFree (outside : Memory) (freq : UINT64) (s : UnloadMachine)
    (run : Run unloadMachineStep DrainedAtFree (UnloadMachine.init outside freq) s) :
    UnloadSafe s := by
  have huses : UsesOk s := run.invariant (init_usesOk outside freq)
    fun _ _ _ h hdrained hstep => h.step hdrained hstep
  refine ⟨fun hfreed i => ?_, huses.past⟩
  exact Producer.touchesRing_of_pastRing (Bool.and_eq_true_iff.mp (huses.past hfreed i)).2

/-- The unload callback up to the end of `Uninitialize`, around the last steps of the worker. -/
private def uninitialize (workerSteps : ℕ) : List UnloadAction :=
  List.replicate 4 UnloadAction.unload ++ [UnloadAction.dispatcher .wake] ++
    List.replicate workerSteps (UnloadAction.dispatcher .worker) ++
    List.replicate 3 UnloadAction.unload

/-- A call that has committed its event, but not returned, when the ring is freed. -/
theorem unloadSafe_after_commit : ∃ s, steps unloadMachineStep
    (UnloadMachine.init (fun _ => 0) 10000000)
    ([.dispatcher (.enqueue (.serialized (hundredBytes 7))), .dispatcher (.enqueuer 0)] ++
      List.replicate 16 (.dispatcher (.producer 0)) ++ uninitialize 13) = some s ∧
    s.unload.ringFreed ∧ ¬ s.disp.callReturned 0 ∧ UnloadSafe s := by
  have hfacts : (steps unloadMachineStep (UnloadMachine.init (fun _ => 0) 10000000)
      ([.dispatcher (.enqueue (.serialized (hundredBytes 7))), .dispatcher (.enqueuer 0)] ++
        List.replicate 16 (.dispatcher (.producer 0)) ++ uninitialize 13)).map
      (fun s => (s.unload.ringFreed, s.disp.callReturned 0)) = some (true, false) := by
    decide +kernel
  obtain ⟨s, hs, hfacts⟩ := Option.map_eq_some_iff.mp hfacts
  obtain ⟨hfreed, hreturned⟩ := Prod.mk.injEq .. ▸ hfacts
  exact ⟨s, hs, hfreed, by simp [hreturned], unloadSafe_of_drainedAtFree (fun _ => 0) 10000000 s
    (run_of_steps (by decide +kernel) hs)⟩

/-- A call passes the `m_active` check, and the ring is freed before it claims a slot. -/
theorem uses_freed_ring : ¬ ∀ s : UnloadMachine,
    Reaches unloadMachineStep (UnloadMachine.init (fun _ => 0) 10000000) s → UnloadSafe s := by
  intro hsafe
  have hfacts : (steps unloadMachineStep (UnloadMachine.init (fun _ => 0) 10000000)
      ([.dispatcher (.enqueue (.serialized (hundredBytes 7))), .dispatcher (.enqueuer 0)] ++
        uninitialize 3 ++ List.replicate 4 (.dispatcher (.producer 0)))).map
      (fun s => (s.unload.ringFreed, (s.disp.ring.producers 0).touchesRing)) =
      some (true, true) := by decide +kernel
  obtain ⟨s, hs, hfacts⟩ := Option.map_eq_some_iff.mp hfacts
  obtain ⟨hfreed, htouches⟩ := Prod.mk.injEq .. ▸ hfacts
  have huntouched := (hsafe s (reaches_of_steps hs)).untouched hfreed 0
  rw [htouches] at huntouched
  cases huntouched

end Kawin.Driver
