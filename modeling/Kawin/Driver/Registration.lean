import Kawin.Base.Transition
import Mathlib.Data.Nat.Notation
import Mathlib.Logic.Function.Basic

/-!
# Registering the filter

`RegisterFilter` creates the communication port, starts filtering, and only then calls
`AsyncEventDispatcher::Initialize`.  From the first of these steps on a client may connect,
from the second on file-system callbacks run, and both call into the dispatcher.

`Enqueue` is safe at any time: its first act is the test of `m_active`, which `Initialize`
sets last.  `OnClientConnected` tests nothing.  It acquires `m_portLock` and signals
`m_dataReady` whether `Initialize` has come to them or not, and `Initialize` may then
initialise the lock while it is held.

`ConnectsAfterInit` is the condition on the client that excludes this.
-/

namespace Kawin.Driver

open Transition

/-! ## The parties -/

/-- What `RegisterFilter`, and `Initialize` inside it, is about to do. -/
inductive Registration
  | registerFilter
  | buildDescriptor
  | createPort
  | startFiltering
  /-- `Initialize`, up to `m_filter = filter` -/
  | setFilter
  | initPortLock
  | initDataReady
  | initStopEvent
  | queryFrequency
  | allocRing
  | allocSendBuf
  | createThread
  | referenceThread
  | setActive
  | setInitialized
  /-- the failure exits -/
  | closePort
  | unregister
  | returned
  deriving DecidableEq, Repr

/-- Where the port callbacks stand. -/
inductive PortCallback
  | disconnected
  /-- in `ScannerPortConnect`, about to call `OnClientConnected` -/
  | connecting
  /-- in `OnClientConnected`, about to acquire `m_portLock` -/
  | connectAcquire
  /-- holding it -/
  | connectStore
  /-- about to signal `m_dataReady` -/
  | connectSignal
  | connected
  /-- in `OnClientDisconnected`, about to acquire `m_portLock` -/
  | disconnectAcquire
  | disconnectStore
  /-- about to call `FltCloseClientPort` -/
  | closing
  deriving DecidableEq, Repr

/-- Where an `Enqueue` call of a file-system callback stands. -/
inductive EnqueueCall
  | outside
  /-- about to test `m_active` -/
  | checkActive
  /-- past the test -/
  | producing
  deriving DecidableEq, Repr

/-- Where the worker thread stands, as far as it uses `m_portLock`. -/
inductive WorkerThread
  | notStarted
  | running
  /-- in `WorkerLoop` or `SendOne`, about to acquire `m_portLock` -/
  | acquire
  | holding
  deriving DecidableEq, Repr

structure RegistrationMachine where
  registration : Registration
  /-- `KeInitializeSpinLock(&m_portLock)` has run -/
  lockInitialized : Bool
  lockHeld : Bool
  /-- `KeInitializeEvent(&m_dataReady, ..)` has run -/
  dataReadyInitialized : Bool
  active : Bool
  /-- clients may connect -/
  portOpen : Bool
  /-- file-system callbacks may run -/
  filtering : Bool
  link : PortCallback
  enqueues : ℕ → EnqueueCall
  worker : WorkerThread

/-- The zero-initialised `g_AsyncDispatcher` before `RegisterFilter`. -/
def RegistrationMachine.init : RegistrationMachine where
  registration := .registerFilter
  lockInitialized := false
  lockHeld := false
  dataReadyInitialized := false
  active := false
  portOpen := false
  filtering := false
  link := .disconnected
  enqueues := fun _ => .outside
  worker := .notStarted

/-! ## Steps -/

/-- The next step of `RegisterFilter`; `ok` is whether the call it makes succeeds. -/
def registrationStep (s : RegistrationMachine) (ok : Bool) :
    Registration → Option RegistrationMachine
  | .registerFilter =>
      some { s with registration := if ok then .buildDescriptor else .returned }
  | .buildDescriptor => some { s with registration := if ok then .createPort else .unregister }
  | .createPort =>
      some { s with
        portOpen := ok
        registration := if ok then .startFiltering else .unregister }
  | .startFiltering =>
      some { s with
        filtering := ok
        registration := if ok then .setFilter else .closePort }
  | .setFilter => some { s with registration := .initPortLock }
  -- initialising a spin lock leaves it free
  | .initPortLock =>
      some { s with lockInitialized := true, lockHeld := false, registration := .initDataReady }
  | .initDataReady => some { s with dataReadyInitialized := true, registration := .initStopEvent }
  | .initStopEvent => some { s with registration := .queryFrequency }
  | .queryFrequency => some { s with registration := .allocRing }
  | .allocRing => some { s with registration := if ok then .allocSendBuf else .closePort }
  | .allocSendBuf => some { s with registration := if ok then .createThread else .closePort }
  | .createThread =>
      some { s with
        worker := if ok then .running else s.worker
        registration := if ok then .referenceThread else .closePort }
  | .referenceThread => some { s with registration := .setActive }
  | .setActive => some { s with active := true, registration := .setInitialized }
  | .setInitialized => some { s with registration := .returned }
  | .closePort => some { s with portOpen := false, registration := .unregister }
  | .unregister => some { s with filtering := false, registration := .returned }
  | .returned => none

/-- The next step of a port callback.  A lock that is held is waited for. -/
def portCallbackStep (s : RegistrationMachine) : PortCallback → Option RegistrationMachine
  | .disconnected | .connected => none
  | .connecting => some { s with link := .connectAcquire }
  | .connectAcquire =>
      if s.lockHeld then none else some { s with lockHeld := true, link := .connectStore }
  | .connectStore => some { s with lockHeld := false, link := .connectSignal }
  | .connectSignal => some { s with link := .connected }
  | .disconnectAcquire =>
      if s.lockHeld then none else some { s with lockHeld := true, link := .disconnectStore }
  | .disconnectStore => some { s with lockHeld := false, link := .closing }
  | .closing => some { s with link := .disconnected }

/-- The next step of an `Enqueue` call.  Past the `m_active` test it returns without a signal
(the `Buffer` or the serialisation failed) or through one of the exits of `ProduceSlot`, all
of which signal `m_dataReady`. -/
def enqueueCallStep (s : RegistrationMachine) (i : ℕ) : EnqueueCall → Option RegistrationMachine
  | .outside => none
  | .checkActive =>
      some { s with enqueues :=
        Function.update s.enqueues i (if s.active then .producing else .outside) }
  | .producing => some { s with enqueues := Function.update s.enqueues i .outside }

def workerThreadStep (s : RegistrationMachine) : WorkerThread → Option RegistrationMachine
  | .notStarted => none
  | .running => some { s with worker := .acquire }
  | .acquire => if s.lockHeld then none else some { s with lockHeld := true, worker := .holding }
  | .holding => some { s with lockHeld := false, worker := .running }

inductive RegistrationAction
  | register (ok : Bool)
  | connect
  | disconnect
  | link
  /-- a file-system callback calls `Enqueue` -/
  | enqueue (i : ℕ)
  | enqueueStep (i : ℕ)
  | worker

def registrationMachineStep (s : RegistrationMachine) :
    RegistrationAction → Option RegistrationMachine
  | .register ok => registrationStep s ok s.registration
  | .connect =>
      if s.portOpen ∧ s.link = .disconnected then some { s with link := .connecting } else none
  | .disconnect =>
      if s.link = .connected then some { s with link := .disconnectAcquire } else none
  | .link => portCallbackStep s s.link
  | .enqueue i =>
      if s.filtering ∧ s.enqueues i = .outside then
        some { s with enqueues := Function.update s.enqueues i .checkActive }
      else none
  | .enqueueStep i => enqueueCallStep s i (s.enqueues i)
  | .worker => workerThreadStep s s.worker

/-! ## The law and the condition -/

/-- The step acquires `m_portLock`. -/
def AcquiresLock (s : RegistrationMachine) : RegistrationAction → Prop
  | .link => s.link = .connectAcquire ∨ s.link = .disconnectAcquire
  | .worker => s.worker = .acquire
  | _ => False

/-- The step may signal `m_dataReady`. -/
def SignalsDataReady (s : RegistrationMachine) : RegistrationAction → Prop
  | .link => s.link = .connectSignal
  | .enqueueStep i => s.enqueues i = .producing
  | _ => False

/-- No step uses what is not initialised, and the lock is not initialised while it is held. -/
structure InitOrder (s : RegistrationMachine) (action : RegistrationAction) : Prop where
  lock : AcquiresLock s action → s.lockInitialized
  dataReady : SignalsDataReady s action → s.dataReadyInitialized
  notHeld : ∀ ok, action = .register ok → s.registration = .initPortLock → s.lockHeld = false

/-- A connecting client gets to `OnClientConnected` only once `Initialize` has initialised
`m_portLock` and `m_dataReady`. -/
def ConnectsAfterInit (s : RegistrationMachine) : RegistrationAction → Prop
  | .link => s.link = .connecting → s.lockInitialized ∧ s.dataReadyInitialized
  | _ => True

instance (s : RegistrationMachine) (action : RegistrationAction) :
    Decidable (ConnectsAfterInit s action) := by
  cases action <;> (unfold ConnectsAfterInit; infer_instance)

/-! ## The invariant -/

/-- The stages after both have been initialised and before any exit. -/
def Registration.initialized : Registration → Bool
  | .initStopEvent | .queryFrequency | .allocRing | .allocSendBuf | .createThread
  | .referenceThread | .setActive | .setInitialized => true
  | _ => false

/-- The stages before the lock is initialised. -/
def Registration.early : Registration → Bool
  | .registerFilter | .buildDescriptor | .createPort | .startFiltering | .setFilter
  | .initPortLock => true
  | _ => false

/-- The port callback is, or has been, inside `OnClientConnected`. -/
def PortCallback.entered : PortCallback → Bool
  | .disconnected | .connecting => false
  | _ => true

/-- Whoever is past the point where `Initialize` lets it in finds the lock and the event
initialised. -/
structure InitOk (s : RegistrationMachine) : Prop where
  stage : s.registration.initialized → s.lockInitialized ∧ s.dataReadyInitialized
  locked : s.registration = .initDataReady → s.lockInitialized
  early : s.registration.early → s.lockInitialized = false
  held : s.lockHeld → s.lockInitialized
  link : s.link.entered → s.lockInitialized ∧ s.dataReadyInitialized
  active : s.active → s.dataReadyInitialized
  enqueues : ∀ i, s.enqueues i = .producing → s.dataReadyInitialized
  worker : s.worker ≠ .notStarted → s.lockInitialized

theorem init_initOk : InitOk RegistrationMachine.init where
  stage := fun h => nomatch h
  locked := fun h => nomatch h
  early := fun _ => rfl
  held := fun h => nomatch h
  link := fun h => nomatch h
  active := fun h => nomatch h
  enqueues := fun _ h => nomatch h
  worker := fun h => absurd rfl h

section

variable {s s' : RegistrationMachine}

/-- A step of `RegisterFilter` that touches no member of the dispatcher. -/
theorem InitOk.goto (h : InitOk s) {pc : Registration} {portOpen filtering : Bool}
    (hstage : pc.initialized → s.registration.initialized) (hlocked : pc ≠ .initDataReady)
    (hearly : pc.early → s.registration.early) :
    InitOk { s with registration := pc, portOpen := portOpen, filtering := filtering } :=
  { h with
    stage := fun hpc => h.stage (hstage hpc)
    locked := fun hpc => absurd hpc hlocked
    early := fun hpc => h.early (hearly hpc) }

theorem InitOk.register (h : InitOk s) {ok : Bool} {pc : Registration}
    (hpc : s.registration = pc) (hstep : registrationStep s ok pc = some s') : InitOk s' := by
  cases pc with
  | initPortLock =>
      cases hstep
      exact { h with
        stage := fun hstage => nomatch hstage
        locked := fun _ => rfl
        early := fun hearly => nomatch hearly
        held := fun hheld => nomatch hheld
        link := fun hentered => ⟨rfl, (h.link hentered).2⟩
        worker := fun _ => rfl }
  | initDataReady =>
      cases hstep
      have hlocked := h.locked hpc
      exact {
        stage := fun _ => ⟨hlocked, rfl⟩
        locked := fun hlater => nomatch hlater
        early := fun hearly => nomatch hearly
        held := fun _ => hlocked
        link := fun _ => ⟨hlocked, rfl⟩
        active := fun _ => rfl
        enqueues := fun _ _ => rfl
        worker := fun _ => hlocked }
  | createThread =>
      have hstage := h.stage (by rw [hpc]; rfl)
      cases hstep
      cases ok with
      | false =>
          exact h.goto (fun hstage => nomatch hstage) (by decide) fun hearly => nomatch hearly
      | true =>
          -- the worker starts with the lock initialised
          exact { h with
            stage := fun _ => hstage
            locked := fun hlater => nomatch hlater
            early := fun hearly => nomatch hearly
            worker := fun _ => hstage.1 }
  | setActive =>
      have hstage := h.stage (by rw [hpc]; rfl)
      cases hstep
      -- from here on `Enqueue` passes its test, with the event initialised
      exact { h with
        stage := fun _ => hstage
        locked := fun hlater => nomatch hlater
        early := fun hearly => nomatch hearly
        active := fun _ => hstage.2 }
  | returned => cases hstep
  | _ =>
      cases hstep
      exact h.goto (by rw [hpc]; cases ok <;> decide) (by cases ok <;> decide)
        (by rw [hpc]; cases ok <;> decide)

theorem InitOk.portCallback (h : InitOk s) {pc : PortCallback} (hpc : s.link = pc)
    (hready : pc = .connecting → s.lockInitialized ∧ s.dataReadyInitialized)
    (hstep : portCallbackStep s pc = some s') : InitOk s' := by
  -- the next stage is inside `OnClientConnected` only where this one is, or on time
  have hnext : ∀ (next : PortCallback) (lockHeld : Bool),
      (next.entered → s.lockInitialized ∧ s.dataReadyInitialized) →
      (lockHeld → s.lockInitialized) →
      InitOk { s with lockHeld := lockHeld, link := next } :=
    fun _ _ hlink hheld => { h with held := hheld, link := hlink }
  cases pc with
  | disconnected | connected => cases hstep
  | connecting =>
      cases hstep
      exact hnext _ _ (fun _ => hready rfl) h.held
  | connectAcquire | disconnectAcquire =>
      have hentered := h.link (by rw [hpc]; rfl)
      rw [portCallbackStep] at hstep
      split at hstep <;> cases hstep
      exact hnext _ _ (fun _ => hentered) fun _ => hentered.1
  | connectStore | disconnectStore =>
      have hentered := h.link (by rw [hpc]; rfl)
      cases hstep
      exact hnext _ _ (fun _ => hentered) fun hheld => nomatch hheld
  | connectSignal =>
      have hentered := h.link (by rw [hpc]; rfl)
      cases hstep
      exact hnext _ _ (fun _ => hentered) h.held
  | closing =>
      cases hstep
      exact hnext _ _ (fun hentered => nomatch hentered) h.held

theorem InitOk.enqueueCall (h : InitOk s) {i : ℕ} {call : EnqueueCall}
    (hcall : call = .producing → s.dataReadyInitialized) :
    InitOk { s with enqueues := Function.update s.enqueues i call } :=
  { h with
    enqueues := by
      intro j (hj : Function.update s.enqueues i call j = .producing)
      by_cases hji : j = i
      · subst hji
        rw [Function.update_self] at hj
        exact hcall hj
      · rw [Function.update_of_ne hji] at hj
        exact h.enqueues j hj }

theorem InitOk.workerThread (h : InitOk s) {pc : WorkerThread} (hpc : s.worker = pc)
    (hstep : workerThreadStep s pc = some s') : InitOk s' := by
  cases pc with
  | notStarted => cases hstep
  | running =>
      have hlock := h.worker (by rw [hpc]; decide)
      cases hstep
      exact { h with worker := fun _ => hlock }
  | acquire =>
      have hlock := h.worker (by rw [hpc]; decide)
      rw [workerThreadStep] at hstep
      split at hstep <;> cases hstep
      exact { h with held := fun _ => hlock, worker := fun _ => hlock }
  | holding =>
      have hlock := h.worker (by rw [hpc]; decide)
      cases hstep
      exact { h with held := (fun hheld => nomatch hheld), worker := fun _ => hlock }

/-- **Step lemma.** -/
theorem InitOk.step (h : InitOk s) {action : RegistrationAction}
    (hready : ConnectsAfterInit s action) (hstep : registrationMachineStep s action = some s') :
    InitOk s' := by
  cases action with
  | register ok => exact h.register rfl hstep
  | connect =>
      rw [registrationMachineStep] at hstep
      split at hstep <;> cases hstep
      exact { h with link := fun hentered => nomatch hentered }
  | disconnect =>
      rw [registrationMachineStep] at hstep
      split at hstep
      · rename_i hlink
        cases hstep
        exact { h with link := fun _ => h.link (by rw [hlink]; rfl) }
      · cases hstep
  | link => exact h.portCallback rfl hready hstep
  | enqueue i =>
      rw [registrationMachineStep] at hstep
      split at hstep <;> cases hstep
      exact h.enqueueCall fun hcall => nomatch hcall
  | enqueueStep i =>
      rw [registrationMachineStep] at hstep
      cases hpc : s.enqueues i with
      | outside =>
          rw [hpc] at hstep
          cases hstep
      | checkActive =>
          rw [hpc] at hstep
          cases hstep
          refine h.enqueueCall fun hcall => ?_
          split at hcall
          · exact h.active ‹_›
          · cases hcall
      | producing =>
          rw [hpc] at hstep
          cases hstep
          exact h.enqueueCall fun hcall => nomatch hcall
  | worker => exact h.workerThread rfl hstep

theorem InitOk.order (h : InitOk s) (action : RegistrationAction) : InitOrder s action where
  lock := by
    intro hacquires
    cases action with
    | link =>
        rcases hacquires with hlink | hlink <;> exact (h.link (by rw [hlink]; rfl)).1
    | worker => exact h.worker (by rw [show s.worker = .acquire from hacquires]; decide)
    | _ => exact hacquires.elim
  dataReady := by
    intro hsignals
    cases action with
    | link => exact (h.link (by rw [show s.link = .connectSignal from hsignals]; rfl)).2
    | enqueueStep i => exact h.enqueues i hsignals
    | _ => exact hsignals.elim
  notHeld := by
    intro _ _ hstage
    have hearly := h.early (by rw [hstage]; rfl)
    cases hheld : s.lockHeld with
    | false => rfl
    | true =>
        have hinit := h.held hheld
        rw [hearly] at hinit
        cases hinit

end

/-- **Initialisation order.**  As long as clients get to `OnClientConnected` only after
`Initialize` has initialised the lock and the event, nothing uses them too early. -/
theorem initOrder_of_connectsAfterInit (s : RegistrationMachine) (action : RegistrationAction)
    (run : Run registrationMachineStep ConnectsAfterInit RegistrationMachine.init s) :
    InitOrder s action :=
  (run.invariant init_initOk fun _ _ _ h hready hstep => h.step hready hstep).order action

/-- A client that connects when `Initialize` is through, with an event under way. -/
theorem initOrder_after_registration : ∃ s, steps registrationMachineStep
    RegistrationMachine.init (List.replicate 15 (.register true) ++
      [.enqueue 0, .enqueueStep 0, .connect, .link]) = some s ∧
    s.registration = .returned ∧ AcquiresLock s .link ∧ SignalsDataReady s (.enqueueStep 0) ∧
    InitOrder s .link := by
  obtain ⟨s, hs, hfacts⟩ := Option.map_eq_some_iff.mp (show (steps registrationMachineStep
    RegistrationMachine.init (List.replicate 15 (.register true) ++
      [.enqueue 0, .enqueueStep 0, .connect, .link])).map
      (fun s => (s.registration, s.link, s.enqueues 0)) =
      some (.returned, .connectAcquire, .producing) by decide +kernel)
  simp only [Prod.mk.injEq] at hfacts
  exact ⟨s, hs, hfacts.1, Or.inl hfacts.2.1, hfacts.2.2,
    initOrder_of_connectsAfterInit s .link (run_of_steps (by decide +kernel) hs)⟩

/-- A client connects as soon as the port exists, and acquires the lock before `Initialize` has
begun. -/
theorem acquires_uninitialized_lock : ¬ ∀ (s : RegistrationMachine) (action : RegistrationAction),
    Reaches registrationMachineStep RegistrationMachine.init s → InitOrder s action := by
  intro horder
  obtain ⟨s, hs, hfacts⟩ := Option.map_eq_some_iff.mp (show (steps registrationMachineStep
    RegistrationMachine.init (List.replicate 3 (.register true) ++ [.connect, .link])).map
      (fun s => (s.link, s.lockInitialized)) = some (.connectAcquire, false) by decide +kernel)
  simp only [Prod.mk.injEq] at hfacts
  have hlock := (horder s .link (reaches_of_steps hs)).lock (Or.inl hfacts.1)
  rw [hfacts.2] at hlock
  cases hlock

end Kawin.Driver
