import Kawin.Driver.DispatcherMachine

/-!
# The life of a client port

`ScannerPortDisconnect` clears `m_clientPort` before it closes the port, so that the
worker should not call `FltSendMessage` on a closed port.  The worker, however, acts on the
copy it took before: a disconnect that completes between the copy and the call leaves it
with a port that is closed.

`HeldPortOpen` is the condition on a step that excludes this: `FltCloseClientPort` does not
close the port of a copy that has not yet been sent with.  Under it the worker only calls
`FltSendMessage` on open ports.
-/

namespace Kawin.Driver

open ByteMemory Transition

/-- The port of the copy that the worker is about to call `FltSendMessage` with. -/
def Worker.held? : Worker → Option Port
  | .send port _ => some port
  | _ => none

/-- A worker step that calls `FltSendMessage` does so on a port that is not closed. -/
def CallsOpenPort (s : DispatcherMachine) : DispatcherAction → Prop
  | .worker => ∀ port ∈ s.worker.held?, port ∉ s.closed
  | _ => True

/-- `FltCloseClientPort` does not close a port the worker is about to send with. -/
def HeldPortOpen (s : DispatcherMachine) : DispatcherAction → Prop
  | .link => s.link = .closing → ∀ port ∈ s.worker.held?, s.scannerPort ≠ some port
  | _ => True

instance (s : DispatcherMachine) : DecidablePred (HeldPortOpen s)
  | .link => (inferInstance : Decidable
      (s.link = .closing → ∀ port ∈ s.worker.held?, s.scannerPort ≠ some port))
  | .tick | .enqueue _ | .enqueuer _ | .producer _ | .wake | .worker | .sendReturns _
  | .connect _ | .disconnect | .deactivate | .stop => .isTrue trivial

/-- Who knows which port, and which ports are open. -/
structure PortsOk (s : DispatcherMachine) : Prop where
  scanner : ∀ port, s.scannerPort = some port → port ∉ s.closed
  client : ∀ port, s.clientPort = some port →
    s.scannerPort = some port ∧ (s.link = .connected ∨ s.link = .disconnecting)
  connecting : ∀ port, s.link = .connecting port → s.scannerPort = some port
  held : ∀ port ∈ s.worker.held?, port ∉ s.closed

theorem init_portsOk (outside : Memory) (freq : UINT64) :
    PortsOk (DispatcherMachine.init outside freq) where
  scanner := by simp [DispatcherMachine.init]
  client := by simp [DispatcherMachine.init]
  connecting := by simp [DispatcherMachine.init]
  held := by simp [DispatcherMachine.init]

section

variable {s s' : DispatcherMachine}

/-- Ports are unaffected by what happens to events. -/
theorem PortsOk.congr (h : PortsOk s) (hscanner : s'.scannerPort = s.scannerPort)
    (hclosed : s'.closed = s.closed) (hclient : s'.clientPort = s.clientPort)
    (hlink : s'.link = s.link)
    (hworker : s'.worker.held? = none ∨ s'.worker = s.worker) :
    PortsOk s' where
  scanner := by rw [hscanner, hclosed]; exact h.scanner
  client := by rw [hclient, hscanner, hlink]; exact h.client
  connecting := by rw [hlink, hscanner]; exact h.connecting
  held := by
    rcases hworker with hnone | hsame
    · rw [hnone]
      exact fun port hport => nomatch hport
    · rw [hsame, hclosed]
      exact h.held

theorem afterSend_held (status : NTSTATUS) : (afterSend status).held? = none := by
  unfold afterSend
  split
  · rfl
  · split <;> rfl

theorem PortsOk.enqueuer (h : PortsOk s) {i : ℕ} {pc : Enqueuer}
    (hstep : enqueuerStep s i pc = some s') : PortsOk s' := by
  rcases enqueuerStep_cases hstep with ⟨_, _, rfl⟩ | ⟨_, _, _, rfl⟩
  · exact h.congr rfl rfl rfl rfl (Or.inr rfl)
  · exact h.congr rfl rfl rfl rfl (Or.inr rfl)

theorem PortsOk.worker (h : PortsOk s) {pc : Worker}
    (hstep : workerStep s pc = some s') : PortsOk s' := by
  cases pc with
  | waiting | sending | exited => cases hstep
  | consuming =>
      rcases workerStep_consuming hstep with ⟨bytes, _, rfl⟩ | ⟨ring, _, rfl⟩
      · refine h.congr rfl rfl rfl rfl (Or.inl ?_)
        rw [DispatcherMachine.workerGoto]
        split <;> rfl
      · exact h.congr rfl rfl rfl rfl (Or.inr rfl)
  | snapshot bytes =>
      rcases workerStep_snapshot hstep with ⟨_, rfl⟩ | ⟨port, hport, rfl⟩
      · exact h.congr rfl rfl rfl rfl (Or.inl rfl)
      · -- the copy is of the port that the callbacks know as open
        refine ⟨h.scanner, h.client, h.connecting, ?_⟩
        rintro _ ⟨⟩
        exact h.scanner port (h.client port hport).1
  | checkPort bytes =>
      cases hstep
      refine h.congr rfl rfl rfl rfl (Or.inl ?_)
      rw [DispatcherMachine.workerGoto]
      split <;> rfl
  | sendReturned status =>
      rcases workerStep_sendReturned hstep with rfl | rfl
      · exact h.congr rfl rfl rfl rfl (Or.inl rfl)
      · exact h.congr rfl rfl rfl rfl (Or.inl rfl)
  | cycleEnd =>
      cases hstep
      refine h.congr rfl rfl rfl rfl (Or.inl ?_)
      rw [DispatcherMachine.workerGoto]
      split <;> rfl
  | _ =>
      cases hstep
      exact h.congr rfl rfl rfl rfl (Or.inl rfl)

theorem PortsOk.link (h : PortsOk s) {pc : Link} (hpc : s.link = pc)
    (hheld : pc = .closing → ∀ port ∈ s.worker.held?, s.scannerPort ≠ some port)
    (hstep : linkStep s pc = some s') : PortsOk s' := by
  cases pc with
  | disconnected | connected => cases hstep
  | connecting port =>
      cases hstep
      refine ⟨h.scanner, ?_, (fun _ hlink => nomatch hlink), h.held⟩
      rintro _ ⟨⟩
      exact ⟨h.connecting port hpc, Or.inl rfl⟩
  | disconnecting =>
      cases hstep
      exact ⟨h.scanner, (fun _ hclient => nomatch hclient), (fun _ hlink => nomatch hlink), h.held⟩
  | closing =>
      cases hstep
      refine ⟨(fun _ hscanner => nomatch hscanner), ?_, (fun _ hlink => nomatch hlink), ?_⟩
      · intro port hclient
        obtain ⟨_, hlink⟩ := h.client port hclient
        rw [hpc] at hlink
        rcases hlink with hlink | hlink <;> cases hlink
      · intro port hport hmem
        rcases List.mem_append.mp hmem with hmem | hmem
        · exact hheld rfl port hport (Option.mem_toList.mp hmem)
        · exact h.held port hport hmem

theorem PortsOk.step (h : PortsOk s) {action : DispatcherAction} (hheld : HeldPortOpen s action)
    (hstep : dispatcherStep s action = some s') : PortsOk s' := by
  cases action with
  | tick =>
      cases hstep
      exact h.congr rfl rfl rfl rfl (Or.inr rfl)
  | producer i =>
      obtain ⟨ring, _, rfl⟩ := Option.map_eq_some_iff.mp hstep
      exact h.congr rfl rfl rfl rfl (Or.inr rfl)
  | enqueue request =>
      cases hstep
      unfold enqueueStep
      split <;> exact h.congr rfl rfl rfl rfl (Or.inr rfl)
  | enqueuer i => exact h.enqueuer hstep
  | wake =>
      obtain ⟨_, rfl⟩ := dispatcherStep_wake hstep
      exact h.congr rfl rfl rfl rfl (Or.inl rfl)
  | worker => exact h.worker hstep
  | sendReturns status =>
      obtain ⟨_, rfl⟩ := dispatcherStep_sendReturns hstep
      exact h.congr rfl rfl rfl rfl (Or.inl (afterSend_held status))
  | connect port =>
      obtain ⟨hlink, hfresh, rfl⟩ := dispatcherStep_connect hstep
      refine ⟨?_, ?_, ?_, h.held⟩
      · rintro _ ⟨⟩
        exact hfresh
      · -- the dispatcher has no client port while nobody is connected
        intro old hclient
        obtain ⟨_, hold⟩ := h.client old hclient
        rw [hlink] at hold
        rcases hold with hold | hold <;> cases hold
      · rintro _ ⟨⟩
        rfl
  | disconnect =>
      obtain ⟨_, rfl⟩ := dispatcherStep_disconnect hstep
      exact ⟨h.scanner, fun port hclient => ⟨(h.client port hclient).1, Or.inr rfl⟩,
        (fun _ hlink => nomatch hlink), h.held⟩
  | link => exact h.link rfl hheld hstep
  | deactivate | stop =>
      cases hstep
      exact h.congr rfl rfl rfl rfl (Or.inr rfl)

/-- Closing a port the worker holds leaves it about to call `FltSendMessage` on a closed port. -/
theorem not_callsOpenPort_of_not_heldPortOpen {action : DispatcherAction}
    (hheld : ¬ HeldPortOpen s action) (hstep : dispatcherStep s action = some s') :
    ¬ CallsOpenPort s' .worker := by
  cases action with
  | link =>
      simp only [HeldPortOpen, not_forall, not_not] at hheld
      obtain ⟨hlink, port, hport, hscanner⟩ := hheld
      rw [dispatcherStep, hlink] at hstep
      cases hstep
      intro hcalls
      apply hcalls port hport
      rw [hscanner]
      exact List.mem_cons_self ..
  | _ => exact absurd trivial hheld

end

/-- **Port lifetime.** -/
theorem callsOpenPort_of_heldPortOpen (outside : Memory) (freq : UINT64) (s : DispatcherMachine)
    (action : DispatcherAction)
    (run : Run dispatcherStep HeldPortOpen (DispatcherMachine.init outside freq) s) :
    CallsOpenPort s action := by
  have hports : PortsOk s := run.invariant (init_portsOk outside freq)
    fun _ _ _ h hheld hstep => h.step hheld hstep
  cases action with
  | worker => exact hports.held
  | _ => trivial

/-- A client connects on the port, and the worker takes an event from the ring and a copy of the
port. -/
private def copyPort (port : Port) : List DispatcherAction :=
  [DispatcherAction.connect port, .link, .enqueue (.serialized (hundredBytes 7)), .enqueuer 0] ++
    List.replicate 17 (DispatcherAction.producer 0) ++ [DispatcherAction.wake] ++
    List.replicate 10 DispatcherAction.worker

/-- A reconnect before the copy is harmless. -/
theorem callsOpenPort_after_reconnect : ∃ s, steps dispatcherStep
    (DispatcherMachine.init (fun _ => 0) 10000000)
    ([.connect 1, .link, .disconnect, .link, .link] ++ copyPort 2) = some s ∧
    s.worker = .send 2 100 ∧ CallsOpenPort s .worker := by
  have hsend : (steps dispatcherStep (DispatcherMachine.init (fun _ => 0) 10000000)
      ([.connect 1, .link, .disconnect, .link, .link] ++ copyPort 2)).map (·.worker) =
      some (.send 2 100) := by decide +kernel
  obtain ⟨s, hs, hworker⟩ := Option.map_eq_some_iff.mp hsend
  exact ⟨s, hs, hworker, callsOpenPort_of_heldPortOpen (fun _ => 0) 10000000 s .worker
    (run_of_steps (by decide +kernel) hs)⟩

/-- The client disconnects, and its port is closed, between the copy and the call. -/
theorem sends_on_closed_port : ¬ ∀ (s : DispatcherMachine) (action : DispatcherAction),
    DispatcherRun (fun _ => 0) 10000000 s → CallsOpenPort s action := by
  intro hcalls
  have hsend : (steps dispatcherStep (DispatcherMachine.init (fun _ => 0) 10000000)
      (copyPort 1 ++ [.disconnect, .link, .link])).map (fun s => (s.worker, s.closed)) =
      some (.send 1 100, [1]) := by decide +kernel
  obtain ⟨s, hs, hfacts⟩ := Option.map_eq_some_iff.mp hsend
  obtain ⟨hworker, hclosed⟩ := Prod.mk.injEq .. ▸ hfacts
  apply hcalls s .worker (reaches_of_steps hs) 1 (by rw [hworker]; rfl)
  rw [hclosed]
  exact List.mem_cons_self ..

end Kawin.Driver
