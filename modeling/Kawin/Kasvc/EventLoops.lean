import Kawin.Base.Crew
import Kawin.Base.Ranking
import Kawin.Kasvc.MonitoringService

/-!
# The event loops

`Start` connects the receiver and starts a number of threads that run `EventLoopThread`; `Stop`
clears `running_`, joins the threads and disconnects the receiver.  A loop takes an event from the
queue, counts it, passes it to `Enrich` and `Publish`, and counts it again, as processed and
published or as an error.

Here all of this goes on side by side: any number of loops, the workers of the receiver that queue
events, and a `Start` or `Stop` somewhere between two of its steps.  `Start` and `Stop` are called
one at a time, but in any order and as often as one likes.

`CrewOk` says where the threads can be while `Start` or `Stop` is at some point.  What matters is
the end of a `Stop`: it returns (`stop_returns`), and then no loop is left that could touch the
receiver (`loops_joined`).
-/

namespace Kawin.Kasvc

open BoundedFifo Crew Transition

/-- Where an event loop stands. -/
inductive EventLoop
  /-- about to read `running_` -/
  | checkRunning
  /-- in `ReceiveEvent` -/
  | receiving
  /-- asleep, since there was no event -/
  | sleeping
  /-- about to count the event as received -/
  | received (event : Event)
  /-- in `Enrich` or `Publish` -/
  | publishing (event : Event)
  | countProcessed
  | countPublished
  | countError
  | returned

/-- Where `Start` or `Stop` stands. -/
inductive Control
  | idle
  /-- in `Connect` -/
  | connecting
  | setRunning
  /-- about to start so many more threads -/
  | spawning (left : ℕ)
  | clearRunning
  /-- in the loop that joins the threads -/
  | joining
  /-- in `Disconnect` -/
  | disconnecting
  deriving DecidableEq

structure EventLoops where
  receiver : Communicator
  running : Bool
  workerThreadsCount : ℕ
  loops : ℕ → EventLoop
  /-- how many loops were ever started; `worker_threads_` has those that are not joined -/
  started : ℕ
  joined : ℕ
  control : Control
  eventsReceived : BitVec 64
  eventsProcessed : BitVec 64
  eventsPublished : BitVec 64
  processingErrors : BitVec 64

namespace EventLoops

def construct (config : IOCPConfig) (workerThreadsCount : ℕ) : EventLoops where
  receiver := .construct config
  running := false
  workerThreadsCount := workerThreadsCount
  loops := fun _ => .checkRunning
  started := 0
  joined := 0
  control := .idle
  eventsReceived := 0
  eventsProcessed := 0
  eventsPublished := 0
  processingErrors := 0

/-- The loops ever started. -/
def crew (s : EventLoops) : Finset ℕ := Finset.range s.started

def controlGoto (s : EventLoops) (pc : Control) : EventLoops := { s with control := pc }

def loopGoto (s : EventLoops) (i : ℕ) (pc : EventLoop) : EventLoops :=
  { s with loops := Function.update s.loops i pc }

/-- The loop takes the oldest event of the queue. -/
def take (s : EventLoops) (i : ℕ) (event : Event) : EventLoops :=
  { s.loopGoto i (.received event) with
    receiver.path.eventQueue := s.receiver.path.eventQueue.take.2 }

end EventLoops

/-- The next step of a loop, outside `Enrich` and `Publish`. -/
def loopStep (s : EventLoops) (i : ℕ) : EventLoop → Option EventLoops
  | .publishing _ | .returned => none
  | .checkRunning => some (s.loopGoto i (if s.running then .receiving else .returned))
  | .receiving =>
      match s.receiver.path.eventQueue.take.1 with
      | some event => some (s.take i event)
      | none => some (s.loopGoto i .sleeping)
  | .sleeping => some (s.loopGoto i .checkRunning)
  | .received event =>
      let s := s.loopGoto i (.publishing event)
      some { s with eventsReceived := s.eventsReceived + 1 }
  | .countProcessed =>
      let s := s.loopGoto i .countPublished
      some { s with eventsProcessed := s.eventsProcessed + 1 }
  | .countPublished =>
      let s := s.loopGoto i .checkRunning
      some { s with eventsPublished := s.eventsPublished + 1 }
  | .countError =>
      let s := s.loopGoto i .checkRunning
      some { s with processingErrors := s.processingErrors + 1 }

/-- The next step of `Start` or `Stop`, outside `Connect`. -/
def controlStep (s : EventLoops) : Control → Option EventLoops
  | .idle | .connecting => none
  | .setRunning =>
      let s := s.controlGoto (.spawning s.workerThreadsCount)
      some { s with running := true }
  | .spawning 0 => some (s.controlGoto .idle)
  | .spawning (left + 1) =>
      let s := s.controlGoto (.spawning left)
      some { s with started := s.started + 1 }
  | .clearRunning =>
      let s := s.controlGoto .joining
      some { s with running := false }
  | .joining =>
      if s.joined = s.started then some (s.controlGoto .disconnecting)
      else
        match s.loops s.joined with
        | .returned => some { s with joined := s.joined + 1 }
        | _ => none
  | .disconnecting =>
      let s := s.controlGoto .idle
      some { s with receiver := s.receiver.disconnect }

inductive LoopsAction
  /-- `Start` is called -/
  | start
  /-- `Stop` is called -/
  | stop
  /-- `Connect` returns -/
  | connect (outcome : ConnectOutcome)
  | control
  | loop (i : ℕ)
  /-- `Enrich` and `Publish` return, or one of them throws -/
  | publish (i : ℕ) (throws : Bool)
  /-- a worker of the receiver handles a message -/
  | complete (c : Completion)

/-- `Connect` returns. -/
def connectReturns (s : EventLoops) (outcome : ConnectOutcome) : EventLoops :=
  match s.receiver.connect outcome with
  | (.ok (), receiver) => { s.controlGoto .setRunning with receiver := receiver }
  | (.error _, receiver) => { s.controlGoto .idle with receiver := receiver }

def loopsStep (platform : Platform) (s : EventLoops) : LoopsAction → Option EventLoops
  | .start =>
      match s.control with
      | .idle => some (s.controlGoto (if s.running then .idle else .connecting))
      | _ => none
  | .stop =>
      match s.control with
      | .idle => some (s.controlGoto (if s.running then .clearRunning else .idle))
      | _ => none
  | .connect outcome =>
      match s.control with
      | .connecting => some (connectReturns s outcome)
      | _ => none
  | .control => controlStep s s.control
  | .loop i => if i < s.started then loopStep s i (s.loops i) else none
  | .publish i throws =>
      match s.loops i with
      | .publishing _ =>
          if i < s.started then
            some (s.loopGoto i (if throws then .countError else .countProcessed))
          else none
      | _ => none
  | .complete c =>
      if s.receiver.isConnected then
        some { s with receiver.path := processCompletedIo platform s.receiver.path c }
      else none

/-! ## What a step can do -/

section

variable {platform : Platform} {s t : EventLoops} {i : ℕ}

/-- Every move of a loop, with what changes beside its place. -/
inductive LoopMove (s : EventLoops) (i : ℕ) : EventLoop → EventLoops → Prop
  | run (hrunning : s.running = true) : LoopMove s i .checkRunning (s.loopGoto i .receiving)
  | leave (hstopped : s.running = false) : LoopMove s i .checkRunning (s.loopGoto i .returned)
  | take {event : Event} {rest : List Event}
      (hcontent : s.receiver.path.eventQueue.content = event :: rest) :
      LoopMove s i .receiving (s.take i event)
  | timeout (hcontent : s.receiver.path.eventQueue.content = []) :
      LoopMove s i .receiving (s.loopGoto i .sleeping)
  | wake : LoopMove s i .sleeping (s.loopGoto i .checkRunning)
  | received (event : Event) : LoopMove s i (.received event)
      { s.loopGoto i (.publishing event) with eventsReceived := s.eventsReceived + 1 }
  | processed : LoopMove s i .countProcessed
      { s.loopGoto i .countPublished with eventsProcessed := s.eventsProcessed + 1 }
  | published : LoopMove s i .countPublished
      { s.loopGoto i .checkRunning with eventsPublished := s.eventsPublished + 1 }
  | error : LoopMove s i .countError
      { s.loopGoto i .checkRunning with processingErrors := s.processingErrors + 1 }

theorem loopMove_of_step {pc : EventLoop} (hstep : loopStep s i pc = some t) :
    LoopMove s i pc t := by
  cases pc with
  | publishing event | returned => cases hstep
  | checkRunning =>
      cases hstep
      cases hrunning : s.running with
      | true => exact .run hrunning
      | false => exact .leave hrunning
  | receiving =>
      rw [loopStep, Fifo.take] at hstep
      cases hcontent : s.receiver.path.eventQueue.content with
      | nil =>
          rw [hcontent] at hstep
          cases hstep
          exact .timeout hcontent
      | cons event rest =>
          rw [hcontent] at hstep
          cases hstep
          exact .take hcontent
  | sleeping => cases hstep; exact .wake
  | received event => cases hstep; exact .received event
  | countProcessed => cases hstep; exact .processed
  | countPublished => cases hstep; exact .published
  | countError => cases hstep; exact .error

/-- Every step of `Start` or `Stop` outside `Connect`. -/
inductive ControlMove (s : EventLoops) : Control → EventLoops → Prop
  | setRunning : ControlMove s .setRunning
      { s.controlGoto (.spawning s.workerThreadsCount) with running := true }
  | started : ControlMove s (.spawning 0) (s.controlGoto .idle)
  | spawn (left : ℕ) : ControlMove s (.spawning (left + 1))
      { s.controlGoto (.spawning left) with started := s.started + 1 }
  | clear : ControlMove s .clearRunning { s.controlGoto .joining with running := false }
  | joinedAll (hall : s.joined = s.started) : ControlMove s .joining (s.controlGoto .disconnecting)
  | join (hmore : s.joined ≠ s.started) (hreturned : s.loops s.joined = .returned) :
      ControlMove s .joining { s with joined := s.joined + 1 }
  | disconnect : ControlMove s .disconnecting
      { s.controlGoto .idle with receiver := s.receiver.disconnect }

theorem controlMove_of_step {pc : Control} (hstep : controlStep s pc = some t) :
    ControlMove s pc t := by
  cases pc with
  | idle | connecting => cases hstep
  | setRunning => cases hstep; exact .setRunning
  | spawning left =>
      cases left with
      | zero => cases hstep; exact .started
      | succ left => cases hstep; exact .spawn left
  | clearRunning => cases hstep; exact .clear
  | joining =>
      rw [controlStep] at hstep
      split at hstep
      · next hall =>
          cases hstep
          exact .joinedAll hall
      · next hmore =>
          split at hstep
          · next hreturned =>
              cases hstep
              exact .join hmore hreturned
          · cases hstep
  | disconnecting => cases hstep; exact .disconnect

theorem loopsStep_start (hstep : loopsStep platform s .start = some t) :
    s.control = .idle ∧ t = s.controlGoto (if s.running then .idle else .connecting) := by
  rw [loopsStep] at hstep
  split at hstep
  · next hidle =>
      cases hstep
      exact ⟨hidle, rfl⟩
  · cases hstep

theorem loopsStep_stop (hstep : loopsStep platform s .stop = some t) :
    s.control = .idle ∧ t = s.controlGoto (if s.running then .clearRunning else .idle) := by
  rw [loopsStep] at hstep
  split at hstep
  · next hidle =>
      cases hstep
      exact ⟨hidle, rfl⟩
  · cases hstep

theorem loopsStep_connect {outcome : ConnectOutcome}
    (hstep : loopsStep platform s (.connect outcome) = some t) :
    s.control = .connecting ∧ t = connectReturns s outcome := by
  rw [loopsStep] at hstep
  split at hstep
  · next hconnecting =>
      cases hstep
      exact ⟨hconnecting, rfl⟩
  · cases hstep

theorem loopsStep_loop (hstep : loopsStep platform s (.loop i) = some t) :
    i < s.started ∧ LoopMove s i (s.loops i) t := by
  rw [loopsStep] at hstep
  split at hstep
  · next hi => exact ⟨hi, loopMove_of_step hstep⟩
  · cases hstep

theorem loopsStep_publish {throws : Bool}
    (hstep : loopsStep platform s (.publish i throws) = some t) :
    i < s.started ∧ (∃ event, s.loops i = .publishing event) ∧
      t = s.loopGoto i (if throws then .countError else .countProcessed) := by
  rw [loopsStep] at hstep
  split at hstep
  · next event hpublishing =>
      split at hstep
      · next hi =>
          cases hstep
          exact ⟨hi, ⟨event, hpublishing⟩, rfl⟩
      · cases hstep
  · cases hstep

theorem loopsStep_complete {c : Completion}
    (hstep : loopsStep platform s (.complete c) = some t) : s.receiver.isConnected = true ∧
      t = { s with receiver.path := processCompletedIo platform s.receiver.path c } := by
  rw [loopsStep] at hstep
  split at hstep
  · next hconnected =>
      cases hstep
      exact ⟨hconnected, rfl⟩
  · cases hstep

end

/-! ## The receiver -/

section

variable {r : Communicator} {outcome : ConnectOutcome}

/-- `Connect` leaves the events alone, and succeeds exactly if it connects. -/
theorem connect_returns (hclosed : r.isConnected = false) (hstopped : r.running = false) :
    (r.connect outcome).2.path = r.path ∧
      (r.connect outcome).2.isConnected = (r.connect outcome).1.isOk := by
  rcases @connect_cases r outcome hclosed hstopped with ⟨hport, hsame⟩ | ⟨hiocp, hnext⟩ |
    ⟨-, -, -, herror, honly⟩ | ⟨-, hok, ready, honly, -, hsame⟩
  · have hfails : (r.connect outcome).1.isOk = false := by
      rw [Communicator.connect, if_neg (by simp [hclosed]), if_pos hport]
      rfl
    rw [hfails, hsame]
    exact ⟨rfl, hclosed⟩
  · have hfails : (r.connect outcome).1.isOk = false := by
      obtain ⟨error, herror⟩ := Option.ne_none_iff_exists'.mp hiocp
      rw [Communicator.connect, if_neg (by simp [hclosed])]
      split
      · rfl
      · simp only [herror]
        rfl
    rw [hfails, hnext]
    exact ⟨rfl, rfl⟩
  · rw [herror, honly.eq]
    refine ⟨rfl, ?_⟩
    show (_ && r.running) = false
    rw [hstopped, Bool.and_false]
  · rw [hok, hsame.isConnected, hsame.eq, honly.eq]
    exact ⟨rfl, rfl⟩

theorem disconnect_isConnected : r.disconnect.isConnected = false := by
  unfold Communicator.disconnect
  split
  · next hclosed => simpa using hclosed
  · show (_ && Communicator.running _) = false
    rw [Communicator.freePool_running, Communicator.closeFilterPort_running,
      Communicator.closeCompletionPort_running, Bool.and_false]

end

/-! ## Where the threads are -/

/-- What holds of the service while `Start` or `Stop` stands at this point. -/
def ControlOk (s : EventLoops) : Control → Prop
  | .idle => s.receiver.isConnected = s.running ∧ (s.running = false → s.joined = s.started)
  | .connecting => s.receiver.isConnected = false ∧ s.running = false ∧ s.joined = s.started
  | .setRunning | .disconnecting =>
      s.receiver.isConnected = true ∧ s.running = false ∧ s.joined = s.started
  | .spawning _ | .clearRunning => s.receiver.isConnected = true ∧ s.running = true
  | .joining => s.receiver.isConnected = true ∧ s.running = false

structure CrewOk (s : EventLoops) : Prop where
  receiver : StoppedIfClosed s.receiver
  joined_le : s.joined ≤ s.started
  gone : ∀ i < s.joined, s.loops i = .returned
  fresh : ∀ i, s.started ≤ i → s.loops i = .checkRunning
  control : ControlOk s s.control

section

variable {platform : Platform} {config : IOCPConfig} {n : ℕ} {s t : EventLoops} {i : ℕ}

theorem construct_crewOk (config : IOCPConfig) (n : ℕ) : CrewOk (.construct config n) where
  receiver _ := rfl
  joined_le := le_rfl
  gone _ hi := absurd hi (Nat.not_lt_zero _)
  fresh _ _ := rfl
  control := ⟨rfl, fun _ => rfl⟩

/-- While a loop is not joined the receiver is connected. -/
theorem CrewOk.connected (h : CrewOk s) (hlt : s.joined < s.started) :
    s.receiver.isConnected = true := by
  have hcontrol := h.control
  cases hpc : s.control with
  | idle =>
      rw [hpc] at hcontrol
      cases hrunning : s.running with
      | true => exact hcontrol.1.trans hrunning
      | false => exact absurd (hcontrol.2 hrunning) hlt.ne
  | connecting | setRunning | disconnecting =>
      rw [hpc] at hcontrol
      exact absurd hcontrol.2.2 hlt.ne
  | spawning | clearRunning | joining =>
      rw [hpc] at hcontrol
      exact hcontrol.1

/-- The flags decide what holds where `Start` or `Stop` stands. -/
theorem ControlOk.congr {pc : Control} (h : ControlOk s pc)
    (hconnected : t.receiver.isConnected = s.receiver.isConnected)
    (hrunning : t.running = s.running) (hjoined : t.joined = s.joined)
    (hstarted : t.started = s.started) : ControlOk t pc := by
  cases pc <;> simpa only [ControlOk, hconnected, hrunning, hjoined, hstarted] using h

/-- A loop that has not returned moves on. -/
theorem CrewOk.loop (h : CrewOk s) (hi : i < s.started) (hlive : s.loops i ≠ .returned)
    {pc : EventLoop} (hloops : t.loops = Function.update s.loops i pc)
    (hreceiver : t.receiver.isConnected = s.receiver.isConnected)
    (hstopped : t.receiver.running = s.receiver.running)
    (hrunning : t.running = s.running) (hjoined : t.joined = s.joined)
    (hstarted : t.started = s.started) (hcontrol : t.control = s.control) : CrewOk t where
  receiver hclosed := by
    rw [hreceiver] at hclosed
    rw [hstopped]
    exact h.receiver hclosed
  joined_le := by
    rw [hjoined, hstarted]
    exact h.joined_le
  gone j hj := by
    rw [hjoined] at hj
    have hne : j ≠ i := by
      rintro rfl
      exact hlive (h.gone j hj)
    rw [hloops, Function.update_of_ne hne]
    exact h.gone j hj
  fresh j hj := by
    rw [hstarted] at hj
    rw [hloops, Function.update_of_ne (Nat.ne_of_gt (hi.trans_le hj))]
    exact h.fresh j hj
  control := by
    rw [hcontrol]
    exact h.control.congr hreceiver hrunning hjoined hstarted

theorem CrewOk.loopMove (h : CrewOk s) (hi : i < s.started) {pc : EventLoop}
    (hpc : s.loops i = pc) (hmove : LoopMove s i pc t) : CrewOk t := by
  have hlive : s.loops i ≠ .returned := by
    rintro hreturned
    rw [hpc] at hreturned
    subst hreturned
    cases hmove
  cases hmove <;> exact h.loop hi hlive rfl rfl rfl rfl rfl rfl rfl

/-- Neither the loops nor their number change. -/
theorem CrewOk.controller (h : CrewOk s) (hloops : t.loops = s.loops)
    (hjoined : t.joined = s.joined) (hstarted : t.started = s.started)
    (hreceiver : StoppedIfClosed t.receiver) (hcontrol : ControlOk t t.control) : CrewOk t where
  receiver := hreceiver
  joined_le := by
    rw [hjoined, hstarted]
    exact h.joined_le
  gone := by
    rw [hloops, hjoined]
    exact h.gone
  fresh := by
    rw [hloops, hstarted]
    exact h.fresh
  control := hcontrol

theorem CrewOk.controlMove (h : CrewOk s) {pc : Control} (hpc : s.control = pc)
    (hmove : ControlMove s pc t) : CrewOk t := by
  have hcontrol := h.control
  rw [hpc] at hcontrol
  cases hmove with
  | setRunning => exact h.controller rfl rfl rfl h.receiver ⟨hcontrol.1, rfl⟩
  | started =>
      refine h.controller rfl rfl rfl h.receiver ⟨hcontrol.1.trans hcontrol.2.symm, ?_⟩
      intro hstopped
      exact absurd (hcontrol.2.symm.trans hstopped) (by decide)
  | spawn left =>
      refine ⟨h.receiver, Nat.le_succ_of_le h.joined_le, h.gone, fun j hj => ?_, hcontrol⟩
      exact h.fresh j (Nat.le_of_succ_le hj)
  | clear => exact h.controller rfl rfl rfl h.receiver ⟨hcontrol.1, rfl⟩
  | joinedAll hall => exact h.controller rfl rfl rfl h.receiver ⟨hcontrol.1, hcontrol.2, hall⟩
  | join hmore hreturned =>
      refine ⟨h.receiver, Nat.lt_of_le_of_ne h.joined_le hmore, fun j hj => ?_, h.fresh, ?_⟩
      · rcases Nat.lt_succ_iff_lt_or_eq.mp hj with hold | rfl
        · exact h.gone j hold
        · exact hreturned
      · show ControlOk _ s.control
        rw [hpc]
        exact hcontrol
  | disconnect =>
      have hstopped : StoppedIfClosed s.receiver.disconnect :=
        h.receiver.step (show connectStep s.receiver .disconnect = _ from rfl)
      exact h.controller rfl rfl rfl hstopped
        ⟨disconnect_isConnected.trans hcontrol.2.1.symm, fun _ => hcontrol.2.2⟩

theorem CrewOk.connect (h : CrewOk s) (hpc : s.control = .connecting) (outcome : ConnectOutcome) :
    CrewOk (connectReturns s outcome) := by
  have hcontrol := h.control
  rw [hpc] at hcontrol
  obtain ⟨hclosed, hrunning, hjoined⟩ := hcontrol
  have hreturns := (@connect_returns _ outcome hclosed (h.receiver hclosed)).2
  have hstopped : StoppedIfClosed (s.receiver.connect outcome).2 :=
    h.receiver.step (show connectStep s.receiver (.connect outcome) = _ from rfl)
  unfold connectReturns
  split
  · next receiver hok =>
      rw [hok] at hreturns hstopped
      exact h.controller rfl rfl rfl hstopped ⟨hreturns, hrunning, hjoined⟩
  · next message receiver herror =>
      rw [herror] at hreturns hstopped
      exact h.controller rfl rfl rfl hstopped ⟨hreturns.trans hrunning.symm, fun _ => hjoined⟩

/-- **Step lemma for the threads.** -/
theorem CrewOk.step (h : CrewOk s) {action : LoopsAction}
    (hstep : loopsStep platform s action = some t) : CrewOk t := by
  have hcontrol := h.control
  cases action with
  | start =>
      obtain ⟨hpc, rfl⟩ := loopsStep_start hstep
      rw [hpc] at hcontrol
      refine h.controller rfl rfl rfl h.receiver ?_
      cases hrunning : s.running with
      | true => exact hcontrol
      | false => exact ⟨hcontrol.1.trans hrunning, hrunning, hcontrol.2 hrunning⟩
  | stop =>
      obtain ⟨hpc, rfl⟩ := loopsStep_stop hstep
      rw [hpc] at hcontrol
      refine h.controller rfl rfl rfl h.receiver ?_
      cases hrunning : s.running with
      | true => exact ⟨hcontrol.1.trans hrunning, hrunning⟩
      | false => exact hcontrol
  | connect outcome =>
      obtain ⟨hpc, rfl⟩ := loopsStep_connect hstep
      exact h.connect hpc outcome
  | control => exact h.controlMove rfl (controlMove_of_step hstep)
  | loop i =>
      obtain ⟨hi, hmove⟩ := loopsStep_loop hstep
      exact h.loopMove hi rfl hmove
  | publish i throws =>
      obtain ⟨hi, ⟨event, hpc⟩, rfl⟩ := loopsStep_publish hstep
      have hlive : s.loops i ≠ .returned := by rw [hpc]; exact EventLoop.noConfusion
      exact h.loop hi hlive rfl rfl rfl rfl rfl rfl rfl
  | complete c =>
      obtain ⟨-, rfl⟩ := loopsStep_complete hstep
      exact h.controller rfl rfl rfl h.receiver h.control

theorem crewOk_of_reaches (run : Reaches (loopsStep platform) (.construct config n) s) :
    CrewOk s :=
  run.invariant (construct_crewOk config n) fun _ _ _ h _ hstep => h.step hstep

end

/-- **No loop outlives its service.**  A loop that has not returned finds the receiver connected;
and once `Stop` has returned, or if `Start` has failed, every loop ever started has returned and the
receiver is disconnected. -/
theorem loops_joined (platform : Platform) (config : IOCPConfig) (workerThreadsCount : ℕ)
    (s : EventLoops) (run : Reaches (loopsStep platform) (.construct config workerThreadsCount) s) :
    (∀ i < s.started, s.loops i ≠ .returned → s.receiver.isConnected = true) ∧
      (s.control = .idle → s.running = false →
        (∀ i < s.started, s.loops i = .returned) ∧ s.receiver.isConnected = false) := by
  have hcrew := crewOk_of_reaches run
  refine ⟨fun i hi hlive => ?_, fun hidle hstopped => ?_⟩
  · apply hcrew.connected
    by_contra hjoined
    exact hlive (hcrew.gone i (hi.trans_le (Nat.le_of_not_lt hjoined)))
  · have hcontrol := hcrew.control
    rw [hidle] at hcontrol
    obtain ⟨hconnected, hjoined⟩ := hcontrol
    rw [← hjoined hstopped]
    exact ⟨hcrew.gone, hconnected.trans hstopped⟩

/-- A service of two loops, one of which sleeps while `Stop` clears `running_`. -/
private def stoppingService : List LoopsAction :=
  [.start, .connect .success, .control, .control, .control, .control, .loop 0, .loop 0, .stop,
    .control]

/-- The same service when `Stop` has returned. -/
private def stoppedService : List LoopsAction :=
  stoppingService ++ [.loop 1, .loop 0, .loop 0, .control, .control, .control, .control]

theorem loops_joined_stopped : ∃ s : EventLoops, s.started = 2 ∧
    (∀ i < 2, s.loops i = .returned) ∧ s.receiver.isConnected = false := by
  have hfacts : (steps (loopsStep asciiPlatform) (.construct ⟨1, 2, 4096, 4⟩ 2)
      stoppedService).map (fun s => (s.control, s.running, s.started)) =
      some (.idle, false, 2) := by
    decide +kernel
  obtain ⟨s, hs, hfacts⟩ := Option.map_eq_some_iff.mp hfacts
  simp only [Prod.mk.injEq] at hfacts
  obtain ⟨hcontrol, hrunning, hstarted⟩ := hfacts
  have hjoined := (loops_joined asciiPlatform ⟨1, 2, 4096, 4⟩ 2 s (reaches_of_steps hs)).2
    hcontrol hrunning
  rw [hstarted] at hjoined
  exact ⟨s, hstarted, hjoined⟩

/-! ## `Stop` returns -/

/-- `Stop` has cleared `running_` and has not returned. -/
def Control.stopping : Control → Bool
  | .joining | .disconnecting => true
  | _ => false

/-- A step of `Stop` or of a loop. -/
def LoopsAction.ofCrew : LoopsAction → Bool
  | .control | .loop _ | .publish _ _ => true
  | _ => false

/-- How many steps are left to a loop once `running_` is cleared. -/
def EventLoop.left : EventLoop → ℕ
  | .returned => 0
  | .checkRunning => 1
  | .sleeping | .countPublished | .countError => 2
  | .countProcessed => 3
  | .publishing _ => 4
  | .received _ => 5
  | .receiving => 6

def Control.left : Control → ℕ
  | .joining => 2
  | .disconnecting => 1
  | _ => 0

/-- How many steps are left until `Stop` returns. -/
def EventLoops.left (s : EventLoops) : ℕ :=
  held s.crew EventLoop.left s.loops + (s.started - s.joined) + s.control.left

section

variable {platform : Platform} {config : IOCPConfig} {n : ℕ} {s t : EventLoops} {i : ℕ}

theorem EventLoop.left_le (pc : EventLoop) : pc.left ≤ 6 := by
  cases pc <;> simp [EventLoop.left]

theorem EventLoops.left_le (s : EventLoops) : s.left ≤ 7 * s.started + 2 := by
  have hheld : held s.crew EventLoop.left s.loops ≤ s.started * 6 := by
    have hle := @held_le ℕ EventLoop s.crew EventLoop.left s.loops 6 EventLoop.left_le
    rwa [EventLoops.crew, Finset.card_range] at hle
  have hcontrol : s.control.left ≤ 2 := by cases s.control <;> simp [Control.left]
  unfold EventLoops.left
  omega

/-- A loop that moves on has fewer steps left, and nobody else has more. -/
theorem left_lt_of_loop (hi : i < s.started) {pc : EventLoop}
    (hloops : t.loops = Function.update s.loops i pc) (hless : pc.left < (s.loops i).left)
    (hstarted : t.started = s.started) (hjoined : t.joined = s.joined)
    (hcontrol : t.control = s.control) : t.left < s.left := by
  have hmem : i ∈ s.crew := Finset.mem_range.mpr hi
  have hheld := @held_update ℕ EventLoop ℕ _ _ s.crew i EventLoop.left s.loops pc hmem
  unfold EventLoops.left EventLoops.crew at *
  rw [hloops, hstarted, hjoined, hcontrol]
  omega

theorem LoopMove.left_lt (hstopped : s.running = false) (hi : i < s.started) {pc : EventLoop}
    (hpc : s.loops i = pc) (hmove : LoopMove s i pc t) : t.left < s.left := by
  subst hpc
  generalize hpc : s.loops i = pc at hmove
  cases hmove with
  | run hrunning =>
      rw [hstopped] at hrunning
      cases hrunning
  | leave _ | take _ | timeout _ | wake | received _ | processed | published | error =>
      exact left_lt_of_loop hi rfl (by rw [hpc]; simp [EventLoop.left]) rfl rfl rfl

/-- **Step lemma for `Stop`.**  Its own steps and those of the loops come to an end, and the others
do not put it off. -/
theorem left_step (h : CrewOk s) (hstopping : s.control.stopping = true) {action : LoopsAction}
    (hstep : loopsStep platform s action = some t) :
    t.left + action.ofCrew.toNat ≤ s.left := by
  have hcontrol := h.control
  have hstopped : s.running = false := by
    cases hpc : s.control with
    | joining | disconnecting =>
        rw [hpc] at hcontrol
        first | exact hcontrol.2 | exact hcontrol.2.1
    | _ =>
        rw [hpc] at hstopping
        cases hstopping
  cases action with
  | start =>
      rw [(loopsStep_start hstep).1] at hstopping
      cases hstopping
  | stop =>
      rw [(loopsStep_stop hstep).1] at hstopping
      cases hstopping
  | connect outcome =>
      rw [(loopsStep_connect hstep).1] at hstopping
      cases hstopping
  | control =>
      have hmove := controlMove_of_step hstep
      generalize hpc : s.control = pc at hmove hstopping
      cases hmove with
      | joinedAll hall | disconnect =>
          unfold EventLoops.left
          rw [hpc]
          exact le_rfl
      | join hmore hreturned =>
          have hlt : s.joined < s.started := Nat.lt_of_le_of_ne h.joined_le hmore
          show held s.crew EventLoop.left s.loops + (s.started - (s.joined + 1)) +
            s.control.left + 1 ≤ s.left
          unfold EventLoops.left
          omega
      | _ => cases hstopping
  | loop i =>
      obtain ⟨hi, hmove⟩ := loopsStep_loop hstep
      exact hmove.left_lt hstopped hi rfl
  | publish i throws =>
      obtain ⟨hi, ⟨event, hpc⟩, rfl⟩ := loopsStep_publish hstep
      refine left_lt_of_loop hi rfl ?_ rfl rfl rfl
      rw [hpc]
      cases throws <;> simp [EventLoop.left]
  | complete c =>
      obtain ⟨-, rfl⟩ := loopsStep_complete hstep
      exact le_rfl

/-- As long as `Stop` has not returned, it or the loop that it waits for can take a step. -/
theorem crew_enabled (h : CrewOk s) (hstopping : s.control.stopping = true) :
    ∃ action, action.ofCrew = true ∧ (loopsStep platform s action).isSome = true := by
  cases hpc : s.control with
  | disconnecting => exact ⟨.control, rfl, by rw [loopsStep, hpc]; rfl⟩
  | joining =>
      by_cases hall : s.joined = s.started
      · exact ⟨.control, rfl, by rw [loopsStep, hpc, controlStep, if_pos hall]; rfl⟩
      · have hlt : s.joined < s.started := Nat.lt_of_le_of_ne h.joined_le hall
        cases hloop : s.loops s.joined with
        | returned =>
            exact ⟨.control, rfl, by rw [loopsStep, hpc, controlStep, if_neg hall, hloop]; rfl⟩
        | publishing event =>
            exact ⟨.publish s.joined false, rfl, by rw [loopsStep, hloop]; simp [hlt]⟩
        | receiving =>
            refine ⟨.loop s.joined, rfl, ?_⟩
            rw [loopsStep, if_pos hlt, hloop, loopStep]
            split <;> rfl
        | _ => exact ⟨.loop s.joined, rfl, by rw [loopsStep, if_pos hlt, hloop]; rfl⟩
  | _ =>
      rw [hpc] at hstopping
      cases hstopping

end

/-- **`Stop` returns.**  Once it has cleared `running_`, it and the loops take at most seven steps
for each loop and two more until it has returned, whatever the workers of the receiver do
meanwhile, and until then one of them can always take a step. -/
theorem stop_returns (platform : Platform) (config : IOCPConfig) (workerThreadsCount : ℕ)
    (s : EventLoops) (run : Reaches (loopsStep platform) (.construct config workerThreadsCount) s)
    (hstopping : s.control.stopping = true) :
    (∃ action, action.ofCrew = true ∧ (loopsStep platform s action).isSome = true) ∧
      ∀ actions t, Allowed (loopsStep platform) (fun u _ => u.control.stopping = true) s actions →
        steps (loopsStep platform) s actions = some t →
        actions.countP LoopsAction.ofCrew ≤ 7 * s.started + 2 := by
  have hcrew := crewOk_of_reaches run
  refine ⟨crew_enabled hcrew hstopping, fun actions t hallowed hsteps => ?_⟩
  have hwork : t.left + actions.countP LoopsAction.ofCrew ≤ s.left :=
    work_le_rank (fun u action v hu hallowed hstep =>
      And.intro (hu.step hstep) (left_step hu hallowed hstep)) hcrew hallowed hsteps
  have hbound := s.left_le
  omega

theorem stop_returns_sleeping : ∃ s : EventLoops, s.control = .joining ∧ s.started = 2 ∧
    ∃ action, action.ofCrew = true ∧ (loopsStep asciiPlatform s action).isSome = true := by
  have hfacts : (steps (loopsStep asciiPlatform) (.construct ⟨1, 2, 4096, 4⟩ 2)
      stoppingService).map (fun s => (s.control, s.started)) = some (.joining, 2) := by
    decide +kernel
  obtain ⟨s, hs, hfacts⟩ := Option.map_eq_some_iff.mp hfacts
  obtain ⟨hcontrol, hstarted⟩ := Prod.mk.inj hfacts
  exact ⟨s, hcontrol, hstarted, (stop_returns asciiPlatform ⟨1, 2, 4096, 4⟩ 2 s
    (reaches_of_steps hs) (by rw [hcontrol]; rfl)).1⟩

end Kawin.Kasvc
