import Kawin.Base.Ranking
import Kawin.Kasvc.ReceiverLifetime

/-!
# The receiver refines the communicator

The rest of the service, like the sequential model of `FilterPort`, takes a `Disconnect` for one
step, although its own steps lie far apart and the workers go on in between.  That is justified by
`receiver_refines`: it is as if all of it happened when it was called.

So what is known of the sequential communicator holds of the receiver as well.  One that was
disconnected leaves no handle, no buffer and no thread behind (`receiver_leaves_nothing`).
-/

namespace Kawin.Kasvc

open Transition

/-! ## `Disconnect` as one step -/

/-- The pool with these `in_use` flags. -/
def flag (inUse : ℕ → Bool) (pool : List IOContext) : List IOContext :=
  pool.mapIdx fun c context => { context with inUse := inUse c }

namespace Communicator

def withFlags (s : Communicator) (inUse : ℕ → Bool) : Communicator :=
  { s with contextPool := flag inUse s.contextPool }

def closeQueue (s : Communicator) : Communicator :=
  { s with path := { s.path with eventQueue := s.path.eventQueue.close } }

end Communicator

/-- What is left of a `Disconnect` that stands here. -/
def ReceiverControl.rest : ReceiverControl → Communicator → Communicator
  | .idle, s | .submitting, s => s
  | .clearing, s =>
      { s with running := false, workerThreads := 0 }.closeCompletionPort.closeFilterPort
        |>.freePool.closeQueue
  | .cancelling, s | .posting _, s | .joining _, s =>
      { s with workerThreads := 0 }.closeCompletionPort.closeFilterPort.freePool.closeQueue
  | .closingCompletionPort, s => s.closeCompletionPort.closeFilterPort.freePool.closeQueue
  | .closingFilterPort, s => s.closeFilterPort.freePool.closeQueue
  | .freeing, s => s.freePool.closeQueue
  | .closingQueue, s => s.closeQueue

/-- The sequential communicator that a receiver stands for: with the flags of its contexts, and with
the rest of a `Disconnect` that has begun. -/
def Receiver.sequential (s : Receiver) : Communicator :=
  s.control.rest (s.comm.withFlags s.port.inUse)

section

variable {s t : Communicator} {inUse : ℕ → Bool} {pool : List IOContext} {c : ℕ}

theorem flag_cons {context : IOContext} : flag inUse (context :: pool) =
    { context with inUse := inUse 0 } :: flag (fun c => inUse (c + 1)) pool :=
  List.mapIdx_cons

theorem map_messageBuffer_flag :
    (flag inUse pool).map (·.messageBuffer) = pool.map (·.messageBuffer) := by
  induction pool generalizing inUse with
  | nil => rfl
  | cons context pool ih => rw [flag_cons, List.map_cons, List.map_cons, ih]

theorem length_flag : (flag inUse pool).length = pool.length := List.length_mapIdx

/-- No flag is set. -/
theorem flag_eq_self (h : ∀ context ∈ pool, context.inUse = false) :
    flag (fun _ => false) pool = pool := by
  induction pool with
  | nil => rfl
  | cons context pool ih =>
      have hfirst : { context with inUse := false } = context := by
        rw [← h context List.mem_cons_self]
      rw [flag_cons, ih fun other hother => h other (List.mem_cons_of_mem _ hother)]
      exact congrArg (· :: pool) hfirst

theorem update_succ (inUse : ℕ → Bool) (c : ℕ) (used : Bool) :
    (fun d => Function.update inUse (c + 1) used (d + 1)) =
      Function.update (fun d => inUse (d + 1)) c used :=
  Function.update_comp_eq_of_injective inUse (Nat.succ_injective) c used

/-- The search of `AllocateContext` finds the same context in both. -/
theorem takeContext_flag : takeContext (flag inUse pool) =
    ((List.range pool.length).find? fun c => !inUse c).map
      fun c => flag (Function.update inUse c true) pool := by
  induction pool generalizing inUse with
  | nil => rfl
  | cons context pool ih =>
      rw [flag_cons, takeContext, List.length_cons, List.range_succ_eq_map, List.find?_cons]
      cases hfirst : inUse 0 with
      | false =>
          simp only [Bool.not_false, Bool.false_eq_true, if_false, Option.map_some, flag_cons,
            Function.update_self]
          rfl
      | true =>
          simp only [Bool.not_true, if_true, ih, List.find?_map, Option.map_map]
          refine congrArg (Option.map · _) (funext fun c => ?_)
          have hzero : Function.update inUse (c + 1) true 0 = true := by
            rw [Function.update_of_ne (Nat.succ_ne_zero c).symm, hfirst]
          simp only [Function.comp_apply, Nat.succ_eq_add_one, flag_cons, hzero, update_succ]

theorem allocateContext_of_take {pool' : List IOContext} (hrunning : s.running = true)
    (htake : takeContext s.contextPool = some pool') :
    s.allocateContext = { s with contextPool := pool' } := by
  rw [Communicator.allocateContext, hrunning, htake]
  rfl

/-- `FreeContext` does the same in both. -/
theorem modify_flag : (flag inUse pool).modify c (fun context => { context with inUse := false }) =
    flag (Function.update inUse c false) pool := by
  induction pool generalizing inUse c with
  | nil => cases c <;> rfl
  | cons context pool ih =>
      rw [flag_cons, flag_cons]
      cases c with
      | zero =>
          rw [List.modify_zero_cons, Function.update_self]
          rfl
      | succ c =>
          rw [List.modify_succ_cons, ih, update_succ,
            Function.update_of_ne (Nat.succ_ne_zero c).symm]

namespace Communicator

/-- The flags go with the pool. -/
theorem freePool_withFlags : (s.withFlags inUse).freePool = s.freePool := by
  have herase : (flag inUse s.contextPool).foldl
      (fun buffers context => buffers.erase context.messageBuffer) s.buffers =
        s.contextPool.foldl (fun buffers context => buffers.erase context.messageBuffer)
          s.buffers := by
    have hmap : ∀ pool : List IOContext, pool.foldl
        (fun buffers context => buffers.erase context.messageBuffer) s.buffers =
          (pool.map (·.messageBuffer)).foldl List.erase s.buffers := fun pool =>
      List.foldl_map.symm
    rw [hmap, hmap, map_messageBuffer_flag]
  rw [freePool, withFlags, herase]
  rfl

theorem closeFilterPort_withFlags :
    (s.withFlags inUse).closeFilterPort = s.closeFilterPort.withFlags inUse := by
  have hsame : (s.withFlags inUse).filterPort = s.filterPort := rfl
  rw [closeFilterPort, closeFilterPort, hsame]
  cases s.filterPort with
  | none => rfl
  | some handle => rfl

theorem closeCompletionPort_withFlags :
    (s.withFlags inUse).closeCompletionPort = s.closeCompletionPort.withFlags inUse := by
  have hsame : (s.withFlags inUse).iocpHandle = s.iocpHandle := rfl
  rw [closeCompletionPort, closeCompletionPort, hsame]
  cases s.iocpHandle with
  | none => rfl
  | some handle => rfl

end Communicator

/-- A `Disconnect` that has begun frees the pool, whatever its flags are. -/
theorem ReceiverControl.rest_withFlags {control : ReceiverControl} (hidle : control ≠ .idle)
    (hsubmitting : control ≠ .submitting) (hqueue : control ≠ .closingQueue) :
    control.rest (s.withFlags inUse) = control.rest s := by
  have hrunning : ∀ (s : Communicator) (running : Bool) (workerThreads : ℕ),
      { s.withFlags inUse with running := running, workerThreads := workerThreads } =
        Communicator.withFlags { s with running := running, workerThreads := workerThreads }
          inUse :=
    fun _ _ _ => rfl
  have hthreads : ∀ s : Communicator, { s.withFlags inUse with workerThreads := 0 } =
      Communicator.withFlags { s with workerThreads := 0 } inUse := fun _ => rfl
  cases control with
  | idle => exact absurd rfl hidle
  | submitting => exact absurd rfl hsubmitting
  | closingQueue => exact absurd rfl hqueue
  | clearing =>
      rw [rest, rest, hrunning, Communicator.closeCompletionPort_withFlags,
        Communicator.closeFilterPort_withFlags, Communicator.freePool_withFlags]
  | cancelling | posting _ | joining _ =>
      rw [rest, rest, hthreads, Communicator.closeCompletionPort_withFlags,
        Communicator.closeFilterPort_withFlags, Communicator.freePool_withFlags]
  | closingCompletionPort =>
      rw [rest, rest, Communicator.closeCompletionPort_withFlags,
        Communicator.closeFilterPort_withFlags, Communicator.freePool_withFlags]
  | closingFilterPort =>
      rw [rest, rest, Communicator.closeFilterPort_withFlags, Communicator.freePool_withFlags]
  | freeing => rw [rest, rest, Communicator.freePool_withFlags]

end

/-- The flags of `comm` itself are not used. -/
def Unused (s : Communicator) : Prop := ∀ context ∈ s.contextPool, context.inUse = false

section

variable {s : Communicator} {outcome : ConnectOutcome}

theorem Unused.allocatePool (h : Unused s) (allocates : ℕ → Bool) (left i : ℕ) :
    Unused (Communicator.allocatePool allocates left i s).2 := by
  induction left generalizing i s with
  | zero => exact h
  | succ left ih =>
      rw [Communicator.allocatePool]
      split
      · refine ih (fun context hcontext => ?_) (i + 1)
        rcases List.mem_append.mp hcontext with hold | hnew
        · exact h context hold
        · rw [List.mem_singleton.mp hnew]
      · exact h

theorem Unused.withFlags (h : Unused s) : s.withFlags (fun _ => false) = s :=
  congrArg (fun pool => { s with contextPool := pool }) (flag_eq_self h)

theorem Unused.connect (h : Unused s) (hstopped : s.running = false) :
    Unused (s.connect { outcome with submits := fun _ => false }).2 := by
  rcases @connect_result s outcome hstopped with
    hsame | hclosed | ⟨complete, partly, hpool, hresult⟩
  · rw [hsame]
    exact h
  · rw [hclosed]
    intro context hcontext
    rw [closeFilterPort_contextPool] at hcontext
    exact h context hcontext
  · have hopened : Unused s.openFilterPort.openCompletionPort := h
    have hpartly := hopened.allocatePool outcome.allocates s.config.bufferPoolSize 0
    rw [hpool] at hpartly
    rw [hresult]
    cases complete with
    | false => exact hpartly
    | true => exact hpartly

end

namespace Receiver

variable {s t : Receiver} {port : PortMachine} {allowed : Communicator → ConnectAction → Prop}
  {outcome : ConnectOutcome} {action : PortAction} {i : ℕ}

/-- `Connect` in an idle receiver: nothing, where it is connected, and else the sequential one. -/
theorem connect_comm (h : s.Ok) (hidle : s.control = .idle) : s.connect outcome = s ∨
    (Cleared s.comm s.port ∧
      (s.connect outcome).comm = (s.comm.connect { outcome with submits := fun _ => false }).2 ∧
      (∀ c, (s.connect outcome).port.inUse c = false) ∧
      ((s.connect outcome).control = .idle ∨ (s.connect outcome).control = .submitting)) := by
  have hstage := h.stage
  rw [hidle] at hstage
  rcases hstage with ⟨hrunning, hpresent, -⟩ | hcleared
  · have hconnected : s.comm.isConnected = true := hpresent.isConnected.trans hrunning
    have hsame : (s.comm.connect { outcome with submits := fun _ => false }).2 = s.comm := by
      rw [Communicator.connect, if_pos hconnected]
    rw [Receiver.connect, hsame, hconnected]
    exact .inl rfl
  · refine .inr ⟨hcleared, ?_⟩
    rw [Receiver.connect]
    split
    · exact ⟨rfl, fun _ => rfl, .inr rfl⟩
    · exact ⟨rfl, hcleared.inUse, .inl hidle⟩

theorem unused_step (h : s.Ok) (hunused : Unused s.comm) {action : ReceiverAction}
    (hstep : receiverStep s action = some t) : Unused t.comm := by
  cases receiverMove_of_step hstep with
  | connect outcome hidle =>
      rcases connect_comm h hidle with hsame | ⟨hcleared, hcomm, -⟩
      · rw [hsame]
        exact hunused
      · rw [hcomm]
        exact hunused.connect hcleared.running
  | disconnect _ _ | nothing _ | party _ _ | completed _ _ _ _ => exact hunused
  | call hmove =>
      generalize s.control = control at hmove
      cases hmove with
      | closeCompletionPort =>
          intro context hcontext
          exact hunused context (closeCompletionPort_contextPool ▸ hcontext)
      | closeFilterPort =>
          intro context hcontext
          exact hunused context (closeFilterPort_contextPool ▸ hcontext)
      | free => exact fun context hcontext => absurd hcontext List.not_mem_nil
      | submitted _ | clear | cancel | posted | post _ | joinedAll _ _ | join _ _ _ | closeQueue =>
          exact hunused

/-- The steps of a call change nothing: what they do was done when it was called. -/
theorem sequential_call {control : ReceiverControl} (hcontrol : s.control = control)
    (hmove : CallMove s control t) : t.sequential = s.sequential := by
  unfold sequential
  rw [hcontrol]
  cases hmove with
  | closeCompletionPort =>
      rw [ReceiverControl.rest, ReceiverControl.rest, Communicator.closeCompletionPort_withFlags]
  | closeFilterPort =>
      rw [ReceiverControl.rest, ReceiverControl.rest, Communicator.closeFilterPort_withFlags]
  | free =>
      rw [ReceiverControl.rest, ReceiverControl.rest, Communicator.freePool_withFlags]
      rfl
  | submitted _ | clear | cancel | posted | post _ | joinedAll _ _ | join _ _ _ | closeQueue => rfl

/-- What becomes of the flags in a step of a party. -/
theorem inUse_of_move {s t : PortMachine} {pc : Party} (hmove : PartyMove s i pc t) :
    t.inUse = s.inUse ∨ (∃ c, t.inUse = Function.update s.inUse c false) ∨
      ∃ c, s.running = true ∧ s.freeContext? = some c ∧
        t.inUse = Function.update s.inUse c true := by
  cases hmove with
  | free c back => exact .inr (.inl ⟨c, rfl⟩)
  | allocate left c hrunning hfree => exact .inr (.inr ⟨c, hrunning, hfree, rfl⟩)
  | run _ | leave _ | take _ | timeout | pass _ | again _ _ | drop _ _ | connected _ _ _
  | refused _ _ _ | failed _ _ | pending _ _ | succeeded _ _ | post _ _ | submittedAll
  | skip _ _ => exact .inl rfl

/-- **Step lemma for the threads.**  They take a context or give one back, or nothing happens. -/
theorem sequential_party (h : s.Ok)
    (hquiet : ∀ u action, (∀ outcome, action ≠ .connect outcome) → allowed u action)
    (hmove : PartyMove s.port i (s.port.parties i) port) :
    Run connectStep allowed s.sequential (sequential { s with port }) := by
  by_cases hrest : s.control ≠ .idle ∧ s.control ≠ .submitting
  · -- `Disconnect` frees the pool with all its flags
    have hqueue : s.control ≠ .closingQueue := by
      intro hcontrol
      have hstage := h.stage
      rw [hcontrol] at hstage
      exact hmove.not_done (hstage.done i)
    have hsame : sequential { s with port } = s.sequential := by
      show s.control.rest (s.comm.withFlags port.inUse) =
        s.control.rest (s.comm.withFlags s.port.inUse)
      rw [ReceiverControl.rest_withFlags hrest.1 hrest.2 hqueue,
        ReceiverControl.rest_withFlags hrest.1 hrest.2 hqueue]
    rw [hsame]
    exact .refl
  · have hcalm : ∀ comm : Communicator, s.control.rest comm = comm := by
      intro comm
      cases hcontrol : s.control with
      | idle | submitting => rfl
      | _ =>
          refine absurd ?_ hrest
          rw [hcontrol]
          exact ⟨by simp, by simp⟩
    show Run connectStep allowed (s.control.rest (s.comm.withFlags s.port.inUse))
      (s.control.rest (s.comm.withFlags port.inUse))
    rw [hcalm, hcalm]
    rcases inUse_of_move hmove with hsame | ⟨c, hfreed⟩ | ⟨c, hrunning, hfree, htaken⟩
    · rw [hsame]
      exact .refl
    · refine .single (.freeContext c) (hquiet _ _ fun outcome => by simp) ?_
      rw [hfreed, connectStep, Communicator.freeContext, Communicator.withFlags, modify_flag]
      rfl
    · refine .single .allocateContext (hquiet _ _ fun outcome => by simp) ?_
      have hrunning : (s.comm.withFlags s.port.inUse).running = true := h.running ▸ hrunning
      have hsearch : (List.range s.comm.contextPool.length).find?
          (fun c => !s.port.inUse c) = some c := by
        rw [← (h.present hmove.not_done).poolSize]
        exact hfree
      have htake : takeContext (s.comm.withFlags s.port.inUse).contextPool =
          some (flag (Function.update s.port.inUse c true) s.comm.contextPool) := by
        show takeContext (flag s.port.inUse s.comm.contextPool) = _
        rw [takeContext_flag, hsearch]
        rfl
      rw [htaken, connectStep, allocateContext_of_take hrunning htake]
      rfl

end Receiver

/-- The calls of `Connect` in a run are allowed as those of the sequential communicator are. -/
def AsSequential (allowed : Communicator → ConnectAction → Prop) :
    Receiver → ReceiverAction → Prop
  | s, .connect outcome => allowed s.comm (.connect { outcome with submits := fun _ => false })
  | _, .disconnect | _, .control | _, .port _ => True

namespace Receiver

variable {s t : Receiver} {allowed : Communicator → ConnectAction → Prop}

/-- **Step lemma.** -/
theorem sequential_step (h : s.Ok) (hunused : Unused s.comm)
    (hquiet : ∀ u action, (∀ outcome, action ≠ .connect outcome) → allowed u action)
    {action : ReceiverAction} (hallowed : AsSequential allowed s action)
    (hstep : receiverStep s action = some t) :
    Run connectStep allowed s.sequential t.sequential := by
  cases receiverMove_of_step hstep with
  | connect outcome hidle =>
      rcases connect_comm h hidle with hsame | ⟨hcleared, hcomm, hflags, hcontrol⟩
      · rw [hsame]
        exact .refl
      · have hbefore : s.sequential = s.comm := by
          have hnone : s.port.inUse = fun _ => false := funext hcleared.inUse
          rw [sequential, hidle, hnone]
          exact hunused.withFlags
        have hafter : (s.connect outcome).sequential = (s.connect outcome).comm := by
          have hnone : (s.connect outcome).port.inUse = fun _ => false := funext hflags
          have hunused' : Unused (s.connect outcome).comm :=
            hcomm ▸ hunused.connect hcleared.running
          rw [sequential, hnone]
          rcases hcontrol with hcontrol | hcontrol
          · rw [hcontrol]
            exact hunused'.withFlags
          · rw [hcontrol]
            exact hunused'.withFlags
        rw [hbefore, hafter, hcomm]
        exact .single _ hallowed rfl
  | disconnect hidle hconnected =>
      refine .single .disconnect (hquiet _ _ fun outcome => by simp) ?_
      have hflagged : (s.comm.withFlags s.port.inUse).isConnected = true := hconnected
      rw [connectStep, sequential, sequential, hidle]
      show some (Communicator.disconnect (s.comm.withFlags s.port.inUse)) = _
      rw [Communicator.disconnect, hflagged]
      rfl
  | nothing _ => exact .refl
  | call hmove =>
      rw [sequential_call rfl hmove]
      exact .refl
  | party _ hmove => exact sequential_party h hquiet hmove
  | completed _ _ _ _ => exact .refl

theorem run_sequential {config : IOCPConfig}
    (hquiet : ∀ u action, (∀ outcome, action ≠ .connect outcome) → allowed u action)
    (run : Run receiverStep (AsSequential allowed) (.construct config) s) :
    Run connectStep allowed (.construct config) s.sequential := by
  refine run.simulated (fun t => t.Ok ∧ Unused t.comm) sequential
    ⟨construct_ok config, fun context hcontext => absurd hcontext List.not_mem_nil⟩ ?_ ?_
  · exact fun t action u h _ hstep => ⟨h.1.step hstep, unused_step h.1 h.2 hstep⟩
  · exact fun t action u h hallowed hstep => sequential_step h.1 h.2 hquiet hallowed hstep

end Receiver

/-- **`Disconnect` as one step.**  In every run of the receiver the communicator is, with the flags
of its contexts and the rest of a `Disconnect` that has begun, one that the calls of the sequential
communicator come to, in the order in which they were made; between the calls there is no rest. -/
theorem receiver_refines (config : IOCPConfig) (s : Receiver)
    (run : Reaches receiverStep (.construct config) s) :
    Reaches connectStep (.construct config) s.sequential ∧
      (s.control = .idle → s.sequential = s.comm.withFlags s.port.inUse) := by
  refine ⟨Receiver.run_sequential (fun _ _ _ => trivial) (run.mono fun t action _ => ?_),
    fun hidle => ?_⟩
  · cases action <;> exact trivial
  · rw [Receiver.sequential, hidle]
    rfl

/-- The receiver of `lateReceive`, as soon as `Disconnect` has cleared `running_`. -/
private def clearedReceiver : List ReceiverAction :=
  [.connect ⟨0#32, none, fun _ => true, fun _ => true⟩, .port (.advance 0), .port (.advance 0),
    .port (.getMessage 0 .pending), .port (.advance 0), .control, .port (.advance 1), .disconnect,
    .control]

/-- The worker is there, and its communicator stands for one without any. -/
theorem receiver_refines_cleared : ∃ s : Receiver, s.port.parties 1 = .dequeue ∧
    s.sequential.workerThreads = 0 ∧
      Reaches connectStep (.construct ⟨1, 1, 4096, 1⟩) s.sequential := by
  have hfacts : (steps receiverStep (.construct ⟨1, 1, 4096, 1⟩) clearedReceiver).map
      (fun s => (s.port.parties 1, s.sequential.workerThreads)) = some (.dequeue, 0) := by
    decide +kernel
  obtain ⟨s, hs, hfacts⟩ := Option.map_eq_some_iff.mp hfacts
  obtain ⟨hparty, hthreads⟩ := Prod.mk.inj hfacts
  exact ⟨s, hparty, hthreads, (receiver_refines ⟨1, 1, 4096, 1⟩ s (reaches_of_steps hs)).1⟩

/-! ## What a `Disconnect` leaves -/

namespace Receiver

variable {s t : Receiver} {config : IOCPConfig}

/-- The receivers of runs in which no buffer of a pool is refused. -/
structure Exact (s : Receiver) : Prop where
  ok : s.Ok
  unused : Unused s.comm
  balanced : Balanced 0 s.comm
  tidy : Tidy s.sequential

theorem sequential_idle (hidle : s.control = .idle) :
    s.sequential = s.comm.withFlags s.port.inUse := by
  rw [sequential, hidle]
  rfl

theorem quiet_allocatesAll (u : Communicator) (action : ConnectAction)
    (haction : ∀ outcome, action ≠ .connect outcome) : AllocatesAll u action := by
  cases action with
  | connect outcome => exact absurd rfl (haction outcome)
  | disconnect | allocateContext | freeContext _ => trivial

theorem Exact.connect (h : Exact s) {outcome : ConnectOutcome} (hidle : s.control = .idle) :
    Balanced 0 (s.connect outcome).comm := by
  rcases connect_comm h.ok hidle with hsame | ⟨hcleared, hcomm, -⟩
  · rw [hsame]
    exact h.balanced
  · -- a communicator that was disconnected has nothing to lose
    have hclosed : s.sequential.isConnected = false := by
      rw [sequential_idle hidle]
      exact hcleared.isConnected
    obtain ⟨-, hport, hiocp, -⟩ := h.tidy.stopped hclosed
    rw [sequential_idle hidle] at hport hiocp
    have hport : s.comm.filterPort = none := hport
    have hiocp : s.comm.iocpHandle = none := hiocp
    have hnone : (s.comm.handles : Multiset ℕ) + 0 = 0 := by
      rw [Communicator.handles, hport, hiocp]
      rfl
    rw [hcomm]
    rcases @Balanced.connect 0 s.comm outcome h.balanced hcleared.running with hkept | hlost
    · exact hkept
    · rwa [hnone] at hlost

/-- **Step lemma.** -/
theorem Exact.step (h : Exact s) {action : ReceiverAction}
    (hallowed : AsSequential AllocatesAll s action) (hstep : receiverStep s action = some t) :
    Exact t := by
  refine ⟨h.ok.step hstep, unused_step h.ok h.unused hstep, ?_, ?_⟩
  · cases receiverMove_of_step hstep with
    | connect outcome hidle => exact h.connect hidle
    | disconnect _ _ | nothing _ | party _ _ | completed _ _ _ _ => exact h.balanced
    | call hmove => exact balanced_call h.balanced hmove
  · exact (sequential_step h.ok h.unused quiet_allocatesAll hallowed hstep).invariant h.tidy
      fun u action v hu haction hv => (hu.step haction hv).2

theorem exact_of_run (run : Run receiverStep (AsSequential AllocatesAll) (.construct config) s) :
    Exact s := by
  refine run.invariant ⟨construct_ok config, fun context hcontext => ?_, ⟨rfl, rfl⟩, ?_⟩
    fun t action u h hallowed hstep => h.step hallowed hstep
  · exact absurd hcontext List.not_mem_nil
  · exact construct_tidy config

theorem config_of_run (run : Run receiverStep (AsSequential AllocatesAll) (.construct config) s)
    (hidle : s.control = .idle) : s.comm.config = config := by
  have hreached : Reaches connectStep (.construct config) s.sequential :=
    run_sequential (fun _ _ _ => trivial) (run.mono fun t action _ => by
      cases action <;> exact trivial)
  have hsized := (buffersSized_of_reaches hreached).config
  rw [sequential_idle hidle] at hsized
  exact hsized

theorem Exact.handles (h : Exact s) : (s.comm.openHandles : Multiset ℕ) = s.comm.handles :=
  h.balanced.handles.trans (add_zero _)

/-- Between the calls the flags do not tell the receiver from the sequential communicator. -/
theorem sequential_isConnected (hidle : s.control = .idle) :
    s.sequential.isConnected = s.comm.isConnected := by
  rw [sequential_idle hidle]
  rfl

/-- A connected receiver has two handles and its pool. -/
theorem Exact.connected (h : Exact s) (hidle : s.control = .idle)
    (hopen : s.comm.isConnected = true) :
    s.comm.openHandles.length = 2 ∧ s.comm.buffers.length = s.comm.config.bufferPoolSize := by
  constructor
  · rw [Communicator.isConnected, Bool.and_eq_true, Bool.and_eq_true] at hopen
    obtain ⟨⟨hport, hiocp⟩, -⟩ := hopen
    obtain ⟨port, hport⟩ := Option.isSome_iff_exists.mp hport
    obtain ⟨iocp, hiocp⟩ := Option.isSome_iff_exists.mp hiocp
    rw [(Multiset.coe_eq_coe.mp h.handles).length_eq, Communicator.handles, hport, hiocp]
    rfl
  · have hpool : s.sequential.contextPool.length = s.sequential.config.bufferPoolSize :=
      h.tidy.connected ((sequential_isConnected hidle).trans hopen)
    rw [sequential_idle hidle] at hpool
    have hpool : (flag s.port.inUse s.comm.contextPool).length = s.comm.config.bufferPoolSize :=
      hpool
    rw [(Multiset.coe_eq_coe.mp h.balanced.buffers).length_eq, List.length_map, ← hpool,
      length_flag]

/-- A disconnected receiver has nothing. -/
theorem Exact.disconnected (h : Exact s) (hidle : s.control = .idle)
    (hclosed : s.comm.isConnected = false) :
    s.comm.openHandles = [] ∧ s.comm.buffers = [] ∧ ∀ i, s.port.parties i = .done := by
  obtain ⟨-, hport, hiocp, hpool, -⟩ :=
    h.tidy.stopped ((sequential_isConnected hidle).trans hclosed)
  rw [sequential_idle hidle] at hport hiocp hpool
  have hport : s.comm.filterPort = none := hport
  have hiocp : s.comm.iocpHandle = none := hiocp
  have hpool : flag s.port.inUse s.comm.contextPool = [] := hpool
  have hempty : s.comm.contextPool = [] := by
    rw [← List.length_eq_zero_iff, ← @length_flag s.port.inUse, hpool]
    rfl
  refine ⟨?_, ?_, ?_⟩
  · have hhandles := h.handles
    rw [Communicator.handles, hport, hiocp] at hhandles
    exact (Multiset.coe_eq_zero _).mp hhandles
  · have hbuffers := h.balanced.buffers
    rw [hempty] at hbuffers
    exact (Multiset.coe_eq_zero _).mp hbuffers
  · have hstage := h.ok.stage
    rw [hidle] at hstage
    rcases hstage with ⟨hrunning, hpresent, -⟩ | hcleared
    · rw [hpresent.isConnected, hrunning] at hclosed
      cases hclosed
    · exact hcleared.done

end Receiver

/-- **A `Disconnect` leaves nothing.**  In every run in which no allocation of a pool fails: between
the calls the receiver is connected, with the two handles and the pool that it is configured to
have, or no handle is open, no buffer is allocated and no thread is left. -/
theorem receiver_leaves_nothing (config : IOCPConfig) (s : Receiver)
    (run : Run receiverStep (AsSequential AllocatesAll) (.construct config) s)
    (hidle : s.control = .idle) :
    (s.comm.isConnected = true → s.comm.openHandles.length = 2 ∧
      s.comm.buffers.length = config.bufferPoolSize) ∧
    (s.comm.isConnected = false → s.comm.openHandles = [] ∧ s.comm.buffers = [] ∧
      ∀ i, s.port.parties i = .done) := by
  have h := Receiver.exact_of_run run
  refine ⟨fun hopen => ?_, h.disconnected hidle⟩
  obtain ⟨hhandles, hbuffers⟩ := h.connected hidle hopen
  rw [Receiver.config_of_run run hidle] at hbuffers
  exact ⟨hhandles, hbuffers⟩

/-- The same receiver to the end of `Disconnect`. -/
private def disconnectedReceiver : List ReceiverAction :=
  clearedReceiver ++ [ReceiverAction.control, .control, .control, .port (.dequeue 1),
    .port (.advance 1), .control, .control, .control, .control, .control, .control]

theorem receiver_leaves_nothing_disconnected : ∃ s : Receiver, s.comm.next = 3 ∧
    s.comm.openHandles = [] ∧ s.comm.buffers = [] ∧ ∀ i, s.port.parties i = .done := by
  have hfacts : (steps receiverStep (.construct ⟨1, 1, 4096, 1⟩) disconnectedReceiver).map
      (fun s => (s.control, s.comm.isConnected, s.comm.next)) = some (.idle, false, 3) := by
    decide +kernel
  obtain ⟨s, hs, hfacts⟩ := Option.map_eq_some_iff.mp hfacts
  simp only [Prod.mk.injEq] at hfacts
  obtain ⟨hidle, hclosed, hnext⟩ := hfacts
  have hallowed : Allowed receiverStep (AsSequential AllocatesAll) (.construct ⟨1, 1, 4096, 1⟩)
      disconnectedReceiver := by
    refine ⟨.inr (.inr (.inr fun _ _ => rfl)), fun _ _ => allowed_of_forall fun action hmem u => ?_⟩
    cases action with
    | connect outcome => simp at hmem
    | disconnect | control | port _ => trivial
  exact ⟨s, hnext, (receiver_leaves_nothing ⟨1, 1, 4096, 1⟩ s (run_of_steps hallowed hs) hidle).2
    hclosed⟩

end Kawin.Kasvc
