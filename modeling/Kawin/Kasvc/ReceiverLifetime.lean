import Kawin.Kasvc.ReceiverMachine
import Mathlib.Algebra.Order.Group.Multiset
import Mathlib.Tactic.Abel

/-!
# The life of a receiver

The workers use the handles and the buffers that `Connect` made and `Disconnect` closes and frees.
What they need is there as long as one of them is left (`Stage`), so no step uses a handle that is
closed or a buffer that is freed (`receiver_sound`), however the calls and the threads interleave.
-/

namespace Kawin.Kasvc

open Transition

/-! ## The contexts in play -/

section

variable {s t : PortMachine} {i : ℕ}

/-- The contexts that somebody has in hand are contexts of the pool. -/
structure InPool (s : PortMachine) : Prop where
  parties : ∀ i c, (s.parties i).context? = some c → c < s.poolSize
  packets : ∀ packet ∈ s.packets, ∀ c, packet.context = some c → c < s.poolSize
  outstanding : ∀ c, 0 < s.outstanding c → c < s.poolSize

theorem init_inPool (poolSize workerThreadCount concurrentOperations : ℕ) :
    InPool (.init poolSize workerThreadCount concurrentOperations) where
  parties i c hc := by
    have hnone : ((PortMachine.init poolSize workerThreadCount concurrentOperations).parties
        i).context? = none := by
      rw [PortMachine.init]
      dsimp only
      split
      · rfl
      · split <;> rfl
    rw [hnone] at hc
    cases hc
  packets packet hpacket := absurd hpacket List.not_mem_nil
  outstanding c hc := absurd hc (Nat.lt_irrefl 0)

/-- There are no more threads than those that are started. -/
theorem init_done {poolSize workerThreadCount concurrentOperations : ℕ}
    (hi : workerThreadCount < i) :
    (PortMachine.init poolSize workerThreadCount concurrentOperations).parties i = .done := by
  have hne : i ≠ 0 := by omega
  rw [PortMachine.init]
  dsimp only
  rw [if_neg hne, if_neg (Nat.not_le.mpr hi)]

/-- A party moves on, with a context of the pool or none. -/
theorem InPool.moved (h : InPool s) {party : Party}
    (hparties : t.parties = Function.update s.parties i party) (hsize : t.poolSize = s.poolSize)
    (hparty : ∀ c, party.context? = some c → c < s.poolSize)
    (hpackets : ∀ packet ∈ t.packets, packet ∈ s.packets ∨
      ∀ c, packet.context = some c → c < s.poolSize)
    (houtstanding : ∀ c, 0 < t.outstanding c → 0 < s.outstanding c ∨ c < s.poolSize) :
    InPool t where
  parties j c hc := by
    rw [hsize]
    rw [hparties] at hc
    by_cases hj : j = i
    · rw [hj, Function.update_self] at hc
      exact hparty c hc
    · rw [Function.update_of_ne hj] at hc
      exact h.parties j c hc
  packets packet hpacket c hc := by
    rw [hsize]
    rcases hpackets packet hpacket with hold | hnew
    · exact h.packets packet hold c hc
    · exact hnew c hc
  outstanding c hc := by
    rw [hsize]
    rcases houtstanding c hc with hold | hnew
    · exact h.outstanding c hold
    · exact hnew

theorem InPool.goto (h : InPool s) {party : Party}
    (hparty : ∀ c, party.context? = some c → c < s.poolSize) : InPool (s.goto i party) :=
  h.moved rfl rfl hparty (fun _ => .inl) fun _ => .inl

/-- A worker goes on with a packet, which has a context of the pool or none. -/
theorem Packet.context_next {packet : Packet} {c : ℕ} (hc : packet.next.context? = some c) :
    packet.context = some c := by
  unfold Packet.next at hc
  split at hc
  · cases hc
  · next d hd =>
      split at hc <;> (cases hc; exact hd)

theorem freeContext?_lt {c : ℕ} (hfree : s.freeContext? = some c) : c < s.poolSize :=
  List.mem_range.mp (List.mem_of_find?_eq_some hfree)

/-- **Step lemma for the contexts.** -/
theorem PartyMove.inPool {pc : Party} (h : InPool s) (hpc : s.parties i = pc)
    (hmove : PartyMove s i pc t) : InPool t := by
  have hheld : ∀ c, pc.context? = some c → c < s.poolSize := fun c hc =>
    h.parties i c (hpc ▸ hc)
  have hafter : ∀ (back : Option ℕ) (c : ℕ), (afterSubmit back).context? = some c →
      c < s.poolSize := by
    intro back c hc
    rw [afterSubmit_context] at hc
    cases hc
  have hnone : ∀ party : Party, party.context? = none → ∀ c, party.context? = some c →
      c < s.poolSize := by
    intro party hparty c hc
    rw [hparty] at hc
    cases hc
  cases hmove with
  | run _ | leave _ | timeout | drop _ _ | submittedAll | skip _ _ => exact h.goto (hnone _ rfl)
  | again _ _ | connected _ _ _ | refused _ _ _ | failed _ _ => exact h.goto hheld
  | pass _ | succeeded _ _ =>
      exact h.moved rfl rfl hheld (fun _ => .inl) fun _ => .inl
  | @take packet rest hpackets =>
      refine h.moved rfl rfl (fun c hc => ?_) (fun other hother => .inl ?_) fun _ => .inl
      · exact h.packets packet (hpackets ▸ List.mem_cons_self) c (Packet.context_next hc)
      · rw [hpackets]
        exact List.mem_cons_of_mem _ hother
  | pending c back =>
      refine h.moved rfl rfl (hafter back) (fun _ => .inl) fun d hd => ?_
      by_cases hdc : d = c
      · exact .inr (hdc ▸ hheld c rfl)
      · have hd : 0 < Function.update s.outstanding c (s.outstanding c + 1) d := hd
        rw [Function.update_of_ne hdc] at hd
        exact .inl hd
  | post c back =>
      refine h.moved rfl rfl (hafter back) (fun packet hpacket => ?_) fun _ => .inl
      rcases List.mem_append.mp hpacket with hold | hnew
      · exact .inl hold
      · rw [List.mem_singleton.mp hnew]
        exact .inr hheld
  | free c back => exact h.moved rfl rfl (hafter back) (fun _ => .inl) fun _ => .inl
  | allocate left c _ hfree =>
      refine h.moved rfl rfl (fun d hd => ?_) (fun _ => .inl) fun _ => .inl
      cases hd
      exact freeContext?_lt hfree

/-- What a step of a party or of the Filter Manager leaves alone. -/
structure SamePort (s t : PortMachine) : Prop where
  running : t.running = s.running
  poolSize : t.poolSize = s.poolSize
  done : ∀ i, s.parties i = .done → t.parties i = .done
  inPool : InPool s → InPool t

theorem PartyMove.samePort {pc : Party} (hpc : s.parties i = pc) (hmove : PartyMove s i pc t) :
    SamePort s t where
  running := by cases hmove <;> rfl
  poolSize := by cases hmove <;> rfl
  done j hj := by
    have hji : j ≠ i := by
      rintro rfl
      exact hmove.not_done (hpc ▸ hj)
    rw [hmove.parties_of_ne hji]
    exact hj
  inPool h := hmove.inPool h hpc

theorem samePort_completed {c : ℕ} {packet : Packet} (buffers : ℕ → Buffer)
    (hpending : 0 < s.outstanding c) (hcontext : packet.context = some c) :
    SamePort s (s.completed c packet buffers) := by
  refine ⟨rfl, rfl, fun _ h => h, fun h => ⟨h.parties, fun other hother d hd => ?_, fun d hd => ?_⟩⟩
  · rcases List.mem_append.mp hother with hold | hnew
    · exact h.packets other hold d hd
    · rw [List.mem_singleton.mp hnew, hcontext] at hd
      cases hd
      exact h.outstanding c hpending
  · by_cases hdc : d = c
    · rw [hdc]
      exact h.outstanding c hpending
    · have hd : 0 < Function.update s.outstanding c (s.outstanding c - 1) d := hd
      rw [Function.update_of_ne hdc] at hd
      exact h.outstanding d hd

end

/-! ## The handles and buffers of the process -/

/-- The handles that the members hold. -/
def Communicator.handles (s : Communicator) : List ℕ :=
  s.filterPort.toList ++ s.iocpHandle.toList

/-- What is open and allocated is what the communicator holds, and the handles that a `Connect`
opened others over. -/
structure Balanced (lost : Multiset ℕ) (s : Communicator) : Prop where
  handles : (s.openHandles : Multiset ℕ) = (s.handles : Multiset ℕ) + lost
  buffers : (s.buffers : Multiset ℕ) = s.contextPool.map (·.messageBuffer)

theorem closeFilterPort_contextPool {s : Communicator} :
    s.closeFilterPort.contextPool = s.contextPool := by
  unfold Communicator.closeFilterPort
  split <;> rfl

theorem closeCompletionPort_contextPool {s : Communicator} :
    s.closeCompletionPort.contextPool = s.contextPool := by
  unfold Communicator.closeCompletionPort
  split <;> rfl

theorem closeCompletionPort_filterPort {s : Communicator} :
    s.closeCompletionPort.filterPort = s.filterPort := by
  unfold Communicator.closeCompletionPort
  split <;> rfl

/-- The loop of `Connect` without a receive. -/
theorem submitReceives_none (left i : ℕ) (s : Communicator) :
    Communicator.submitReceives (fun _ => false) left i s = s := by
  induction left generalizing i with
  | zero => rfl
  | succ left ih => exact ih (i + 1)

/-- What a `Connect` comes to before it submits the first receives. -/
theorem connect_result {s : Communicator} {outcome : ConnectOutcome}
    (hstopped : s.running = false) :
    (s.connect { outcome with submits := fun _ => false }).2 = s ∨
    (s.connect { outcome with submits := fun _ => false }).2 =
      Communicator.closeFilterPort { s.openFilterPort with iocpHandle := none } ∨
    ∃ complete partly, Communicator.allocatePool outcome.allocates s.config.bufferPoolSize 0
        s.openFilterPort.openCompletionPort = (complete, partly) ∧
      (s.connect { outcome with submits := fun _ => false }).2 =
        if complete then { partly with
          running := true
          workerThreads := partly.workerThreads + s.config.workerThreadCount }
        else partly := by
  have hclosed : s.isConnected = false := by
    rw [Communicator.isConnected, hstopped, Bool.and_false]
  rw [Communicator.connect, hclosed, if_neg Bool.false_ne_true]
  split
  · exact .inl rfl
  dsimp only
  split
  · exact .inr (.inl rfl)
  · have hstill : (Communicator.allocatePool outcome.allocates s.config.bufferPoolSize 0
        s.openFilterPort.openCompletionPort).2.running = false := by
      rw [(allocatePool_onlyPool outcome.allocates s.config.bufferPoolSize 0).eq]
      exact hstopped
    revert hstill
    cases hpool : Communicator.allocatePool outcome.allocates s.config.bufferPoolSize 0
      s.openFilterPort.openCompletionPort with
    | mk complete partly =>
        intro hstill
        refine .inr (.inr ⟨complete, partly, rfl, ?_⟩)
        cases complete with
        | false =>
            -- `Disconnect` returns at once
            have hleft : partly.disconnect = partly := by
              rw [Communicator.disconnect, Communicator.isConnected, hstill, Bool.and_false]
              rfl
            dsimp only
            rw [hleft]
            rfl
        | true =>
            dsimp only
            rw [submitReceives_none]
            rfl

namespace Balanced

variable {lost : Multiset ℕ} {s t : Communicator} {outcome : ConnectOutcome}

theorem openFilterPort (h : Balanced lost s) :
    Balanced (s.filterPort.toList + lost) s.openFilterPort where
  handles := by
    show ((s.next :: s.openHandles : List ℕ) : Multiset ℕ) = _
    rw [← Multiset.cons_coe, h.handles, Communicator.handles, ← Multiset.coe_add,
      ← Multiset.singleton_add]
    show _ = (({s.next} : Multiset ℕ) + s.iocpHandle.toList) + (s.filterPort.toList + lost)
    abel
  buffers := h.buffers

theorem openCompletionPort (h : Balanced lost s) :
    Balanced (s.iocpHandle.toList + lost) s.openCompletionPort where
  handles := by
    show ((s.next :: s.openHandles : List ℕ) : Multiset ℕ) = _
    rw [← Multiset.cons_coe, h.handles, Communicator.handles, ← Multiset.coe_add,
      ← Multiset.singleton_add]
    show _ = ((s.filterPort.toList ++ [s.next] : List ℕ) : Multiset ℕ) +
      (s.iocpHandle.toList + lost)
    rw [← Multiset.coe_add, Multiset.coe_singleton]
    abel
  buffers := h.buffers

theorem closeFilterPort (h : Balanced lost s) : Balanced lost s.closeFilterPort := by
  unfold Communicator.closeFilterPort
  split
  · next handle hport =>
      refine ⟨?_, h.buffers⟩
      have hheld : (s.openHandles : Multiset ℕ) = handle ::ₘ (s.iocpHandle.toList + lost) := by
        rw [h.handles, Communicator.handles, hport, ← Multiset.cons_add, Multiset.cons_coe]
        rfl
      show ((s.openHandles.erase handle : List ℕ) : Multiset ℕ) = _
      rw [← Multiset.coe_erase, hheld, Multiset.erase_cons_head]
      rfl
  · exact h

theorem closeCompletionPort (h : Balanced lost s) : Balanced lost s.closeCompletionPort := by
  unfold Communicator.closeCompletionPort
  split
  · next handle hiocp =>
      refine ⟨?_, h.buffers⟩
      have hheld : (s.openHandles : Multiset ℕ) = handle ::ₘ (s.filterPort.toList + lost) := by
        rw [h.handles, Communicator.handles, hiocp, ← Multiset.coe_add, ← Multiset.singleton_add]
        show _ + ({handle} : Multiset ℕ) + lost = _
        abel
      show ((s.openHandles.erase handle : List ℕ) : Multiset ℕ) = _
      rw [← Multiset.coe_erase, hheld, Multiset.erase_cons_head, Communicator.handles]
      show _ = ((s.filterPort.toList ++ [] : List ℕ) : Multiset ℕ) + lost
      rw [List.append_nil]
  · exact h

theorem addContext (h : Balanced lost s) : Balanced lost s.addContext where
  handles := h.handles
  buffers := by
    show ((s.next :: s.buffers : List ℕ) : Multiset ℕ) =
      ((s.contextPool ++ [(⟨s.next, s.config.bufferSize, false⟩ : IOContext)]).map
        (·.messageBuffer) : List ℕ)
    rw [← Multiset.cons_coe, h.buffers, List.map_append, ← Multiset.coe_add, add_comm]
    rfl

theorem allocatePool (h : Balanced lost s) (allocates : ℕ → Bool) (left i : ℕ) :
    Balanced lost (Communicator.allocatePool allocates left i s).2 := by
  induction left generalizing i s with
  | zero => exact h
  | succ left ih =>
      rw [Communicator.allocatePool]
      split
      · exact ih h.addContext (i + 1)
      · exact h

/-- The buffers of the pool are freed, each once. -/
theorem freePool (h : Balanced lost s) : Balanced lost s.freePool where
  handles := h.handles
  buffers := by
    have herase : ∀ (pool : List IOContext) (buffers : List ℕ),
        (buffers : Multiset ℕ) = pool.map (·.messageBuffer) →
        pool.foldl (fun buffers context => buffers.erase context.messageBuffer) buffers = [] := by
      intro pool
      induction pool with
      | nil => exact fun buffers hbuffers => (Multiset.coe_eq_zero _).mp hbuffers
      | cons context rest ih =>
          intro buffers hbuffers
          refine ih _ ?_
          rw [← Multiset.coe_erase, hbuffers, List.map_cons, ← Multiset.cons_coe,
            Multiset.erase_cons_head]
    show ((s.contextPool.foldl (fun buffers context => buffers.erase context.messageBuffer)
      s.buffers : List ℕ) : Multiset ℕ) = _
    rw [herase _ _ h.buffers]
    rfl

/-- Where only the flags of the pool and `running_` differ. -/
theorem of_eq (h : Balanced lost s) (hport : t.filterPort = s.filterPort)
    (hiocp : t.iocpHandle = s.iocpHandle) (hopen : t.openHandles = s.openHandles)
    (hbuffers : t.buffers = s.buffers) (hpool : t.contextPool = s.contextPool) :
    Balanced lost t where
  handles := by
    rw [hopen, h.handles, Communicator.handles, Communicator.handles, hport, hiocp]
  buffers := by rw [hbuffers, h.buffers, hpool]

/-- A `Connect` loses the handles that were still there. -/
theorem connect (h : Balanced lost s) (hstopped : s.running = false) :
    Balanced lost (s.connect { outcome with submits := fun _ => false }).2 ∨
      Balanced (s.handles + lost) (s.connect { outcome with submits := fun _ => false }).2 := by
  have hhandles : (s.iocpHandle.toList : Multiset ℕ) + (s.filterPort.toList + lost) =
      s.handles + lost := by
    rw [Communicator.handles, ← Multiset.coe_add]
    abel
  rcases @connect_result s outcome hstopped with
    hsame | hclosed | ⟨complete, partly, hpool, hresult⟩
  · rw [hsame]
    exact .inl h
  · -- the handle of the completion port is overwritten with `nullptr`
    have hopened := h.openFilterPort
    have hlost : Balanced (s.handles + lost) { s.openFilterPort with iocpHandle := none } := by
      refine ⟨?_, hopened.buffers⟩
      rw [← hhandles]
      calc (s.openFilterPort.openHandles : Multiset ℕ)
          = (([s.next] : List ℕ) + s.iocpHandle.toList) + (s.filterPort.toList + lost) := by
            rw [hopened.handles, Multiset.coe_add]
            rfl
        _ = (([s.next] ++ [] : List ℕ) : Multiset ℕ) +
              (s.iocpHandle.toList + (s.filterPort.toList + lost)) := by
            rw [List.append_nil]
            abel
    rw [hclosed]
    exact .inr hlost.closeFilterPort
  · have hopened : Balanced (s.handles + lost) s.openFilterPort.openCompletionPort := by
      rw [← hhandles]
      exact h.openFilterPort.openCompletionPort
    have hpartly := hopened.allocatePool outcome.allocates s.config.bufferPoolSize 0
    rw [hpool] at hpartly
    rw [hresult]
    cases complete with
    | false => exact .inr hpartly
    | true => exact .inr (hpartly.of_eq rfl rfl rfl rfl rfl)

end Balanced

/-! ## The stages of a receiver -/

/-- The pool that the threads were started with. -/
structure Pooled (comm : Communicator) (port : PortMachine) : Prop where
  filterPort : comm.filterPort.isSome = true
  poolSize : port.poolSize = comm.contextPool.length
  inPool : InPool port

/-- What the threads need is there. -/
structure Present (comm : Communicator) (port : PortMachine) : Prop extends Pooled comm port where
  iocpHandle : comm.iocpHandle.isSome = true
  threads : ∀ i, comm.workerThreads < i → port.parties i = .done

/-- No thread is left. -/
def AllDone (port : PortMachine) : Prop := ∀ i, port.parties i = .done

/-- Nobody is left who could touch a handle or a buffer. -/
structure Gone (comm : Communicator) (port : PortMachine) : Prop where
  running : comm.running = false
  done : AllDone port
  outstanding : ∀ c, port.outstanding c = 0

/-- The pool is gone as well, and its flags with it. -/
structure Cleared (comm : Communicator) (port : PortMachine) : Prop extends Gone comm port where
  inUse : ∀ c, port.inUse c = false

/-- Where the threads can be while a call stands at this point. -/
def Stage (comm : Communicator) (port : PortMachine) : ReceiverControl → Prop
  | .idle => (comm.running = true ∧ Present comm port ∧ port.parties 0 = .done) ∨ Cleared comm port
  | .submitting => comm.running = true ∧ Present comm port
  | .clearing => comm.running = true ∧ Present comm port ∧ port.parties 0 = .done
  | .cancelling | .posting _ =>
      comm.running = false ∧ Present comm port ∧ port.parties 0 = .done
  | .joining joined => comm.running = false ∧ Present comm port ∧ joined ≤ comm.workerThreads ∧
      ∀ i ≤ joined, port.parties i = .done
  | .closingCompletionPort => comm.running = false ∧ Present comm port ∧ AllDone port
  | .closingFilterPort => comm.running = false ∧ Pooled comm port ∧ AllDone port
  | .freeing => Gone comm port
  | .closingQueue => Cleared comm port

/-- **The invariant.** -/
structure Receiver.Ok (s : Receiver) : Prop where
  running : s.port.running = s.comm.running
  balanced : ∃ lost, Balanced lost s.comm
  stage : Stage s.comm s.port s.control

section

variable {comm : Communicator} {port port' : PortMachine} {action : PortAction}

theorem Present.isConnected (h : Present comm port) : comm.isConnected = comm.running := by
  rw [Communicator.isConnected, h.filterPort, h.iocpHandle, Bool.true_and, Bool.true_and]

theorem Gone.isConnected (h : Gone comm port) : comm.isConnected = false := by
  rw [Communicator.isConnected, h.running, Bool.and_false]

theorem Pooled.of_samePort (h : Pooled comm port) (hsame : SamePort port port') :
    Pooled comm port' where
  filterPort := h.filterPort
  poolSize := hsame.poolSize.trans h.poolSize
  inPool := hsame.inPool h.inPool

theorem Present.of_samePort (h : Present comm port) (hsame : SamePort port port') :
    Present comm port' where
  toPooled := h.toPooled.of_samePort hsame
  iocpHandle := h.iocpHandle
  threads i hi := hsame.done i (h.threads i hi)

theorem AllDone.of_samePort (h : AllDone port) (hsame : SamePort port port') : AllDone port' :=
  fun i => hsame.done i (h i)

/-- Posting a dummy packet touches no thread. -/
theorem samePort_postDummy (hstep : portStep port .postDummy = some port') :
    SamePort port port' := by
  cases hstep
  refine ⟨rfl, rfl, fun _ h => h,
    fun h => ⟨h.parties, fun packet hpacket d hd => ?_, h.outstanding⟩⟩
  rcases List.mem_append.mp hpacket with hold | hnew
  · exact h.packets packet hold d hd
  · rw [List.mem_singleton.mp hnew] at hd
    cases hd

end

namespace Receiver

variable {s t : Receiver} {port : PortMachine} {action : PortAction}

/-- The threads and the Filter Manager leave the call where it is, if there are any. -/
theorem Ok.of_samePort (h : s.Ok) (hsame : SamePort s.port port)
    (hlive : ¬Gone s.comm s.port) : Ok { s with port } := by
  refine ⟨hsame.running.trans h.running, h.balanced, ?_⟩
  have hstage := h.stage
  show Stage s.comm port s.control
  cases hcontrol : s.control with
  | idle =>
      rw [hcontrol] at hstage
      rcases hstage with ⟨hrunning, hpresent, hzero⟩ | hcleared
      · exact .inl ⟨hrunning, hpresent.of_samePort hsame, hsame.done 0 hzero⟩
      · exact absurd hcleared.toGone hlive
  | submitting =>
      rw [hcontrol] at hstage
      exact ⟨hstage.1, hstage.2.of_samePort hsame⟩
  | clearing | cancelling | posting left =>
      rw [hcontrol] at hstage
      exact ⟨hstage.1, hstage.2.1.of_samePort hsame, hsame.done 0 hstage.2.2⟩
  | joining joined =>
      rw [hcontrol] at hstage
      exact ⟨hstage.1, hstage.2.1.of_samePort hsame, hstage.2.2.1,
        fun i hi => hsame.done i (hstage.2.2.2 i hi)⟩
  | closingCompletionPort =>
      rw [hcontrol] at hstage
      exact ⟨hstage.1, hstage.2.1.of_samePort hsame, hstage.2.2.of_samePort hsame⟩
  | closingFilterPort =>
      rw [hcontrol] at hstage
      exact ⟨hstage.1, hstage.2.1.of_samePort hsame, hstage.2.2.of_samePort hsame⟩
  | freeing =>
      rw [hcontrol] at hstage
      exact absurd hstage hlive
  | closingQueue =>
      rw [hcontrol] at hstage
      exact absurd hstage.toGone hlive

/-- Where nobody is left, nobody takes a step. -/
theorem not_gone_of_party {i : ℕ} (hi : s.port.parties i ≠ .done) : ¬Gone s.comm s.port :=
  fun hgone => hi (hgone.done i)

theorem not_gone_of_pending {c : ℕ} (hc : 0 < s.port.outstanding c) : ¬Gone s.comm s.port :=
  fun hgone => absurd hc (hgone.outstanding c ▸ Nat.lt_irrefl 0)

/-- A call loses no handle. -/
theorem balanced_call {lost : Multiset ℕ} (h : Balanced lost s.comm) {control : ReceiverControl}
    (hmove : CallMove s control t) : Balanced lost t.comm := by
  cases hmove with
  | closeCompletionPort => exact h.closeCompletionPort
  | closeFilterPort => exact h.closeFilterPort
  | free => exact h.freePool
  | submitted _ | clear | cancel | posted | post _ | joinedAll _ _ | join _ _ _ | closeQueue =>
      exact h.of_eq rfl rfl rfl rfl rfl

/-- A call takes away only what nobody needs any more. -/
theorem Ok.call (h : s.Ok) {control : ReceiverControl} (hcontrol : s.control = control)
    (hmove : CallMove s control t) : t.Ok := by
  have hbalanced : ∃ lost, Balanced lost t.comm :=
    h.balanced.imp fun lost hlost => balanced_call hlost hmove
  have hstage := h.stage
  rw [hcontrol] at hstage
  cases hmove with
  | submitted hdone => exact ⟨h.running, hbalanced, .inl ⟨hstage.1, hstage.2, hdone⟩⟩
  | clear =>
      obtain ⟨-, hpresent, hzero⟩ := hstage
      refine ⟨rfl, hbalanced, rfl, ?_, hzero⟩
      exact ⟨⟨hpresent.filterPort, hpresent.poolSize, hpresent.inPool.parties,
        hpresent.inPool.packets, hpresent.inPool.outstanding⟩, hpresent.iocpHandle,
        hpresent.threads⟩
  | cancel => exact ⟨h.running, hbalanced, hstage⟩
  | posted =>
      refine ⟨h.running, hbalanced, hstage.1, hstage.2.1, Nat.zero_le _, fun i hi => ?_⟩
      rw [Nat.le_zero.mp hi]
      exact hstage.2.2
  | post left =>
      have hsame : SamePort s.port _ := @samePort_postDummy s.port _ rfl
      exact ⟨hsame.running.trans h.running, hbalanced, hstage.1,
        hstage.2.1.of_samePort hsame, hsame.done 0 hstage.2.2⟩
  | joinedAll joined hall =>
      -- the workers are those up to `worker_threads_.size()`
      obtain ⟨hstopped, hpresent, -, hdone⟩ := hstage
      have hgone : AllDone s.port := fun i => by
        rcases Nat.lt_or_ge s.comm.workerThreads i with hlt | hge
        · exact hpresent.threads i hlt
        · exact hdone i (hall ▸ hge)
      exact ⟨h.running, hbalanced, hstopped,
        ⟨⟨hpresent.filterPort, hpresent.poolSize, hpresent.inPool⟩, hpresent.iocpHandle,
          fun i _ => hgone i⟩, hgone⟩
  | join joined hmore hnext =>
      obtain ⟨hstopped, hpresent, hle, hdone⟩ := hstage
      refine ⟨h.running, hbalanced, hstopped, hpresent,
        Nat.lt_of_le_of_ne hle hmore, fun i hi => ?_⟩
      rcases Nat.le_succ_iff.mp hi with hold | rfl
      · exact hdone i hold
      · exact hnext
  | closeCompletionPort =>
      refine ⟨?_, hbalanced, ?_, ⟨?_, ?_, hstage.2.1.inPool⟩, hstage.2.2⟩
      · exact h.running.trans (Communicator.closeCompletionPort_running _).symm
      · exact (Communicator.closeCompletionPort_running _).trans hstage.1
      · exact (congrArg Option.isSome closeCompletionPort_filterPort).trans
          hstage.2.1.filterPort
      · exact hstage.2.1.poolSize.trans
          (congrArg List.length closeCompletionPort_contextPool.symm)
  | closeFilterPort =>
      refine ⟨?_, hbalanced, ?_, hstage.2.2, fun _ => rfl⟩
      · exact h.running.trans (Communicator.closeFilterPort_running _).symm
      · exact (Communicator.closeFilterPort_running _).trans hstage.1
  | free =>
      exact ⟨h.running, hbalanced,
        ⟨hstage.running, hstage.done, hstage.outstanding⟩, fun _ => rfl⟩
  | closeQueue =>
      exact ⟨h.running, hbalanced,
        .inr ⟨⟨hstage.running, hstage.done, hstage.outstanding⟩, hstage.inUse⟩⟩

/-- **Step lemma for `Connect`.** -/
theorem Ok.connect (h : s.Ok) (hidle : s.control = .idle) (outcome : ConnectOutcome) :
    (s.connect outcome).Ok := by
  obtain ⟨lost, hbalanced⟩ := h.balanced
  have hstage := h.stage
  rw [hidle] at hstage
  rcases hstage with ⟨hrunning, hpresent, hzero⟩ | hgone
  · have hconnected : s.comm.isConnected = true := hpresent.isConnected.trans hrunning
    have hsame : (s.comm.connect { outcome with submits := fun _ => false }).2 = s.comm := by
      rw [Communicator.connect, if_pos hconnected]
    rw [Receiver.connect, hsame, hconnected]
    exact h
  · have hbooks : ∃ lost, Balanced lost
        (s.comm.connect { outcome with submits := fun _ => false }).2 := by
      rcases @Balanced.connect lost s.comm outcome hbalanced hgone.running with hkept | hlost
      · exact ⟨_, hkept⟩
      · exact ⟨_, hlost⟩
    have hfailed : ∀ comm : Communicator,
        (s.comm.connect { outcome with submits := fun _ => false }).2 = comm →
        comm.running = false → (s.connect outcome).Ok := by
      intro comm hcomm hstopped
      have hclosed : comm.isConnected = false := by
        rw [Communicator.isConnected, hstopped, Bool.and_false]
      rw [hcomm] at hbooks
      rw [Receiver.connect, hcomm]
      simp only [hclosed, Bool.false_and, Bool.false_eq_true, if_false]
      refine ⟨?_, hbooks, ?_⟩
      · rw [hstopped]
        exact h.running.trans hgone.running
      · show Stage comm s.port s.control
        rw [hidle]
        exact .inr ⟨⟨hstopped, hgone.done, hgone.outstanding⟩, hgone.inUse⟩
    rcases @connect_cases s.comm { outcome with submits := fun _ => false } hgone.isConnected
      hgone.running with ⟨-, hcomm⟩ | ⟨-, hcomm⟩ | ⟨-, -, -, -, honly⟩ |
      ⟨-, -, ready, honly, -, hsame⟩
    · exact hfailed _ hcomm hgone.running
    · exact hfailed _ hcomm hgone.running
    · refine hfailed _ rfl ?_
      rw [honly.eq]
      exact hgone.running
    · generalize hcomm : (s.comm.connect { outcome with submits := fun _ => false }).2 = comm
        at hsame hbooks
      have hrunning : comm.running = true := by rw [hsame.eq]
      have hport : comm.filterPort.isSome = true := by
        rw [hsame.eq]
        show ready.filterPort.isSome = true
        rw [honly.eq]
        rfl
      have hiocp : comm.iocpHandle.isSome = true := by
        rw [hsame.eq]
        show ready.iocpHandle.isSome = true
        rw [honly.eq]
        rfl
      have hconnected : comm.isConnected = true := by
        rw [Communicator.isConnected, hport, hiocp, hrunning]
        rfl
      rw [Receiver.connect, hcomm]
      simp only [hconnected, hgone.isConnected, Bool.not_false, Bool.and_self, if_true]
      exact ⟨hrunning.symm, hbooks, hrunning, ⟨hport, rfl, init_inPool _ _ _⟩, hiocp,
        fun i hi => init_done hi⟩

/-- **Step lemma.** -/
theorem Ok.step (h : s.Ok) {action : ReceiverAction} (hstep : receiverStep s action = some t) :
    t.Ok := by
  cases receiverMove_of_step hstep with
  | connect outcome hidle => exact h.connect hidle outcome
  | disconnect hidle hconnected =>
      have hstage := h.stage
      rw [hidle] at hstage
      rcases hstage with hpresent | hcleared
      · exact ⟨h.running, h.balanced, hpresent⟩
      · rw [hcleared.isConnected] at hconnected
        cases hconnected
  | nothing _ => exact h
  | call hmove => exact h.call rfl hmove
  | party _ hmove => exact h.of_samePort (hmove.samePort rfl) (not_gone_of_party hmove.not_done)
  | completed buffers _ hpending hcontext =>
      exact h.of_samePort (samePort_completed buffers hpending hcontext)
        (not_gone_of_pending hpending)

theorem construct_ok (config : IOCPConfig) : (construct config).Ok where
  running := rfl
  balanced := ⟨0, rfl, rfl⟩
  stage := .inr ⟨⟨rfl, fun _ => rfl, fun _ => rfl⟩, fun _ => rfl⟩

theorem ok_of_reaches {config : IOCPConfig} (run : Reaches receiverStep (.construct config) s) :
    s.Ok :=
  run.invariant (construct_ok config) fun _ _ _ h _ hstep => h.step hstep

/-! ## What the steps use -/

/-- As long as a thread is left, what it needs is there. -/
theorem Ok.present (h : s.Ok) {i : ℕ} (hi : s.port.parties i ≠ .done) :
    Present s.comm s.port := by
  have hstage := h.stage
  cases hcontrol : s.control with
  | idle =>
      rw [hcontrol] at hstage
      rcases hstage with ⟨-, hpresent, -⟩ | hgone
      · exact hpresent
      · exact absurd (hgone.done i) hi
  | submitting =>
      rw [hcontrol] at hstage
      exact hstage.2
  | clearing | cancelling | posting _ | joining _ | closingCompletionPort =>
      rw [hcontrol] at hstage
      exact hstage.2.1
  | closingFilterPort =>
      rw [hcontrol] at hstage
      exact absurd (hstage.2.2 i) hi
  | freeing =>
      rw [hcontrol] at hstage
      exact absurd (hstage.done i) hi
  | closingQueue =>
      rw [hcontrol] at hstage
      exact absurd (hstage.done i) hi

/-- As long as a receive is pending, its buffer and the port are there. -/
theorem Ok.pooled (h : s.Ok) {c : ℕ} (hc : 0 < s.port.outstanding c) :
    Pooled s.comm s.port := by
  have hstage := h.stage
  cases hcontrol : s.control with
  | idle =>
      rw [hcontrol] at hstage
      rcases hstage with ⟨-, hpresent, -⟩ | hgone
      · exact hpresent.toPooled
      · exact absurd hc (hgone.outstanding c ▸ Nat.lt_irrefl 0)
  | submitting =>
      rw [hcontrol] at hstage
      exact hstage.2.toPooled
  | clearing | cancelling | posting _ | joining _ | closingCompletionPort =>
      rw [hcontrol] at hstage
      exact hstage.2.1.toPooled
  | closingFilterPort =>
      rw [hcontrol] at hstage
      exact hstage.2.1
  | freeing =>
      rw [hcontrol] at hstage
      exact absurd hc (hstage.outstanding c ▸ Nat.lt_irrefl 0)
  | closingQueue =>
      rw [hcontrol] at hstage
      exact absurd hc (hstage.outstanding c ▸ Nat.lt_irrefl 0)

/-- What a member holds is open. -/
theorem Ok.open_of_mem (h : s.Ok) {handle : ℕ} (hmem : handle ∈ s.comm.handles) :
    handle ∈ s.comm.openHandles := by
  obtain ⟨lost, hbalanced⟩ := h.balanced
  have hopen : handle ∈ (s.comm.openHandles : Multiset ℕ) := by
    rw [hbalanced.handles]
    exact Multiset.mem_add.mpr (.inl (Multiset.mem_coe.mpr hmem))
  exact Multiset.mem_coe.mp hopen

theorem Ok.filterPort_open (h : s.Ok) (hsome : s.comm.filterPort.isSome = true) :
    ∃ handle ∈ s.comm.openHandles, s.comm.filterPort = some handle := by
  obtain ⟨handle, hhandle⟩ := Option.isSome_iff_exists.mp hsome
  refine ⟨handle, h.open_of_mem ?_, hhandle⟩
  rw [Communicator.handles, hhandle]
  exact List.mem_append_left _ (List.mem_singleton.mpr rfl)

theorem Ok.iocpHandle_open (h : s.Ok) (hsome : s.comm.iocpHandle.isSome = true) :
    ∃ handle ∈ s.comm.openHandles, s.comm.iocpHandle = some handle := by
  obtain ⟨handle, hhandle⟩ := Option.isSome_iff_exists.mp hsome
  refine ⟨handle, h.open_of_mem ?_, hhandle⟩
  rw [Communicator.handles, hhandle]
  exact List.mem_append_right _ (List.mem_singleton.mpr rfl)

/-- A context of the pool has its buffer. -/
theorem Ok.context_allocated (h : s.Ok) (hpooled : Pooled s.comm s.port) {c : ℕ}
    (hc : c < s.port.poolSize) : ∃ context ∈ s.comm.contextPool,
      s.comm.contextPool[c]? = some context ∧ context.messageBuffer ∈ s.comm.buffers := by
  obtain ⟨lost, hbalanced⟩ := h.balanced
  have hlt : c < s.comm.contextPool.length := hpooled.poolSize ▸ hc
  refine ⟨s.comm.contextPool[c], List.getElem_mem hlt, List.getElem?_eq_getElem hlt, ?_⟩
  have hbuffer : s.comm.contextPool[c].messageBuffer ∈ (s.comm.buffers : Multiset ℕ) := by
    rw [hbalanced.buffers]
    exact Multiset.mem_coe.mpr (List.mem_map_of_mem (List.getElem_mem hlt))
  exact Multiset.mem_coe.mp hbuffer

/-- One handle, and contexts of the pool. -/
theorem Ok.sound (h : s.Ok) {action : ReceiverAction} {handles : List (Option ℕ)}
    {contexts : List ℕ} (hhandles : s.handlesUsed action = handles)
    (hcontexts : s.contextsUsed action = contexts)
    (hopen : ∀ handle ∈ handles, ∃ h ∈ s.comm.openHandles, handle = some h)
    (hpool : ∀ c ∈ contexts, Pooled s.comm s.port ∧ c < s.port.poolSize) : s.Sound action where
  handles := by
    rw [hhandles]
    exact hopen
  contexts c hc := by
    rw [hcontexts] at hc
    exact h.context_allocated (hpool c hc).1 (hpool c hc).2

/-- The steps of a call use what is there. -/
theorem Ok.sound_control (h : s.Ok) : s.Sound .control := by
  have hstage := h.stage
  have hnone : ∀ c ∈ ([] : List ℕ), Pooled s.comm s.port ∧ c < s.port.poolSize :=
    fun c hc => absurd hc List.not_mem_nil
  have hone : ∀ handle : Option ℕ, (∃ h ∈ s.comm.openHandles, handle = some h) →
      ∀ other ∈ [handle], ∃ h ∈ s.comm.openHandles, other = some h := by
    intro handle hhandle other hother
    rw [List.mem_singleton.mp hother]
    exact hhandle
  cases hcontrol : s.control with
  | idle | submitting | clearing | joining _ | freeing | closingQueue =>
      refine h.sound (by rw [handlesUsed, hcontrol]) rfl (fun handle hhandle => ?_) hnone
      exact absurd hhandle List.not_mem_nil
  | cancelling =>
      rw [hcontrol] at hstage
      exact h.sound (by rw [handlesUsed, hcontrol]) rfl
        (hone _ (h.filterPort_open hstage.2.1.filterPort)) hnone
  | posting left =>
      rw [hcontrol] at hstage
      cases left with
      | zero =>
          refine h.sound (by rw [handlesUsed, hcontrol]) rfl (fun handle hhandle => ?_) hnone
          exact absurd hhandle List.not_mem_nil
      | succ left =>
          exact h.sound (by rw [handlesUsed, hcontrol]) rfl
            (hone _ (h.iocpHandle_open hstage.2.1.iocpHandle)) hnone
  | closingCompletionPort =>
      rw [hcontrol] at hstage
      exact h.sound (by rw [handlesUsed, hcontrol]) rfl
        (hone _ (h.iocpHandle_open hstage.2.1.iocpHandle)) hnone
  | closingFilterPort =>
      rw [hcontrol] at hstage
      exact h.sound (by rw [handlesUsed, hcontrol]) rfl
        (hone _ (h.filterPort_open hstage.2.1.filterPort)) hnone

/-- So do the threads. -/
theorem Ok.sound_party (h : s.Ok) {i : ℕ} (haction : action.party? = some i)
    (hlive : s.port.parties i ≠ .done) : s.Sound (.port action) := by
  have hpresent := h.present hlive
  have hfilterPort := h.filterPort_open hpresent.filterPort
  have hiocpHandle := h.iocpHandle_open hpresent.iocpHandle
  have hheld : ∀ c ∈ (s.port.parties i).context?.toList,
      Pooled s.comm s.port ∧ c < s.port.poolSize := fun c hc =>
    ⟨hpresent.toPooled, hpresent.inPool.parties i c (Option.mem_toList.mp hc)⟩
  cases action with
  | advance j =>
      cases haction
      refine h.sound rfl rfl (fun handle hhandle => ?_) hheld
      rw [handlesUsed] at hhandle
      split at hhandle
      · rw [List.mem_singleton.mp hhandle]
        exact hfilterPort
      · rw [List.mem_singleton.mp hhandle]
        exact hiocpHandle
      · exact absurd hhandle List.not_mem_nil
  | dequeue j | timeout j =>
      cases haction
      refine h.sound rfl rfl (fun handle hhandle => ?_) fun c hc => absurd hc List.not_mem_nil
      rw [List.mem_singleton.mp hhandle]
      exact hiocpHandle
  | getMessage j result =>
      cases haction
      refine h.sound rfl rfl (fun handle hhandle => ?_) hheld
      rw [List.mem_singleton.mp hhandle]
      exact hfilterPort
  | deliver _ _ | fail _ | stop | postDummy => cases haction

/-- And so does the Filter Manager. -/
theorem Ok.sound_completion (h : s.Ok) {c : ℕ} (haction : action.completes? = some c)
    (hpending : 0 < s.port.outstanding c) : s.Sound (.port action) := by
  have hpooled := h.pooled hpending
  cases action with
  | deliver d bytesTransferred | fail d =>
      cases haction
      refine h.sound rfl rfl (fun handle hhandle => ?_) fun d hd => ?_
      · rw [List.mem_singleton.mp hhandle]
        exact h.filterPort_open hpooled.filterPort
      · rw [List.mem_singleton.mp hd]
        exact ⟨hpooled, hpooled.inPool.outstanding c hpending⟩
  | advance _ | dequeue _ | timeout _ | getMessage _ _ | stop | postDummy => cases haction

end Receiver

/-- **A sound receiver.**  Over any number of `Connect` and `Disconnect` calls, failed ones
included, and whatever the workers and the Filter Manager do in between: no step passes a
closed handle to the system or touches a context or a buffer that is freed; the allocated buffers
are those of the pool, each once; and whenever a call has left the communicator disconnected, none
of its threads is left. -/
theorem receiver_sound (config : IOCPConfig) (s : Receiver)
    (run : Reaches receiverStep (.construct config) s) :
    (∀ action t, receiverStep s action = some t → s.Sound action) ∧
      s.comm.buffers.Perm (s.comm.contextPool.map (·.messageBuffer)) ∧
      (s.control = .idle → s.comm.isConnected = false → ∀ i, s.port.parties i = .done) := by
  have h := Receiver.ok_of_reaches run
  refine ⟨fun action t hstep => ?_, ?_, fun hidle hclosed => ?_⟩
  · cases receiverMove_of_step hstep with
    | connect _ _ | disconnect _ _ | nothing _ =>
        exact h.sound rfl rfl (fun handle hhandle => absurd hhandle List.not_mem_nil)
          fun c hc => absurd hc List.not_mem_nil
    | call _ => exact h.sound_control
    | party haction hmove => exact h.sound_party haction hmove.not_done
    | completed _ haction hpending _ => exact h.sound_completion haction hpending
  · obtain ⟨lost, hbalanced⟩ := h.balanced
    exact Multiset.coe_eq_coe.mp hbalanced.buffers
  · have hstage := h.stage
    rw [hidle] at hstage
    rcases hstage with ⟨hrunning, hpresent, -⟩ | hgone
    · rw [hpresent.isConnected, hrunning] at hclosed
      cases hclosed
    · exact hgone.done

/-- A receiver with one worker, which is about to submit a receive when `Disconnect` is called, and
does so after `CancelIoEx`. -/
private def lateReceive : List ReceiverAction :=
  [.connect ⟨0#32, none, fun _ => true, fun _ => true⟩, .port (.advance 0), .port (.advance 0),
    .port (.getMessage 0 .pending), .port (.advance 0), .control, .port (.advance 1),
    .port (.deliver 0 100), .port (.dequeue 1), .port (.advance 1), .port (.advance 1),
    .port (.advance 1), .disconnect, .control, .control, .port (.getMessage 1 .pending),
    .port (.advance 1), .control, .control, .control, .control]

theorem receiver_sound_lateReceive : ∃ s : Receiver, s.control = .closingCompletionPort ∧
    s.port.outstanding 0 = 1 ∧ s.Sound .control := by
  have hfacts : (steps receiverStep (.construct ⟨1, 1, 4096, 1⟩) lateReceive).map
      (fun s => (s.control, s.port.outstanding 0)) = some (.closingCompletionPort, 1) := by
    decide +kernel
  obtain ⟨s, hs, hfacts⟩ := Option.map_eq_some_iff.mp hfacts
  obtain ⟨hcontrol, houtstanding⟩ := Prod.mk.inj hfacts
  have hsound := (receiver_sound ⟨1, 1, 4096, 1⟩ s (reaches_of_steps hs)).1 .control
  exact ⟨s, hcontrol, houtstanding, hsound _ (by rw [receiverStep, hcontrol]; rfl)⟩

end Kawin.Kasvc
