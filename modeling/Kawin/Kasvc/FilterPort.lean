import Kawin.Kasvc.ReceivePath

/-!
# Connecting to the filter port

`Connect` opens the filter port, creates the completion port, allocates the buffer pool, starts
the workers and submits the first receives.  Each step can fail.  The first two clean up after
themselves; a failed allocation leaves that to `Disconnect`, which returns at once unless
`IsConnected()`, and `running_` is not set yet.  So the handles and buffers stay, and the next
`Connect` opens new handles over the old ones and adds to the old pool.

`atomicConnects_iff` makes that exact for every sequence of calls.
-/

namespace Kawin.Kasvc

open BoundedFifo Transition

/-! ## The communicator -/

/-- `IOCPConfig`, without the name of the port. -/
structure IOCPConfig where
  workerThreadCount : ℕ
  concurrentOperations : ℕ
  bufferSize : ℕ
  bufferPoolSize : ℕ

/-- `IOContext`: the buffer by its number, and whether it is in use. -/
structure IOContext where
  messageBuffer : ℕ
  bufferSize : ℕ
  inUse : Bool
  deriving DecidableEq

/-- `IOCPFilterPortCommunicator`.  A handle is a number, and `none` is `INVALID_HANDLE_VALUE` or
`nullptr`. -/
structure Communicator where
  config : IOCPConfig
  filterPort : Option ℕ
  iocpHandle : Option ℕ
  running : Bool
  workerThreads : ℕ
  contextPool : List IOContext
  path : ReceivePath
  /-- the handles that are open and the buffers that are allocated in the process -/
  openHandles : List ℕ
  buffers : List ℕ
  /-- the number of the next handle or buffer -/
  next : ℕ

/-- What the system answers to a `Connect`: the result of `FilterConnectCommunicationPort`, the
error of `CreateIoCompletionPort` if it fails, which of the buffers `_aligned_malloc` returns, and
which of the first receives can be submitted. -/
structure ConnectOutcome where
  port : BitVec 32
  iocpError : Option (BitVec 32)
  allocates : ℕ → Bool
  submits : ℕ → Bool

/-- `FAILED(hr)`. -/
def failed (hr : BitVec 32) : Bool := hr.msb

/-- `std::any_of` and the loop of `AllocateContext`: the first context that is not in use. -/
def takeContext : List IOContext → Option (List IOContext)
  | [] => none
  | context :: rest =>
      if context.inUse then (takeContext rest).map (context :: ·)
      else some ({ context with inUse := true } :: rest)

namespace Communicator

/-- The constructor. -/
def construct (config : IOCPConfig) : Communicator :=
  ⟨config, none, none, false, 0, [], .init, [], [], 0⟩

/-- `IsConnected`. -/
def isConnected (s : Communicator) : Bool :=
  s.filterPort.isSome && s.iocpHandle.isSome && s.running

/-- A handle that the system returns. -/
def openFilterPort (s : Communicator) : Communicator :=
  { s with filterPort := some s.next, openHandles := s.next :: s.openHandles, next := s.next + 1 }

def openCompletionPort (s : Communicator) : Communicator :=
  { s with iocpHandle := some s.next, openHandles := s.next :: s.openHandles, next := s.next + 1 }

/-- `CloseHandle(filter_port_)`. -/
def closeFilterPort (s : Communicator) : Communicator :=
  match s.filterPort with
  | some handle => { s with filterPort := none, openHandles := s.openHandles.erase handle }
  | none => s

/-- `CloseHandle(iocp_handle_)`. -/
def closeCompletionPort (s : Communicator) : Communicator :=
  match s.iocpHandle with
  | some handle => { s with iocpHandle := none, openHandles := s.openHandles.erase handle }
  | none => s

@[simp] theorem closeFilterPort_running (s : Communicator) :
    s.closeFilterPort.running = s.running := by
  unfold closeFilterPort
  split <;> rfl

@[simp] theorem closeCompletionPort_running (s : Communicator) :
    s.closeCompletionPort.running = s.running := by
  unfold closeCompletionPort
  split <;> rfl

/-- One turn of the loop that allocates the pool. -/
def addContext (s : Communicator) : Communicator :=
  { s with contextPool := s.contextPool ++ [⟨s.next, s.config.bufferSize, false⟩]
           buffers := s.next :: s.buffers
           next := s.next + 1 }

/-- The loop from its `i`-th turn on; the flag says whether every buffer was allocated. -/
def allocatePool (allocates : ℕ → Bool) : ℕ → ℕ → Communicator → Bool × Communicator
  | 0, _, s => (true, s)
  | left + 1, i, s =>
      if allocates i then allocatePool allocates left (i + 1) s.addContext else (false, s)

/-- `_aligned_free` of every buffer of the pool, and `context_pool_.clear()`. -/
def freePool (s : Communicator) : Communicator :=
  { s with contextPool := []
           buffers := s.contextPool.foldl (fun buffers context =>
             buffers.erase context.messageBuffer) s.buffers }

@[simp] theorem freePool_running (s : Communicator) : s.freePool.running = s.running := rfl

/-- `Disconnect`. -/
def disconnect (s : Communicator) : Communicator :=
  if !s.isConnected then s
  else
    let stopped := { s with running := false, workerThreads := 0 }
    let closed := stopped.closeCompletionPort.closeFilterPort.freePool
    { closed with path := { closed.path with eventQueue := closed.path.eventQueue.close } }

/-- `AllocateContext`, where a context is free or the wait for one is over. -/
def allocateContext (s : Communicator) : Communicator :=
  if !s.running then s
  else
    match takeContext s.contextPool with
    | some pool => { s with contextPool := pool }
    | none => s

/-- `FreeContext` of the `k`-th context. -/
def freeContext (s : Communicator) (k : ℕ) : Communicator :=
  { s with contextPool := s.contextPool.modify k fun context => { context with inUse := false } }

/-- The loop that submits the first receives, from its `i`-th turn on. -/
def submitReceives (submits : ℕ → Bool) : ℕ → ℕ → Communicator → Communicator
  | 0, _, s => s
  | left + 1, i, s =>
      -- a context whose receive cannot be submitted is given back
      submitReceives submits left (i + 1) (if submits i then s.allocateContext else s)

/-- `Connect`. -/
def connect (s : Communicator) (outcome : ConnectOutcome) : Except String Unit × Communicator :=
  if s.isConnected then (.ok (), s)
  else if failed outcome.port then
    (.error ("Failed to connect to filter port: 0x" ++ toString outcome.port.toInt), s)
  else
    let opened := s.openFilterPort
    match outcome.iocpError with
    | some error =>
        (.error ("Failed to create IOCP: " ++ toString error.toNat),
          { opened with iocpHandle := none }.closeFilterPort)
    | none =>
        match allocatePool outcome.allocates s.config.bufferPoolSize 0 opened.openCompletionPort with
        | (false, partly) => (.error "Memory allocation failed", partly.disconnect)
        | (true, ready) =>
            (.ok (), submitReceives outcome.submits s.config.concurrentOperations 0
              { ready with running := true
                           workerThreads := ready.workerThreads + s.config.workerThreadCount })

/-- `buffers_in_use` of `GetPerformanceMetrics`. -/
def buffersInUse (s : Communicator) : ℕ := s.contextPool.countP (·.inUse)

/-- `buffers_available`, a difference of two `size_t`. -/
def buffersAvailable (s : Communicator) : BitVec 64 :=
  BitVec.ofNat 64 s.config.bufferPoolSize - BitVec.ofNat 64 s.buffersInUse

end Communicator

/-! ## Runs -/

inductive ConnectAction
  | connect (outcome : ConnectOutcome)
  | disconnect
  /-- a worker or the loop of `Connect` takes a context -/
  | allocateContext
  /-- a worker gives the `k`-th context back -/
  | freeContext (k : ℕ)

def connectStep (s : Communicator) : ConnectAction → Option Communicator
  | .connect outcome => some (s.connect outcome).2
  | .disconnect => some s.disconnect
  | .allocateContext => some s.allocateContext
  | .freeContext k => some (s.freeContext k)

/-- A failed `Connect` leaves nothing behind that was not there before it: no handle, no
context, no worker, no buffer. -/
structure LeavesNothing (s t : Communicator) : Prop where
  filterPort : t.filterPort = none
  iocpHandle : t.iocpHandle = none
  contextPool : t.contextPool = []
  workerThreads : t.workerThreads = 0
  openHandles : t.openHandles = s.openHandles
  buffers : t.buffers = s.buffers

/-- A connected communicator has exactly the contexts it was configured to have, and
never are more in use than that. -/
structure PoolExact (t : Communicator) : Prop where
  size : t.isConnected = true → t.contextPool.length = t.config.bufferPoolSize
  available : t.buffersInUse ≤ t.config.bufferPoolSize

/-- The law about one call. -/
structure AtomicCall (s : Communicator) (action : ConnectAction) (t : Communicator) : Prop where
  failure : ∀ outcome message, action = .connect outcome →
    (s.connect outcome).1 = .error message → LeavesNothing s t
  pool : PoolExact t

/-- No allocation of the buffer pool fails. -/
def AllocatesAll (s : Communicator) : ConnectAction → Prop
  | .connect outcome => s.isConnected = true ∨ failed outcome.port = true ∨
      outcome.iocpError ≠ none ∨ ∀ i < s.config.bufferPoolSize, outcome.allocates i = true
  | .disconnect | .allocateContext | .freeContext _ => True

/-! ## The parts of `Connect` -/

/-- Only which contexts are in use may differ. -/
structure SamePool (s t : Communicator) : Prop where
  eq : t = { s with contextPool := t.contextPool }
  size : t.contextPool.length = s.contextPool.length

/-- Only the pool and the buffers may differ. -/
structure OnlyPool (s t : Communicator) : Prop where
  eq : t = { s with contextPool := t.contextPool, buffers := t.buffers, next := t.next }

section

variable {s t u : Communicator} {outcome : ConnectOutcome}

theorem SamePool.refl : SamePool s s := ⟨rfl, rfl⟩

theorem SamePool.trans (h : SamePool s t) (h' : SamePool t u) : SamePool s u where
  eq := by
    rw [h'.eq, h.eq]
  size := h'.size.trans h.size

theorem SamePool.isConnected (h : SamePool s t) : t.isConnected = s.isConnected := by
  rw [h.eq]
  rfl

theorem takeContext_length : ∀ {pool pool' : List IOContext}, takeContext pool = some pool' →
    pool'.length = pool.length
  | [], _, h => by cases h
  | context :: rest, pool', h => by
      rw [takeContext] at h
      split at h
      · obtain ⟨rest', hrest, rfl⟩ := Option.map_eq_some_iff.mp h
        exact congrArg (· + 1) (takeContext_length hrest)
      · cases h
        rfl

theorem allocateContext_samePool : SamePool s s.allocateContext := by
  unfold Communicator.allocateContext
  split
  · exact .refl
  · split
    · rename_i pool hpool
      exact ⟨rfl, takeContext_length hpool⟩
    · exact .refl

theorem freeContext_samePool (k : ℕ) : SamePool s (s.freeContext k) :=
  ⟨rfl, List.length_modify _ _ _⟩

theorem submitReceives_samePool (submits : ℕ → Bool) (left i : ℕ) :
    SamePool s (Communicator.submitReceives submits left i s) := by
  induction left generalizing i s with
  | zero => exact .refl
  | succ left ih =>
      refine SamePool.trans ?_ (ih (i + 1))
      split
      · exact allocateContext_samePool
      · exact .refl

theorem allocatePool_onlyPool (allocates : ℕ → Bool) (left i : ℕ) :
    OnlyPool s (Communicator.allocatePool allocates left i s).2 := by
  induction left generalizing i s with
  | zero => exact ⟨rfl⟩
  | succ left ih =>
      rw [Communicator.allocatePool]
      split
      · refine ⟨?_⟩
        rw [(ih (i + 1)).eq]
        rfl
      · exact ⟨rfl⟩

theorem allocatePool_fst (allocates : ℕ → Bool) (left i : ℕ) :
    (Communicator.allocatePool allocates left i s).1 = true ↔
      ∀ k < left, allocates (i + k) = true := by
  induction left generalizing i s with
  | zero => simp [Communicator.allocatePool]
  | succ left ih =>
      rw [Communicator.allocatePool, Nat.forall_lt_succ_left]
      split
      · rename_i hfirst
        simp only [ih, Nat.add_zero, hfirst, true_and, Nat.add_assoc, Nat.add_comm 1]
      · rename_i hfirst
        simp only [Nat.add_zero, Bool.not_eq_true] at hfirst ⊢
        simp [hfirst]

theorem allocatePool_length {allocates : ℕ → Bool} {left i : ℕ}
    (h : (Communicator.allocatePool allocates left i s).1 = true) :
    (Communicator.allocatePool allocates left i s).2.contextPool.length =
      s.contextPool.length + left := by
  induction left generalizing i s with
  | zero => rfl
  | succ left ih =>
      rw [Communicator.allocatePool] at h ⊢
      split at h
      · rename_i hfirst
        rw [if_pos hfirst, ih h, Communicator.addContext, List.length_append,
          List.length_singleton]
        omega
      · cases h

/-- What a `Connect` can come to on a communicator that is not connected and does not run. -/
theorem connect_cases (hconnected : s.isConnected = false) (hrunning : s.running = false) :
    (failed outcome.port = true ∧ (s.connect outcome).2 = s) ∨
    (outcome.iocpError ≠ none ∧
      (s.connect outcome).2 = { s with filterPort := none, iocpHandle := none, next := s.next + 1 }) ∨
    (failed outcome.port = false ∧ outcome.iocpError = none ∧
      (∃ i < s.config.bufferPoolSize, outcome.allocates i = false) ∧
      (s.connect outcome).1 = .error "Memory allocation failed" ∧
      OnlyPool s.openFilterPort.openCompletionPort (s.connect outcome).2) ∨
    ((∀ i < s.config.bufferPoolSize, outcome.allocates i = true) ∧
      (s.connect outcome).1 = .ok () ∧ ∃ ready,
        OnlyPool s.openFilterPort.openCompletionPort ready ∧
        ready.contextPool.length = s.contextPool.length + s.config.bufferPoolSize ∧
        SamePool { ready with running := true
                              workerThreads := ready.workerThreads + s.config.workerThreadCount }
          (s.connect outcome).2) := by
  unfold Communicator.connect
  rw [if_neg (by simp [hconnected])]
  by_cases hport : failed outcome.port = true
  · rw [if_pos hport]
    exact .inl ⟨hport, rfl⟩
  rw [if_neg hport]
  cases hiocp : outcome.iocpError with
  | some error =>
      refine .inr (.inl ⟨by simp, ?_⟩)
      simp [Communicator.openFilterPort, Communicator.closeFilterPort]
  | none =>
      dsimp only
      have hfst := @allocatePool_fst s.openFilterPort.openCompletionPort outcome.allocates
        s.config.bufferPoolSize 0
      have hlength := @allocatePool_length s.openFilterPort.openCompletionPort outcome.allocates
        s.config.bufferPoolSize 0
      have honly := @allocatePool_onlyPool s.openFilterPort.openCompletionPort outcome.allocates
        s.config.bufferPoolSize 0
      simp only [Nat.zero_add] at hfst
      revert hfst hlength honly
      cases Communicator.allocatePool outcome.allocates s.config.bufferPoolSize 0
        s.openFilterPort.openCompletionPort with
      | mk complete partly =>
          intro hlength honly hfst
          dsimp only at hlength honly
          cases complete with
          | false =>
              -- `running_` is still false, so `Disconnect` does nothing
              have hstopped : partly.isConnected = false := by
                rw [honly.eq, Communicator.isConnected]
                simp [Communicator.openFilterPort, Communicator.openCompletionPort, hrunning]
              have hleft : partly.disconnect = partly := by
                rw [Communicator.disconnect, hstopped]
                rfl
              refine .inr (.inr (.inl ⟨by simpa using hport, rfl, ?_, rfl, ?_⟩))
              · simpa using hfst
              · simp only [hleft]
                exact honly
          | true =>
              exact .inr (.inr (.inr ⟨hfst.mp rfl, rfl, partly, honly, hlength rfl,
                submitReceives_samePool _ _ _⟩))

end

/-! ## The size of the buffers -/

/-- Every buffer of the pool has the configured size. -/
structure BuffersSized (config : IOCPConfig) (s : Communicator) : Prop where
  contexts : ∀ context ∈ s.contextPool, context.bufferSize = config.bufferSize
  config : s.config = config

section

variable {config : IOCPConfig} {s t : Communicator}

theorem takeContext_bufferSize {size : ℕ} : ∀ {pool pool' : List IOContext},
    takeContext pool = some pool' → (∀ context ∈ pool, context.bufferSize = size) →
      ∀ context ∈ pool', context.bufferSize = size
  | [], _, h, _ => by cases h
  | first :: rest, pool', h, hsized => by
      obtain ⟨hfirst, hrest⟩ := List.forall_mem_cons.mp hsized
      rw [takeContext] at h
      split at h
      · obtain ⟨rest', hrest', rfl⟩ := Option.map_eq_some_iff.mp h
        exact List.forall_mem_cons.mpr ⟨hfirst, takeContext_bufferSize hrest' hrest⟩
      · cases h
        exact List.forall_mem_cons.mpr ⟨hfirst, hrest⟩

theorem BuffersSized.addContext (h : BuffersSized config s) :
    BuffersSized config s.addContext where
  config := h.config
  contexts := by
    rw [Communicator.addContext, List.forall_mem_append]
    refine ⟨h.contexts, List.forall_mem_singleton.mpr ?_⟩
    exact congrArg IOCPConfig.bufferSize h.config

theorem BuffersSized.allocatePool (h : BuffersSized config s) (allocates : ℕ → Bool)
    (left i : ℕ) : BuffersSized config (Communicator.allocatePool allocates left i s).2 := by
  induction left generalizing i s with
  | zero => exact h
  | succ left ih =>
      rw [Communicator.allocatePool]
      split
      · exact ih h.addContext (i + 1)
      · exact h

theorem BuffersSized.allocateContext (h : BuffersSized config s) :
    BuffersSized config s.allocateContext := by
  unfold Communicator.allocateContext
  split
  · exact h
  · split
    · next pool hpool => exact ⟨takeContext_bufferSize hpool h.contexts, h.config⟩
    · exact h

theorem BuffersSized.freeContext (h : BuffersSized config s) (k : ℕ) :
    BuffersSized config (s.freeContext k) where
  config := h.config
  contexts := by
    intro context hmem
    obtain ⟨i, hi, hcontext⟩ := List.mem_iff_getElem.mp hmem
    simp only [Communicator.freeContext, List.getElem_modify] at hcontext
    have hsized := h.contexts _ (List.getElem_mem (by simpa [Communicator.freeContext] using hi))
    split at hcontext
    · rw [← hcontext]
      exact hsized
    · rw [← hcontext]
      exact hsized

theorem BuffersSized.submitReceives (h : BuffersSized config s) (submits : ℕ → Bool)
    (left i : ℕ) : BuffersSized config (Communicator.submitReceives submits left i s) := by
  induction left generalizing i s with
  | zero => exact h
  | succ left ih =>
      rw [Communicator.submitReceives]
      split
      · exact ih h.allocateContext (i + 1)
      · exact ih h (i + 1)

theorem BuffersSized.disconnect (h : BuffersSized config s) : BuffersSized config s.disconnect := by
  unfold Communicator.disconnect
  split
  · exact h
  · refine ⟨List.forall_mem_nil _, ?_⟩
    rw [← h.config]
    simp only [Communicator.freePool, Communicator.closeFilterPort,
      Communicator.closeCompletionPort]
    split <;> split <;> rfl

theorem BuffersSized.connect (h : BuffersSized config s) (outcome : ConnectOutcome) :
    BuffersSized config (s.connect outcome).2 := by
  have hopened : BuffersSized config s.openFilterPort.openCompletionPort := ⟨h.contexts, h.config⟩
  unfold Communicator.connect
  split
  · exact h
  split
  · exact h
  cases outcome.iocpError with
  | some error => exact ⟨h.contexts, h.config⟩
  | none =>
      dsimp only
      have hpool := hopened.allocatePool outcome.allocates s.config.bufferPoolSize 0
      revert hpool
      cases Communicator.allocatePool outcome.allocates s.config.bufferPoolSize 0
        s.openFilterPort.openCompletionPort with
      | mk complete partly =>
          intro hpool
          cases complete with
          | false => exact hpool.disconnect
          | true =>
              have hready : BuffersSized config { partly with
                  running := true
                  workerThreads := partly.workerThreads + s.config.workerThreadCount } :=
                ⟨hpool.contexts, hpool.config⟩
              exact hready.submitReceives _ _ _

/-- **The receive buffers.**  Whatever is connected and disconnected, every buffer of the pool has
the configured size. -/
theorem buffersSized_of_reaches (hreached : Reaches connectStep (.construct config) s) :
    BuffersSized config s := by
  refine hreached.invariant ⟨List.forall_mem_nil _, rfl⟩ ?_
  intro s action t h _ hstep
  cases action with
  | connect outcome =>
      cases hstep
      exact h.connect outcome
  | disconnect =>
      cases hstep
      exact h.disconnect
  | allocateContext =>
      cases hstep
      exact h.allocateContext
  | freeContext k =>
      cases hstep
      exact h.freeContext k

end

/-! ## Tidy communicators -/

/-- Connected with the configured number of contexts, or disconnected with nothing left. -/
structure Tidy (s : Communicator) : Prop where
  connected : s.isConnected = true → s.contextPool.length = s.config.bufferPoolSize
  stopped : s.isConnected = false → s.running = false ∧ s.filterPort = none ∧
    s.iocpHandle = none ∧ s.contextPool = [] ∧ s.workerThreads = 0

section

variable {s t : Communicator} {outcome : ConnectOutcome}

theorem construct_tidy (config : IOCPConfig) : Tidy (.construct config) where
  connected h := by cases h
  stopped _ := ⟨rfl, rfl, rfl, rfl, rfl⟩

theorem Tidy.poolExact (h : Tidy s) : PoolExact s where
  size := h.connected
  available := by
    cases hconnected : s.isConnected with
    | true =>
        rw [← h.connected hconnected]
        exact List.countP_le_length
    | false =>
        rw [Communicator.buffersInUse, (h.stopped hconnected).2.2.2.1]
        exact Nat.zero_le _

/-- The difference of `GetPerformanceMetrics` does not wrap. -/
theorem PoolExact.buffersAvailable (h : PoolExact s) (hsize : s.config.bufferPoolSize < 2 ^ 64) :
    s.buffersAvailable.toNat = s.config.bufferPoolSize - s.buffersInUse := by
  have hle := h.available
  rw [Communicator.buffersAvailable, BitVec.toNat_sub_of_le, BitVec.toNat_ofNat,
    BitVec.toNat_ofNat, Nat.mod_eq_of_lt hsize, Nat.mod_eq_of_lt (by omega)]
  rw [BitVec.le_def, BitVec.toNat_ofNat, BitVec.toNat_ofNat, Nat.mod_eq_of_lt hsize,
    Nat.mod_eq_of_lt (by omega)]
  exact hle

theorem Tidy.of_samePool (h : Tidy s) (hsame : SamePool s t) : Tidy t where
  connected hconnected := by
    rw [hsame.size, h.connected (hsame.isConnected ▸ hconnected), hsame.eq]
  stopped hconnected := by
    obtain ⟨hrunning, hport, hiocp, hpool, hworkers⟩ := h.stopped (hsame.isConnected ▸ hconnected)
    have hnil : t.contextPool = [] := by
      rw [← List.length_eq_zero_iff, hsame.size, hpool, List.length_nil]
    rw [hsame.eq]
    exact ⟨hrunning, hport, hiocp, hnil, hworkers⟩

theorem Tidy.disconnect (h : Tidy s) : Tidy s.disconnect := by
  unfold Communicator.disconnect
  split
  · exact h
  · rename_i hconnected
    simp only [Bool.not_eq_true, Bool.not_eq_false'] at hconnected
    have hhandles := hconnected
    simp only [Communicator.isConnected, Bool.and_eq_true, Option.isSome_iff_exists] at hhandles
    obtain ⟨⟨⟨port, hport⟩, iocp, hiocp⟩, -⟩ := hhandles
    simp only [Communicator.closeCompletionPort, Communicator.closeFilterPort,
      Communicator.freePool, hport, hiocp]
    exact ⟨fun hc => by simp [Communicator.isConnected] at hc, fun _ => ⟨rfl, rfl, rfl, rfl, rfl⟩⟩

/-- A `Connect` whose allocations succeed. -/
theorem Tidy.connect (h : Tidy s) (hallocates : AllocatesAll s (.connect outcome)) :
    AtomicCall s (.connect outcome) (s.connect outcome).2 ∧ Tidy (s.connect outcome).2 := by
  by_cases hconnected : s.isConnected = true
  · have hsame : s.connect outcome = (.ok (), s) := by
      rw [Communicator.connect, if_pos hconnected]
    rw [hsame]
    refine ⟨⟨fun o message heq herror => ?_, h.poolExact⟩, h⟩
    cases heq
    rw [hsame] at herror
    cases herror
  · rw [Bool.not_eq_true] at hconnected
    obtain ⟨hrunning, hport, hiocp, hpool, hworkers⟩ := h.stopped hconnected
    rcases @connect_cases s outcome hconnected hrunning with ⟨-, hs⟩ | ⟨-, hs⟩ |
      ⟨hportOk, hiocpOk, ⟨i, hi, hfails⟩, -, -⟩ | ⟨-, hok, ready, honly, hlength, hsame⟩
    · rw [hs]
      exact ⟨⟨fun _ _ _ _ => ⟨hport, hiocp, hpool, hworkers, rfl, rfl⟩, h.poolExact⟩, h⟩
    · have htidy : Tidy (s.connect outcome).2 := by
        rw [hs]
        exact ⟨fun hc => by simp [Communicator.isConnected] at hc,
          fun _ => ⟨hrunning, rfl, rfl, hpool, hworkers⟩⟩
      refine ⟨⟨fun _ _ _ _ => ?_, htidy.poolExact⟩, htidy⟩
      rw [hs]
      exact ⟨rfl, rfl, hpool, hworkers, rfl, rfl⟩
    · -- this is the case that the condition excludes
      rcases hallocates with hc | hp | he | hall
      · exact absurd (hconnected.symm.trans hc) (by simp)
      · exact absurd (hportOk.symm.trans hp) (by simp)
      · exact absurd hiocpOk he
      · exact absurd (hfails.symm.trans (hall i hi)) (by simp)
    · have hready : Tidy { ready with running := true
                                      workerThreads := ready.workerThreads +
                                        s.config.workerThreadCount } := by
        refine ⟨fun _ => ?_, fun hc => ?_⟩
        · simp only [hlength, hpool, List.length_nil, Nat.zero_add]
          rw [honly.eq]
          rfl
        · rw [honly.eq] at hc
          simp [Communicator.isConnected, Communicator.openFilterPort,
            Communicator.openCompletionPort] at hc
      have htidy := hready.of_samePool hsame
      refine ⟨⟨fun o message heq herror => ?_, htidy.poolExact⟩, htidy⟩
      cases heq
      rw [hok] at herror
      cases herror

/-- **Step lemma.** -/
theorem Tidy.step {action : ConnectAction} (h : Tidy s) (hallocates : AllocatesAll s action)
    (hstep : connectStep s action = some t) : AtomicCall s action t ∧ Tidy t := by
  have hother (htidy : Tidy t) (hne : ∀ outcome, action ≠ .connect outcome) :
      AtomicCall s action t ∧ Tidy t :=
    ⟨⟨fun outcome _ heq => absurd heq (hne outcome), htidy.poolExact⟩, htidy⟩
  cases action with
  | connect outcome =>
      cases hstep
      exact h.connect hallocates
  | disconnect =>
      cases hstep
      exact hother h.disconnect (by simp)
  | allocateContext =>
      cases hstep
      exact hother (h.of_samePool allocateContext_samePool) (by simp)
  | freeContext k =>
      cases hstep
      exact hother (h.of_samePool (freeContext_samePool k)) (by simp)

/-! ## Exactly when a `Connect` is atomic -/

/-- What holds of every communicator: one that runs is connected. -/
def StoppedIfClosed (s : Communicator) : Prop := s.isConnected = false → s.running = false

theorem connectStep_total (s : Communicator) (action : ConnectAction) :
    ∃ t, connectStep s action = some t := by
  cases action <;> exact ⟨_, rfl⟩

theorem StoppedIfClosed.of_samePool (h : StoppedIfClosed s) (hsame : SamePool s t) :
    StoppedIfClosed t := by
  intro hconnected
  rw [hsame.eq]
  exact h (hsame.isConnected ▸ hconnected)

theorem StoppedIfClosed.step {action : ConnectAction} (h : StoppedIfClosed s)
    (hstep : connectStep s action = some t) : StoppedIfClosed t := by
  cases action with
  | connect outcome =>
      cases hstep
      by_cases hconnected : s.isConnected = true
      · rw [Communicator.connect, if_pos hconnected]
        exact h
      · rw [Bool.not_eq_true] at hconnected
        rcases @connect_cases s outcome hconnected (h hconnected) with ⟨-, hs⟩ | ⟨-, hs⟩ |
          ⟨-, -, -, -, honly⟩ | ⟨-, -, ready, honly, -, hsame⟩
        · rw [hs]
          exact h
        · rw [hs]
          exact fun _ => h hconnected
        · intro _
          rw [honly.eq]
          exact h hconnected
        · refine StoppedIfClosed.of_samePool (fun hc => ?_) hsame
          rw [honly.eq] at hc
          simp [Communicator.isConnected, Communicator.openFilterPort,
            Communicator.openCompletionPort] at hc
  | disconnect =>
      cases hstep
      unfold Communicator.disconnect
      split
      · exact h
      · exact fun _ => by simp
  | allocateContext =>
      cases hstep
      exact h.of_samePool allocateContext_samePool
  | freeContext k =>
      cases hstep
      exact h.of_samePool (freeContext_samePool k)

/-- A `Connect` that leaves nothing behind had no failing allocation. -/
theorem allocatesAll_of_atomicCall {action : ConnectAction} (h : StoppedIfClosed s)
    (hstep : connectStep s action = some t) (hatomic : AtomicCall s action t) :
    AllocatesAll s action := by
  cases action with
  | connect outcome =>
      cases hstep
      by_cases hconnected : s.isConnected = true
      · exact .inl hconnected
      · rw [Bool.not_eq_true] at hconnected
        rcases @connect_cases s outcome hconnected (h hconnected) with ⟨hport, -⟩ | ⟨herror, -⟩ |
          ⟨-, -, -, herror, honly⟩ | ⟨hall, -, -⟩
        · exact .inr (.inl hport)
        · exact .inr (.inr (.inl herror))
        · -- the filter port is still open
          have hnone := (hatomic.failure outcome _ rfl herror).filterPort
          rw [honly.eq] at hnone
          cases hnone
        · exact .inr (.inr (.inr hall))
  | disconnect | allocateContext | freeContext => trivial

theorem allocatesAll_of_atomicCalls {config : IOCPConfig} {actions : List ConnectAction}
    (h : Along connectStep AtomicCall (.construct config) actions) :
    Allowed connectStep AllocatesAll (.construct config) actions := by
  have hinit : StoppedIfClosed (.construct config) := fun _ => rfl
  exact allowed_of_along StoppedIfClosed connectStep_total (fun _ _ _ h hstep => h.step hstep)
    (fun _ _ _ h hstep hatomic => allocatesAll_of_atomicCall h hstep hatomic) hinit h

end

/-- **Atomic connects, exactly.**  In a sequence of calls every failed `Connect` leaves nothing
behind and every pool has its configured size if and only if no `Connect` fails at an
allocation of the pool. -/
theorem atomicConnects_iff (config : IOCPConfig) (actions : List ConnectAction) :
    Along connectStep AtomicCall (.construct config) actions ↔
      Allowed connectStep AllocatesAll (.construct config) actions := by
  refine ⟨allocatesAll_of_atomicCalls, ?_⟩
  refine along_of_invariant Tidy ?_ (construct_tidy config)
  exact fun s action t h hallocates hstep => h.step hallocates hstep

/-- The first buffer cannot be allocated. -/
private def outOfMemory : ConnectOutcome := ⟨0, none, fun _ => false, fun _ => true⟩

/-- Both handles stay open. -/
theorem not_atomicConnects :
    ¬∀ config actions, Along connectStep AtomicCall (.construct config) actions := by
  intro hatomic
  have h := allocatesAll_of_atomicCalls (hatomic ⟨1, 2, 4096, 4⟩ [.connect outOfMemory])
  rcases h.1 with hc | hp | he | hall
  · exact absurd hc (by decide)
  · exact absurd hp (by decide)
  · exact he rfl
  · exact absurd (hall 0 (by decide)) (by decide)

end Kawin.Kasvc
