import Kawin.Base.BoundedFifo
import Kawin.Base.CondVar
import Kawin.Base.Transition

/-!
# The thread-safe queue

`ThreadSafeQueue` guards a `std::queue` with one mutex and two condition variables.  What a
thread does while it holds the mutex is one step: a call up to its first wait or to its end, and
what follows a wait up to the next wait or to the end.  Any number of threads call in any
order; a waiting thread may be notified, time out, or wake for no reason.

`History` is what a client sees of it: every run of the machine is one of a bounded queue
that can be closed (`queueStep_does`), whichever way the threads interleave.
-/

namespace Kawin.Kasvc

open Monitor BoundedFifo Transition

variable {T : Type}

/-- A `Push`, or a `TryPush`, which waits for a limited time. -/
structure PushJob (T : Type) where
  item : T
  timed : Bool
  deriving DecidableEq

/-- A `Pop`, or a `TryPop`. -/
structure PopJob where
  timed : Bool
  deriving DecidableEq

structure ThreadSafeQueue (T : Type) where
  cvNotEmpty : CondVar PopJob
  cvNotFull : CondVar (PushJob T)
  queue : List T
  maxSize : ℕ
  closed : Bool
  /-- the calls that returned, with their results, newest first -/
  log : List (BoundedFifo.Event T)

namespace ThreadSafeQueue

def init (maxSize : ℕ) : ThreadSafeQueue T := ⟨.idle, .idle, [], maxSize, false, []⟩

/-- The condition that `Push` and `TryPush` wait for. -/
def roomOrClosed (q : ThreadSafeQueue T) : Bool := decide (q.queue.length < q.maxSize) || q.closed

/-- The condition that `Pop` and `TryPop` wait for. -/
def itemOrClosed (q : ThreadSafeQueue T) : Bool := !q.queue.isEmpty || q.closed

/-- Thread `t` is inside a wait. -/
def blocked (q : ThreadSafeQueue T) (t : ℕ) : Bool :=
  q.cvNotEmpty.waiting.any (·.thread == t) || q.cvNotFull.waiting.any (·.thread == t)

/-- `Push` and `TryPush` behind their wait; `woken` is the thread that `notify_one` picks. -/
def finishPush (q : ThreadSafeQueue T) (item : T) (woken : ℕ) : Option (ThreadSafeQueue T) :=
  if q.closed then some { q with log := .push item false :: q.log }
  else (q.cvNotEmpty.notifyOne woken).map fun cv =>
    { q with queue := q.queue ++ [item], cvNotEmpty := cv, log := .push item true :: q.log }

/-- `Pop` and `TryPop` behind their wait. -/
def finishPop (q : ThreadSafeQueue T) (woken : ℕ) : Option (ThreadSafeQueue T) :=
  if q.closed && q.queue.isEmpty then some { q with log := .pop none :: q.log }
  else
    match q.queue with
    -- `front()` of an empty queue; the wait never ends so
    | [] => none
    | item :: rest => (q.cvNotFull.notifyOne woken).map fun cv =>
        { q with queue := rest, cvNotFull := cv, log := .pop (some item) :: q.log }

/-- `Push` and `TryPush` where they test their condition.  `expired` says that the wait they come
from ran out of time. -/
def checkPush (q : ThreadSafeQueue T) (t : ℕ) (job : PushJob T) (expired : Bool) (woken : ℕ) :
    Option (ThreadSafeQueue T) :=
  if q.roomOrClosed then q.finishPush job.item woken
  else if expired then some { q with log := .push job.item false :: q.log }
  else some { q with cvNotFull := q.cvNotFull.wait ⟨t, job⟩ }

/-- `Pop` and `TryPop` where they test their condition. -/
def checkPop (q : ThreadSafeQueue T) (t : ℕ) (job : PopJob) (expired : Bool) (woken : ℕ) :
    Option (ThreadSafeQueue T) :=
  if q.itemOrClosed then q.finishPop woken
  else if expired then some { q with log := .pop none :: q.log }
  else some { q with cvNotEmpty := q.cvNotEmpty.wait ⟨t, job⟩ }

def close (q : ThreadSafeQueue T) : ThreadSafeQueue T :=
  { q with closed := true, cvNotEmpty := q.cvNotEmpty.notifyAll,
           cvNotFull := q.cvNotFull.notifyAll, log := .close :: q.log }

def clear (q : ThreadSafeQueue T) : ThreadSafeQueue T :=
  { q with queue := [], cvNotFull := q.cvNotFull.notifyAll, log := .clear q.queue :: q.log }

end ThreadSafeQueue

/-! ## Runs -/

inductive QueueAction (T : Type)
  /-- thread `t` calls `Push` or `TryPush` -/
  | push (t : ℕ) (job : PushJob T) (woken : ℕ)
  /-- thread `t` calls `Pop` or `TryPop` -/
  | pop (t : ℕ) (job : PopJob) (woken : ℕ)
  /-- a waiting thread times out, or wakes for no reason -/
  | rousePush (t : ℕ)
  | rousePop (t : ℕ)
  /-- a thread that was notified or woke holds the mutex again -/
  | resumePush (t : ℕ) (expired : Bool) (woken : ℕ)
  | resumePop (t : ℕ) (expired : Bool) (woken : ℕ)
  | close
  | clear

def queueStep (q : ThreadSafeQueue T) : QueueAction T → Option (ThreadSafeQueue T)
  | .push t job woken => if q.blocked t then none else q.checkPush t job false woken
  | .pop t job woken => if q.blocked t then none else q.checkPop t job false woken
  | .rousePush t => (q.cvNotFull.rouse t).map fun cv => { q with cvNotFull := cv }
  | .rousePop t => (q.cvNotEmpty.rouse t).map fun cv => { q with cvNotEmpty := cv }
  | .resumePush t expired woken =>
      match q.cvNotFull.resume t with
      | none => none
      | some (w, cv) =>
          -- only the timed calls run out of time
          if expired && !w.job.timed then none
          else { q with cvNotFull := cv }.checkPush t w.job expired woken
  | .resumePop t expired woken =>
      match q.cvNotEmpty.resume t with
      | none => none
      | some (w, cv) =>
          if expired && !w.job.timed then none
          else { q with cvNotEmpty := cv }.checkPop t w.job expired woken
  | .close => some q.close
  | .clear => some q.clear

/-! ## What a step can do -/

section

variable {q q' : ThreadSafeQueue T} {t woken : ℕ} {expired : Bool}

/-- A push is accepted, or refused, or it waits. -/
theorem checkPush_cases {job : PushJob T} (h : q.checkPush t job expired woken = some q') :
    (q.closed = false ∧ q.queue.length < q.maxSize ∧
      ∃ cv, q.cvNotEmpty.notifyOne woken = some cv ∧
        q' = { q with queue := q.queue ++ [job.item], cvNotEmpty := cv,
                      log := .push job.item true :: q.log }) ∨
    ((q.closed = true ∨ q.maxSize ≤ q.queue.length) ∧
      q' = { q with log := .push job.item false :: q.log }) ∨
    (q.closed = false ∧ q.maxSize ≤ q.queue.length ∧
      q' = { q with cvNotFull := q.cvNotFull.wait ⟨t, job⟩ }) := by
  rw [ThreadSafeQueue.checkPush] at h
  split at h
  · rename_i hready
    rw [ThreadSafeQueue.finishPush] at h
    split at h
    · rename_i hclosed
      exact .inr (.inl ⟨.inl hclosed, (Option.some.inj h).symm⟩)
    · rename_i hopen
      obtain ⟨cv, hcv, hq'⟩ := Option.map_eq_some_iff.mp h
      rw [Bool.not_eq_true] at hopen
      rw [ThreadSafeQueue.roomOrClosed, hopen, Bool.or_false, decide_eq_true_eq] at hready
      exact .inl ⟨hopen, hready, cv, hcv, hq'.symm⟩
  · rename_i hready
    simp only [ThreadSafeQueue.roomOrClosed, Bool.or_eq_true, decide_eq_true_eq, not_or,
      Nat.not_lt, Bool.not_eq_true] at hready
    split at h
    · exact .inr (.inl ⟨.inr hready.1, (Option.some.inj h).symm⟩)
    · exact .inr (.inr ⟨hready.2, hready.1, (Option.some.inj h).symm⟩)

/-- A pop returns the oldest item, or nothing, or it waits. -/
theorem checkPop_cases {job : PopJob} (h : q.checkPop t job expired woken = some q') :
    (∃ item rest cv, q.queue = item :: rest ∧ q.cvNotFull.notifyOne woken = some cv ∧
      q' = { q with queue := rest, cvNotFull := cv, log := .pop (some item) :: q.log }) ∨
    (q.queue = [] ∧ q' = { q with log := .pop none :: q.log }) ∨
    (q.queue = [] ∧ q.closed = false ∧
      q' = { q with cvNotEmpty := q.cvNotEmpty.wait ⟨t, job⟩ }) := by
  rw [ThreadSafeQueue.checkPop] at h
  split at h
  · rw [ThreadSafeQueue.finishPop] at h
    split at h
    · rename_i hdone
      rw [Bool.and_eq_true, List.isEmpty_iff] at hdone
      exact .inr (.inl ⟨hdone.2, (Option.some.inj h).symm⟩)
    · cases hqueue : q.queue with
      | nil => simp [hqueue] at h
      | cons item rest =>
          simp only [hqueue] at h
          obtain ⟨cv, hcv, hq'⟩ := Option.map_eq_some_iff.mp h
          exact .inl ⟨item, rest, cv, rfl, hcv, hq'.symm⟩
  · rename_i hready
    simp only [ThreadSafeQueue.itemOrClosed, Bool.or_eq_true, Bool.not_eq_true',
      List.isEmpty_eq_false_iff, not_or, not_not, Bool.not_eq_true] at hready
    split at h
    · exact .inr (.inl ⟨hready.1, (Option.some.inj h).symm⟩)
    · exact .inr (.inr ⟨hready.1, hready.2, (Option.some.inj h).symm⟩)

/-- A push that goes on behind a wait. -/
theorem resumePush_cases (h : queueStep q (.resumePush t expired woken) = some q') :
    ∃ w cv, q.cvNotFull.resume t = some (w, cv) ∧
      { q with cvNotFull := cv }.checkPush t w.job expired woken = some q' := by
  simp only [queueStep] at h
  cases hresume : q.cvNotFull.resume t with
  | none => simp [hresume] at h
  | some r =>
      simp only [hresume] at h
      split at h
      · cases h
      · exact ⟨r.1, r.2, rfl, h⟩

/-- A pop that goes on behind a wait. -/
theorem resumePop_cases (h : queueStep q (.resumePop t expired woken) = some q') :
    ∃ w cv, q.cvNotEmpty.resume t = some (w, cv) ∧
      { q with cvNotEmpty := cv }.checkPop t w.job expired woken = some q' := by
  simp only [queueStep] at h
  cases hresume : q.cvNotEmpty.resume t with
  | none => simp [hresume] at h
  | some r =>
      simp only [hresume] at h
      split at h
      · cases h
      · exact ⟨r.1, r.2, rfl, h⟩

end

/-! ## A bounded queue -/

/-- What a client sees of the queue. -/
def ThreadSafeQueue.fifo (q : ThreadSafeQueue T) : Fifo T := ⟨q.queue, q.closed⟩

/-- The machine did nothing a client can see, or one call of the bounded queue. -/
structure Refines (q q' : ThreadSafeQueue T) : Prop where
  maxSize : q'.maxSize = q.maxSize
  step : (q'.log = q.log ∧ q'.fifo = q.fifo) ∨
    ∃ event, q'.log = event :: q.log ∧ q.fifo.Does q.maxSize event q'.fifo

section

variable {q q' : ThreadSafeQueue T} {t woken : ℕ} {expired : Bool}

theorem checkPush_does {job : PushJob T} (h : q.checkPush t job expired woken = some q') :
    Refines q q' := by
  rcases checkPush_cases h with ⟨hopen, hroom, cv, -, rfl⟩ | ⟨hrefused, rfl⟩ | ⟨-, -, rfl⟩
  · exact ⟨rfl, .inr ⟨_, rfl, Fifo.offer_of_accepts (Fifo.accepts_iff.mpr ⟨hopen, hroom⟩)⟩⟩
  · refine ⟨rfl, .inr ⟨_, rfl, Fifo.offer_of_not_accepts ?_⟩⟩
    rw [← Bool.not_eq_true, Fifo.accepts_iff]
    rintro ⟨hopen, hroom⟩
    rcases hrefused with hclosed | hfull
    · exact absurd hclosed (by rw [show q.closed = false from hopen]; simp)
    · exact absurd hfull (by simpa [ThreadSafeQueue.fifo] using hroom)
  · exact ⟨rfl, .inl ⟨rfl, rfl⟩⟩

theorem checkPop_does {job : PopJob} (h : q.checkPop t job expired woken = some q') :
    Refines q q' := by
  rcases checkPop_cases h with ⟨item, rest, cv, hqueue, -, rfl⟩ | ⟨hqueue, rfl⟩ | ⟨-, -, rfl⟩
  · refine ⟨rfl, .inr ⟨_, rfl, ?_⟩⟩
    simp [Fifo.Does, Fifo.take, ThreadSafeQueue.fifo, hqueue]
  · refine ⟨rfl, .inr ⟨_, rfl, ?_⟩⟩
    simp [Fifo.Does, Fifo.take, ThreadSafeQueue.fifo, hqueue]
  · exact ⟨rfl, .inl ⟨rfl, rfl⟩⟩

/-- **Refinement, one step.** -/
theorem queueStep_does {action : QueueAction T} (h : queueStep q action = some q') :
    Refines q q' := by
  cases action with
  | push t job woken =>
      simp only [queueStep] at h
      split at h
      · cases h
      · exact checkPush_does h
  | pop t job woken =>
      simp only [queueStep] at h
      split at h
      · cases h
      · exact checkPop_does h
  | rousePush | rousePop =>
      obtain ⟨cv, -, rfl⟩ := Option.map_eq_some_iff.mp h
      exact ⟨rfl, .inl ⟨rfl, rfl⟩⟩
  | resumePush t expired woken =>
      obtain ⟨w, cv, -, hcheck⟩ := resumePush_cases h
      obtain ⟨hmax, hstep⟩ := checkPush_does hcheck
      exact ⟨hmax, hstep⟩
  | resumePop t expired woken =>
      obtain ⟨w, cv, -, hcheck⟩ := resumePop_cases h
      obtain ⟨hmax, hstep⟩ := checkPop_does hcheck
      exact ⟨hmax, hstep⟩
  | close =>
      cases h
      exact ⟨rfl, .inr ⟨_, rfl, rfl⟩⟩
  | clear =>
      cases h
      exact ⟨rfl, .inr ⟨_, rfl, rfl, rfl⟩⟩

end

/-- The queue is where a bounded queue is after the calls in the log. -/
structure Simulates (maxSize : ℕ) (q : ThreadSafeQueue T) : Prop where
  maxSize_eq : q.maxSize = maxSize
  history : History maxSize q.log q.fifo

/-- **Refinement.**  However the threads interleave, the calls that returned are a history of
the bounded queue. -/
theorem simulates_of_reaches {maxSize : ℕ} {q : ThreadSafeQueue T}
    (run : Reaches queueStep (.init maxSize) q) : Simulates maxSize q := by
  have hinit : Simulates maxSize (.init maxSize : ThreadSafeQueue T) := ⟨rfl, .nil⟩
  refine run.invariant hinit fun u action v h _ hstep => ?_
  obtain ⟨hmax, hsame | ⟨event, hlog, hdoes⟩⟩ := queueStep_does hstep
  · refine ⟨hmax.trans h.maxSize_eq, ?_⟩
    rw [hsame.1, hsame.2]
    exact h.history
  · refine ⟨hmax.trans h.maxSize_eq, ?_⟩
    rw [hlog]
    rw [h.maxSize_eq] at hdoes
    exact h.history.cons hdoes

/-- A bounded queue with close: never more than `maxSize` items; what was popped or cleared,
followed by what is there, is what was pushed; no push succeeds after a `Close`; a pop
returns the oldest remaining item and `nullopt` only if none remains; and what remained at a
`Close` was taken since, in order, or is still there. -/
structure BoundedFifoLaw (maxSize : ℕ) (q : ThreadSafeQueue T) : Prop where
  bounded : q.queue.length ≤ maxSize
  conserved : taken q.log ++ q.queue = pushed q.log
  accepted_open : ∀ newer item older, q.log = newer ++ .push item true :: older →
    BoundedFifo.Event.close ∉ older
  popped : ∀ newer result older, q.log = newer ++ .pop result :: older →
    result = (remaining older).head?
  drained : ∀ newer older, q.log = newer ++ .close :: older →
    remaining older = taken newer ++ q.queue

/-- **The queue law.** -/
theorem boundedFifoLaw_of_reaches (maxSize : ℕ) (q : ThreadSafeQueue T)
    (run : Reaches queueStep (.init maxSize) q) : BoundedFifoLaw maxSize q := by
  have history := (simulates_of_reaches run).history
  constructor
  · exact history.bounded
  · exact history.conserved
  · intro newer item older hlog
    rw [hlog] at history
    exact history.accepted_open
  · intro newer result older hlog
    rw [hlog] at history
    exact history.popped
  · intro newer older hlog
    rw [hlog] at history
    exact history.remaining_at_close

/-- A queue of one item: a waiting pop is notified by a push, a second push waits, and a close
falls into both waits.  The push gives up, the pop gets its item, and the next pop nothing. -/
private def closedInWaits : ThreadSafeQueue ℕ :=
  ⟨.idle, .idle, [], 1, true,
    [.pop none, .pop (some 5), .push 6 false, .close, .push 5 true]⟩

private def closeInWaits : List (QueueAction ℕ) :=
  [.pop 0 ⟨false⟩ 0, .push 1 ⟨5, false⟩ 0, .push 2 ⟨6, false⟩ 0, .close,
    .resumePush 2 false 0, .resumePop 0 false 0, .pop 3 ⟨true⟩ 0]

/-- The theorem at that run. -/
theorem boundedFifoLaw_closed_in_waits : BoundedFifoLaw 1 closedInWaits :=
  boundedFifoLaw_of_reaches 1 closedInWaits (reaches_of_steps
    (show steps queueStep (.init 1) closeInWaits = some closedInWaits from rfl))

end Kawin.Kasvc
