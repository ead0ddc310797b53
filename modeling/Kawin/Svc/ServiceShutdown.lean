import Kawin.Base.Crew
import Kawin.Base.Ranking
import Kawin.Svc.ServiceAccounting
import Mathlib.Data.Fintype.Sum

/-!
# The end of the service

`Start` adds one to the `WaitGroup` for every goroutine that it starts: the readers, the processors
and the reporter of statistics.  Each of them calls `Done` when it returns.  `Stop` closes the stop
channel, closes the port, waits for the group and only then closes the channel of events.

The machine begins where `Start` returns.  The parties are the goroutines, each of which calls
`Done` in a step of its own, and `Stop`.  Go panics when a closed channel is closed again or sent
on, and when the counter of a `WaitGroup` becomes negative; `shutdown_safe` says that nothing of
this happens, and `shutdown_returns` that `Stop` returns, unless a reader stays in
`FilterGetMessage` for good.
-/

namespace Kawin.Svc

open ByteMemory Crew Transition

/-- The goroutines of a service. -/
inductive Goroutine (R P : Type)
  | reader (i : R)
  | processor (i : P)
  | reporter
  deriving DecidableEq

def Goroutine.equiv (R P : Type) : Goroutine R P ≃ R ⊕ P ⊕ Unit where
  toFun
    | .reader i => .inl i
    | .processor i => .inr (.inl i)
    | .reporter => .inr (.inr ())
  invFun
    | .inl i => .reader i
    | .inr (.inl i) => .processor i
    | .inr (.inr ()) => .reporter
  left_inv g := by cases g <;> rfl
  right_inv g := by rcases g with i | i | ⟨⟩ <;> rfl

instance (R P : Type) [Fintype R] [Fintype P] : Fintype (Goroutine R P) :=
  .ofEquiv _ (Goroutine.equiv R P).symm

theorem Goroutine.card (R P : Type) [Fintype R] [Fintype P] :
    Fintype.card (Goroutine R P) = Fintype.card R + Fintype.card P + 1 := by
  rw [Fintype.card_congr (Goroutine.equiv R P), Fintype.card_sum, Fintype.card_sum,
    Fintype.card_unit, Nat.add_assoc]

/-- Where `statsReporter` stands. -/
inductive Reporter
  | waiting
  | returned
  deriving DecidableEq

/-- Where `Stop` stands behind the swap of `running`. -/
inductive Stopper
  | notCalled
  | closeStop
  | closeHandle
  /-- in `wg.Wait` -/
  | waiting
  | closeEvents
  | returned
  deriving DecidableEq

structure ServiceShutdown (R P : Type) where
  workers : ServiceMachine R P
  reporter : Reporter
  /-- which goroutines have called `Done` -/
  done : Goroutine R P → Bool
  /-- the counter of the `WaitGroup` -/
  wg : ℕ
  running : Bool
  stopper : Stopper
  eventClosed : Bool
  panicked : Bool

inductive ShutdownEvent (R P : Type)
  | reader (i : R) (event : ReaderEvent)
  | processor (i : P) (event : ProcessorEvent)
  /-- the reporter's ticker fires -/
  | tick
  | reporterStop
  | done (g : Goroutine R P)
  /-- `Stop` is called -/
  | stop
  | stopper

section

variable (decode : List (BitVec 16) → List Byte) {R P : Type} [DecidableEq R] [DecidableEq P]

namespace ServiceShutdown

/-- The service when `Start` returns. -/
def init [Fintype R] [Fintype P] : ServiceShutdown R P where
  workers := .init
  reporter := .waiting
  done := fun _ => false
  wg := Fintype.card (Goroutine R P)
  running := true
  stopper := .notCalled
  eventClosed := false
  panicked := false

def panic (s : ServiceShutdown R P) : ServiceShutdown R P := { s with panicked := true }

def stopperGoto (s : ServiceShutdown R P) (pc : Stopper) : ServiceShutdown R P :=
  { s with stopper := pc }

/-- The goroutine is at its end. -/
def returned (s : ServiceShutdown R P) : Goroutine R P → Bool
  | .reader i => s.workers.readers i = .returned
  | .processor i => s.workers.processors i = .returned
  | .reporter => s.reporter = .returned

/-- The reader sends on the channel of events after that is closed. -/
def sendsOnClosed (s : ServiceShutdown R P) (i : R) (event : ReaderEvent) : Bool :=
  match s.workers.readers i, event with
  | .counted _, .send => s.eventClosed
  | _, _ => false

/-- The processor finds the channel of events closed and empty. -/
def receivesClosed (s : ServiceShutdown R P) (i : P) (event : ProcessorEvent) : Bool :=
  match s.workers.processors i, event with
  | .waiting, .receive => s.eventClosed && s.workers.eventChan.isEmpty
  | _, _ => false

/-- The next step of `Stop`. -/
def stopperStep (s : ServiceShutdown R P) : Stopper → Option (ServiceShutdown R P)
  | .notCalled | .returned => none
  | .closeStop =>
      if s.workers.stopClosed then some s.panic
      else some { s.stopperGoto .closeHandle with workers.stopClosed := true }
  | .closeHandle => some (s.stopperGoto .waiting)
  | .waiting => if s.wg = 0 then some (s.stopperGoto .closeEvents) else none
  | .closeEvents =>
      if s.eventClosed then some s.panic
      else some { s.stopperGoto .returned with eventClosed := true }

/-- The deferred `wg.Done()`. -/
def callDone (s : ServiceShutdown R P) (g : Goroutine R P) : ServiceShutdown R P :=
  if s.wg = 0 then s.panic
  else { s with done := Function.update s.done g true, wg := s.wg - 1 }

end ServiceShutdown

def shutdownStep (s : ServiceShutdown R P) (event : ShutdownEvent R P) :
    Option (ServiceShutdown R P) :=
  if s.panicked then none
  else
    match event with
    | .reader i event =>
        if s.sendsOnClosed i event then some s.panic
        else (s.workers.readerStep decode i (s.workers.readers i) event).map fun workers =>
          { s with workers := workers }
    | .processor i event =>
        if s.receivesClosed i event then
          some { s with workers := s.workers.processorGoto i .returned }
        else (s.workers.processorStep i (s.workers.processors i) event).map fun workers =>
          { s with workers := workers }
    | .tick => if s.reporter = .waiting then some s else none
    | .reporterStop =>
        if s.reporter = .waiting ∧ s.workers.stopClosed then some { s with reporter := .returned }
        else none
    | .done g => if s.returned g && !s.done g then some (s.callDone g) else none
    -- a second call finds `running` cleared and returns an error
    | .stop => some (if s.running then { s.stopperGoto .closeStop with running := false } else s)
    | .stopper => s.stopperStep s.stopper

end

/-! ## What a step can be -/

section

variable {decode : List (BitVec 16) → List Byte} {R P : Type} [DecidableEq R] [DecidableEq P]

/-- A step of a reader that stands at `pc`. -/
inductive ReaderTurn (decode : List (BitVec 16) → List Byte) (s : ServiceMachine R P) (i : R) :
    Reader → ReaderEvent → ServiceMachine R P → Prop
  | leave (hclosed : s.stopClosed = true) :
      ReaderTurn decode s i .polling .poll (s.readerGoto i .returned)
  | poll (hopen : s.stopClosed = false) :
      ReaderTurn decode s i .polling .poll (s.readerGoto i .receiving)
  | fails : ReaderTurn decode s i .receiving .getMessageFails (s.readerGoto i .returned)
  | unparsed (buf : List Byte) {error : String}
      (hparse : parseFilterMessage decode buf = .error error) :
      ReaderTurn decode s i .receiving (.getMessage buf) (s.readerGoto i .polling)
  | received (buf : List Byte) (log : Log) (hparse : parseFilterMessage decode buf = .ok log) :
      ReaderTurn decode s i .receiving (.getMessage buf)
        ({ s with messageReceived := s.messageReceived + 1#64 }.readerGoto i
          (.counted ⟨wireType buf, log⟩))
  | sent (msg : WireMessage) (hroom : s.hasRoom = true) :
      ReaderTurn decode s i (.counted msg) .send
        ({ s with eventChan := s.eventChan ++ [msg] }.readerGoto i .polling)
  | stopped (msg : WireMessage) (hclosed : s.stopClosed = true) :
      ReaderTurn decode s i (.counted msg) .stop (s.readerGoto i .returned)
  | full (msg : WireMessage) (hopen : s.stopClosed = false) :
      ReaderTurn decode s i (.counted msg) .default (s.readerGoto i .dropping)
  | dropped : ReaderTurn decode s i .dropping .countDropped
      ({ s with messageDropped := s.messageDropped + 1#64 }.readerGoto i .polling)

omit [DecidableEq P] in
theorem readerTurn_of_step {s t : ServiceMachine R P} {i : R} {pc : Reader} {event : ReaderEvent}
    (hstep : s.readerStep decode i pc event = some t) : ReaderTurn decode s i pc event t := by
  unfold ServiceMachine.readerStep at hstep
  split at hstep
  · cases hstep
    cases hclosed : s.stopClosed with
    | true => exact .leave hclosed
    | false => exact .poll hclosed
  · cases hstep
    exact .fails
  · next buf =>
      split at hstep
      · next error hparse =>
          cases hstep
          exact .unparsed buf hparse
      · next log hparse =>
          cases hstep
          exact .received buf log hparse
  · next msg =>
      obtain ⟨hroom, hstep⟩ := Option.ite_none_right_eq_some.mp hstep
      cases hstep
      exact .sent msg hroom
  · next msg =>
      obtain ⟨hclosed, hstep⟩ := Option.ite_none_right_eq_some.mp hstep
      cases hstep
      exact .stopped msg hclosed
  · next msg =>
      obtain ⟨hbusy, hstep⟩ := Option.ite_none_left_eq_some.mp hstep
      cases hstep
      rw [Bool.or_eq_true, not_or, Bool.not_eq_true, Bool.not_eq_true] at hbusy
      exact .full msg hbusy.2
  · cases hstep
    exact .dropped
  · cases hstep

/-- What a step of the service does. -/
inductive ShutdownMove (decode : List (BitVec 16) → List Byte) (s : ServiceShutdown R P) :
    ShutdownEvent R P → ServiceShutdown R P → Prop
  | sendPanic (i : R) (msg : WireMessage) (hpc : s.workers.readers i = .counted msg)
      (hclosed : s.eventClosed = true) : ShutdownMove decode s (.reader i .send) s.panic
  | reader (i : R) (event : ReaderEvent) (workers : ServiceMachine R P)
      (hturn : ReaderTurn decode s.workers i (s.workers.readers i) event workers) :
      ShutdownMove decode s (.reader i event) { s with workers := workers }
  | receiveClosed (i : P) (hpc : s.workers.processors i = .waiting)
      (hclosed : s.eventClosed = true) : ShutdownMove decode s (.processor i .receive)
        { s with workers := s.workers.processorGoto i .returned }
  | processor (i : P) (event : ProcessorEvent) (workers : ServiceMachine R P)
      (hmove : ProcessorMove s.workers i (s.workers.processors i) event workers) :
      ShutdownMove decode s (.processor i event) { s with workers := workers }
  | tick : ShutdownMove decode s .tick s
  | reporterStop (hpc : s.reporter = .waiting) :
      ShutdownMove decode s .reporterStop { s with reporter := .returned }
  | done (g : Goroutine R P) (hreturned : s.returned g = true) (hfirst : s.done g = false) :
      ShutdownMove decode s (.done g) (s.callDone g)
  | stop (hrunning : s.running = true) :
      ShutdownMove decode s .stop { s.stopperGoto .closeStop with running := false }
  | stopAgain (hstopped : s.running = false) : ShutdownMove decode s .stop s
  | stopper {t : ServiceShutdown R P} (hstep : s.stopperStep s.stopper = some t) :
      ShutdownMove decode s .stopper t

theorem shutdownMove_of_step {s t : ServiceShutdown R P} {event : ShutdownEvent R P}
    (hstep : shutdownStep decode s event = some t) : ShutdownMove decode s event t := by
  unfold shutdownStep at hstep
  obtain ⟨-, hstep⟩ := Option.ite_none_left_eq_some.mp hstep
  cases event with
  | reader i event =>
      dsimp only at hstep
      split at hstep
      · next hsends =>
          cases hstep
          unfold ServiceShutdown.sendsOnClosed at hsends
          split at hsends
          · next msg hpc => exact .sendPanic i msg hpc hsends
          · cases hsends
      · obtain ⟨workers, hworkers, rfl⟩ := Option.map_eq_some_iff.mp hstep
        exact .reader i event workers (readerTurn_of_step hworkers)
  | processor i event =>
      dsimp only at hstep
      split at hstep
      · next hreceives =>
          cases hstep
          unfold ServiceShutdown.receivesClosed at hreceives
          split at hreceives
          · next hpc =>
              rw [Bool.and_eq_true] at hreceives
              exact .receiveClosed i hpc hreceives.1
          · cases hreceives
      · obtain ⟨workers, hworkers, rfl⟩ := Option.map_eq_some_iff.mp hstep
        exact .processor i event workers (processorMove_of_step hworkers)
  | tick =>
      obtain ⟨-, hstep⟩ := Option.ite_none_right_eq_some.mp hstep
      cases hstep
      exact .tick
  | reporterStop =>
      obtain ⟨hpc, hstep⟩ := Option.ite_none_right_eq_some.mp hstep
      cases hstep
      exact .reporterStop hpc.1
  | done g =>
      obtain ⟨hboth, hstep⟩ := Option.ite_none_right_eq_some.mp hstep
      cases hstep
      rw [Bool.and_eq_true, Bool.not_eq_true'] at hboth
      exact .done g hboth.1 hboth.2
  | stop =>
      cases hstep
      cases hrunning : s.running with
      | true => exact .stop hrunning
      | false => exact .stopAgain hrunning
  | stopper => exact .stopper hstep

end

/-! ## Safety -/

/-- `Stop` has closed the stop channel. -/
def Stopper.stopClosed : Stopper → Bool
  | .notCalled | .closeStop => false
  | .closeHandle | .waiting | .closeEvents | .returned => true

/-- `wg.Wait` has returned. -/
def Stopper.joined : Stopper → Bool
  | .closeEvents | .returned => true
  | .notCalled | .closeStop | .closeHandle | .waiting => false

/-- One for a goroutine that has not called `Done`. -/
def notDone (done : Bool) : ℕ := (!done).toNat

structure ShutdownOk {R P : Type} [Fintype R] [Fintype P] (s : ServiceShutdown R P) : Prop where
  noPanic : s.panicked = false
  wg : s.wg = held Finset.univ notDone s.done
  returned : ∀ g, s.done g = true → s.returned g = true
  running : s.running = true ↔ s.stopper = .notCalled
  stopClosed : s.workers.stopClosed = s.stopper.stopClosed
  eventClosed : s.eventClosed = true ↔ s.stopper = .returned
  joined : s.stopper.joined = true → ∀ g, s.done g = true
  room : s.workers.eventChan.length ≤ eventChannelSize

section

variable {decode : List (BitVec 16) → List Byte} {R P : Type} [DecidableEq R] [DecidableEq P]

/-- What the turn of one reader leaves alone. -/
structure ReaderFrame (s : ServiceMachine R P) (i : R) (t : ServiceMachine R P) : Prop where
  live : s.readers i ≠ .returned
  stopClosed : t.stopClosed = s.stopClosed
  processors : t.processors = s.processors
  readers : ∀ j, j ≠ i → t.readers j = s.readers j
  room : s.eventChan.length ≤ eventChannelSize → t.eventChan.length ≤ eventChannelSize

omit [DecidableEq P] in
theorem ReaderTurn.frame {s t : ServiceMachine R P} {i : R} {event : ReaderEvent}
    (hturn : ReaderTurn decode s i (s.readers i) event t) : ReaderFrame s i t := by
  generalize hpc : s.readers i = pc at hturn
  have hothers : ∀ pc' j, j ≠ i → Function.update s.readers i pc' j = s.readers j :=
    fun pc' j hj => Function.update_of_ne hj ..
  have hlive (hnot : pc ≠ .returned) : s.readers i ≠ .returned := hpc ▸ hnot
  cases hturn with
  | sent msg hroom =>
      refine ⟨hlive Reader.noConfusion, rfl, rfl, hothers _, fun _ => ?_⟩
      have hlt : s.eventChan.length < eventChannelSize := by
        simpa [ServiceMachine.hasRoom] using hroom
      show (s.eventChan ++ [msg]).length ≤ eventChannelSize
      rw [List.length_append, List.length_singleton]
      exact hlt
  | _ => exact ⟨hlive Reader.noConfusion, rfl, rfl, hothers _, id⟩

/-- What the turn of one processor leaves alone. -/
structure ProcessorFrame (s : ServiceMachine R P) (i : P) (t : ServiceMachine R P) : Prop where
  live : s.processors i ≠ .returned
  stopClosed : t.stopClosed = s.stopClosed
  readers : t.readers = s.readers
  processors : ∀ j, j ≠ i → t.processors j = s.processors j
  room : s.eventChan.length ≤ eventChannelSize → t.eventChan.length ≤ eventChannelSize

omit [DecidableEq R] in
theorem processorFrame {s t : ServiceMachine R P} {i : P} {event : ProcessorEvent}
    (hmove : ProcessorMove s i (s.processors i) event t) : ProcessorFrame s i t := by
  generalize hpc : s.processors i = pc at hmove
  have hothers : ∀ pc' j, j ≠ i → Function.update s.processors i pc' j = s.processors j :=
    fun pc' j hj => Function.update_of_ne hj ..
  have hlive (hnot : pc ≠ .returned) : s.processors i ≠ .returned := hpc ▸ hnot
  cases hmove with
  | received msg rest hchan =>
      refine ⟨hlive Processor.noConfusion, rfl, rfl, hothers _, fun hroom => ?_⟩
      rw [hchan, List.length_cons] at hroom
      exact Nat.le_of_succ_le hroom
  | _ => exact ⟨hlive Processor.noConfusion, rfl, rfl, hothers _, id⟩

variable [Fintype R] [Fintype P] {s t : ServiceShutdown R P}

omit [DecidableEq R] [DecidableEq P] in
theorem init_shutdownOk : ShutdownOk (ServiceShutdown.init : ServiceShutdown R P) where
  noPanic := rfl
  wg := by simp [ServiceShutdown.init, held, notDone]
  returned _ hdone := by cases hdone
  running := by simp [ServiceShutdown.init]
  stopClosed := rfl
  eventClosed := by simp [ServiceShutdown.init]
  joined hjoined := by cases hjoined
  room := Nat.zero_le _

omit [DecidableEq R] [DecidableEq P] in
/-- The workers move on; none of those that had returned does. -/
theorem ShutdownOk.moved (h : ShutdownOk s) {workers : ServiceMachine R P}
    (hstop : workers.stopClosed = s.workers.stopClosed)
    (hreturned : ∀ g, s.returned g = true → ({ s with workers := workers }).returned g = true)
    (hroom : workers.eventChan.length ≤ eventChannelSize) :
    ShutdownOk { s with workers := workers } where
  noPanic := h.noPanic
  wg := h.wg
  returned g hdone := hreturned g (h.returned g hdone)
  running := h.running
  stopClosed := hstop.trans h.stopClosed
  eventClosed := h.eventClosed
  joined := h.joined
  room := hroom

omit [DecidableEq R] [DecidableEq P] in
theorem ShutdownOk.readerMoved (h : ShutdownOk s) {i : R} {workers : ServiceMachine R P}
    (hframe : ReaderFrame s.workers i workers) : ShutdownOk { s with workers := workers } := by
  refine h.moved hframe.stopClosed (fun g hreturned => ?_) (hframe.room h.room)
  cases g with
  | reader j =>
      have hpc : s.workers.readers j = .returned := of_decide_eq_true hreturned
      have hne : j ≠ i := by
        rintro rfl
        exact hframe.live hpc
      exact decide_eq_true ((hframe.readers j hne).trans hpc)
  | processor j =>
      have hpc : s.workers.processors j = .returned := of_decide_eq_true hreturned
      exact decide_eq_true ((congrFun hframe.processors j).trans hpc)
  | reporter => exact hreturned

omit [DecidableEq R] [DecidableEq P] in
theorem ShutdownOk.processorMoved (h : ShutdownOk s) {i : P} {workers : ServiceMachine R P}
    (hframe : ProcessorFrame s.workers i workers) : ShutdownOk { s with workers := workers } := by
  refine h.moved hframe.stopClosed (fun g hreturned => ?_) (hframe.room h.room)
  cases g with
  | reader j =>
      have hpc : s.workers.readers j = .returned := of_decide_eq_true hreturned
      exact decide_eq_true ((congrFun hframe.readers j).trans hpc)
  | processor j =>
      have hpc : s.workers.processors j = .returned := of_decide_eq_true hreturned
      have hne : j ≠ i := by
        rintro rfl
        exact hframe.live hpc
      exact decide_eq_true ((hframe.processors j hne).trans hpc)
  | reporter => exact hreturned

/-- A goroutine calls `Done` while the counter still counts it. -/
theorem ShutdownOk.done (h : ShutdownOk s) {g : Goroutine R P} (hreturned : s.returned g = true)
    (hfirst : s.done g = false) : ShutdownOk (s.callDone g) := by
  have hheld := @held_update _ _ _ _ _ Finset.univ g notDone s.done true (Finset.mem_univ g)
  rw [hfirst, ← h.wg] at hheld
  have hcount : held Finset.univ notDone (Function.update s.done g true) + 1 = s.wg := hheld
  have hpos : s.wg ≠ 0 := by omega
  unfold ServiceShutdown.callDone
  rw [if_neg hpos]
  refine ⟨h.noPanic, ?_, fun g' hdone => ?_, h.running, h.stopClosed, h.eventClosed,
    fun hjoined g' => ?_, h.room⟩
  · show s.wg - 1 = held Finset.univ notDone (Function.update s.done g true)
    omega
  · by_cases hg : g' = g
    · rw [hg]
      exact hreturned
    · exact h.returned g' ((Function.update_of_ne hg ..).symm.trans hdone)
  · by_cases hg : g' = g
    · rw [hg]
      exact Function.update_self ..
    · exact (Function.update_of_ne hg ..).trans (h.joined hjoined g')

omit [DecidableEq R] [DecidableEq P] in
theorem ShutdownOk.allDone (h : ShutdownOk s) (hwg : s.wg = 0) : ∀ g, s.done g = true := by
  intro g
  rw [h.wg, held_eq_zero_iff] at hwg
  have hg := hwg g (Finset.mem_univ g)
  cases hdone : s.done g with
  | true => rfl
  | false =>
      rw [hdone] at hg
      cases hg

omit [DecidableEq R] [DecidableEq P] in
theorem ShutdownOk.wg_eq_zero (h : ShutdownOk s) (hall : ∀ g, s.done g = true) : s.wg = 0 := by
  rw [h.wg]
  exact held_eq_zero fun g _ => by rw [hall g]; rfl

omit [DecidableEq R] [DecidableEq P] in
theorem ShutdownOk.stopper (h : ShutdownOk s) {pc : Stopper} (hpc : s.stopper = pc)
    (hstep : s.stopperStep pc = some t) : ShutdownOk t := by
  have hstop := h.stopClosed
  have hevent := h.eventClosed
  have hrunning := h.running
  rw [hpc] at hstop hevent hrunning
  cases pc with
  | notCalled | returned => cases hstep
  | closeStop =>
      rw [ServiceShutdown.stopperStep, hstop] at hstep
      cases hstep
      refine ⟨h.noPanic, h.wg, h.returned, ?_, rfl, ?_,
        fun hjoined => absurd hjoined Bool.false_ne_true, h.room⟩
      · exact hrunning.trans (by simp [ServiceShutdown.stopperGoto])
      · exact hevent.trans (by simp [ServiceShutdown.stopperGoto])
  | closeHandle =>
      cases hstep
      refine ⟨h.noPanic, h.wg, h.returned, ?_, hstop, ?_,
        fun hjoined => absurd hjoined Bool.false_ne_true, h.room⟩
      · exact hrunning.trans (by simp [ServiceShutdown.stopperGoto])
      · exact hevent.trans (by simp [ServiceShutdown.stopperGoto])
  | waiting =>
      obtain ⟨hwg, hstep⟩ := Option.ite_none_right_eq_some.mp hstep
      cases hstep
      refine ⟨h.noPanic, h.wg, h.returned, ?_, hstop, ?_, fun _ => h.allDone hwg, h.room⟩
      · exact hrunning.trans (by simp [ServiceShutdown.stopperGoto])
      · exact hevent.trans (by simp [ServiceShutdown.stopperGoto])
  | closeEvents =>
      have hopen : s.eventClosed = false := by simpa using hevent
      rw [ServiceShutdown.stopperStep, hopen] at hstep
      cases hstep
      refine ⟨h.noPanic, h.wg, h.returned, ?_, hstop, by simp [ServiceShutdown.stopperGoto],
        fun _ => h.joined (by rw [hpc]; rfl), h.room⟩
      exact hrunning.trans (by simp [ServiceShutdown.stopperGoto])

omit [DecidableEq R] [DecidableEq P] in
/-- While a goroutine has not returned the channel of events is open. -/
theorem ShutdownOk.open (h : ShutdownOk s) {g : Goroutine R P} (hlive : s.returned g = false) :
    s.eventClosed = false := by
  by_contra hclosed
  rw [Bool.not_eq_false] at hclosed
  have hjoined : s.stopper.joined = true := by
    rw [h.eventClosed.mp hclosed]
    rfl
  rw [h.returned g (h.joined hjoined g)] at hlive
  cases hlive

/-- **Step lemma for the end of the service.** -/
theorem ShutdownOk.step (h : ShutdownOk s) {event : ShutdownEvent R P}
    (hstep : shutdownStep decode s event = some t) : ShutdownOk t := by
  cases shutdownMove_of_step hstep with
  | sendPanic i msg hpc hclosed =>
      have hlive : s.returned (.reader i) = false := by
        rw [ServiceShutdown.returned, hpc]
        rfl
      rw [h.open hlive] at hclosed
      cases hclosed
  | reader i event workers hturn => exact h.readerMoved hturn.frame
  | receiveClosed i hpc hclosed =>
      have hlive : s.returned (.processor i) = false := by
        rw [ServiceShutdown.returned, hpc]
        rfl
      rw [h.open hlive] at hclosed
      cases hclosed
  | processor i event workers hmove => exact h.processorMoved (processorFrame hmove)
  | tick => exact h
  | reporterStop hpc =>
      refine ⟨h.noPanic, h.wg, fun g hdone => ?_, h.running, h.stopClosed, h.eventClosed,
        h.joined, h.room⟩
      cases g with
      | reporter => rfl
      | reader i => exact h.returned (.reader i) hdone
      | processor i => exact h.returned (.processor i) hdone
  | done g hreturned hfirst => exact h.done hreturned hfirst
  | stop hrunning =>
      have hpc := h.running.mp hrunning
      have hstop := h.stopClosed
      have hevent := h.eventClosed
      rw [hpc] at hstop hevent
      refine ⟨h.noPanic, h.wg, h.returned, ?_, hstop, ?_,
        fun hjoined => absurd hjoined Bool.false_ne_true, h.room⟩
      · simp [ServiceShutdown.stopperGoto]
      · exact hevent.trans (by simp [ServiceShutdown.stopperGoto])
  | stopAgain => exact h
  | stopper hstopper => exact h.stopper rfl hstopper

theorem shutdownOk_of_reaches (run : Reaches (shutdownStep decode) .init s) : ShutdownOk s :=
  run.invariant init_shutdownOk fun _ _ _ h _ hstep => h.step hstep

end

/-- **Nothing panics.**  Whatever readers, processors, the reporter and `Stop` do beside one
another: no channel is closed twice, no message is sent on the closed channel of events, and the
counter of the group is the number of goroutines that have not called `Done`.  When `wg.Wait`
has returned every goroutine has returned, and the channel of events is closed only after that. -/
theorem shutdown_safe {R P : Type} [DecidableEq R] [DecidableEq P] [Fintype R] [Fintype P]
    (decode : List (BitVec 16) → List Byte) (s : ServiceShutdown R P)
    (run : Reaches (shutdownStep decode) .init s) :
    s.panicked = false ∧ s.wg = held Finset.univ notDone s.done ∧
      (s.stopper.joined = true → ∀ g, s.returned g = true) ∧
      (s.eventClosed = true → s.stopper.joined = true) := by
  have hok := shutdownOk_of_reaches run
  refine ⟨hok.noPanic, hok.wg, fun hjoined g => hok.returned g (hok.joined hjoined g), ?_⟩
  intro hclosed
  rw [hok.eventClosed.mp hclosed]
  rfl

/-- A service of a reader and a processor that is stopped, up to the end of `Stop`. -/
private def stoppedService : List (ShutdownEvent (Fin 1) (Fin 1)) :=
  [.stop, .stopper, .stopper, .reader 0 .poll, .processor 0 .stop, .reporterStop,
    .done (.reader 0), .done .reporter, .done (.processor 0), .stopper, .stopper]

theorem shutdown_safe_stopped : ∃ s : ServiceShutdown (Fin 1) (Fin 1),
    s.stopper = .returned ∧ s.eventClosed = true ∧ s.panicked = false ∧
      ∀ g, s.returned g = true := by
  have hfacts : (steps (shutdownStep fun _ => []) .init stoppedService).map
      (fun s => (s.stopper, s.eventClosed)) = some (.returned, true) := rfl
  obtain ⟨s, hs, hfacts⟩ := Option.map_eq_some_iff.mp hfacts
  obtain ⟨hstopper, hclosed⟩ := Prod.mk.inj hfacts
  have hsafe := shutdown_safe (fun _ => []) s (reaches_of_steps hs)
  exact ⟨s, hstopper, hclosed, hsafe.1, hsafe.2.2.1 (by rw [hstopper]; rfl)⟩

/-! ## `Stop` returns -/

/-- An event that is a step of a goroutine or of `Stop`. -/
def ShutdownEvent.works {R P : Type} : ShutdownEvent R P → Bool
  | .tick | .stop => false
  | .reader _ _ | .processor _ _ | .reporterStop | .done _ | .stopper => true

/-- A step that does not wait for the driver. -/
def ShutdownEvent.ofService {R P : Type} : ShutdownEvent R P → Bool
  | .tick | .stop | .reader _ .getMessageFails | .reader _ (.getMessage _) => false
  | .reader _ _ | .processor _ _ | .reporterStop | .done _ | .stopper => true

/-- `Stop` is in `wg.Wait`, for goroutines that have not called `Done`, and each of these is a
reader in `FilterGetMessage`. -/
structure WaitsForDriver {R P : Type} (s : ServiceShutdown R P) : Prop where
  waiting : s.stopper = .waiting
  someone : ∃ g, s.done g = false
  readers : ∀ g, s.done g = false → ∃ i, g = .reader i ∧ s.workers.readers i = .receiving

/-- How many steps are left to a reader once the stop channel is closed, if the message that it
has or gets is to be handled. -/
def Reader.left : Reader → ℕ
  | .returned => 0
  | .polling => 1
  | .dropping => 2
  | .counted _ => 4
  | .receiving => 5

def Processor.left : Processor → ℕ
  | .returned => 0
  | .waiting => 1
  | .took _ => 2

def Reporter.left : Reporter → ℕ
  | .returned => 0
  | .waiting => 1

def Stopper.left : Stopper → ℕ
  | .closeHandle => 3
  | .waiting => 2
  | .closeEvents => 1
  | .notCalled | .closeStop | .returned => 0

/-- A message in the channel is taken and processed. -/
def ServiceMachine.left {R P : Type} [Fintype R] [Fintype P] (s : ServiceMachine R P) : ℕ :=
  held Finset.univ Reader.left s.readers + held Finset.univ Processor.left s.processors +
    2 * s.eventChan.length

def ServiceShutdown.left {R P : Type} [Fintype R] [Fintype P] (s : ServiceShutdown R P) : ℕ :=
  s.workers.left + s.reporter.left + s.wg + s.stopper.left

section

variable {decode : List (BitVec 16) → List Byte} {R P : Type} [DecidableEq R] [DecidableEq P]
  [Fintype R] [Fintype P]

omit [DecidableEq P] in
theorem ReaderTurn.left_lt {s t : ServiceMachine R P} {i : R} {event : ReaderEvent}
    (hclosed : s.stopClosed = true) (hturn : ReaderTurn decode s i (s.readers i) event t) :
    t.left < s.left := by
  generalize hpc : s.readers i = pc at hturn
  have hheld : ∀ pc', held Finset.univ Reader.left (Function.update s.readers i pc') + pc.left =
      held Finset.univ Reader.left s.readers + pc'.left := fun pc' => by
    have hupdate := @held_update _ _ _ _ _ Finset.univ i Reader.left s.readers pc'
      (Finset.mem_univ i)
    rwa [hpc] at hupdate
  have hless (pc' : Reader) (hlt : pc'.left < pc.left) : (s.readerGoto i pc').left < s.left := by
    have hupdate := hheld pc'
    simp only [ServiceMachine.left, ServiceMachine.readerGoto]
    omega
  cases hturn with
  | poll hopen | full msg hopen =>
      rw [hclosed] at hopen
      cases hopen
  | sent msg hroom =>
      have hupdate := hheld .polling
      simp only [ServiceMachine.left, ServiceMachine.readerGoto, List.length_append,
        List.length_singleton, Reader.left] at hupdate ⊢
      omega
  | leave _ | fails | unparsed _ _ | received _ _ _ | stopped _ _ | dropped =>
      exact hless _ (by simp [Reader.left])

omit [DecidableEq R] in
theorem ProcessorMove.left_lt {s t : ServiceMachine R P} {i : P} {event : ProcessorEvent}
    (hmove : ProcessorMove s i (s.processors i) event t) : t.left < s.left := by
  generalize hpc : s.processors i = pc at hmove
  have hheld : ∀ pc',
      held Finset.univ Processor.left (Function.update s.processors i pc') + pc.left =
        held Finset.univ Processor.left s.processors + pc'.left := fun pc' => by
    have hupdate := @held_update _ _ _ _ _ Finset.univ i Processor.left s.processors pc'
      (Finset.mem_univ i)
    rwa [hpc] at hupdate
  cases hmove with
  | stopped =>
      have hupdate := hheld .returned
      simp only [ServiceMachine.left, ServiceMachine.processorGoto, Processor.left] at hupdate ⊢
      omega
  | received msg rest hchan =>
      have hupdate := hheld (.took msg)
      simp only [ServiceMachine.left, ServiceMachine.processorGoto, Processor.left, hchan,
        List.length_cons] at hupdate ⊢
      omega
  | processed msg =>
      have hupdate := hheld .waiting
      simp only [ServiceMachine.left, ServiceMachine.processorGoto, Processor.left] at hupdate ⊢
      omega

variable {s t : ServiceShutdown R P}

omit [DecidableEq R] [DecidableEq P] in
theorem ServiceShutdown.left_le (h : ShutdownOk s) : s.left ≤
    6 * Fintype.card R + 3 * Fintype.card P + 2 * eventChannelSize + 5 := by
  have hreaders : held Finset.univ Reader.left s.workers.readers ≤ Fintype.card R * 5 :=
    held_le fun pc => by cases pc <;> simp [Reader.left]
  have hprocessors : held Finset.univ Processor.left s.workers.processors ≤ Fintype.card P * 2 :=
    held_le fun pc => by cases pc <;> simp [Processor.left]
  have hwg : s.wg ≤ Fintype.card (Goroutine R P) * 1 := by
    rw [h.wg]
    exact held_le fun done => by cases done <;> simp [notDone]
  have hcard := Goroutine.card R P
  have hreporter : s.reporter.left ≤ 1 := by cases s.reporter <;> simp [Reporter.left]
  have hstopper : s.stopper.left ≤ 3 := by cases s.stopper <;> simp [Stopper.left]
  have hroom := h.room
  unfold ServiceShutdown.left ServiceMachine.left
  omega

omit [DecidableEq R] [DecidableEq P] in
/-- `Stop` itself takes a step. -/
theorem ServiceShutdown.left_stopper (h : ShutdownOk s) (hclosed : s.workers.stopClosed = true)
    {pc : Stopper} (hpc : s.stopper = pc) (hstep : s.stopperStep pc = some t) :
    t.workers.stopClosed = true ∧ t.left < s.left := by
  have hok := h.stopper hpc hstep
  cases pc with
  | notCalled | returned => cases hstep
  | closeStop =>
      rw [h.stopClosed, hpc] at hclosed
      cases hclosed
  | closeHandle =>
      cases hstep
      refine ⟨hclosed, ?_⟩
      simp only [ServiceShutdown.left, ServiceShutdown.stopperGoto, hpc, Stopper.left]
      omega
  | waiting =>
      cases (Option.ite_none_right_eq_some.mp hstep).2
      refine ⟨hclosed, ?_⟩
      simp only [ServiceShutdown.left, ServiceShutdown.stopperGoto, hpc, Stopper.left]
      omega
  | closeEvents =>
      rw [ServiceShutdown.stopperStep] at hstep
      split at hstep
      · cases hstep
        cases hok.noPanic
      · cases hstep
        refine ⟨hclosed, ?_⟩
        simp only [ServiceShutdown.left, ServiceShutdown.stopperGoto, hpc, Stopper.left]
        omega

/-- **Step lemma for the end of the service.**  Once the stop channel is closed every step of a
goroutine or of `Stop` leaves less to do. -/
theorem ServiceShutdown.left_step (h : ShutdownOk s) (hclosed : s.workers.stopClosed = true)
    {event : ShutdownEvent R P} (hstep : shutdownStep decode s event = some t) :
    t.workers.stopClosed = true ∧ t.left + event.works.toNat ≤ s.left := by
  have hopen {g : Goroutine R P} (hlive : s.returned g = false) : s.eventClosed = false :=
    h.open hlive
  cases shutdownMove_of_step hstep with
  | sendPanic i msg hpc hevent =>
      rw [hopen (g := .reader i) (by rw [ServiceShutdown.returned, hpc]; rfl)] at hevent
      cases hevent
  | reader i event workers hturn =>
      have hless := hturn.left_lt hclosed
      refine ⟨hturn.frame.stopClosed.trans hclosed, ?_⟩
      simp only [ServiceShutdown.left, ShutdownEvent.works, Bool.toNat_true]
      omega
  | receiveClosed i hpc hevent =>
      rw [hopen (g := .processor i) (by rw [ServiceShutdown.returned, hpc]; rfl)] at hevent
      cases hevent
  | processor i event workers hmove =>
      have hless := hmove.left_lt
      refine ⟨(processorFrame hmove).stopClosed.trans hclosed, ?_⟩
      simp only [ServiceShutdown.left, ShutdownEvent.works, Bool.toNat_true]
      omega
  | tick => exact ⟨hclosed, le_rfl⟩
  | reporterStop hpc =>
      refine ⟨hclosed, ?_⟩
      simp only [ServiceShutdown.left, ShutdownEvent.works, Bool.toNat_true, hpc, Reporter.left]
      omega
  | done g hreturned hfirst =>
      have hok := h.done hreturned hfirst
      unfold ServiceShutdown.callDone at hok ⊢
      split
      · next hzero =>
          rw [if_pos hzero] at hok
          cases hok.noPanic
      · next hpos =>
          refine ⟨hclosed, ?_⟩
          simp only [ServiceShutdown.left, ShutdownEvent.works, Bool.toNat_true]
          omega
  | stop hrunning =>
      rw [h.stopClosed, h.running.mp hrunning] at hclosed
      cases hclosed
  | stopAgain => exact ⟨hclosed, le_rfl⟩
  | stopper hstopper => exact ServiceShutdown.left_stopper h hclosed rfl hstopper

omit [Fintype R] [Fintype P] in
/-- Behind the closed stop channel a reader that is not in `FilterGetMessage` can go on. -/
theorem reader_enabled {i : R} (hpanic : s.panicked = false)
    (hclosed : s.workers.stopClosed = true) (hlive : s.workers.readers i ≠ .returned)
    (hreceiving : s.workers.readers i ≠ .receiving) :
    ∃ event, (ShutdownEvent.reader i event : ShutdownEvent R P).ofService = true ∧
      (shutdownStep decode s (.reader i event)).isSome = true := by
  have hreader {event : ReaderEvent} (hsends : s.sendsOnClosed i event = false)
      (hstep : (s.workers.readerStep decode i (s.workers.readers i) event).isSome = true) :
      (shutdownStep decode s (.reader i event)).isSome = true := by
    unfold shutdownStep
    simp only [hpanic, Bool.false_eq_true, if_false, hsends, Option.isSome_map, hstep]
  cases hpc : s.workers.readers i with
  | polling =>
      refine ⟨.poll, rfl, hreader ?_ ?_⟩
      · simp [ServiceShutdown.sendsOnClosed]
      · rw [hpc]
        rfl
  | receiving => exact absurd hpc hreceiving
  | counted msg =>
      refine ⟨.stop, rfl, hreader ?_ ?_⟩
      · simp [ServiceShutdown.sendsOnClosed]
      · rw [hpc, ServiceMachine.readerStep, if_pos hclosed]
        rfl
  | dropping =>
      refine ⟨.countDropped, rfl, hreader ?_ ?_⟩
      · simp [ServiceShutdown.sendsOnClosed]
      · rw [hpc]
        rfl
  | returned => exact absurd hpc hlive

omit [Fintype R] [Fintype P] in
/-- Behind the closed stop channel a processor can go on. -/
theorem processor_enabled {i : P} (hpanic : s.panicked = false)
    (hclosed : s.workers.stopClosed = true) (hlive : s.workers.processors i ≠ .returned) :
    ∃ event, (shutdownStep decode s (.processor i event)).isSome = true := by
  have hprocessor {event : ProcessorEvent} (hreceives : s.receivesClosed i event = false)
      (hstep : (s.workers.processorStep i (s.workers.processors i) event).isSome = true) :
      (shutdownStep decode s (.processor i event)).isSome = true := by
    unfold shutdownStep
    simp only [hpanic, Bool.false_eq_true, if_false, hreceives, Option.isSome_map, hstep]
  cases hpc : s.workers.processors i with
  | waiting =>
      refine ⟨.stop, hprocessor ?_ ?_⟩
      · simp [ServiceShutdown.receivesClosed]
      · rw [hpc, ServiceMachine.processorStep, if_pos hclosed]
        rfl
  | took msg =>
      refine ⟨.process, hprocessor ?_ ?_⟩
      · simp [ServiceShutdown.receivesClosed]
      · rw [hpc]
        rfl
  | returned => exact absurd hpc hlive

omit [Fintype R] [Fintype P] in
/-- Behind the closed stop channel a goroutine that has not returned can go on, unless it waits
for the driver. -/
theorem goroutine_enabled (hpanic : s.panicked = false) (hclosed : s.workers.stopClosed = true)
    {g : Goroutine R P} (hlive : s.returned g = false)
    (hwaits : ¬∃ i, g = .reader i ∧ s.workers.readers i = .receiving) :
    ∃ event, event.ofService = true ∧ (shutdownStep decode s event).isSome = true := by
  cases g with
  | reader i =>
      have hnot : s.workers.readers i ≠ .returned := by
        intro hpc
        rw [ServiceShutdown.returned, hpc] at hlive
        cases hlive
      obtain ⟨event, hservice, henabled⟩ :=
        @reader_enabled decode _ _ _ _ _ i hpanic hclosed hnot fun hpc => hwaits ⟨i, rfl, hpc⟩
      exact ⟨.reader i event, hservice, henabled⟩
  | processor i =>
      have hnot : s.workers.processors i ≠ .returned := by
        intro hpc
        rw [ServiceShutdown.returned, hpc] at hlive
        cases hlive
      obtain ⟨event, henabled⟩ := @processor_enabled decode _ _ _ _ _ i hpanic hclosed hnot
      exact ⟨.processor i event, rfl, henabled⟩
  | reporter =>
      have hwaiting : s.reporter = .waiting := by
        cases hpc : s.reporter with
        | waiting => rfl
        | returned =>
            rw [ServiceShutdown.returned, hpc] at hlive
            cases hlive
      refine ⟨.reporterStop, rfl, ?_⟩
      unfold shutdownStep
      simp [hpanic, hwaiting, hclosed]

/-- As long as `Stop` has not returned there is something that can be done, unless it waits for
the driver. -/
theorem shutdown_enabled (h : ShutdownOk s) (hclosed : s.workers.stopClosed = true)
    (hreturned : s.stopper ≠ .returned) (hwaits : ¬WaitsForDriver s) :
    ∃ event, event.ofService = true ∧ (shutdownStep decode s event).isSome = true := by
  have hstopper (hstep : (s.stopperStep s.stopper).isSome = true) :
      ∃ event, event.ofService = true ∧ (shutdownStep decode s event).isSome = true := by
    refine ⟨.stopper, rfl, ?_⟩
    unfold shutdownStep
    rw [if_neg (by rw [h.noPanic]; exact Bool.false_ne_true)]
    exact hstep
  cases hpc : s.stopper with
  | notCalled | closeStop =>
      rw [h.stopClosed, hpc] at hclosed
      cases hclosed
  | returned => exact absurd hpc hreturned
  | closeHandle =>
      apply hstopper
      rw [hpc]
      rfl
  | closeEvents =>
      apply hstopper
      rw [hpc, ServiceShutdown.stopperStep]
      split <;> rfl
  | waiting =>
      by_cases hall : ∀ g, s.done g = true
      · -- `wg.Wait` returns
        apply hstopper
        rw [hpc, ServiceShutdown.stopperStep, if_pos (h.wg_eq_zero hall)]
        rfl
      -- somebody who does not wait for the driver has not called `Done`
      obtain ⟨g, hdone, hother⟩ : ∃ g, s.done g = false ∧
          ¬∃ i, g = .reader i ∧ s.workers.readers i = .receiving := by
        by_contra hnone
        refine hwaits ⟨hpc, ?_, fun g hdone => ?_⟩
        · obtain ⟨g, hdone⟩ := not_forall.mp hall
          exact ⟨g, Bool.not_eq_true _ ▸ hdone⟩
        · by_contra hother
          exact hnone ⟨g, hdone, hother⟩
      cases hlive : s.returned g with
      | false => exact goroutine_enabled h.noPanic hclosed hlive hother
      | true =>
          refine ⟨.done g, rfl, ?_⟩
          unfold shutdownStep
          simp [h.noPanic, hlive, hdone]

/-- Where `Stop` waits for the driver, a `FilterGetMessage` that fails lets a reader go on. -/
theorem WaitsForDriver.enabled (h : ShutdownOk s) (hwaits : WaitsForDriver s) :
    ∃ i, (shutdownStep decode s (.reader i .getMessageFails)).isSome = true := by
  obtain ⟨g, hdone⟩ := hwaits.someone
  obtain ⟨i, -, hpc⟩ := hwaits.readers g hdone
  refine ⟨i, ?_⟩
  simp [shutdownStep, h.noPanic, ServiceShutdown.sendsOnClosed, hpc, ServiceMachine.readerStep]

end

/-- A reader is in `FilterGetMessage` when the service is stopped; the others call `Done`. -/
private def keptService : List (ShutdownEvent (Fin 1) (Fin 1)) :=
  [.reader 0 .poll, .stop, .stopper, .stopper, .processor 0 .stop, .reporterStop, .done .reporter,
    .done (.processor 0)]

/-- A run that comes to where `Stop` waits for the driver. -/
theorem waitsForDriver_kept : ∃ s : ServiceShutdown (Fin 1) (Fin 1),
    Reaches (shutdownStep fun _ => []) .init s ∧ WaitsForDriver s := by
  have hfacts : (steps (shutdownStep fun _ => []) .init keptService).map (fun s =>
      (s.stopper, s.done (.reader 0), s.done (.processor 0), s.done .reporter,
        s.workers.readers 0)) = some (.waiting, false, true, true, .receiving) := rfl
  obtain ⟨s, hs, hfacts⟩ := Option.map_eq_some_iff.mp hfacts
  simp only [Prod.mk.injEq] at hfacts
  obtain ⟨hstopper, hkept, hprocessor, hreporter, hpc⟩ := hfacts
  refine ⟨s, reaches_of_steps hs, hstopper, ⟨_, hkept⟩, fun g hdone => ?_⟩
  cases g with
  | reader i => exact ⟨0, by rw [Subsingleton.elim i 0], hpc⟩
  | processor i =>
      rw [Subsingleton.elim i 0, hprocessor] at hdone
      cases hdone
  | reporter =>
      rw [hreporter] at hdone
      cases hdone

/-- **`Stop` returns**, unless the driver keeps a reader.  Behind the closed stop channel, until
`Stop` has returned it or a goroutine can go on, if it does not wait for readers that are all in
`FilterGetMessage`, and then one of these can go on if the call fails; and the goroutines and `Stop`
together take no more than so many steps, however long the tickers run. -/
theorem shutdown_returns {R P : Type} [DecidableEq R] [DecidableEq P] [Fintype R] [Fintype P]
    (decode : List (BitVec 16) → List Byte) (s : ServiceShutdown R P)
    (run : Reaches (shutdownStep decode) .init s) (hclosed : s.workers.stopClosed = true) :
    (s.stopper = .returned ∨
      (WaitsForDriver s ∧
        ∃ i, (shutdownStep decode s (.reader i .getMessageFails)).isSome = true) ∨
      ∃ event, event.ofService = true ∧ (shutdownStep decode s event).isSome = true) ∧
    ∀ events t, steps (shutdownStep decode) s events = some t →
      events.countP ShutdownEvent.works ≤
        6 * Fintype.card R + 3 * Fintype.card P + 2 * eventChannelSize + 5 := by
  have hok := shutdownOk_of_reaches run
  constructor
  · by_cases hreturned : s.stopper = .returned
    · exact Or.inl hreturned
    · by_cases hwaits : WaitsForDriver s
      · exact Or.inr (Or.inl ⟨hwaits, hwaits.enabled hok⟩)
      · exact Or.inr (Or.inr (shutdown_enabled hok hclosed hreturned hwaits))
  · intro events t hsteps
    have hallowed : Allowed (shutdownStep decode) (fun _ _ => True) s events :=
      allowed_of_forall fun _ _ _ => trivial
    have hwork : t.left + events.countP ShutdownEvent.works ≤ s.left := by
      refine @work_le_rank _ _ _ _ ShutdownEvent.works ServiceShutdown.left
        (fun u => ShutdownOk u ∧ u.workers.stopClosed = true) ?_ events s t ⟨hok, hclosed⟩
        hallowed hsteps
      rintro u event v ⟨hu, huclosed⟩ - hstep
      obtain ⟨hvclosed, hless⟩ := ServiceShutdown.left_step hu huclosed hstep
      exact ⟨⟨hu.step hstep, hvclosed⟩, hless⟩
    have hbound := ServiceShutdown.left_le hok
    omega

/-- The theorem where the call of that reader has failed and all have called `Done`: `Stop` goes
on. -/
theorem shutdown_returns_joined : ∃ s : ServiceShutdown (Fin 1) (Fin 1),
    s.stopper = .waiting ∧ (∀ g, s.done g = true) ∧
      (∃ event, event.ofService = true ∧ (shutdownStep (fun _ => []) s event).isSome = true) ∧
      ∀ events t, steps (shutdownStep fun _ => []) s events = some t →
        events.countP ShutdownEvent.works ≤ 2062 := by
  have hfacts : (steps (shutdownStep fun _ => []) .init
      (keptService ++ [.reader 0 .getMessageFails, .done (.reader 0)])).map (fun s =>
        (s.stopper, s.workers.stopClosed, s.done (.reader 0), s.done (.processor 0),
          s.done .reporter)) = some (.waiting, true, true, true, true) := rfl
  obtain ⟨s, hs, hfacts⟩ := Option.map_eq_some_iff.mp hfacts
  simp only [Prod.mk.injEq] at hfacts
  obtain ⟨hstopper, hclosed, hreader, hprocessor, hreporter⟩ := hfacts
  have hall : ∀ g, s.done g = true := by
    intro g
    cases g with
    | reader i => rw [Subsingleton.elim i 0, hreader]
    | processor i => rw [Subsingleton.elim i 0, hprocessor]
    | reporter => exact hreporter
  obtain ⟨hgoes, hbound⟩ := shutdown_returns (fun _ => []) s (reaches_of_steps hs) hclosed
  refine ⟨s, hstopper, hall, ?_, hbound⟩
  rcases hgoes with hreturned | ⟨hwaits, -⟩ | hgoes
  · rw [hstopper] at hreturned
    cases hreturned
  · obtain ⟨g, hdone⟩ := hwaits.someone
    rw [hall g] at hdone
    cases hdone
  · exact hgoes

end Kawin.Svc
