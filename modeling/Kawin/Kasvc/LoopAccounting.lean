import Kawin.Base.Recording
import Kawin.Kasvc.EventLoops

/-!
# What becomes of the events

An event that a loop takes from the queue is in that loop's hands until `Publish` returns or throws.
`LoopBooks` keeps the books of a run: what the loops took is what they published, what failed, and
what they have in hand, and each of the four counters is behind the number it counts by the loops
that are about to increment it.  The counters are `uint64_t` and wrap.

With one loop the events are published in the order in which they were queued
(`published_in_order`); with more, a loop may overtake another between `ReceiveEvent` and `Publish`.
-/

namespace Kawin.Kasvc

open BoundedFifo Crew Transition

/-- What a step of a loop does to an event. -/
inductive LoopNote
  | taken (event : Event)
  /-- `Publish` returned -/
  | published (event : Event)
  /-- `Enrich` or `Publish` threw -/
  | failed (event : Event)

def LoopNote.taken? : LoopNote → Option Event
  | .taken event => some event
  | .published _ | .failed _ => none

def LoopNote.published? : LoopNote → Option Event
  | .published event => some event
  | .taken _ | .failed _ => none

def LoopNote.failed? : LoopNote → Option Event
  | .failed event => some event
  | .taken _ | .published _ => none

/-- The events that `ReceiveEvent` returned, in order. -/
def takenEvents (notes : List LoopNote) : List Event := notes.filterMap LoopNote.taken?

/-- The events that `Publish` returned from, in order. -/
def publishedEvents (notes : List LoopNote) : List Event := notes.filterMap LoopNote.published?

def failedEvents (notes : List LoopNote) : List Event := notes.filterMap LoopNote.failed?

def EventLoops.eventQueue (s : EventLoops) : Fifo Event := s.receiver.path.eventQueue

/-- All events ever queued. -/
def EventLoops.queued (s : EventLoops) : List Event := s.receiver.path.queued

def loopNotes (s : EventLoops) : LoopsAction → List LoopNote
  | .loop i =>
      match s.loops i with
      | .receiving => (s.eventQueue.take.1.map LoopNote.taken).toList
      | _ => []
  | .publish i throws =>
      match s.loops i with
      | .publishing event => [if throws then .failed event else .published (enrich event)]
      | _ => []
  | .start | .stop | .connect _ | .control | .complete _ => []

/-! ## The books -/

/-- The event that a loop has in hand. -/
def EventLoop.inHand : EventLoop → Multiset Event
  | .received event | .publishing event => {event}
  | _ => 0

/-- The counters of `GetStatistics`. -/
inductive Tally
  | received | processed | published | errors

def EventLoops.counter (s : EventLoops) : Tally → BitVec 64
  | .received => s.eventsReceived
  | .processed => s.eventsProcessed
  | .published => s.eventsPublished
  | .errors => s.processingErrors

/-- Whether the loop has an increment of the counter before it. -/
def EventLoop.owes : Tally → EventLoop → ℕ
  | .received, .received _ => 1
  | .processed, .countProcessed => 1
  | .published, .countProcessed | .published, .countPublished => 1
  | .errors, .countError => 1
  | _, _ => 0

/-- What the counter counts. -/
def counted (notes : List LoopNote) : Tally → ℕ
  | .received => (takenEvents notes).length
  | .processed | .published => (publishedEvents notes).length
  | .errors => (failedEvents notes).length

/-- The counter is as far behind the total as is pending. -/
def Tallies (counter : BitVec 64) (pending total : ℕ) : Prop :=
  ∃ n, counter = BitVec.ofNat 64 n ∧ n + pending = total

structure LoopBooks (s : EventLoops) (notes : List LoopNote) : Prop where
  crew : CrewOk s
  queue : takenEvents notes ++ s.eventQueue.content = s.queued
  events : (takenEvents notes : Multiset Event) =
    publishedEvents notes + failedEvents notes + held s.crew EventLoop.inHand s.loops
  counters : ∀ tally, Tallies (s.counter tally)
    (held s.crew (EventLoop.owes tally) s.loops) (counted notes tally)

/-! ## Notes -/

section

variable {notes : List LoopNote} {event : Event}

@[simp] theorem taken_taken :
    takenEvents (notes ++ [.taken event]) = takenEvents notes ++ [event] := by
  simp [takenEvents, LoopNote.taken?]

@[simp] theorem taken_published :
    takenEvents (notes ++ [.published event]) = takenEvents notes := by
  simp [takenEvents, LoopNote.taken?]

@[simp] theorem taken_failed : takenEvents (notes ++ [.failed event]) = takenEvents notes := by
  simp [takenEvents, LoopNote.taken?]

@[simp] theorem published_taken :
    publishedEvents (notes ++ [.taken event]) = publishedEvents notes := by
  simp [publishedEvents, LoopNote.published?]

@[simp] theorem published_published :
    publishedEvents (notes ++ [.published event]) = publishedEvents notes ++ [event] := by
  simp [publishedEvents, LoopNote.published?]

@[simp] theorem published_failed :
    publishedEvents (notes ++ [.failed event]) = publishedEvents notes := by
  simp [publishedEvents, LoopNote.published?]

@[simp] theorem failed_taken : failedEvents (notes ++ [.taken event]) = failedEvents notes := by
  simp [failedEvents, LoopNote.failed?]

@[simp] theorem failed_published :
    failedEvents (notes ++ [.published event]) = failedEvents notes := by
  simp [failedEvents, LoopNote.failed?]

@[simp] theorem failed_failed :
    failedEvents (notes ++ [.failed event]) = failedEvents notes ++ [event] := by
  simp [failedEvents, LoopNote.failed?]

end

/-! ## Steps -/

section

variable {r : Communicator} {path : ReceivePath} {c : Completion} {platform : Platform}

theorem closeFilterPort_path : r.closeFilterPort.path = r.path := by
  unfold Communicator.closeFilterPort
  split <;> rfl

theorem closeCompletionPort_path : r.closeCompletionPort.path = r.path := by
  unfold Communicator.closeCompletionPort
  split <;> rfl

/-- `Disconnect` closes the queue and leaves its events there. -/
theorem disconnect_content :
    r.disconnect.path.eventQueue.content = r.path.eventQueue.content := by
  unfold Communicator.disconnect
  split
  · rfl
  · show (Communicator.closeFilterPort _).path.eventQueue.content = _
    rw [closeFilterPort_path, closeCompletionPort_path]

theorem disconnect_queued : r.disconnect.path.queued = r.path.queued := by
  unfold Communicator.disconnect
  split
  · rfl
  · show (Communicator.closeFilterPort _).path.queued = _
    rw [closeFilterPort_path, closeCompletionPort_path]

/-- A worker of the receiver queues an event, or not. -/
theorem queue_processCompletedIo : ∃ queued,
    (processCompletedIo platform path c).eventQueue.content = path.eventQueue.content ++ queued ∧
      (processCompletedIo platform path c).queued = path.queued ++ queued := by
  cases haccepts : path.eventQueue.accepts maxEventQueueSize with
  | true =>
      refine ⟨[c.event platform], ?_, ?_⟩
      · rw [processCompletedIo, Fifo.offer_of_accepts haccepts]
      · rw [processCompletedIo, Fifo.offer_of_accepts haccepts]
        rfl
  | false =>
      refine ⟨[], ?_, ?_⟩
      · rw [processCompletedIo, Fifo.offer_of_not_accepts haccepts, List.append_nil]
      · rw [processCompletedIo, Fifo.offer_of_not_accepts haccepts, List.append_nil]
        rfl

end

section

variable {platform : Platform} {config : IOCPConfig} {n : ℕ} {s t : EventLoops} {i : ℕ}
  {notes notes' : List LoopNote} {pc : EventLoop}

theorem construct_loopBooks (config : IOCPConfig) (n : ℕ) :
    LoopBooks (.construct config n) [] where
  crew := construct_crewOk config n
  queue := rfl
  events := rfl
  counters tally := ⟨0, by cases tally <;> rfl, by cases tally <;> rfl⟩

theorem loopNotes_take (hpc : s.loops i = .receiving) {event : Event} {rest : List Event}
    (hcontent : s.eventQueue.content = event :: rest) :
    loopNotes s (.loop i) = [.taken event] := by
  rw [loopNotes, hpc]
  dsimp only [Fifo.take]
  rw [hcontent]
  rfl

theorem loopNotes_timeout (hpc : s.loops i = .receiving) (hcontent : s.eventQueue.content = []) :
    loopNotes s (.loop i) = [] := by
  rw [loopNotes, hpc]
  dsimp only [Fifo.take]
  rw [hcontent]
  rfl

theorem loopNotes_silent (hpc : s.loops i = pc) (hnot : pc ≠ .receiving) :
    loopNotes s (.loop i) = [] := by
  rw [loopNotes, hpc]
  cases pc <;> first | rfl | exact absurd rfl hnot

/-- Loop `i` moves on and counts what it did, or comes to owe it. -/
theorem Tallies.update {counter counter' : BitVec 64} {total total' : ℕ} {tally : Tally} {k : ℕ}
    (h : Tallies counter (held s.crew (EventLoop.owes tally) s.loops) total)
    (hi : i < s.started) (hcounter : counter' = counter + BitVec.ofNat 64 k)
    (htotal : k + pc.owes tally + total = (s.loops i).owes tally + total') :
    Tallies counter' (held s.crew (EventLoop.owes tally) (Function.update s.loops i pc))
      total' := by
  obtain ⟨m, rfl, hm⟩ := h
  have hmem : i ∈ s.crew := Finset.mem_range.mpr hi
  have hheld := @held_update ℕ EventLoop ℕ _ _ s.crew i (EventLoop.owes tally) s.loops pc hmem
  refine ⟨m + k, ?_, ?_⟩
  · rw [hcounter, BitVec.ofNat_add]
  · omega

/-- Loop `i` moves on. -/
theorem LoopBooks.move (h : LoopBooks s notes) (hcrew : CrewOk t) (hi : i < s.started)
    (hloops : t.loops = Function.update s.loops i pc) (hstarted : t.started = s.started)
    (hqueue : takenEvents notes' ++ t.eventQueue.content = t.queued)
    (hevents : (takenEvents notes' : Multiset Event) + (s.loops i).inHand +
        (publishedEvents notes + failedEvents notes : Multiset Event) =
      takenEvents notes + pc.inHand +
        (publishedEvents notes' + failedEvents notes' : Multiset Event))
    (hcounters : ∀ tally, ∃ k, t.counter tally = s.counter tally + BitVec.ofNat 64 k ∧
      k + pc.owes tally + counted notes tally = (s.loops i).owes tally + counted notes' tally) :
    LoopBooks t notes' where
  crew := hcrew
  queue := hqueue
  events := by
    rw [EventLoops.crew, hloops, hstarted]
    exact balance_update (Finset.mem_range.mpr hi) h.events hevents
  counters tally := by
    obtain ⟨k, hcounter, htotal⟩ := hcounters tally
    rw [EventLoops.crew, hloops, hstarted]
    exact (h.counters tally).update hi hcounter htotal

/-- Loop `i` moves on without an event. -/
theorem LoopBooks.silent (h : LoopBooks s notes) (hcrew : CrewOk t) (hi : i < s.started)
    (hloops : t.loops = Function.update s.loops i pc) (hstarted : t.started = s.started)
    (hreceiver : t.receiver = s.receiver) (hhand : pc.inHand = (s.loops i).inHand)
    (hcounters : ∀ tally, ∃ k, t.counter tally = s.counter tally + BitVec.ofNat 64 k ∧
      k + pc.owes tally = (s.loops i).owes tally) : LoopBooks t notes := by
  refine h.move hcrew hi hloops hstarted ?_ (by rw [hhand]) fun tally => ?_
  · show takenEvents notes ++ t.receiver.path.eventQueue.content = t.receiver.path.queued
    rw [hreceiver]
    exact h.queue
  · obtain ⟨k, hcounter, howes⟩ := hcounters tally
    exact ⟨k, hcounter, by rw [howes]⟩

/-- The loops stand where they stood, and the queue is as good as before. -/
theorem LoopBooks.congr (h : LoopBooks s notes) (hcrew : CrewOk t) (hloops : t.loops = s.loops)
    (hstarted : t.started = s.started)
    (hqueue : takenEvents notes ++ t.eventQueue.content = t.queued)
    (hcounters : ∀ tally, t.counter tally = s.counter tally) : LoopBooks t notes where
  crew := hcrew
  queue := hqueue
  events := by
    rw [EventLoops.crew, hloops, hstarted]
    exact h.events
  counters tally := by
    rw [EventLoops.crew, hloops, hstarted, hcounters]
    exact h.counters tally

/-- A loop goes on without an event, and counts nothing. -/
theorem LoopBooks.goto (h : LoopBooks s notes) (hi : i < s.started)
    (hcrew : CrewOk (s.loopGoto i pc)) (hhand : pc.inHand = (s.loops i).inHand)
    (howes : ∀ tally, pc.owes tally = (s.loops i).owes tally) :
    LoopBooks (s.loopGoto i pc) notes :=
  h.silent hcrew hi rfl rfl rfl hhand fun tally =>
    ⟨0, by cases tally <;> exact (BitVec.add_zero _).symm, by rw [howes, Nat.zero_add]⟩

/-- The loop takes the event at the head of the queue. -/
theorem LoopBooks.take (h : LoopBooks s notes) (hi : i < s.started) {event : Event}
    (hcrew : CrewOk (s.take i event)) (hpc : s.loops i = .receiving) {rest : List Event}
    (hcontent : s.eventQueue.content = event :: rest) :
    LoopBooks (s.take i event) (notes ++ [.taken event]) := by
  refine h.move hcrew hi rfl rfl ?_ ?_ fun tally => ?_
  · have hqueue := h.queue
    rw [hcontent] at hqueue
    show takenEvents _ ++ s.eventQueue.content.tail = s.queued
    rw [taken_taken, hcontent, List.append_assoc]
    exact hqueue
  · rw [hpc, taken_taken, published_taken, failed_taken, ← Multiset.coe_add, Multiset.coe_singleton]
    exact congrArg (· + _) (add_zero _)
  · rw [hpc]
    cases tally with
    | received =>
        refine ⟨0, (BitVec.add_zero _).symm, ?_⟩
        simp only [EventLoop.owes, counted, taken_taken, List.length_append, List.length_singleton]
        omega
    | _ => exact ⟨0, (BitVec.add_zero _).symm, by simp [EventLoop.owes, counted]⟩

theorem LoopBooks.loop (h : LoopBooks s notes) (hi : i < s.started) (hcrew : CrewOk t)
    (hpc : s.loops i = pc) (hmove : LoopMove s i pc t) :
    LoopBooks t (notes ++ loopNotes s (.loop i)) := by
  cases hmove with
  | run _ | leave _ | wake =>
      rw [loopNotes_silent hpc EventLoop.noConfusion, List.append_nil]
      exact h.goto hi hcrew (by rw [hpc]; rfl) fun tally => by rw [hpc]; cases tally <;> rfl
  | @take event rest hcontent =>
      rw [loopNotes_take hpc hcontent]
      exact h.take hi hcrew hpc hcontent
  | timeout hcontent =>
      rw [loopNotes_timeout hpc hcontent, List.append_nil]
      exact h.goto hi hcrew (by rw [hpc]; rfl) fun tally => by rw [hpc]; cases tally <;> rfl
  | received event =>
      rw [loopNotes_silent hpc EventLoop.noConfusion, List.append_nil]
      refine h.silent hcrew hi rfl rfl rfl (by rw [hpc]; rfl) fun tally => ?_
      rw [hpc]
      cases tally with
      | received => exact ⟨1, rfl, rfl⟩
      | _ => exact ⟨0, (BitVec.add_zero _).symm, rfl⟩
  | processed =>
      rw [loopNotes_silent hpc EventLoop.noConfusion, List.append_nil]
      refine h.silent hcrew hi rfl rfl rfl (by rw [hpc]; rfl) fun tally => ?_
      rw [hpc]
      cases tally with
      | processed => exact ⟨1, rfl, rfl⟩
      | _ => exact ⟨0, (BitVec.add_zero _).symm, rfl⟩
  | published =>
      rw [loopNotes_silent hpc EventLoop.noConfusion, List.append_nil]
      refine h.silent hcrew hi rfl rfl rfl (by rw [hpc]; rfl) fun tally => ?_
      rw [hpc]
      cases tally with
      | published => exact ⟨1, rfl, rfl⟩
      | _ => exact ⟨0, (BitVec.add_zero _).symm, rfl⟩
  | error =>
      rw [loopNotes_silent hpc EventLoop.noConfusion, List.append_nil]
      refine h.silent hcrew hi rfl rfl rfl (by rw [hpc]; rfl) fun tally => ?_
      rw [hpc]
      cases tally with
      | errors => exact ⟨1, rfl, rfl⟩
      | _ => exact ⟨0, (BitVec.add_zero _).symm, rfl⟩

/-- `Publish` returns, or throws. -/
theorem LoopBooks.publish (h : LoopBooks s notes) (hi : i < s.started) {event : Event}
    (hpc : s.loops i = .publishing event) (throws : Bool)
    (hcrew : CrewOk (s.loopGoto i (if throws then .countError else .countProcessed))) :
    LoopBooks (s.loopGoto i (if throws then .countError else .countProcessed))
      (notes ++ loopNotes s (.publish i throws)) := by
  have hnote : loopNotes s (.publish i throws) =
      [if throws then .failed event else .published event] := by
    rw [loopNotes, hpc]
    rfl
  rw [hnote]
  cases throws with
  | true =>
      refine h.move hcrew hi rfl rfl ?_ ?_ fun tally => ?_
      · rw [if_pos rfl, taken_failed]
        exact h.queue
      · have hhand : (EventLoop.publishing event).inHand = {event} := rfl
        have hnone : EventLoop.countError.inHand = 0 := rfl
        rw [if_pos rfl, if_pos rfl, hpc, hhand, hnone, taken_failed, published_failed,
          failed_failed, ← Multiset.coe_add, Multiset.coe_singleton]
        abel
      · rw [if_pos rfl, if_pos rfl, hpc]
        refine ⟨0, by cases tally <;> exact (BitVec.add_zero _).symm, ?_⟩
        cases tally <;> simp [EventLoop.owes, counted, Nat.add_comm]
  | false =>
      refine h.move hcrew hi rfl rfl ?_ ?_ fun tally => ?_
      · rw [if_neg Bool.false_ne_true, taken_published]
        exact h.queue
      · have hhand : (EventLoop.publishing event).inHand = {event} := rfl
        have hnone : EventLoop.countProcessed.inHand = 0 := rfl
        rw [if_neg Bool.false_ne_true, if_neg Bool.false_ne_true, hpc, hhand, hnone,
          taken_published, published_published, failed_published, ← Multiset.coe_add,
          Multiset.coe_singleton]
        abel
      · rw [if_neg Bool.false_ne_true, if_neg Bool.false_ne_true, hpc]
        refine ⟨0, by cases tally <;> exact (BitVec.add_zero _).symm, ?_⟩
        cases tally <;> simp [EventLoop.owes, counted, Nat.add_comm]

/-- `Start` and `Stop` leave the events alone. -/
theorem LoopBooks.control (h : LoopBooks s notes) (hcrew : CrewOk t) {pc : Control}
    (hmove : ControlMove s pc t) : LoopBooks t notes := by
  cases hmove with
  | spawn left =>
      have hfresh : s.loops s.started = .checkRunning := h.crew.fresh _ le_rfl
      refine ⟨hcrew, h.queue, ?_, fun tally => ?_⟩
      · show _ = _ + held (Finset.range (s.started + 1)) EventLoop.inHand s.loops
        rw [held_range_succ (by rw [hfresh]; rfl)]
        exact h.events
      · show Tallies _ (held (Finset.range (s.started + 1)) (EventLoop.owes tally) s.loops) _
        rw [held_range_succ (by rw [hfresh]; cases tally <;> rfl)]
        exact h.counters tally
  | disconnect =>
      refine h.congr hcrew rfl rfl ?_ fun tally => by cases tally <;> rfl
      show takenEvents notes ++ s.receiver.disconnect.path.eventQueue.content =
        s.receiver.disconnect.path.queued
      rw [disconnect_content, disconnect_queued]
      exact h.queue
  | _ => exact h.congr hcrew rfl rfl h.queue fun tally => by cases tally <;> rfl

theorem LoopBooks.connect (h : LoopBooks s notes) (hpc : s.control = .connecting)
    (outcome : ConnectOutcome) : LoopBooks (connectReturns s outcome) notes := by
  have hcrew := h.crew.connect hpc outcome
  have hcontrol := h.crew.control
  rw [hpc] at hcontrol
  have hpath := (@connect_returns _ outcome hcontrol.1 (h.crew.receiver hcontrol.1)).1
  have hqueue (receiver : Communicator) (hsame : receiver.path = s.receiver.path) :
      takenEvents notes ++ receiver.path.eventQueue.content = receiver.path.queued := by
    rw [hsame]
    exact h.queue
  unfold connectReturns at hcrew ⊢
  split
  · next receiver hok =>
      rw [hok] at hpath hcrew
      exact h.congr hcrew rfl rfl (hqueue receiver hpath) fun tally => by cases tally <;> rfl
  · next message receiver herror =>
      rw [herror] at hpath hcrew
      exact h.congr hcrew rfl rfl (hqueue receiver hpath) fun tally => by cases tally <;> rfl

theorem LoopMove.queued {pc : EventLoop} (hmove : LoopMove s i pc t) : t.queued = s.queued := by
  cases hmove with
  | _ => rfl

theorem ControlMove.queued {pc : Control} (hmove : ControlMove s pc t) : t.queued = s.queued := by
  cases hmove with
  | disconnect => exact disconnect_queued
  | _ => rfl

/-- Only a worker of the receiver queues an event. -/
theorem queued_of_step (h : CrewOk s) {action : LoopsAction} (hne : ∀ c, action ≠ .complete c)
    (hstep : loopsStep platform s action = some t) : t.queued = s.queued := by
  cases action with
  | complete c => exact absurd rfl (hne c)
  | start =>
      obtain ⟨-, rfl⟩ := loopsStep_start hstep
      rfl
  | stop =>
      obtain ⟨-, rfl⟩ := loopsStep_stop hstep
      rfl
  | connect outcome =>
      obtain ⟨hpc, rfl⟩ := loopsStep_connect hstep
      have hcontrol := h.control
      rw [hpc] at hcontrol
      have hpath := (@connect_returns _ outcome hcontrol.1 (h.receiver hcontrol.1)).1
      unfold connectReturns
      split
      · next receiver hok =>
          rw [hok] at hpath
          exact congrArg ReceivePath.queued hpath
      · next message receiver herror =>
          rw [herror] at hpath
          exact congrArg ReceivePath.queued hpath
  | control => exact (controlMove_of_step hstep).queued
  | loop i =>
      obtain ⟨-, hmove⟩ := loopsStep_loop hstep
      exact hmove.queued
  | publish i throws =>
      obtain ⟨-, -, rfl⟩ := loopsStep_publish hstep
      rfl

/-- **Step lemma for the events.** -/
theorem LoopBooks.step (h : LoopBooks s notes) {action : LoopsAction}
    (hstep : loopsStep platform s action = some t) :
    LoopBooks t (notes ++ loopNotes s action) := by
  have hcrew : CrewOk t := h.crew.step hstep
  cases action with
  | start =>
      obtain ⟨-, rfl⟩ := loopsStep_start hstep
      rw [loopNotes, List.append_nil]
      exact h.congr hcrew rfl rfl h.queue fun tally => by cases tally <;> rfl
  | stop =>
      obtain ⟨-, rfl⟩ := loopsStep_stop hstep
      rw [loopNotes, List.append_nil]
      exact h.congr hcrew rfl rfl h.queue fun tally => by cases tally <;> rfl
  | connect outcome =>
      obtain ⟨hpc, rfl⟩ := loopsStep_connect hstep
      rw [loopNotes, List.append_nil]
      exact h.connect hpc outcome
  | control =>
      rw [loopNotes, List.append_nil]
      exact h.control hcrew (controlMove_of_step hstep)
  | loop i =>
      obtain ⟨hi, hmove⟩ := loopsStep_loop hstep
      exact h.loop hi hcrew rfl hmove
  | publish i throws =>
      obtain ⟨hi, ⟨event, hpc⟩, rfl⟩ := loopsStep_publish hstep
      exact h.publish hi hpc throws hcrew
  | complete c =>
      obtain ⟨-, rfl⟩ := loopsStep_complete hstep
      obtain ⟨queued, hcontent, hqueued⟩ := @queue_processCompletedIo s.receiver.path c platform
      rw [loopNotes, List.append_nil]
      refine h.congr hcrew rfl rfl ?_ fun tally => by cases tally <;> rfl
      show takenEvents notes ++ (processCompletedIo platform _ c).eventQueue.content =
        (processCompletedIo platform _ c).queued
      rw [hcontent, hqueued, ← List.append_assoc]
      exact congrArg (· ++ queued) h.queue

/-- **Run lemma for the events.** -/
theorem loopBooks_of_run {q : EventLoops × List LoopNote}
    (run : RecordedRun (loopsStep platform) loopNotes (fun _ _ => True) (.construct config n) q) :
    LoopBooks q.1 q.2 :=
  run.recorded_invariant (construct_loopBooks config n) fun _ _ _ _ h _ hstep => h.step hstep

/-- The loop is between two events. -/
def EventLoop.quiet : EventLoop → Bool
  | .checkRunning | .receiving | .sleeping | .returned => true
  | _ => false

theorem Tallies.settled {counter : BitVec 64} {total : ℕ} {tally : Tally}
    (h : Tallies counter (held s.crew (EventLoop.owes tally) s.loops) total)
    (hquiet : ∀ i < s.started, (s.loops i).quiet = true) : counter = BitVec.ofNat 64 total := by
  obtain ⟨m, hcounter, hm⟩ := h
  have hnone : held s.crew (EventLoop.owes tally) s.loops = 0 := by
    refine held_eq_zero fun i hi => ?_
    have hpc := hquiet i (Finset.mem_range.mp hi)
    cases hloop : s.loops i with
    | checkRunning | receiving | sleeping | returned => cases tally <;> rfl
    | _ =>
        rw [hloop] at hpc
        cases hpc
  rw [hnone, Nat.add_zero] at hm
  rw [hcounter, hm]

end

/-- **Event accounting of the loops.**  Whatever the loops, the workers of the receiver, `Start` and
`Stop` do beside one another: the events were taken in the order in which they were queued, and
what was queued and not taken is in the queue; every event taken was published once, failed once, or
is in the hands of one loop; and whenever no loop has an event in its hands, the statistics add up:
what was received was processed or failed, and what was processed was published. -/
theorem loops_accounted (platform : Platform) (config : IOCPConfig) (workerThreadsCount : ℕ)
    (q : EventLoops × List LoopNote)
    (run : RecordedRun (loopsStep platform) loopNotes (fun _ _ => True)
      (.construct config workerThreadsCount) q) :
    takenEvents q.2 ++ q.1.eventQueue.content = q.1.queued ∧
      (takenEvents q.2 : Multiset Event) = publishedEvents q.2 + failedEvents q.2 +
        held q.1.crew EventLoop.inHand q.1.loops ∧
      ((∀ i < q.1.started, (q.1.loops i).quiet = true) →
        q.1.eventsReceived = q.1.eventsProcessed + q.1.processingErrors ∧
          q.1.eventsPublished = q.1.eventsProcessed ∧
          q.1.eventsPublished = BitVec.ofNat 64 (publishedEvents q.2).length) := by
  have hbooks := loopBooks_of_run run
  refine ⟨hbooks.queue, hbooks.events, fun hquiet => ?_⟩
  have hcounter := fun tally => (hbooks.counters tally).settled hquiet
  have hnone : held q.1.crew EventLoop.inHand q.1.loops = 0 := by
    refine held_eq_zero fun i hi => ?_
    have hpc := hquiet i (Finset.mem_range.mp hi)
    cases hloop : q.1.loops i with
    | received | publishing =>
        rw [hloop] at hpc
        cases hpc
    | _ => rfl
  have hlength : (takenEvents q.2).length =
      (publishedEvents q.2).length + (failedEvents q.2).length := by
    have hevents := congrArg Multiset.card hbooks.events
    rw [hnone, add_zero, Multiset.card_add] at hevents
    simpa using hevents
  have hreceived : q.1.eventsReceived = BitVec.ofNat 64 (takenEvents q.2).length :=
    hcounter .received
  have hprocessed : q.1.eventsProcessed = BitVec.ofNat 64 (publishedEvents q.2).length :=
    hcounter .processed
  have herrors : q.1.processingErrors = BitVec.ofNat 64 (failedEvents q.2).length :=
    hcounter .errors
  have hpublished : q.1.eventsPublished = BitVec.ofNat 64 (publishedEvents q.2).length :=
    hcounter .published
  refine ⟨?_, hpublished.trans hprocessed.symm, hpublished⟩
  rw [hreceived, hprocessed, herrors, hlength, BitVec.ofNat_add]

/-- A file event without paths. -/
private def fileCompletion (timestamp : ByteMemory.Byte) : Completion where
  buffer := fun i => if i = 28 then 2 else if i = 16 then timestamp else 0
  bytesTransferred := 65
  latency := 1
  unassigned := .hostLog
  defaulted := ⟨.hostLog, .fileEvent, 0, 0, false, .file ⟨.create, 0, [], []⟩⟩

/-- Two events are queued; the one loop fails at the first and publishes the second. -/
private def oneFails : List LoopsAction :=
  [.start, .connect .success, .control, .control, .control, .complete (fileCompletion 1),
    .complete (fileCompletion 2), .loop 0, .loop 0, .loop 0, .publish 0 true, .loop 0, .loop 0,
    .loop 0, .loop 0, .publish 0 false]

theorem loops_accounted_oneFails : ∃ q : EventLoops × List LoopNote,
    (takenEvents q.2).length = 2 ∧ (publishedEvents q.2).length = 1 ∧
      takenEvents q.2 ++ q.1.eventQueue.content = q.1.queued := by
  have hfacts : (steps (recording (loopsStep asciiPlatform) loopNotes)
      (.construct ⟨1, 2, 4096, 4⟩ 1, []) oneFails).map
        (fun q => ((takenEvents q.2).length, (publishedEvents q.2).length)) = some (2, 1) := by
    decide +kernel
  obtain ⟨q, hq, hfacts⟩ := Option.map_eq_some_iff.mp hfacts
  obtain ⟨htaken, hpublished⟩ := Prod.mk.inj hfacts
  exact ⟨q, htaken, hpublished,
    (loops_accounted asciiPlatform ⟨1, 2, 4096, 4⟩ 1 q (reaches_of_steps hq)).1⟩

/-! ## One loop -/

/-- The event that a loop has in hand. -/
def EventLoop.handed : EventLoop → List Event
  | .received event | .publishing event => [event]
  | _ => []

/-- How many loops `Start` is still to start. -/
def Control.toSpawn : Control → ℕ
  | .spawning left => left
  | _ => 0

/-- There is at most one loop that is not joined; the event in its hands is the last one taken, and
those published are earlier ones. -/
structure OneLoop (s : EventLoops) (notes : List LoopNote) : Prop where
  crew : CrewOk s
  single : s.workerThreadsCount ≤ 1
  alone : s.started + s.control.toSpawn ≤ s.joined + 1
  order : ∃ earlier, takenEvents notes = earlier ++ (s.loops s.joined).handed ∧
    (publishedEvents notes).Sublist earlier

section

variable {platform : Platform} {config : IOCPConfig} {n : ℕ} {s t : EventLoops} {i : ℕ}
  {notes notes' : List LoopNote} {pc : EventLoop}

theorem construct_oneLoop (config : IOCPConfig) (hn : n ≤ 1) :
    OneLoop (.construct config n) [] where
  crew := construct_crewOk config n
  single := hn
  alone := Nat.zero_le 1
  order := ⟨[], rfl, List.Sublist.refl _⟩

/-- The loop that moves on is the one. -/
theorem OneLoop.eq_joined (h : OneLoop s notes) (hi : i < s.started)
    (hlive : s.loops i ≠ .returned) : i = s.joined := by
  have halone := h.alone
  have hge : s.joined ≤ i := by
    by_contra hlt
    exact hlive (h.crew.gone i (Nat.lt_of_not_le hlt))
  omega

/-- The loop moves on, taking, keeping or letting go of an event. -/
theorem OneLoop.move (h : OneLoop s notes) (hcrew : CrewOk t) (hi : i < s.started)
    (hlive : s.loops i ≠ .returned) (hloops : t.loops = Function.update s.loops i pc)
    (hcount : t.workerThreadsCount = s.workerThreadsCount) (hstarted : t.started = s.started)
    (hjoined : t.joined = s.joined) (hcontrol : t.control = s.control)
    (horder : ∀ earlier, takenEvents notes = earlier ++ (s.loops i).handed →
      (publishedEvents notes).Sublist earlier →
      ∃ earlier', takenEvents notes' = earlier' ++ pc.handed ∧
        (publishedEvents notes').Sublist earlier') : OneLoop t notes' where
  crew := hcrew
  single := hcount ▸ h.single
  alone := by
    rw [hstarted, hcontrol, hjoined]
    exact h.alone
  order := by
    obtain ⟨earlier, htaken, hpublished⟩ := h.order
    obtain rfl := h.eq_joined hi hlive
    rw [hjoined, hloops, Function.update_self]
    exact horder earlier htaken hpublished

theorem OneLoop.controller (h : OneLoop s notes) (hcrew : CrewOk t) (hloops : t.loops = s.loops)
    (hcount : t.workerThreadsCount = s.workerThreadsCount) (hjoined : t.joined = s.joined)
    (halone : t.started + t.control.toSpawn ≤ s.joined + 1) : OneLoop t notes where
  crew := hcrew
  single := hcount ▸ h.single
  alone := hjoined ▸ halone
  order := by
    rw [hloops, hjoined]
    exact h.order

theorem OneLoop.control (h : OneLoop s notes) (hcrew : CrewOk t) {pc : Control}
    (hpc : s.control = pc) (hmove : ControlMove s pc t) : OneLoop t notes := by
  have halone := h.alone
  have hcontrol := h.crew.control
  rw [hpc] at halone hcontrol
  cases hmove with
  | setRunning =>
      have hsingle := h.single
      have hjoined : s.joined = s.started := hcontrol.2.2
      refine h.controller hcrew rfl rfl rfl ?_
      show s.started + s.workerThreadsCount ≤ s.joined + 1
      omega
  | started | clear | joinedAll | disconnect => exact h.controller hcrew rfl rfl rfl halone
  | spawn left =>
      refine h.controller hcrew rfl rfl rfl ?_
      show s.started + 1 + left ≤ s.joined + 1
      rw [Nat.add_assoc, Nat.add_comm 1]
      exact halone
  | join hmore hreturned =>
      -- the loop is gone, and the place behind it is empty
      have hle : s.started ≤ s.joined + 1 := halone
      refine ⟨hcrew, h.single, ?_, ?_⟩
      · show s.started + s.control.toSpawn ≤ s.joined + 1 + 1
        rw [hpc]
        exact Nat.le_succ_of_le hle
      · obtain ⟨earlier, htaken, hpublished⟩ := h.order
        rw [hreturned] at htaken
        refine ⟨earlier, ?_, hpublished⟩
        show _ = earlier ++ (s.loops (s.joined + 1)).handed
        rw [h.crew.fresh _ hle]
        exact htaken

theorem OneLoop.loop (h : OneLoop s notes) (hi : i < s.started) (hcrew : CrewOk t)
    (hpc : s.loops i = pc) (hmove : LoopMove s i pc t) :
    OneLoop t (notes ++ loopNotes s (.loop i)) := by
  have hlive : s.loops i ≠ .returned := by
    rintro hreturned
    rw [hpc] at hreturned
    subst hreturned
    cases hmove
  cases hmove with
  | @take event rest hcontent =>
      rw [loopNotes_take hpc hcontent]
      refine h.move hcrew hi hlive rfl rfl rfl rfl rfl fun earlier htaken hpublished => ?_
      rw [hpc] at htaken
      refine ⟨earlier, ?_, ?_⟩
      · rw [taken_taken, htaken]
        exact congrArg (· ++ _) (List.append_nil earlier)
      · rw [published_taken]
        exact hpublished
  | timeout hcontent =>
      rw [loopNotes_timeout hpc hcontent, List.append_nil]
      exact h.move hcrew hi hlive rfl rfl rfl rfl rfl fun earlier htaken hpublished =>
        ⟨earlier, by rw [hpc] at htaken; exact htaken, hpublished⟩
  | run _ | leave _ | wake | received _ | processed | published | error =>
      rw [loopNotes_silent hpc EventLoop.noConfusion, List.append_nil]
      exact h.move hcrew hi hlive rfl rfl rfl rfl rfl fun earlier htaken hpublished =>
        ⟨earlier, by rw [hpc] at htaken; exact htaken, hpublished⟩

theorem OneLoop.publish (h : OneLoop s notes) (hi : i < s.started) {event : Event}
    (hpc : s.loops i = .publishing event) (throws : Bool)
    (hcrew : CrewOk (s.loopGoto i (if throws then .countError else .countProcessed))) :
    OneLoop (s.loopGoto i (if throws then .countError else .countProcessed))
      (notes ++ loopNotes s (.publish i throws)) := by
  have hlive : s.loops i ≠ .returned := by rw [hpc]; exact EventLoop.noConfusion
  have hnote : loopNotes s (.publish i throws) =
      [if throws then .failed event else .published event] := by
    rw [loopNotes, hpc]
    rfl
  rw [hnote]
  refine h.move hcrew hi hlive rfl rfl rfl rfl rfl fun earlier htaken hpublished => ?_
  rw [hpc] at htaken
  refine ⟨earlier ++ [event], ?_, ?_⟩
  · cases throws with
    | true => exact (taken_failed.trans htaken).trans (List.append_nil _).symm
    | false => exact (taken_published.trans htaken).trans (List.append_nil _).symm
  · cases throws with
    | true =>
        rw [if_pos rfl, published_failed]
        exact hpublished.trans (List.sublist_append_left _ _)
    | false =>
        rw [if_neg Bool.false_ne_true, published_published]
        exact hpublished.append_right _

theorem OneLoop.step (h : OneLoop s notes) {action : LoopsAction}
    (hstep : loopsStep platform s action = some t) :
    OneLoop t (notes ++ loopNotes s action) := by
  have hcrew : CrewOk t := h.crew.step hstep
  have halone := h.alone
  cases action with
  | start =>
      obtain ⟨hpc, rfl⟩ := loopsStep_start hstep
      rw [hpc] at halone
      rw [loopNotes, List.append_nil]
      refine h.controller hcrew rfl rfl rfl ?_
      show s.started + Control.toSpawn (if s.running then .idle else .connecting) ≤ _
      split <;> exact halone
  | stop =>
      obtain ⟨hpc, rfl⟩ := loopsStep_stop hstep
      rw [hpc] at halone
      rw [loopNotes, List.append_nil]
      refine h.controller hcrew rfl rfl rfl ?_
      show s.started + Control.toSpawn (if s.running then .clearRunning else .idle) ≤ _
      split <;> exact halone
  | connect outcome =>
      obtain ⟨hpc, rfl⟩ := loopsStep_connect hstep
      rw [hpc] at halone
      rw [loopNotes, List.append_nil]
      unfold connectReturns at hcrew ⊢
      split
      · next receiver hok =>
          rw [hok] at hcrew
          exact h.controller hcrew rfl rfl rfl halone
      · next message receiver herror =>
          rw [herror] at hcrew
          exact h.controller hcrew rfl rfl rfl halone
  | control =>
      rw [loopNotes, List.append_nil]
      exact h.control hcrew rfl (controlMove_of_step hstep)
  | loop i =>
      obtain ⟨hi, hmove⟩ := loopsStep_loop hstep
      exact h.loop hi hcrew rfl hmove
  | publish i throws =>
      obtain ⟨hi, ⟨event, hpc⟩, rfl⟩ := loopsStep_publish hstep
      exact h.publish hi hpc throws hcrew
  | complete c =>
      obtain ⟨-, rfl⟩ := loopsStep_complete hstep
      rw [loopNotes, List.append_nil]
      exact h.controller hcrew rfl rfl rfl halone

end

/-- **Order.**  A service with one loop publishes the events in the order in which they were
queued, each at most once, over any number of starts and stops. -/
theorem published_in_order (platform : Platform) (config : IOCPConfig) (workerThreadsCount : ℕ)
    (hone : workerThreadsCount ≤ 1) (q : EventLoops × List LoopNote)
    (run : RecordedRun (loopsStep platform) loopNotes (fun _ _ => True)
      (.construct config workerThreadsCount) q) :
    (publishedEvents q.2).Sublist q.1.queued := by
  have hloop : OneLoop q.1 q.2 :=
    run.recorded_invariant (construct_oneLoop config hone) fun _ _ _ _ h _ hstep => h.step hstep
  obtain ⟨earlier, htaken, hpublished⟩ := hloop.order
  rw [← (loopBooks_of_run run).queue, htaken, List.append_assoc]
  exact hpublished.trans (List.sublist_append_left _ _)

theorem published_in_order_oneFails : ∃ q : EventLoops × List LoopNote,
    (publishedEvents q.2).length = 1 ∧ q.1.queued.length = 2 ∧
      (publishedEvents q.2).Sublist q.1.queued := by
  have hfacts : (steps (recording (loopsStep asciiPlatform) loopNotes)
      (.construct ⟨1, 2, 4096, 4⟩ 1, []) oneFails).map
        (fun q => ((publishedEvents q.2).length, q.1.queued.length)) = some (1, 2) := by
    decide +kernel
  obtain ⟨q, hq, hfacts⟩ := Option.map_eq_some_iff.mp hfacts
  obtain ⟨hpublished, hqueued⟩ := Prod.mk.inj hfacts
  exact ⟨q, hpublished, hqueued, published_in_order asciiPlatform ⟨1, 2, 4096, 4⟩ 1 le_rfl q
    (reaches_of_steps hq)⟩

end Kawin.Kasvc
