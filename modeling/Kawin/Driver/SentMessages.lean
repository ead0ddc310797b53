import Kawin.Driver.RingContents

/-!
# The messages to the client

`SendOne` passes the send buffer to `FltSendMessage`.  Between the return of `ConsumeOne` and that
call the worker looks at the port, and any number of `Enqueue` calls may run; but only the worker
writes the send buffer, and it writes it only inside `ConsumeOne`.  So each message is the event
that was consumed last, and no event is sent twice (`messagesInOrder`).

`SentInOrder` says more precisely what the worker has in hand: after a `ConsumeOne` that returned an
event, and until the worker lets go of it, the last event consumed is in the send buffer, and
all messages so far are of earlier events.
-/

namespace Kawin.Driver

open ByteMemory LossyQueue Transition

/-- What a step of the dispatcher does. -/
inductive DispatcherNote
  | ring (note : Note (List Byte))
  /-- `FltSendMessage` is called with this message -/
  | sent (port : Port) (message : List Byte)

def DispatcherNote.ring? : DispatcherNote → Option (Note (List Byte))
  | .ring note => some note
  | .sent _ _ => none

def DispatcherNote.message? : DispatcherNote → Option (List Byte)
  | .ring _ => none
  | .sent _ message => some message

/-- What the notes say of the ring. -/
def ringPart (notes : List DispatcherNote) : List (Note (List Byte)) :=
  notes.filterMap DispatcherNote.ring?

/-- The messages that `FltSendMessage` was called with. -/
def messages (notes : List DispatcherNote) : List (List Byte) :=
  notes.filterMap DispatcherNote.message?

def dispatcherNotes (s : DispatcherMachine) : DispatcherAction → List DispatcherNote
  | .producer i => (ringNotes s.ring (.producer i)).map .ring
  | .worker =>
      match s.worker with
      | .consuming => (ringNotes s.ring .consumer).map .ring
      | .send port bytes => [.sent port (firstBytes s.ring.disp.sendBuf bytes.toNat)]
      | _ => []
  | _ => []

/-- The size of the event that the worker has in the send buffer and has not sent. -/
def Worker.inHand (consumer : Consumer) : Worker → Option UINT32
  | .consuming =>
      match consumer with
      | .returned bytes => if bytes = 0 then none else some bytes
      | _ => none
  | .checkPort bytes | .snapshot bytes | .send _ bytes => some bytes
  | _ => none

/-- The event in hand is the last one consumed; the messages so far are of events before it. -/
def HandOk (s : DispatcherMachine) (notes : List DispatcherNote) : Option UINT32 → Prop
  | none => (messages notes).Sublist (gots (ringPart notes))
  | some bytes => ∃ earlier, gots (ringPart notes) =
      earlier ++ [firstBytes s.ring.disp.sendBuf bytes.toNat] ∧ (messages notes).Sublist earlier

structure SentInOrder (s : DispatcherMachine) (notes : List DispatcherNote) : Prop where
  books : Books s
  recorded : Recorded s.ring (ringPart notes)
  hand : HandOk s notes (s.worker.inHand s.ring.consumer)

/-! ## Notes -/

section

variable {notes : List DispatcherNote} {items : List (Note (List Byte))}

@[simp] theorem ringPart_append_ring :
    ringPart (notes ++ items.map .ring) = ringPart notes ++ items := by
  rw [ringPart, List.filterMap_append, List.filterMap_map]
  exact congrArg (ringPart notes ++ ·) List.filterMap_some

@[simp] theorem messages_append_ring : messages (notes ++ items.map .ring) = messages notes := by
  rw [messages, List.filterMap_append, List.filterMap_map]
  have hnone : items.filterMap (DispatcherNote.message? ∘ .ring) = [] :=
    List.filterMap_eq_nil_iff.mpr fun _ _ => rfl
  rw [hnone, List.append_nil]
  rfl

@[simp] theorem ringPart_append_sent {port : Port} {message : List Byte} :
    ringPart (notes ++ [.sent port message]) = ringPart notes := by
  simp [ringPart, DispatcherNote.ring?]

@[simp] theorem messages_append_sent {port : Port} {message : List Byte} :
    messages (notes ++ [.sent port message]) = messages notes ++ [message] := by
  simp [messages, DispatcherNote.message?]

end

/-! ## Steps -/

section

variable {s : RingMachine} {notes : List (Note (List Byte))}

/-- The counters of the dispatcher say nothing of the events. -/
theorem Recorded.withDropped (h : Recorded s notes) (n : ℕ) :
    Recorded { s with disp := { s.disp with dropped := n } } notes where
  interleaved := h.interleaved.withCounters _ _ _ _ _
  queue := by
    obtain ⟨events, hcontents, hnotes⟩ := h.queue
    exact ⟨events, ⟨hcontents.filled, hcontents.sized, hcontents.stored, hcontents.sent⟩, hnotes⟩
  losses := h.losses

/-- A `ConsumeOne` call begins. -/
theorem Recorded.consume (h : Recorded s notes) {payload : UINT32}
    (hreturned : s.consumer = .returned payload) :
    Recorded (s.consumerGoto .readPending) notes := by
  have hstep : ringStep s .consume = some (s.consumerGoto .readPending) := by
    rw [ringStep, hreturned]
  have horderly : Orderly s .consume := trivial
  have hnext := h.step horderly hstep
  rwa [ringNotes, List.append_nil] at hnext

theorem Recorded.tick (h : Recorded s notes) : Recorded { s with clock := s.clock + 1 } notes := by
  have horderly : Orderly s .tick := trivial
  have hnext := h.step horderly rfl
  rwa [ringNotes, List.append_nil] at hnext

/-- A `ProduceSlot` call begins. -/
theorem Recorded.produce (h : Recorded s notes) {i : ℕ} {event : Payload}
    (hidle : s.producers i = .idle) : Recorded (s.goto i (.checkSize event)) notes := by
  have hstep : ringStep s (.produce i event) = some (s.goto i (.checkSize event)) := by
    rw [ringStep, hidle]
  have horderly : Orderly s (.produce i event) := trivial
  have hnext := h.step horderly hstep
  rwa [ringNotes, List.append_nil] at hnext

end

section

variable {s s' : DispatcherMachine} {notes : List DispatcherNote}

theorem init_sentInOrder (outside : Memory) (freq : UINT64) :
    SentInOrder (DispatcherMachine.init outside freq) [] where
  books := init_books outside freq
  recorded := init_recorded outside freq
  hand := List.Sublist.refl _

/-- Letting go of the event in hand. -/
theorem HandOk.release {inHand : Option UINT32} (h : HandOk s notes inHand) :
    HandOk s notes none := by
  cases inHand with
  | none => exact h
  | some bytes =>
      obtain ⟨earlier, hgots, hsent⟩ := h
      rw [HandOk, hgots]
      exact hsent.trans (List.sublist_append_left _ _)

theorem HandOk.congr {inHand : Option UINT32} (h : HandOk s notes inHand)
    (hsend : s'.ring.disp.sendBuf = s.ring.disp.sendBuf) : HandOk s' notes inHand := by
  cases inHand with
  | none => exact h
  | some bytes =>
      rw [HandOk, hsend]
      exact h

/-- The ring is not touched, and the worker keeps or lets go of what it has in hand. -/
theorem SentInOrder.congr (h : SentInOrder s notes) (hbooks : Books s')
    (hring : s'.ring = s.ring) (hhand : s'.worker.inHand s.ring.consumer = none ∨
      s'.worker.inHand s.ring.consumer = s.worker.inHand s.ring.consumer) :
    SentInOrder s' notes where
  books := hbooks
  recorded := hring ▸ h.recorded
  hand := by
    have hsend : s'.ring.disp.sendBuf = s.ring.disp.sendBuf := by rw [hring]
    rw [hring]
    rcases hhand with hnone | hsame
    · rw [hnone]
      exact h.hand.release.congr hsend
    · rw [hsame]
      exact h.hand.congr hsend

/-- The worker, outside `ConsumeOne`, counts its event as dropped. -/
theorem SentInOrder.drop (h : SentInOrder s notes) (hbooks : Books s.drop) :
    SentInOrder s.drop notes where
  books := hbooks
  recorded := h.recorded.withDropped _
  hand := h.hand.congr rfl

/-- Beside the worker a `ProduceSlot` call takes a step: the send buffer is not touched, and nothing
is consumed. -/
theorem HandOk.producer {inHand : Option UINT32} (h : HandOk s notes inHand) {ring : RingMachine}
    {i : ℕ} (hstep : ringStep s.ring (.producer i) = some ring) :
    HandOk { s with ring := ring } (notes ++ (ringNotes s.ring (.producer i)).map .ring)
      inHand := by
  obtain ⟨-, hsend, -⟩ := producerStep_frame hstep
  have hgots : gots (ringPart notes ++ ringNotes s.ring (.producer i)) = gots (ringPart notes) := by
    rcases ringNotes_producer s.ring i with hnone | ⟨item, hput⟩
    · rw [hnone, List.append_nil]
    · rw [hput, gots_put]
  cases inHand with
  | none =>
      rw [HandOk, messages_append_ring, ringPart_append_ring, hgots]
      exact h
  | some bytes =>
      rw [HandOk, messages_append_ring, ringPart_append_ring, hgots, hsend]
      exact h

/-- Only where `ConsumeOne` moves the read head over an event does the worker come to have one. -/
theorem consumerStep_inHand {r r' : RingMachine} {pc : Consumer}
    (hpc : ∀ payload, pc ≠ .advanceSlot payload) (hstep : consumerStep r pc = some r') :
    Worker.inHand r'.consumer .consuming = none := by
  cases pc with
  | returned bytes => cases hstep
  | advanceSlot payload => exact absurd rfl (hpc payload)
  | readState =>
      cases hstep
      dsimp only [RingMachine.consumerGoto]
      split
      · rfl
      · split <;> rfl
  | readPending | readFlags | readTick | queryCounter =>
      cases hstep
      dsimp only [RingMachine.consumerGoto]
      split <;> rfl
  | _ => cases hstep; rfl

/-- Nor is an event consumed elsewhere. -/
theorem gots_consumerStep {r : RingMachine} {items : List (Note (List Byte))}
    (hpc : ∀ payload, r.consumer ≠ .advanceSlot payload) :
    gots (items ++ ringNotes r .consumer) = gots items := by
  cases hconsumer : r.consumer with
  | advanceSlot payload => exact absurd hconsumer (hpc payload)
  | advancePoisoned n =>
      rw [ringNotes, hconsumer]
      exact gots_lost
  | _ =>
      rw [ringNotes, hconsumer]
      exact congrArg gots (List.append_nil items)

/-- `ConsumeOne` takes a step.  When it moves the read head over an event, it is about to return
that event, and has just put it into the send buffer. -/
theorem HandOk.consumer {ring : RingMachine} (h : HandOk s notes none)
    (hstep : ringStep s.ring .consumer = some ring) :
    HandOk { s with ring := ring } (notes ++ (ringNotes s.ring .consumer).map .ring)
      (Worker.inHand ring.consumer .consuming) := by
  have hsent : (messages notes).Sublist (gots (ringPart notes)) := h
  by_cases hslot : ∃ payload, s.ring.consumer = .advanceSlot payload
  · obtain ⟨payload, hpc⟩ := hslot
    have hnotes : ringNotes s.ring .consumer =
        [.got (firstBytes s.ring.disp.sendBuf payload.toNat)] := by rw [ringNotes, hpc]
    rw [ringStep, hpc] at hstep
    cases hstep
    have hhand : Worker.inHand (.returned payload) .consuming =
        if payload = 0 then none else some payload := rfl
    show HandOk _ _ (Worker.inHand (.returned payload) .consuming)
    rw [hnotes, hhand]
    split
    · rw [HandOk, messages_append_ring, ringPart_append_ring, gots_got]
      exact hsent.trans (List.sublist_append_left _ _)
    · refine ⟨gots (ringPart notes), ?_, ?_⟩
      · rw [ringPart_append_ring, gots_got]
        rfl
      · rw [messages_append_ring]
        exact hsent
  · have hne : ∀ payload, s.ring.consumer ≠ .advanceSlot payload :=
      fun payload hpc => hslot ⟨payload, hpc⟩
    rw [consumerStep_inHand hne hstep, HandOk, messages_append_ring, ringPart_append_ring,
      gots_consumerStep hne]
    exact hsent

theorem afterSend_inHand (status : NTSTATUS) {consumer : Consumer} :
    Worker.inHand consumer (afterSend status) = none := by
  unfold afterSend
  split
  · rfl
  · split <;> rfl

/-- Only `ConsumeOne` and `FltSendMessage` leave a note. -/
theorem dispatcherNotes_worker (hsend : ∀ port bytes, s.worker ≠ .send port bytes)
    (hconsuming : s.worker ≠ .consuming) : dispatcherNotes s .worker = [] := by
  cases hpc : s.worker with
  | consuming => exact absurd hpc hconsuming
  | send port bytes => exact absurd hpc (hsend port bytes)
  | _ => rw [dispatcherNotes, hpc]

/-- The worker is in `ConsumeOne`. -/
theorem SentInOrder.consuming (h : SentInOrder s notes) (hpc : s.worker = .consuming)
    (hbooks : Books s') (horderly : RingOrderly s .worker)
    (hstep : workerStep s .consuming = some s') :
    SentInOrder s' (notes ++ dispatcherNotes s .worker) := by
  have hnotes : dispatcherNotes s .worker = (ringNotes s.ring .consumer).map .ring := by
    rw [dispatcherNotes, hpc]
  rcases workerStep_consuming hstep with ⟨bytes, hreturned, rfl⟩ | ⟨ring, hring, rfl⟩
  · -- `ConsumeOne` is over; what it returned stays in hand
    have hnone : dispatcherNotes s .worker = [] := by
      rw [hnotes, ringNotes, hreturned]
      rfl
    rw [hnone, List.append_nil]
    refine h.congr hbooks rfl (Or.inr ?_)
    rw [hpc, hreturned]
    show Worker.inHand _ (if bytes = 0 then Worker.cycleEnd else .checkPort bytes) =
      if bytes = 0 then none else some bytes
    split <;> rfl
  · have hinHand : Worker.inHand s.ring.consumer .consuming = none := by
      cases hconsumer : s.ring.consumer with
      | returned bytes =>
          rw [ringStep, hconsumer] at hring
          cases hring
      | _ => rfl
    have hhand := h.hand
    rw [hpc, hinHand] at hhand
    rw [hnotes]
    refine ⟨hbooks, ?_, ?_⟩
    · rw [ringPart_append_ring]
      exact h.recorded.step (horderly hpc) hring
    · show HandOk _ _ (Worker.inHand ring.consumer s.worker)
      rw [hpc]
      exact hhand.consumer hring

/-- The worker calls `FltSendMessage`: the event in hand is now the last message. -/
theorem SentInOrder.send (h : SentInOrder s notes) {port : Port} {bytes : UINT32}
    (hpc : s.worker = .send port bytes) (hbooks : Books (s.workerGoto (.sending port))) :
    SentInOrder (s.workerGoto (.sending port)) (notes ++ dispatcherNotes s .worker) := by
  have hnotes : dispatcherNotes s .worker =
      [.sent port (firstBytes s.ring.disp.sendBuf bytes.toNat)] := by
    rw [dispatcherNotes, hpc]
  have hhand := h.hand
  rw [hpc] at hhand
  obtain ⟨earlier, hgots, hsent⟩ := hhand
  rw [hnotes]
  refine ⟨hbooks, ?_, ?_⟩
  · rw [ringPart_append_sent]
    exact h.recorded
  · show (messages _).Sublist (gots (ringPart _))
    rw [messages_append_sent, ringPart_append_sent, hgots]
    exact hsent.append_right _

/-- The worker takes a step. -/
theorem SentInOrder.worker (h : SentInOrder s notes) {pc : Worker} (hpc : s.worker = pc)
    (horderly : RingOrderly s .worker) (hstep : workerStep s pc = some s') :
    SentInOrder s' (notes ++ dispatcherNotes s .worker) := by
  have hbooks : Books s' := h.books.worker hpc horderly hstep
  by_cases hconsuming : pc = .consuming
  · subst hconsuming
    exact h.consuming hpc hbooks horderly hstep
  by_cases hsend : ∃ port bytes, pc = .send port bytes
  · obtain ⟨port, bytes, rfl⟩ := hsend
    cases hstep
    exact h.send hpc hbooks
  rw [dispatcherNotes_worker (fun port bytes hat => hsend ⟨port, bytes, hpc.symm.trans hat⟩)
    (hpc ▸ hconsuming), List.append_nil]
  have hhand := h.hand
  rw [hpc] at hhand
  cases pc with
  | waiting | sending | exited => cases hstep
  | consuming => exact absurd rfl hconsuming
  | send port bytes => exact absurd ⟨port, bytes, rfl⟩ hsend
  | countDropped =>
      cases hstep
      obtain ⟨bytes, hreturned⟩ := h.books.between (by rw [hpc]; exact Worker.noConfusion)
      exact ⟨hbooks, (h.recorded.withDropped _).consume hreturned, hhand.release.congr rfl⟩
  | checkPort bytes =>
      cases hstep
      refine h.congr hbooks rfl ?_
      show Worker.inHand _ (if s.clientPort.isSome then Worker.snapshot bytes else .countDropped) =
          none ∨ Worker.inHand _ (if s.clientPort.isSome then Worker.snapshot bytes else
            .countDropped) = _
      rw [hpc]
      split
      · exact Or.inr rfl
      · exact Or.inl rfl
  | snapshot bytes =>
      rcases workerStep_snapshot hstep with ⟨-, rfl⟩ | ⟨port, -, rfl⟩
      · exact h.congr hbooks rfl (Or.inl rfl)
      · refine h.congr hbooks rfl (Or.inr ?_)
        rw [hpc]
        rfl
  | resetTimeouts status =>
      cases hstep
      exact h.congr hbooks rfl (Or.inl rfl)
  | countTimeout => exact absurd hpc h.books.noTimeout
  | sendReturned status =>
      rcases workerStep_sendReturned hstep with rfl | rfl
      · obtain ⟨bytes, hreturned⟩ := h.books.between (by rw [hpc]; exact Worker.noConfusion)
        exact ⟨hbooks, h.recorded.consume hreturned, hhand.release.congr rfl⟩
      · exact h.congr hbooks rfl (Or.inl rfl)
  | cycleEnd =>
      cases hstep
      refine h.congr hbooks rfl (Or.inl ?_)
      show Worker.inHand _ (if s.stopping then Worker.exited else .waiting) = none
      split <;> rfl

/-- A step that neither moves an event nor sends a message. -/
theorem SentInOrder.silent {t : DispatcherMachine} {action : DispatcherAction}
    (h : SentInOrder s' notes) (hnone : dispatcherNotes t action = []) :
    SentInOrder s' (notes ++ dispatcherNotes t action) := by
  rw [hnone, List.append_nil]
  exact h

/-- **Step lemma for the messages.** -/
theorem SentInOrder.step (h : SentInOrder s notes) {action : DispatcherAction}
    (horderly : RingOrderly s action) (hstep : dispatcherStep s action = some s') :
    SentInOrder s' (notes ++ dispatcherNotes s action) := by
  have hbooks : Books s' := h.books.step horderly hstep
  cases action with
  | worker => exact h.worker rfl horderly hstep
  | producer i =>
      obtain ⟨ring, hring, rfl⟩ := Option.map_eq_some_iff.mp hstep
      obtain ⟨-, -, hconsumer⟩ := producerStep_frame hring
      refine ⟨hbooks, ?_, ?_⟩
      · rw [dispatcherNotes, ringPart_append_ring]
        exact h.recorded.step horderly hring
      · show HandOk _ _ (Worker.inHand ring.consumer s.worker)
        rw [hconsumer]
        exact h.hand.producer hring
  | tick =>
      cases hstep
      exact SentInOrder.silent ⟨hbooks, h.recorded.tick, h.hand.congr rfl⟩ rfl
  | enqueue request =>
      cases hstep
      refine SentInOrder.silent ?_ rfl
      unfold enqueueStep at hbooks ⊢
      split
      · next hactive =>
          rw [if_pos hactive] at hbooks
          exact h.congr hbooks rfl (Or.inr rfl)
      · next hinactive =>
          rw [if_neg hinactive] at hbooks
          exact h.congr hbooks rfl (Or.inr rfl)
  | enqueuer i =>
      refine SentInOrder.silent ?_ rfl
      rcases enqueuerStep_cases hstep with ⟨request, -, rfl⟩ | ⟨event, -, hidle, rfl⟩
      · exact ⟨hbooks, h.recorded.withDropped _, h.hand.congr rfl⟩
      · exact ⟨hbooks, h.recorded.produce hidle, h.hand.congr rfl⟩
  | wake =>
      obtain ⟨hpc, rfl⟩ := dispatcherStep_wake hstep
      obtain ⟨bytes, hreturned⟩ := h.books.between (by rw [hpc]; exact Worker.noConfusion)
      refine SentInOrder.silent ?_ rfl
      exact ⟨hbooks, h.recorded.consume hreturned, h.hand.release.congr rfl⟩
  | sendReturns status =>
      obtain ⟨-, rfl⟩ := dispatcherStep_sendReturns hstep
      refine SentInOrder.silent ?_ rfl
      exact h.congr hbooks rfl (Or.inl (afterSend_inHand status))
  | connect port =>
      obtain ⟨-, -, rfl⟩ := dispatcherStep_connect hstep
      refine SentInOrder.silent ?_ rfl
      exact h.congr hbooks rfl (Or.inr rfl)
  | disconnect =>
      obtain ⟨-, rfl⟩ := dispatcherStep_disconnect hstep
      refine SentInOrder.silent ?_ rfl
      exact h.congr hbooks rfl (Or.inr rfl)
  | link =>
      refine SentInOrder.silent ?_ rfl
      cases hpc : s.link with
      | disconnected | connected =>
          simp only [dispatcherStep, linkStep, hpc] at hstep
          cases hstep
      | connecting | disconnecting | closing =>
          simp only [dispatcherStep, linkStep, hpc] at hstep
          cases hstep
          exact h.congr hbooks rfl (Or.inr rfl)
  | deactivate | stop =>
      cases hstep
      refine SentInOrder.silent ?_ rfl
      exact h.congr hbooks rfl (Or.inr rfl)

/-- **Run lemma for the messages.** -/
theorem sentInOrder_of_run {outside : Memory} {freq : UINT64}
    {q : DispatcherMachine × List DispatcherNote}
    (run : RecordedRun dispatcherStep dispatcherNotes RingOrderly
      (DispatcherMachine.init outside freq) q) : SentInOrder q.1 q.2 :=
  run.recorded_invariant (init_sentInOrder outside freq) fun _ _ _ _ h horderly hstep =>
    h.step horderly hstep

end

/-- **The client gets the events in order.**  Whatever `Enqueue` calls, the worker and the client do
beside one another, as long as the steps in the ring are orderly: every message is an event that
`ConsumeOne` returned, byte for byte, no event is sent twice and none before an older one, and the
events themselves come in the order in which their slots were claimed. -/
theorem messagesInOrder (outside : Memory) (freq : UINT64)
    (q : DispatcherMachine × List DispatcherNote)
    (run : RecordedRun dispatcherStep dispatcherNotes RingOrderly
      (DispatcherMachine.init outside freq) q) :
    (messages q.2).Sublist (gots (ringPart q.2)) ∧
      (gots (ringPart q.2)).Sublist (puts (ringPart q.2)) := by
  have hinv := sentInOrder_of_run run
  obtain ⟨events, -, hexplains⟩ := hinv.recorded.queue
  exact ⟨hinv.hand.release, hexplains.gots_sublist⟩

/-- The first event finds no client; the second is sent. -/
private def lateClient : List DispatcherAction :=
  [DispatcherAction.enqueue (.serialized (hundredBytes 7)), .enqueuer 0] ++
    List.replicate 17 (.producer 0) ++
    [DispatcherAction.enqueue (.serialized (hundredBytes 8)), .enqueuer 1] ++
    List.replicate 17 (.producer 1) ++ [DispatcherAction.wake] ++
    List.replicate 10 DispatcherAction.worker ++ [DispatcherAction.connect 1, .link] ++
    List.replicate 11 DispatcherAction.worker

theorem messagesInOrder_lateClient : ∃ q : DispatcherMachine × List DispatcherNote,
    messages q.2 = [List.replicate 100 8] ∧ (puts (ringPart q.2)).length = 2 ∧
      (messages q.2).Sublist (gots (ringPart q.2)) := by
  have hfacts : (steps (recording dispatcherStep dispatcherNotes)
      (DispatcherMachine.init (fun _ => 0) 10000000, []) lateClient).map
        (fun q => (messages q.2, (puts (ringPart q.2)).length)) =
      some ([List.replicate 100 8], 2) := by decide +kernel
  obtain ⟨q, hq, hfacts⟩ := Option.map_eq_some_iff.mp hfacts
  obtain ⟨hmessages, hputs⟩ := Prod.mk.inj hfacts
  have run : RecordedRun dispatcherStep dispatcherNotes RingOrderly
      (DispatcherMachine.init (fun _ => 0) 10000000) q := run_of_steps (by decide +kernel) hq
  exact ⟨q, hmessages, hputs, (messagesInOrder (fun _ => 0) 10000000 q run).1⟩

end Kawin.Driver
