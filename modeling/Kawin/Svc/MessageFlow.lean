import Kawin.Base.Crew
import Kawin.Base.Recording
import Kawin.Svc.ServiceShutdown

/-!
# What becomes of the messages

A reader that has counted a message sends it into the channel, drops it if the channel is full, or
leaves it when it finds the service stopped; a processor takes messages from the channel and handles
them.  `FlowBooks` keeps the books of a run, message by message: the readers' share is what they
read and have not passed on (`reading`), the channel gives out what was sent into it, in that order
(`channel`), and the processors' share is what they took and have not handled (`processing`).
Together no message is lost without a note and none is handled twice (`messages_conserved`).
-/

namespace Kawin.Svc

open ByteMemory Crew Transition

/-- What can happen to a message. -/
inductive Fate
  /-- parsed and counted as received -/
  | read
  | sent
  | dropped
  /-- left by a reader that found the service stopped -/
  | abandoned
  | taken
  | handled
  deriving DecidableEq

abbrev FlowNote := Fate × WireMessage

/-- The messages that this happened to, in order. -/
def messagesOf (fate : Fate) (notes : List FlowNote) : List WireMessage :=
  (notes.filter fun note => note.1 = fate).map Prod.snd

section

variable (decode : List (BitVec 16) → List Byte) {R P : Type}

/-- What a step of the workers does to a message. -/
def flowNotes (s : ServiceMachine R P) : ServiceEvent R P → List FlowNote
  | .reader i event =>
      match s.readers i, event with
      | .receiving, .getMessage buf =>
          match parseFilterMessage decode buf with
          | .ok log => [(.read, ⟨wireType buf, log⟩)]
          | .error _ => []
      | .counted msg, .send => [(.sent, msg)]
      | .counted msg, .stop => [(.abandoned, msg)]
      | .counted msg, .default => [(.dropped, msg)]
      | _, _ => []
  | .processor i event =>
      match s.processors i, event with
      | .waiting, .receive => (s.eventChan.head?.map fun msg => (Fate.taken, msg)).toList
      | .took msg, .process => [(.handled, msg)]
      | _, _ => []
  | .closeStop => []

end

/-- The message that a reader has in hand. -/
def Reader.inHand : Reader → Multiset WireMessage
  | .counted msg => {msg}
  | .polling | .receiving | .dropping | .returned => 0

/-- The message that a processor has in hand. -/
def Processor.inHand : Processor → Multiset WireMessage
  | .took msg => {msg}
  | .waiting | .returned => 0

/-- The reader is about to count a message as dropped. -/
def Reader.uncounted : Reader → ℕ
  | .dropping => 1
  | .polling | .receiving | .counted _ | .returned => 0

structure FlowBooks {R P : Type} [Fintype R] [Fintype P] (s : ServiceMachine R P)
    (notes : List FlowNote) : Prop where
  reading : (messagesOf .read notes : Multiset WireMessage) =
    messagesOf .sent notes + messagesOf .dropped notes + messagesOf .abandoned notes +
      held Finset.univ Reader.inHand s.readers
  channel : messagesOf .taken notes ++ s.eventChan = messagesOf .sent notes
  processing : (messagesOf .taken notes : Multiset WireMessage) =
    messagesOf .handled notes + held Finset.univ Processor.inHand s.processors
  received : s.messageReceived = BitVec.ofNat 64 (messagesOf .read notes).length
  dropped : ∃ n, s.messageDropped = BitVec.ofNat 64 n ∧
    n + held Finset.univ Reader.uncounted s.readers = (messagesOf .dropped notes).length
  handled : (s.handled.map Prod.fst).reverse = messagesOf .handled notes

/-! ## Steps -/

section

variable {decode : List (BitVec 16) → List Byte} {R P : Type} [DecidableEq R] [DecidableEq P]
  [Fintype R] [Fintype P] {s t : ServiceMachine R P} {notes : List FlowNote} {msg : WireMessage}

theorem messagesOf_append {fate fate' : Fate} :
    messagesOf fate (notes ++ [(fate', msg)]) =
      messagesOf fate notes ++ if fate' = fate then [msg] else [] := by
  by_cases heq : fate' = fate
  · simp [messagesOf, heq]
  · simp [messagesOf, heq]

theorem coe_messagesOf_append {fate fate' : Fate} :
    (messagesOf fate (notes ++ [(fate', msg)]) : Multiset WireMessage) =
      messagesOf fate notes + if fate' = fate then {msg} else 0 := by
  rw [messagesOf_append, ← Multiset.coe_add]
  split
  · rfl
  · rfl

omit [DecidableEq R] [DecidableEq P] in
theorem init_flowBooks : FlowBooks (.init : ServiceMachine R P) [] where
  reading := by simp [messagesOf, held, ServiceMachine.init, Reader.inHand]
  channel := rfl
  processing := by simp [messagesOf, held, ServiceMachine.init, Processor.inHand]
  received := rfl
  dropped := ⟨0, rfl, by simp [messagesOf, held, ServiceMachine.init, Reader.uncounted]⟩
  handled := rfl

/-- Messages that were sent, dropped or abandoned. -/
def passedOn (notes : List FlowNote) : Multiset WireMessage :=
  messagesOf .sent notes + messagesOf .dropped notes + messagesOf .abandoned notes

variable {notes' : List FlowNote}

omit [DecidableEq P] in
/-- A reader moves on. -/
theorem FlowBooks.readerMove (h : FlowBooks s notes) {i : R} {pc pc' : Reader}
    (hpc : s.readers i = pc) (hreaders : t.readers = Function.update s.readers i pc')
    (hprocessors : t.processors = s.processors) (hlog : t.handled = s.handled)
    (hreading : (messagesOf .read notes' : Multiset WireMessage) + pc.inHand + passedOn notes =
      messagesOf .read notes + pc'.inHand + passedOn notes')
    (hchannel : messagesOf .taken notes' ++ t.eventChan = messagesOf .sent notes')
    (htaken : messagesOf .taken notes' = messagesOf .taken notes)
    (hhandled : messagesOf .handled notes' = messagesOf .handled notes)
    (hreceived : t.messageReceived = BitVec.ofNat 64 (messagesOf .read notes').length)
    (hdropped : ∃ k, t.messageDropped = s.messageDropped + BitVec.ofNat 64 k ∧
      k + pc'.uncounted + (messagesOf .dropped notes).length =
        pc.uncounted + (messagesOf .dropped notes').length) : FlowBooks t notes' where
  reading := by
    rw [hreaders]
    rw [← hpc] at hreading
    exact balance_update (Finset.mem_univ i) h.reading hreading
  channel := hchannel
  processing := by
    rw [hprocessors, htaken, hhandled]
    exact h.processing
  received := hreceived
  dropped := by
    obtain ⟨k, hcounter, htotal⟩ := hdropped
    obtain ⟨n, hn, hrest⟩ := h.dropped
    have hheld := @held_update _ _ _ _ _ Finset.univ i Reader.uncounted s.readers pc'
      (Finset.mem_univ i)
    rw [hpc] at hheld
    refine ⟨n + k, ?_, ?_⟩
    · rw [hcounter, hn, BitVec.ofNat_add]
    · rw [hreaders]
      omega
  handled := by
    rw [hlog, hhandled]
    exact h.handled

omit [DecidableEq P] in
/-- A reader moves on with nothing in its hands before or after. -/
theorem FlowBooks.readerSilent (h : FlowBooks s notes) {i : R} {pc pc' : Reader}
    (hpc : s.readers i = pc) (hhand : pc.inHand = pc'.inHand)
    (howes : pc.uncounted = pc'.uncounted) :
    FlowBooks (s.readerGoto i pc') notes :=
  h.readerMove hpc rfl rfl rfl (by rw [hhand]) h.channel rfl rfl h.received
    ⟨0, (BitVec.add_zero _).symm, by rw [howes, Nat.zero_add]⟩

omit [DecidableEq P] in
/-- A reader moves on, and something happens to a message. -/
theorem FlowBooks.readerNote (h : FlowBooks s notes) {i : R} {pc pc' : Reader} {fate : Fate}
    (hpc : s.readers i = pc) (hreaders : t.readers = Function.update s.readers i pc')
    (hprocessors : t.processors = s.processors) (hlog : t.handled = s.handled)
    (htaken : fate ≠ .taken) (hhandled : fate ≠ .handled)
    (hreading : (if fate = .read then {msg} else 0) + pc.inHand = pc'.inHand +
      ((if fate = .sent then {msg} else 0) + (if fate = .dropped then {msg} else 0) +
        if fate = .abandoned then {msg} else 0))
    (hchannel : t.eventChan = s.eventChan ++ if fate = .sent then [msg] else [])
    (hreceived : t.messageReceived = s.messageReceived + if fate = .read then 1#64 else 0#64)
    (hdropped : t.messageDropped = s.messageDropped)
    (howes : pc'.uncounted = pc.uncounted + if fate = .dropped then 1 else 0) :
    FlowBooks t (notes ++ [(fate, msg)]) := by
  have hsame : messagesOf .taken (notes ++ [(fate, msg)]) = messagesOf .taken notes := by
    rw [messagesOf_append, if_neg htaken, List.append_nil]
  refine h.readerMove hpc hreaders hprocessors hlog ?_ ?_ hsame ?_ ?_ ⟨0, ?_, ?_⟩
  · simp only [coe_messagesOf_append, passedOn]
    calc _ = (messagesOf .read notes : Multiset WireMessage) + passedOn notes +
          ((if fate = .read then {msg} else 0) + pc.inHand) := by
          rw [passedOn]
          abel
      _ = _ := by
          rw [hreading, passedOn]
          abel
  · rw [hsame, messagesOf_append, hchannel, ← List.append_assoc, h.channel]
  · rw [messagesOf_append, if_neg hhandled, List.append_nil]
  · rw [hreceived, h.received, messagesOf_append, List.length_append, BitVec.ofNat_add]
    split <;> rfl
  · rw [hdropped]
    exact (BitVec.add_zero _).symm
  · rw [howes, messagesOf_append, List.length_append, Nat.zero_add, Nat.add_right_comm,
      Nat.add_assoc]
    split <;> rfl

omit [DecidableEq P] in
theorem FlowBooks.reader (h : FlowBooks s notes) {i : R} {event : ReaderEvent}
    (hturn : ReaderTurn decode s i (s.readers i) event t) :
    FlowBooks t (notes ++ flowNotes decode s (.reader i event : ServiceEvent R P)) := by
  generalize hpc : s.readers i = pc at hturn
  cases hturn with
  | leave _ | poll _ | fails =>
      simp only [flowNotes, hpc, List.append_nil]
      exact h.readerSilent hpc rfl rfl
  | unparsed buf hparse =>
      simp only [flowNotes, hpc, hparse, List.append_nil]
      exact h.readerSilent hpc rfl rfl
  | received buf log hparse =>
      simp only [flowNotes, hpc, hparse]
      exact h.readerNote hpc rfl rfl rfl (by decide) (by decide) rfl (List.append_nil _).symm rfl
        rfl rfl
  | sent msg hroom =>
      simp only [flowNotes, hpc]
      exact h.readerNote hpc rfl rfl rfl (by decide) (by decide) (by simp [Reader.inHand]) rfl
        (BitVec.add_zero _).symm rfl rfl
  | stopped msg hclosed =>
      simp only [flowNotes, hpc]
      exact h.readerNote hpc rfl rfl rfl (by decide) (by decide) (by simp [Reader.inHand])
        (List.append_nil _).symm (BitVec.add_zero _).symm rfl rfl
  | full msg hopen =>
      simp only [flowNotes, hpc]
      exact h.readerNote hpc rfl rfl rfl (by decide) (by decide) (by simp [Reader.inHand])
        (List.append_nil _).symm (BitVec.add_zero _).symm rfl rfl
  | dropped =>
      simp only [flowNotes, hpc, List.append_nil]
      exact h.readerMove hpc rfl rfl rfl rfl h.channel rfl rfl h.received ⟨1, rfl, rfl⟩

omit [DecidableEq R] in
/-- A processor moves on, and the readers' books stay as they are. -/
theorem FlowBooks.processorMove (h : FlowBooks s notes) {i : P} {pc pc' : Processor}
    {fate : Fate} (hpc : s.processors i = pc)
    (hprocessors : t.processors = Function.update s.processors i pc')
    (hreaders : t.readers = s.readers) (hreceived : t.messageReceived = s.messageReceived)
    (hdropped : t.messageDropped = s.messageDropped)
    (hfate : fate = .taken ∨ fate = .handled)
    (hprocessing : (if fate = .taken then {msg} else 0) + pc.inHand =
      pc'.inHand + if fate = .handled then {msg} else 0)
    (hchannel : (if fate = .taken then [msg] else []) ++ t.eventChan = s.eventChan)
    (hlog : t.handled.map Prod.fst =
      (if fate = .handled then [msg] else []) ++ s.handled.map Prod.fst) :
    FlowBooks t (notes ++ [(fate, msg)]) := by
  have hsame (other : Fate) (hone : other ≠ .taken) (htwo : other ≠ .handled) :
      messagesOf other (notes ++ [(fate, msg)]) = messagesOf other notes := by
    have hne : fate ≠ other := by
      rcases hfate with rfl | rfl
      · exact hone.symm
      · exact htwo.symm
    rw [messagesOf_append, if_neg hne, List.append_nil]
  have hread := hsame .read (by decide) (by decide)
  have hsent := hsame .sent (by decide) (by decide)
  have hdrop := hsame .dropped (by decide) (by decide)
  have habandon := hsame .abandoned (by decide) (by decide)
  refine ⟨?_, ?_, ?_, ?_, ?_, ?_⟩
  · rw [hread, hsent, hdrop, habandon, hreaders]
    exact h.reading
  · rw [hsent, messagesOf_append, List.append_assoc, hchannel]
    exact h.channel
  · rw [hprocessors]
    refine balance_update (Finset.mem_univ i) h.processing ?_
    rw [hpc, coe_messagesOf_append, coe_messagesOf_append]
    calc _ = (messagesOf .taken notes : Multiset WireMessage) + messagesOf .handled notes +
          ((if fate = .taken then {msg} else 0) + pc.inHand) := by abel
      _ = _ := by
          rw [hprocessing]
          abel
  · rw [hread, hreceived]
    exact h.received
  · rw [hdrop, hdropped, hreaders]
    exact h.dropped
  · rw [hlog, List.reverse_append, h.handled, messagesOf_append]
    split <;> rfl

omit [DecidableEq R] in
theorem FlowBooks.processor (h : FlowBooks s notes) {i : P} {event : ProcessorEvent}
    (hmove : ProcessorMove s i (s.processors i) event t) :
    FlowBooks t (notes ++ flowNotes decode s (.processor i event : ServiceEvent R P)) := by
  generalize hpc : s.processors i = pc at hmove
  cases hmove with
  | stopped =>
      simp only [flowNotes, hpc, List.append_nil]
      refine ⟨h.reading, h.channel, ?_, h.received, h.dropped, h.handled⟩
      show _ = _ + held Finset.univ Processor.inHand (Function.update s.processors i .returned)
      rw [held_update_of_eq (by rw [hpc]; rfl)]
      exact h.processing
  | received msg rest hchan =>
      simp only [flowNotes, hpc, hchan]
      exact h.processorMove hpc rfl rfl rfl rfl (Or.inl rfl) rfl hchan.symm rfl
  | processed msg =>
      simp only [flowNotes, hpc]
      exact h.processorMove hpc rfl rfl rfl rfl (Or.inr rfl) (by simp [Processor.inHand]) rfl rfl

/-- **Step lemma for the messages.** -/
theorem FlowBooks.step (h : FlowBooks s notes) {event : ServiceEvent R P}
    (hstep : serviceMachineStep decode s event = some t) :
    FlowBooks t (notes ++ flowNotes decode s event) := by
  cases event with
  | reader i event => exact h.reader (readerTurn_of_step hstep)
  | processor i event => exact h.processor (processorMove_of_step hstep)
  | closeStop =>
      cases hstep
      rw [flowNotes, List.append_nil]
      exact ⟨h.reading, h.channel, h.processing, h.received, h.dropped, h.handled⟩

/-- **Run lemma for the messages.** -/
theorem flowBooks_of_run {q : ServiceMachine R P × List FlowNote}
    (run : RecordedRun (serviceMachineStep decode) (flowNotes decode) (fun _ _ => True) .init q) :
    FlowBooks q.1 q.2 :=
  run.recorded_invariant init_flowBooks fun _ _ _ _ h _ hstep => h.step hstep

end

/-- **No message is lost without a note, and none handled twice.**  Over any number of readers and
processors, in any order of steps: every message read was handled once, or was dropped or abandoned
once, or waits in the channel, or is in the hands of one worker; the channel gives the messages out
in the order in which they were sent; the log of `processMessage` has the handled ones; and the
counters count the messages read and, when no reader is about to count one, the dropped ones. -/
theorem messages_conserved {R P : Type} [DecidableEq R] [DecidableEq P] [Fintype R] [Fintype P]
    (decode : List (BitVec 16) → List Byte) (q : ServiceMachine R P × List FlowNote)
    (run : RecordedRun (serviceMachineStep decode) (flowNotes decode) (fun _ _ => True) .init q) :
    (messagesOf .read q.2 : Multiset WireMessage) =
        messagesOf .handled q.2 + messagesOf .dropped q.2 + messagesOf .abandoned q.2 +
          q.1.eventChan + held Finset.univ Reader.inHand q.1.readers +
          held Finset.univ Processor.inHand q.1.processors ∧
      messagesOf .taken q.2 ++ q.1.eventChan = messagesOf .sent q.2 ∧
      (q.1.handled.map Prod.fst).reverse = messagesOf .handled q.2 ∧
      q.1.messageReceived = BitVec.ofNat 64 (messagesOf .read q.2).length ∧
      ((∀ i, q.1.readers i ≠ .dropping) →
        q.1.messageDropped = BitVec.ofNat 64 (messagesOf .dropped q.2).length) := by
  have hbooks := flowBooks_of_run run
  refine ⟨?_, hbooks.channel, hbooks.handled, hbooks.received, fun hcounted => ?_⟩
  · have hchannel : (messagesOf .sent q.2 : Multiset WireMessage) =
        messagesOf .taken q.2 + q.1.eventChan := by
      rw [← hbooks.channel, Multiset.coe_add]
    rw [hbooks.reading, hchannel, hbooks.processing]
    abel
  · obtain ⟨n, hdropped, hn⟩ := hbooks.dropped
    have hnone : held Finset.univ Reader.uncounted q.1.readers = 0 := by
      apply held_eq_zero
      intro i _
      cases hreader : q.1.readers i with
      | dropping => exact absurd hreader (hcounted i)
      | polling | receiving | counted | returned => rfl
    rw [hnone, Nat.add_zero] at hn
    rw [hdropped, hn]

/-- Two readers read a log each; one of the two is handled. -/
private def oneHandled : List (ServiceEvent Bool Unit) :=
  [.reader false .poll, .reader true .poll, .reader false (.getMessage networkLog),
    .reader true (.getMessage networkLog), .reader true .send, .reader false .send,
    .processor () .receive, .processor () .process]

theorem messages_conserved_oneHandled :
    ∃ q : ServiceMachine Bool Unit × List FlowNote,
      (messagesOf .read q.2).length = 2 ∧ q.1.eventChan.length = 1 ∧
        messagesOf .taken q.2 ++ q.1.eventChan = messagesOf .sent q.2 := by
  have hfacts : (steps (recording (serviceMachineStep fun _ => []) (flowNotes fun _ => []))
      (.init, []) oneHandled).map
        (fun q => ((messagesOf .read q.2).length, q.1.eventChan.length)) = some (2, 1) := by
    decide +kernel
  obtain ⟨q, hq, hfacts⟩ := Option.map_eq_some_iff.mp hfacts
  obtain ⟨hread, hwaiting⟩ := Prod.mk.inj hfacts
  exact ⟨q, hread, hwaiting, (messages_conserved (fun _ => []) q (reaches_of_steps hq)).2.1⟩

end Kawin.Svc
