import Kawin.Base.Crew
import Mathlib.Data.BitVec
import Mathlib.Data.Fintype.BigOperators
import Mathlib.Tactic.LinearCombination
import Kawin.Svc.ServiceMachine

/-!
# Accounting for messages

A message is on the books (`Balanced`) from the time it is counted as received until a processor
is through with it, or until a reader that has counted it finds the service stopped.  A processor
counts what it has done in a variable of its own, and `messageProcessed` is never touched, so that
the books balance in every state of a run exactly if neither happens (`accounting_iff`).

`getLogType` names the types of messages, and `processMessage` asks for their numbers: no message
is handled as a log (`handled_invalid`).
-/

namespace Kawin.Svc

open ByteMemory Transition
open Kawin.Driver (UINT64)

section

variable {R P : Type}

/-! ## The books -/

/-- A message that the reader has counted and not yet passed on. -/
def Reader.owes : Reader → ℕ
  | .counted _ | .dropping => 1
  | .polling | .receiving | .returned => 0

/-- A message that the processor has taken. -/
def Processor.owes : Processor → ℕ
  | .took _ => 1
  | .waiting | .returned => 0

/-- The messages that the workers hold. -/
def ServiceMachine.inFlight [Fintype R] [Fintype P] (s : ServiceMachine R P) : ℕ :=
  ∑ i, (s.readers i).owes + ∑ i, (s.processors i).owes

/-- What was received was processed or dropped, waits in the channel, or is held by a worker. -/
def Balanced [Fintype R] [Fintype P] (s : ServiceMachine R P) : Prop :=
  s.messageReceived =
    s.messageProcessed + s.messageDropped + BitVec.ofNat 64 (s.eventChan.length + s.inFlight)

/-- Every message of type 1 that was handled was handled as a log. -/
def LogsHandled (s : ServiceMachine R P) : Prop :=
  ∀ entry ∈ s.handled, entry.1.wireType = 1 → entry.2 = .log

/-- No processor is through with a message, and no reader that has counted one finds the service
stopped. -/
def KeepsMessages (s : ServiceMachine R P) : ServiceEvent R P → Prop
  | .reader i .stop => ∀ msg, s.readers i = .counted msg → s.stopClosed = false
  | .processor i .process => ∀ msg, s.processors i ≠ .took msg
  | _ => True

/-- No processor is through with a message of type 1. -/
def NoLogs (s : ServiceMachine R P) : ServiceEvent R P → Prop
  | .processor i .process => ∀ msg, s.processors i = .took msg → msg.wireType ≠ 1
  | _ => True

/-! ## What a step can be -/

/-- A step of a reader that stands at `pc`. -/
inductive ReaderMove [DecidableEq R] (decode : List (BitVec 16) → List Byte)
    (s : ServiceMachine R P) (i : R) : Reader → ReaderEvent → ServiceMachine R P → Prop
  /-- it goes to where it owes as much as before, and has counted nothing -/
  | quiet {pc event} (pc' : Reader) (howes : pc'.owes = pc.owes)
      (huncounted : ∀ msg, pc' ≠ .counted msg) (hevent : event ≠ .stop) :
      ReaderMove decode s i pc event (s.readerGoto i pc')
  | received (buf : List Byte) (log : Log) (hparse : parseFilterMessage decode buf = .ok log) :
      ReaderMove decode s i .receiving (.getMessage buf)
        ({ s with messageReceived := s.messageReceived + 1#64 }.readerGoto i
          (.counted ⟨wireType buf, log⟩))
  | sent (msg : WireMessage) :
      ReaderMove decode s i (.counted msg) .send
        ({ s with eventChan := s.eventChan ++ [msg] }.readerGoto i .polling)
  | stopped (msg : WireMessage) (hclosed : s.stopClosed = true) :
      ReaderMove decode s i (.counted msg) .stop (s.readerGoto i .returned)
  | dropped :
      ReaderMove decode s i .dropping .countDropped
        ({ s with messageDropped := s.messageDropped + 1#64 }.readerGoto i .polling)

/-- A step of a processor that stands at `pc`. -/
inductive ProcessorMove [DecidableEq P] (s : ServiceMachine R P) (i : P) :
    Processor → ProcessorEvent → ServiceMachine R P → Prop
  | stopped : ProcessorMove s i .waiting .stop (s.processorGoto i .returned)
  | received (msg : WireMessage) (rest : List WireMessage) (hchan : s.eventChan = msg :: rest) :
      ProcessorMove s i .waiting .receive
        ({ s with eventChan := rest }.processorGoto i (.took msg))
  | processed (msg : WireMessage) :
      ProcessorMove s i (.took msg) .process
        ({ s with
          localProcessed := Function.update s.localProcessed i (s.localProcessed i + 1#64)
          handled := (msg, processMessage msg.log) :: s.handled }.processorGoto i .waiting)

theorem readerMove_of_step [DecidableEq R] {decode : List (BitVec 16) → List Byte}
    {s t : ServiceMachine R P} {i : R} {pc : Reader} {event : ReaderEvent}
    (hstep : s.readerStep decode i pc event = some t) : ReaderMove decode s i pc event t := by
  unfold ServiceMachine.readerStep at hstep
  split at hstep
  · cases hstep
    exact .quiet _ (by split <;> rfl) (fun msg => by split <;> simp) (by simp)
  · cases hstep
    exact .quiet _ rfl (by simp) (by simp)
  · next buf =>
      split at hstep
      · cases hstep
        exact .quiet _ rfl (by simp) (by simp)
      · next log hparse =>
          cases hstep
          exact .received buf log hparse
  · next msg =>
      cases (Option.ite_none_right_eq_some.mp hstep).2
      exact .sent msg
  · next msg =>
      obtain ⟨hclosed, hstep⟩ := Option.ite_none_right_eq_some.mp hstep
      cases hstep
      exact .stopped msg hclosed
  · cases (Option.ite_none_left_eq_some.mp hstep).2
    exact .quiet _ rfl (by simp) (by simp)
  · cases hstep
    exact .dropped
  · cases hstep

theorem processorMove_of_step [DecidableEq P] {s t : ServiceMachine R P} {i : P}
    {pc : Processor} {event : ProcessorEvent} (hstep : s.processorStep i pc event = some t) :
    ProcessorMove s i pc event t := by
  unfold ServiceMachine.processorStep at hstep
  split at hstep
  · cases (Option.ite_none_right_eq_some.mp hstep).2
    exact .stopped
  · split at hstep
    · cases hstep
    · next msg rest hchan =>
        cases hstep
        exact .received msg rest hchan
  · next msg =>
      cases hstep
      exact .processed msg
  · cases hstep

end

/-! ## What a step does to the books -/

section

variable {decode : List (BitVec 16) → List Byte} {R P : Type} [Fintype R] [Fintype P]
  {s t : ServiceMachine R P}

theorem inFlight_readerGoto [DecidableEq R] (s : ServiceMachine R P) (i : R) (pc : Reader) :
    (s.readerGoto i pc).inFlight + (s.readers i).owes = s.inFlight + pc.owes := by
  have hheld := @Crew.held_update _ _ _ _ _ Finset.univ i Reader.owes s.readers pc
    (Finset.mem_univ i)
  simp only [Crew.held] at hheld
  simp only [ServiceMachine.inFlight, ServiceMachine.readerGoto]
  omega

theorem inFlight_processorGoto [DecidableEq P] (s : ServiceMachine R P) (i : P) (pc : Processor) :
    (s.processorGoto i pc).inFlight + (s.processors i).owes = s.inFlight + pc.owes := by
  have hheld := @Crew.held_update _ _ _ _ _ Finset.univ i Processor.owes s.processors pc
    (Finset.mem_univ i)
  simp only [Crew.held] at hheld
  simp only [ServiceMachine.inFlight, ServiceMachine.processorGoto]
  omega

/-- The messages on the books that no counter has. -/
def ServiceMachine.pending (s : ServiceMachine R P) : ℕ := s.eventChan.length + s.inFlight

/-- A step receives, drops and loses so many messages. -/
structure Moves (s t : ServiceMachine R P) (received dropped lost : ℕ) : Prop where
  messageReceived : t.messageReceived = s.messageReceived + BitVec.ofNat 64 received
  messageProcessed : t.messageProcessed = s.messageProcessed
  messageDropped : t.messageDropped = s.messageDropped + BitVec.ofNat 64 dropped
  pending : t.pending + dropped + lost = s.pending + received

/-- Balanced books stay balanced as long as nothing is lost. -/
theorem Moves.balanced_iff {received dropped lost : ℕ} (h : Moves s t received dropped lost)
    (hlost : lost ≤ 1) (hs : Balanced s) : Balanced t ↔ lost = 0 := by
  have hpending := congrArg (BitVec.ofNat 64) h.pending
  simp only [BitVec.ofNat_add] at hpending
  change s.messageReceived = _ + BitVec.ofNat 64 s.pending at hs
  change t.messageReceived = _ + BitVec.ofNat 64 t.pending ↔ _
  rw [h.messageReceived, h.messageProcessed, h.messageDropped, hs]
  obtain rfl | rfl : lost = 0 ∨ lost = 1 := by omega
  · rw [BitVec.add_zero] at hpending
    exact iff_of_true (by linear_combination -hpending) rfl
  · refine iff_of_false (fun hbalanced => ?_) one_ne_zero
    have hone : 1#64 = (0 : UINT64) := by linear_combination hpending + hbalanced
    exact absurd hone (by decide)

theorem moves_readerGoto [DecidableEq R] (u : ServiceMachine R P) {i : R} {pc : Reader}
    {received dropped lost : ℕ}
    (hreceived : u.messageReceived = s.messageReceived + BitVec.ofNat 64 received)
    (hprocessed : u.messageProcessed = s.messageProcessed)
    (hdropped : u.messageDropped = s.messageDropped + BitVec.ofNat 64 dropped)
    (hpending : u.pending + pc.owes + dropped + lost = s.pending + (u.readers i).owes + received) :
    Moves s (u.readerGoto i pc) received dropped lost where
  messageReceived := hreceived
  messageProcessed := hprocessed
  messageDropped := hdropped
  pending := by
    have hflight := inFlight_readerGoto u i pc
    simp only [ServiceMachine.pending] at hpending ⊢
    change u.eventChan.length + _ + _ + _ = _
    omega

theorem moves_processorGoto [DecidableEq P] (u : ServiceMachine R P) {i : P} {pc : Processor}
    {lost : ℕ} (hreceived : u.messageReceived = s.messageReceived)
    (hprocessed : u.messageProcessed = s.messageProcessed)
    (hdropped : u.messageDropped = s.messageDropped)
    (hpending : u.pending + pc.owes + lost = s.pending + (u.processors i).owes) :
    Moves s (u.processorGoto i pc) 0 0 lost where
  messageReceived := by rw [BitVec.add_zero]; exact hreceived
  messageProcessed := hprocessed
  messageDropped := by rw [BitVec.add_zero]; exact hdropped
  pending := by
    have hflight := inFlight_processorGoto u i pc
    simp only [ServiceMachine.pending] at hpending ⊢
    change u.eventChan.length + _ + _ + _ = _
    omega

/-- A step loses a message exactly if it does not keep it. -/
def Books (s t : ServiceMachine R P) (event : ServiceEvent R P) : Prop :=
  ∃ received dropped lost, Moves s t received dropped lost ∧ lost ≤ 1 ∧
    (lost = 0 ↔ KeepsMessages s event)

theorem books_of_keeps {event : ServiceEvent R P} {received dropped : ℕ}
    (hmoves : Moves s t received dropped 0) (hkeeps : KeepsMessages s event) : Books s t event :=
  ⟨received, dropped, 0, hmoves, Nat.zero_le 1, iff_of_true rfl hkeeps⟩

theorem books_of_loses {event : ServiceEvent R P} (hmoves : Moves s t 0 0 1)
    (hloses : ¬ KeepsMessages s event) : Books s t event :=
  ⟨0, 0, 1, hmoves, le_rfl, iff_of_false one_ne_zero hloses⟩

theorem books_readerStep [DecidableEq R] {i : R} {event : ReaderEvent}
    (hstep : s.readerStep decode i (s.readers i) event = some t) :
    Books s t (.reader i event) := by
  have hmove := readerMove_of_step hstep
  generalize hpc : s.readers i = pc at hmove
  cases hmove with
  | quiet pc' howes _ hevent =>
      refine books_of_keeps (moves_readerGoto s (BitVec.add_zero _).symm rfl
        (BitVec.add_zero _).symm (by rw [hpc, howes])) ?_
      cases event with
      | stop => exact absurd rfl hevent
      | poll | getMessageFails | getMessage | send | default | countDropped => trivial
  | received =>
      refine books_of_keeps (moves_readerGoto _ rfl rfl (BitVec.add_zero _).symm ?_) trivial
      change s.pending + 1 = s.pending + (s.readers i).owes + 1
      rw [hpc]
      rfl
  | sent msg =>
      refine books_of_keeps
        (moves_readerGoto _ (BitVec.add_zero _).symm rfl (BitVec.add_zero _).symm ?_) trivial
      -- the message is in the channel now
      change (s.eventChan ++ [msg]).length + s.inFlight + 0 = s.pending + (s.readers i).owes
      rw [hpc, List.length_append, List.length_singleton, ServiceMachine.pending, Reader.owes]
      omega
  | stopped msg hclosed =>
      refine books_of_loses (moves_readerGoto _ (BitVec.add_zero _).symm rfl
        (BitVec.add_zero _).symm (by rw [hpc]; rfl)) fun hkeeps => ?_
      cases hclosed.symm.trans (hkeeps msg hpc)
  | dropped =>
      refine books_of_keeps (moves_readerGoto _ (BitVec.add_zero _).symm rfl rfl ?_) trivial
      change s.pending + 0 + 1 = s.pending + (s.readers i).owes
      rw [hpc]
      rfl

theorem books_processorStep [DecidableEq P] {i : P} {event : ProcessorEvent}
    (hstep : s.processorStep i (s.processors i) event = some t) :
    Books s t (.processor i event) := by
  have hmove := processorMove_of_step hstep
  generalize hpc : s.processors i = pc at hmove
  cases hmove with
  | stopped => exact books_of_keeps (moves_processorGoto s rfl rfl rfl (by rw [hpc]; rfl)) trivial
  | received msg rest hchan =>
      refine books_of_keeps (moves_processorGoto _ rfl rfl rfl ?_) trivial
      change rest.length + s.inFlight + 1 = s.pending + (s.processors i).owes
      rw [hpc, ServiceMachine.pending, hchan, List.length_cons, Nat.add_right_comm]
      rfl
  | processed msg =>
      refine books_of_loses (moves_processorGoto _ rfl rfl rfl ?_) fun hkeeps => hkeeps msg hpc
      change s.pending + 0 + 1 = s.pending + (s.processors i).owes
      rw [hpc]
      rfl

theorem init_balanced : Balanced (ServiceMachine.init : ServiceMachine R P) := by
  have hflight : (ServiceMachine.init : ServiceMachine R P).inFlight = 0 := by
    simp [ServiceMachine.inFlight, ServiceMachine.init, Reader.owes, Processor.owes]
  rw [Balanced, hflight]
  rfl

variable [DecidableEq R] [DecidableEq P]

/-- **Step lemma.** -/
theorem books_step {event : ServiceEvent R P} (hstep : serviceMachineStep decode s event = some t) :
    Books s t event := by
  cases event with
  | reader i event => exact books_readerStep hstep
  | processor i event => exact books_processorStep hstep
  | closeStop =>
      cases hstep
      exact books_of_keeps ⟨(BitVec.add_zero _).symm, rfl, (BitVec.add_zero _).symm, rfl⟩ trivial

theorem balanced_step_iff {event : ServiceEvent R P} (hs : Balanced s)
    (hstep : serviceMachineStep decode s event = some t) :
    Balanced t ↔ KeepsMessages s event := by
  obtain ⟨received, dropped, lost, hmoves, hlost, hkeeps⟩ := books_step hstep
  exact (hmoves.balanced_iff hlost hs).trans hkeeps

end

/-! ## Logs -/

section

variable {decode : List (BitVec 16) → List Byte} {buf : List Byte} {msg : WireMessage}

/-- The type of the log is the name of the type that the message had on the wire. -/
def WireMessage.Named (msg : WireMessage) : Prop := msg.log.type = getLogType msg.wireType

theorem handleFileEvent_type (dataBuf : BytesBuffer) (log : Log) :
    (handleFileEvent decode dataBuf log).type = log.type := by
  unfold handleFileEvent
  split <;> rfl

theorem parseFilterMessage_named {log : Log} (h : parseFilterMessage decode buf = .ok log) :
    WireMessage.Named ⟨wireType buf, log⟩ := by
  unfold parseFilterMessage at h
  split at h
  · cases h
  · cases hhead : readHead.run ⟨buf, 0⟩ with
    | error err =>
        rw [hhead] at h
        cases h
    | ok result =>
        obtain ⟨⟨ts, tp, op, blocked⟩, dataBuf⟩ := result
        have htype : wireType buf = tp := by rw [wireType, hhead]
        rw [hhead] at h
        obtain rfl := Except.ok.inj h
        rw [WireMessage.Named, htype]
        by_cases hop : op = 2
        · rw [if_pos hop]
          exact handleFileEvent_type _ _
        · rw [if_neg hop]

/-- No type has a number for a name. -/
theorem processMessage_named (h : msg.Named) : processMessage msg.log = .invalidLogType := by
  have hname : getLogType msg.wireType ≠ "1" := by
    unfold getLogType
    split <;> decide
  rw [processMessage, h, if_neg hname]

end

section

variable {decode : List (BitVec 16) → List Byte} {R P : Type} {s t : ServiceMachine R P}

/-- Every message of the service has the name of its type. -/
structure NamesOk (s : ServiceMachine R P) : Prop where
  counted : ∀ i msg, s.readers i = .counted msg → msg.Named
  waiting : ∀ msg ∈ s.eventChan, msg.Named
  took : ∀ i msg, s.processors i = .took msg → msg.Named
  handled : ∀ entry ∈ s.handled, entry.2 = .invalidLogType

theorem init_namesOk : NamesOk (ServiceMachine.init : ServiceMachine R P) where
  counted _ _ hpc := by cases hpc
  waiting _ hmem := absurd hmem List.not_mem_nil
  took _ _ hpc := by cases hpc
  handled _ hmem := absurd hmem List.not_mem_nil

namespace NamesOk

theorem readerGoto [DecidableEq R] (h : NamesOk s) {i : R} {pc : Reader}
    (hpc : ∀ msg, pc = .counted msg → msg.Named) : NamesOk (s.readerGoto i pc) where
  counted := (Function.forall_update_iff s.readers fun _ pc =>
    ∀ msg, pc = .counted msg → msg.Named).mpr ⟨hpc, fun j _ => h.counted j⟩
  waiting := h.waiting
  took := h.took
  handled := h.handled

theorem processorGoto [DecidableEq P] (h : NamesOk s) {i : P} {pc : Processor}
    (hpc : ∀ msg, pc = .took msg → msg.Named) : NamesOk (s.processorGoto i pc) where
  counted := h.counted
  waiting := h.waiting
  took := (Function.forall_update_iff s.processors fun _ pc =>
    ∀ msg, pc = .took msg → msg.Named).mpr ⟨hpc, fun j _ => h.took j⟩
  handled := h.handled

theorem readerStep [DecidableEq R] (h : NamesOk s) {i : R} {event : ReaderEvent}
    (hstep : s.readerStep decode i (s.readers i) event = some t) : NamesOk t := by
  have hmove := readerMove_of_step hstep
  generalize hpc : s.readers i = pc at hmove
  cases hmove with
  | quiet pc' _ huncounted => exact h.readerGoto fun msg heq => absurd heq (huncounted msg)
  | received buf log hparse =>
      have hcount : NamesOk { s with messageReceived := s.messageReceived + 1#64 } :=
        ⟨h.counted, h.waiting, h.took, h.handled⟩
      refine hcount.readerGoto ?_
      rintro _ ⟨⟩
      exact parseFilterMessage_named hparse
  | sent msg =>
      have hsent : NamesOk { s with eventChan := s.eventChan ++ [msg] } := by
        refine ⟨h.counted, fun other hmem => ?_, h.took, h.handled⟩
        rcases List.mem_append.mp hmem with hmem | hmem
        · exact h.waiting other hmem
        · rw [List.mem_singleton.mp hmem]
          exact h.counted i msg hpc
      exact hsent.readerGoto (by simp)
  | stopped => exact h.readerGoto (by simp)
  | dropped =>
      have hcount : NamesOk { s with messageDropped := s.messageDropped + 1#64 } :=
        ⟨h.counted, h.waiting, h.took, h.handled⟩
      exact hcount.readerGoto (by simp)

theorem processorStep [DecidableEq P] (h : NamesOk s) {i : P} {event : ProcessorEvent}
    (hstep : s.processorStep i (s.processors i) event = some t) : NamesOk t := by
  have hmove := processorMove_of_step hstep
  generalize hpc : s.processors i = pc at hmove
  cases hmove with
  | stopped => exact h.processorGoto (by simp)
  | received msg rest hchan =>
      have hwaiting := h.waiting
      rw [hchan] at hwaiting
      have htaken : NamesOk { s with eventChan := rest } :=
        ⟨h.counted, fun other hmem => hwaiting other (List.mem_cons_of_mem msg hmem),
          h.took, h.handled⟩
      refine htaken.processorGoto ?_
      rintro _ ⟨⟩
      exact hwaiting msg List.mem_cons_self
  | processed msg =>
      have hprocessed : NamesOk { s with
          localProcessed := Function.update s.localProcessed i (s.localProcessed i + 1#64)
          handled := (msg, processMessage msg.log) :: s.handled } := by
        refine ⟨h.counted, h.waiting, h.took, fun entry hmem => ?_⟩
        rcases List.mem_cons.mp hmem with rfl | hmem
        · exact processMessage_named (h.took i msg hpc)
        · exact h.handled entry hmem
      exact hprocessed.processorGoto (by simp)

theorem step [DecidableEq R] [DecidableEq P] (h : NamesOk s) {event : ServiceEvent R P}
    (hstep : serviceMachineStep decode s event = some t) : NamesOk t := by
  cases event with
  | reader i event => exact h.readerStep hstep
  | processor i event => exact h.processorStep hstep
  | closeStop =>
      cases hstep
      exact ⟨h.counted, h.waiting, h.took, h.handled⟩

end NamesOk

variable [DecidableEq R] [DecidableEq P]

/-- No message is ever handled as a log. -/
theorem handled_invalid (run : Reaches (serviceMachineStep decode) .init s)
    {entry : WireMessage × Handling} (hmem : entry ∈ s.handled) : entry.2 = .invalidLogType :=
  (run.invariant init_namesOk fun _ _ _ h _ hstep => h.step hstep : NamesOk s).handled entry hmem

/-- Only `processMessage` handles messages. -/
theorem handled_step {event : ServiceEvent R P}
    (hstep : serviceMachineStep decode s event = some t) :
    (t.handled = s.handled ∧ NoLogs s event) ∨ ∃ i msg, event = .processor i .process ∧
      s.processors i = .took msg ∧ t.handled = (msg, processMessage msg.log) :: s.handled := by
  cases event with
  | reader i event =>
      have hmove := readerMove_of_step hstep
      generalize s.readers i = pc at hmove
      refine Or.inl ⟨?_, trivial⟩
      cases hmove <;> rfl
  | closeStop =>
      cases hstep
      exact Or.inl ⟨rfl, trivial⟩
  | processor i event =>
      have hmove := processorMove_of_step hstep
      generalize hpc : s.processors i = pc at hmove
      cases hmove with
      | stopped | received => exact Or.inl ⟨rfl, trivial⟩
      | processed msg => exact Or.inr ⟨i, msg, rfl, hpc, rfl⟩

/-- Logs are handled as logs exactly as long as there are none. -/
theorem logsHandled_step_iff {event : ServiceEvent R P} (hnames : NamesOk s)
    (hlogs : LogsHandled s) (hstep : serviceMachineStep decode s event = some t) :
    LogsHandled t ↔ NoLogs s event := by
  rcases handled_step hstep with ⟨hsame, hnone⟩ | ⟨i, msg, rfl, hpc, hhandled⟩
  · refine iff_of_true ?_ hnone
    rw [LogsHandled, hsame]
    exact hlogs
  · rw [LogsHandled, hhandled, processMessage_named (hnames.took i msg hpc)]
    constructor
    · intro h other hother
      obtain rfl := Processor.took.inj (hpc.symm.trans hother)
      intro hone
      cases h _ List.mem_cons_self hone
    · intro hnone entry hmem hone
      rcases List.mem_cons.mp hmem with rfl | hmem
      · exact absurd hone (hnone msg hpc)
      · exact hlogs entry hmem hone

/-- What is not enabled handles no log. -/
theorem noLogs_of_disabled {event : ServiceEvent R P}
    (hstep : serviceMachineStep decode s event = none) : NoLogs s event := by
  cases event with
  | reader i event => trivial
  | closeStop => trivial
  | processor i event =>
      cases event with
      | stop | receive => trivial
      | process =>
          intro msg hpc
          rw [serviceMachineStep, hpc] at hstep
          cases hstep

/-- A step that is not enabled loses nothing. -/
theorem keepsMessages_of_disabled {event : ServiceEvent R P}
    (hstep : serviceMachineStep decode s event = none) : KeepsMessages s event := by
  cases event with
  | reader i event =>
      cases event with
      | stop =>
          intro msg hpc
          rw [serviceMachineStep, hpc] at hstep
          by_contra hstopped
          rw [ServiceMachine.readerStep, if_pos (eq_true_of_ne_false hstopped)] at hstep
          cases hstep
      | poll | getMessageFails | getMessage | send | default | countDropped => trivial
  | processor i event =>
      cases event with
      | process =>
          intro msg hpc
          rw [serviceMachineStep, hpc] at hstep
          cases hstep
      | stop | receive => trivial
  | closeStop => trivial

omit [DecidableEq R] [DecidableEq P] in
theorem KeepsMessages.noLogs {event : ServiceEvent R P} (h : KeepsMessages s event) :
    NoLogs s event := by
  cases event with
  | reader i event => trivial
  | closeStop => trivial
  | processor i event =>
      cases event with
      | stop | receive => trivial
      | process => exact fun msg hpc => absurd hpc (h msg)

/-- What the statistics promise of a state: the books balance, and logs were handled as logs. -/
structure Accounted [Fintype R] [Fintype P] (s : ServiceMachine R P) : Prop where
  balanced : Balanced s
  logs : LogsHandled s

/-- **Accounting, exactly.**  Every state of a run is accounted for if and only if no processor is
through with a message and no reader that has counted one finds the service stopped; every log is
handled as one if and only if no processor is through with one. -/
theorem accounting_iff [Fintype R] [Fintype P] (decode : List (BitVec 16) → List Byte)
    (events : List (ServiceEvent R P)) :
    (Along (serviceMachineStep decode) (fun _ _ t => Accounted t) .init events ↔
      Allowed (serviceMachineStep decode) KeepsMessages .init events) ∧
    (Along (serviceMachineStep decode) (fun _ _ t => LogsHandled t) .init events ↔
      Allowed (serviceMachineStep decode) NoLogs .init events) := by
  constructor
  · refine along_iff_allowed_of_invariant (fun s => Accounted s ∧ NamesOk s)
      (fun _ _ => keepsMessages_of_disabled) ?_ ⟨⟨init_balanced, ?_⟩, init_namesOk⟩
    · rintro s event t ⟨hs, hnames⟩ hstep
      have hbalanced := balanced_step_iff hs.balanced hstep
      refine ⟨⟨fun ht => hbalanced.mp ht.balanced, fun hkeeps => ?_⟩, fun ht => ⟨ht, ?_⟩⟩
      · exact ⟨hbalanced.mpr hkeeps,
          (logsHandled_step_iff hnames hs.logs hstep).mpr hkeeps.noLogs⟩
      · exact hnames.step hstep
    · exact fun _ hmem => absurd hmem List.not_mem_nil
  · refine along_iff_allowed_of_invariant (fun s => LogsHandled s ∧ NamesOk s)
      (fun _ _ => noLogs_of_disabled) ?_ ⟨?_, init_namesOk⟩
    · rintro s event t ⟨hlogs, hnames⟩ hstep
      exact ⟨logsHandled_step_iff hnames hlogs hstep, fun ht => ⟨ht, hnames.step hstep⟩⟩
    · exact fun _ hmem => absurd hmem List.not_mem_nil

end

/-- A network event of type 1. -/
def networkLog : List Byte :=
  List.replicate 24 0#8 ++ [1#8, 0#8, 0#8, 0#8, 3#8, 0#8, 0#8, 0#8] ++ List.replicate 64 0#8

/-- One log is received and processed: it is on no account, and was handled as something else. -/
theorem log_unaccounted : ∃ t : ServiceMachine (Fin 2) (Fin 4),
    Reaches (serviceMachineStep fun _ => []) .init t ∧ t.messageReceived = 1#64 ∧
      t.messageProcessed = 0#64 ∧ t.messageDropped = 0#64 ∧ t.pending = 0 ∧
      ¬ Balanced t ∧ ¬ LogsHandled t := by
  have hrun : (steps (serviceMachineStep fun _ => [])
      (ServiceMachine.init : ServiceMachine (Fin 2) (Fin 4))
      [.reader 0 .poll, .reader 0 (.getMessage networkLog), .reader 0 .send,
        .processor 0 .receive, .processor 0 .process]).map (fun t =>
          ((t.messageReceived, t.messageProcessed), (t.messageDropped, t.pending),
            t.handled.map fun entry => (entry.1.wireType, entry.2))) =
      some ((1#64, 0#64), (0#64, 0), [(1, .invalidLogType)]) := by decide +kernel
  obtain ⟨t, hsteps, ht⟩ := Option.map_eq_some_iff.mp hrun
  simp only [Prod.mk.injEq] at ht
  obtain ⟨⟨hreceived, hprocessed⟩, ⟨hdropped, hpending⟩, hhandled⟩ := ht
  refine ⟨t, reaches_of_steps hsteps, hreceived, hprocessed, hdropped, hpending, ?_, ?_⟩
  · intro hbalanced
    change t.messageReceived = _ + _ + BitVec.ofNat 64 t.pending at hbalanced
    rw [hreceived, hprocessed, hdropped, hpending] at hbalanced
    exact absurd hbalanced (by decide)
  · obtain ⟨entry, rest, heq, hentry, _⟩ := List.map_eq_cons_iff.mp hhandled
    obtain ⟨htype, hinvalid⟩ := Prod.mk.inj hentry
    intro hlogs
    have hlog := hlogs entry (by rw [heq]; exact List.mem_cons_self) htype
    cases hlog.symm.trans hinvalid

end Kawin.Svc
