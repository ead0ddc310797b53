import Kawin.Base.Crew
import Kawin.Driver.SentMessages
import Kawin.Driver.Unload

/-!
# The events of the `Enqueue` calls

`SentMessages` follows an event from the slot that is claimed for it to the client.  This is the way
to the slot: an `Enqueue` call that has passed the `m_active` check holds its event until
`ProduceSlot` has a slot for it or gives it up, because it is too large or the ring has no room.  A
call that fills a pad still holds its event, and goes round the loop with it.

So the events that were accepted are those that were given up, those that have claimed a slot and
those in the hands of the calls (`events_conserved`), whatever the calls do beside one another.
Since no slot is claimed twice for an event, no event is sent twice either.
-/

namespace Kawin.Driver

open ByteMemory Crew LossyQueue Transition

/-- What becomes of an event, from the `m_active` check on. -/
inductive EnqueueNote
  /-- an `Enqueue` call passed the `m_active` check, and the event was serialized -/
  | accepted (event : List Byte)
  /-- `ProduceSlot` gave the event up -/
  | refused (event : List Byte)
  | dispatcher (note : DispatcherNote)

def EnqueueNote.accepted? : EnqueueNote → Option (List Byte)
  | .accepted event => some event
  | .refused _ | .dispatcher _ => none

def EnqueueNote.refused? : EnqueueNote → Option (List Byte)
  | .refused event => some event
  | .accepted _ | .dispatcher _ => none

def EnqueueNote.dispatcher? : EnqueueNote → Option DispatcherNote
  | .dispatcher note => some note
  | .accepted _ | .refused _ => none

def acceptedEvents (notes : List EnqueueNote) : List (List Byte) :=
  notes.filterMap EnqueueNote.accepted?

def refusedEvents (notes : List EnqueueNote) : List (List Byte) :=
  notes.filterMap EnqueueNote.refused?

/-- What the notes say of the ring and the messages. -/
def dispatcherPart (notes : List EnqueueNote) : List DispatcherNote :=
  notes.filterMap EnqueueNote.dispatcher?

/-- The events whose slots were claimed. -/
def claimedEvents (notes : List EnqueueNote) : List (List Byte) :=
  puts (ringPart (dispatcherPart notes))

/-- What a step of a `ProduceSlot` call gives up. -/
def Producer.refuses (readHead : LONG) : Producer → List (List Byte)
  | .checkSize event => if event.size ≤ maxPayload then [] else [event.toList]
  | .readReadHead event cur =>
      if lacksRoom cur readHead (stride event.size) then [event.toPayload.toList] else []
  | _ => []

/-- What an `Enqueue` call that passed the `m_active` check is to put into the ring. -/
def Request.events : Request → List (List Byte)
  | .noBuffer | .notSerialized => []
  | .serialized event => [event.toList]

/-- The events that a step of an `Enqueue` call accepts. -/
def acceptedBy (s : DispatcherMachine) : DispatcherAction → List (List Byte)
  | .enqueue request => if s.active then request.events else []
  | _ => []

/-- The events that a step of a `ProduceSlot` call gives up. -/
def refusedBy (s : DispatcherMachine) : DispatcherAction → List (List Byte)
  | .producer i => (s.ring.producers i).refuses s.ring.disp.readHead
  | _ => []

def enqueueNotes (s : DispatcherMachine) (action : DispatcherAction) : List EnqueueNote :=
  (acceptedBy s action).map .accepted ++ (refusedBy s action).map .refused ++
    (dispatcherNotes s action).map .dispatcher

/-! ## Who holds an event -/

/-- A call that fills a pad holds its event; the event of a slot is in the ring. -/
def Fill.events (f : Fill) : Multiset (List Byte) :=
  if f.kind = .pad then {f.event.toPayload.toList} else 0

def Producer.events : Producer → Multiset (List Byte)
  | .idle | .countDropped | .countEnqueued | .returned => 0
  | .checkSize event => {event.toList}
  | .readWriteHead event | .readReadHead event _ | .exchange event _ => {event.toPayload.toList}
  | .mark f | .queryCounter f | .store f _ | .nextSeq f | .storeSeq f _ | .copyPayload f
  | .commit f => f.events

/-- An `Enqueue` call before `ProduceSlot`, and the `ProduceSlot` call that it makes. -/
abbrev CallPlaces := Enqueuer × Producer

def DispatcherMachine.call (s : DispatcherMachine) (i : ℕ) : CallPlaces :=
  (s.enqueuers i, s.ring.producers i)

def Enqueuer.events : Enqueuer → Multiset (List Byte)
  | .outside => 0
  | .prepare request => (request.events : Multiset (List Byte))

/-- The event in the hands of a call. -/
def callEvents (call : CallPlaces) : Multiset (List Byte) := call.1.events + call.2.events

/-- The events in the hands of the calls. -/
def DispatcherMachine.callsHold (s : DispatcherMachine) : Multiset (List Byte) :=
  held (Finset.range s.calls) callEvents s.call

structure CallBooks (s : DispatcherMachine) (notes : List EnqueueNote) : Prop where
  balance : (acceptedEvents notes : Multiset (List Byte)) =
    refusedEvents notes + claimedEvents notes + s.callsHold
  fresh : ∀ i, s.calls ≤ i → s.call i = (.outside, .idle)

theorem init_callBooks (outside : Memory) (freq : UINT64) :
    CallBooks (DispatcherMachine.init outside freq) [] where
  balance := rfl
  fresh := fun _ _ => rfl

/-! ## Notes -/

section

variable {s : DispatcherMachine} {notes : List EnqueueNote} {action : DispatcherAction}

theorem acceptedEvents_append :
    acceptedEvents (notes ++ enqueueNotes s action) =
      acceptedEvents notes ++ acceptedBy s action := by
  simp [acceptedEvents, enqueueNotes, List.filterMap_map, Function.comp_def,
    EnqueueNote.accepted?]

theorem refusedEvents_append :
    refusedEvents (notes ++ enqueueNotes s action) =
      refusedEvents notes ++ refusedBy s action := by
  simp [refusedEvents, enqueueNotes, List.filterMap_map, Function.comp_def, EnqueueNote.refused?]

theorem dispatcherPart_append :
    dispatcherPart (notes ++ enqueueNotes s action) =
      dispatcherPart notes ++ dispatcherNotes s action := by
  simp [dispatcherPart, enqueueNotes, List.filterMap_map, Function.comp_def,
    EnqueueNote.dispatcher?]

/-- The events whose slots a step claims. -/
def claimedBy (s : DispatcherMachine) (action : DispatcherAction) : List (List Byte) :=
  puts (ringPart (dispatcherNotes s action))

theorem claimedEvents_append :
    claimedEvents (notes ++ enqueueNotes s action) =
      claimedEvents notes ++ claimedBy s action := by
  rw [claimedEvents, dispatcherPart_append, ringPart, List.filterMap_append, puts,
    List.filterMap_append]
  rfl

/-- What `ConsumeOne` does puts nothing into the ring. -/
theorem puts_consumer (r : RingMachine) : puts (ringNotes r .consumer) = [] := by
  cases hpc : r.consumer with
  | _ =>
      rw [ringNotes, hpc]
      rfl

theorem claimedBy_worker : claimedBy s .worker = [] := by
  have hring : ∀ items : List (Note (List Byte)),
      ringPart (items.map .ring) = items := fun items => by
    rw [ringPart, List.filterMap_map]
    exact List.filterMap_some
  cases hpc : s.worker with
  | consuming =>
      rw [claimedBy, dispatcherNotes, hpc]
      dsimp only
      rw [hring, puts_consumer]
  | _ =>
      rw [claimedBy, dispatcherNotes, hpc]
      rfl

theorem claimedBy_producer {i : ℕ} :
    claimedBy s (.producer i) = puts (ringNotes s.ring (.producer i)) := by
  rw [claimedBy, dispatcherNotes, ringPart, List.filterMap_map]
  exact congrArg puts List.filterMap_some

end

/-! ## Steps -/

section

variable {r r' : RingMachine} {i : ℕ}

/-- Only a compare-exchange puts an event into the ring. -/
theorem puts_producer {pc : Producer} (hpc : r.producers i = pc)
    (hne : ∀ event cur, pc ≠ .exchange event cur) : puts (ringNotes r (.producer i)) = [] := by
  rw [ringNotes, hpc]
  cases pc with
  | exchange event cur => exact absurd rfl (hne event cur)
  | _ => rfl

/-- A step that is no compare-exchange keeps the event in hand or gives it up. -/
theorem producerStep_keeps {pc : Producer} (hpc : r.producers i = pc)
    (hne : ∀ event cur, pc ≠ .exchange event cur) (hstep : producerStep r i pc = some r') :
    pc.events = (r'.producers i).events +
      (pc.refuses r.disp.readHead : Multiset (List Byte)) := by
  cases pc with
  | idle | returned => cases hstep
  | exchange event cur => exact absurd rfl (hne event cur)
  | checkSize event =>
      cases hstep
      rw [RingMachine.goto_self, Producer.refuses]
      by_cases hfits : event.size ≤ maxPayload
      · rw [dif_pos hfits, if_pos hfits]
        rfl
      · rw [dif_neg hfits, if_neg hfits]
        rfl
  | readReadHead event cur =>
      cases hstep
      rw [RingMachine.goto_self, Producer.refuses]
      split
      · rfl
      · rfl
  | countDropped | countEnqueued =>
      cases hstep
      show (0 : Multiset (List Byte)) = ((r.goto i .returned).producers i).events + 0
      rw [RingMachine.goto_self]
      rfl
  | readWriteHead event =>
      cases hstep
      rw [RingMachine.goto_self]
      rfl
  | queryCounter f =>
      cases hstep
      rw [RingMachine.goto_self]
      exact (add_zero f.events).symm
  | nextSeq f =>
      cases hstep
      show f.events = ((r.goto i (.storeSeq f _)).producers i).events + 0
      rw [RingMachine.goto_self]
      exact (add_zero f.events).symm
  | mark f =>
      cases hstep
      rw [RingMachine.write_self]
      split
      · exact (add_zero f.events).symm
      · exact (add_zero f.events).symm
  | store f rest =>
      cases rest with
      | nil =>
          cases hstep
          rw [RingMachine.goto_self]
          split
          · exact (add_zero f.events).symm
          · exact (add_zero f.events).symm
      | cons st rest =>
          cases hstep
          rw [RingMachine.write_self]
          exact (add_zero f.events).symm
  | storeSeq f seq | copyPayload f =>
      cases hstep
      rw [RingMachine.write_self]
      exact (add_zero f.events).symm
  | commit f =>
      -- behind a pad the call goes round the loop with its event
      cases hstep
      rw [RingMachine.write_self]
      show f.events = _ + 0
      rw [add_zero, Fill.events]
      split
      · rfl
      · rfl

/-- A compare-exchange keeps the event in hand, or claims the slot for it. -/
theorem exchange_events {event : Accepted} {cur : LONG}
    (hpc : r.producers i = .exchange event cur) :
    {event.toPayload.toList} = ((exchangeStep r i event cur).producers i).events +
      (puts (ringNotes r (.producer i)) : Multiset (List Byte)) := by
  rw [ringNotes, hpc]
  dsimp only
  unfold exchangeStep
  dsimp only
  by_cases hmoved : r.disp.writeHead = cur
  · rw [if_neg (not_not_intro hmoved)]
    by_cases hwraps : wraps cur (stride event.size) = true
    · have hnot : ¬(r.disp.writeHead = cur ∧ wraps cur (stride event.size) = false) := by
        rw [hwraps]
        exact fun h => Bool.noConfusion h.2
      rw [if_pos hwraps, if_neg hnot, RingMachine.claim_self]
      split
      · rfl
      · rfl
    · rw [if_neg hwraps, if_pos ⟨hmoved, Bool.not_eq_true _ ▸ hwraps⟩, RingMachine.claim_self]
      rfl
  · rw [if_pos hmoved, if_neg fun h => hmoved h.1, RingMachine.goto_self]
    rfl

/-- A step of a `ProduceSlot` call keeps its event in hand, gives it up or claims a slot for it. -/
theorem producerStep_events (hstep : producerStep r i (r.producers i) = some r') :
    (r.producers i).events = (r'.producers i).events +
      ((r.producers i).refuses r.disp.readHead : Multiset (List Byte)) +
      (puts (ringNotes r (.producer i)) : Multiset (List Byte)) := by
  by_cases hexchange : ∃ event cur, r.producers i = .exchange event cur
  · obtain ⟨event, cur, hpc⟩ := hexchange
    rw [hpc] at hstep ⊢
    cases hstep
    show ({event.toPayload.toList} : Multiset (List Byte)) = _ + 0 + _
    rw [add_zero]
    exact exchange_events hpc
  · have hne : ∀ event cur, r.producers i ≠ .exchange event cur :=
      fun event cur hpc => hexchange ⟨event, cur, hpc⟩
    rw [puts_producer rfl hne, Multiset.coe_nil, add_zero]
    exact producerStep_keeps rfl hne hstep

end

section

variable {s s' : DispatcherMachine} {notes : List EnqueueNote} {action : DispatcherAction} {i : ℕ}

theorem CallBooks.lt_calls (h : CallBooks s notes) (hi : s.call i ≠ (.outside, .idle)) :
    i < s.calls := by
  by_contra hnot
  exact hi (h.fresh i (Nat.le_of_not_lt hnot))

/-- One call takes a step, and accounts for its event. -/
theorem CallBooks.move (h : CallBooks s notes) (hcalls : s'.calls = s.calls) (hi : i < s.calls)
    (hne : ∀ j, j ≠ i → s'.call j = s.call j) (haccepted : acceptedBy s action = [])
    (hevents : callEvents (s.call i) = callEvents (s'.call i) +
      (refusedBy s action : Multiset (List Byte)) + (claimedBy s action : Multiset (List Byte))) :
    CallBooks s' (notes ++ enqueueNotes s action) where
  balance := by
    rw [acceptedEvents_append, refusedEvents_append, claimedEvents_append, haccepted,
      List.append_nil, ← Multiset.coe_add, ← Multiset.coe_add, DispatcherMachine.callsHold, hcalls]
    refine balance_of_ne (Finset.mem_range.mpr hi) hne h.balance ?_
    rw [hevents]
    abel
  fresh := by
    intro j hj
    rw [hcalls] at hj
    rw [hne j (by omega)]
    exact h.fresh j hj

theorem call_of_sameCalls (hsame : SameCalls s s') : s'.call = s.call := by
  funext j
  rw [DispatcherMachine.call, hsame.enqueuers, hsame.producers]
  rfl

/-- No call takes a step. -/
theorem CallBooks.same (h : CallBooks s notes) (hcalls : s'.calls = s.calls)
    (hcall : s'.call = s.call) (haccepted : acceptedBy s action = [])
    (hrefused : refusedBy s action = []) (hclaimed : claimedBy s action = []) :
    CallBooks s' (notes ++ enqueueNotes s action) where
  balance := by
    rw [acceptedEvents_append, refusedEvents_append, claimedEvents_append, haccepted, hrefused,
      hclaimed, List.append_nil, List.append_nil, List.append_nil, DispatcherMachine.callsHold,
      hcall, hcalls]
    exact h.balance
  fresh := by
    rw [hcall, hcalls]
    exact h.fresh

/-- An `Enqueue` call begins. -/
theorem CallBooks.enqueue (h : CallBooks s notes) (request : Request) :
    CallBooks (enqueueStep s request) (notes ++ enqueueNotes s (.enqueue request)) := by
  have hfirst := h.fresh s.calls le_rfl
  have hjoined : held (Finset.range (s.calls + 1)) callEvents s.call = s.callsHold :=
    held_range_succ (by rw [hfirst]; rfl)
  have hbalance := h.balance
  rw [← hjoined] at hbalance
  unfold enqueueStep
  split
  · next hactive =>
      have hself : (s.accept request).call s.calls = (.prepare request, .idle) := by
        have hidle : s.ring.producers s.calls = .idle := (Prod.mk.inj hfirst).2
        exact Prod.ext (Function.update_self ..) hidle
      have hne : ∀ j, j ≠ s.calls → (s.accept request).call j = s.call j := fun j hj =>
        Prod.ext (Function.update_of_ne hj ..) rfl
      constructor
      · rw [acceptedEvents_append, refusedEvents_append, claimedEvents_append]
        refine balance_of_ne (Finset.mem_range.mpr (Nat.lt_succ_self _)) hne hbalance ?_
        have haccepted : acceptedBy s (.enqueue request) = request.events := if_pos hactive
        have hrefused : refusedBy s (.enqueue request) = [] := rfl
        have hclaimed : claimedBy s (.enqueue request) = [] := rfl
        rw [haccepted, hrefused, hclaimed, hself, hfirst, List.append_nil, List.append_nil,
          ← Multiset.coe_add]
        show _ + (request.events : Multiset (List Byte)) + (0 + 0) + _ =
          _ + ((request.events : Multiset (List Byte)) + 0) + _
        abel
      · intro j hj
        have hlt : s.calls + 1 ≤ j := hj
        rw [hne j (by omega)]
        exact h.fresh j (by omega)
  · next hinactive =>
      have haccepted : acceptedBy s (.enqueue request) = [] := if_neg hinactive
      have hrefused : refusedBy s (.enqueue request) = [] := rfl
      have hclaimed : claimedBy s (.enqueue request) = [] := rfl
      constructor
      · rw [acceptedEvents_append, refusedEvents_append, claimedEvents_append, haccepted, hrefused,
          hclaimed, List.append_nil, List.append_nil, List.append_nil]
        exact hbalance
      · intro j hj
        have hlt : s.calls + 1 ≤ j := hj
        exact h.fresh j (by omega)

/-- An `Enqueue` call drops its request, which holds no event, or enters `ProduceSlot`. -/
theorem CallBooks.enqueuer (h : CallBooks s notes) {pc : Enqueuer} (hpc : s.enqueuers i = pc)
    (hstep : enqueuerStep s i pc = some s') :
    CallBooks s' (notes ++ enqueueNotes s (.enqueuer i)) := by
  have hrefused : refusedBy s (.enqueuer i) = [] := rfl
  have hclaimed : claimedBy s (.enqueuer i) = [] := rfl
  have hi : pc ≠ .outside → i < s.calls := fun hne =>
    h.lt_calls fun hcall => hne (hpc.symm.trans (Prod.mk.inj hcall).1)
  have hcall : s.call i = (pc, s.ring.producers i) := Prod.ext hpc rfl
  cases pc with
  | outside => cases hstep
  | prepare request =>
      have hlt := hi Enqueuer.noConfusion
      cases request with
      | noBuffer | notSerialized =>
          cases hstep
          refine h.move rfl hlt (fun j hj => Prod.ext (Function.update_of_ne hj ..) rfl) rfl ?_
          have hself : ((s.enqueuerGoto i .outside).drop).call i =
              (.outside, s.ring.producers i) := Prod.ext (Function.update_self ..) rfl
          rw [hcall, hself, hrefused, hclaimed, Multiset.coe_nil, add_zero, add_zero]
          rfl
      | serialized event =>
          obtain ⟨ring, hring, rfl⟩ := Option.map_eq_some_iff.mp hstep
          obtain ⟨hidle, rfl⟩ := ringStep_produce hring
          refine h.move rfl hlt (fun j hj =>
            Prod.ext (Function.update_of_ne hj ..) (RingMachine.goto_of_ne hj)) rfl ?_
          have hself : ({ s.enqueuerGoto i .outside with
              ring := s.ring.goto i (.checkSize event) } : DispatcherMachine).call i =
              (.outside, .checkSize event) :=
            Prod.ext (Function.update_self ..) RingMachine.goto_self
          rw [hcall, hself, hidle, hrefused, hclaimed, Multiset.coe_nil, add_zero, add_zero]
          exact add_comm ({event.toList} : Multiset (List Byte)) 0

/-- **Step lemma for the calls.** -/
theorem CallBooks.step (h : CallBooks s notes) (hstep : dispatcherStep s action = some s') :
    CallBooks s' (notes ++ enqueueNotes s action) := by
  cases action with
  | enqueue request =>
      cases hstep
      exact h.enqueue request
  | enqueuer i => exact h.enqueuer rfl hstep
  | producer i =>
      obtain ⟨ring, hring, rfl⟩ := Option.map_eq_some_iff.mp hstep
      have hlive : s.ring.producers i ≠ .idle := by
        intro hidle
        rw [ringStep, hidle] at hring
        cases hring
      refine h.move rfl (h.lt_calls fun hcall => hlive (Prod.mk.inj hcall).2)
        (fun j hj => Prod.ext rfl (producers_of_ne hring hj)) rfl ?_
      have hevents := producerStep_events hring
      rw [claimedBy_producer, refusedBy]
      show (s.enqueuers i).events + (s.ring.producers i).events =
        (s.enqueuers i).events + (ring.producers i).events + _ + _
      rw [hevents]
      abel
  | worker =>
      have hsame := workerStep_sameCalls hstep
      exact h.same hsame.calls (call_of_sameCalls hsame) rfl rfl claimedBy_worker
  | deactivate =>
      cases hstep
      exact h.same rfl rfl rfl rfl rfl
  | tick | wake | sendReturns | connect | disconnect | link | stop =>
      have hsame : SameCalls s s' := dispatcherStep_sameCalls (by simp) (by simp) (by simp)
        (by simp) hstep
      exact h.same hsame.calls (call_of_sameCalls hsame) rfl rfl rfl

/-- **Run lemma for the calls.** -/
theorem callBooks_of_run {outside : Memory} {freq : UINT64}
    {allowed : DispatcherMachine → DispatcherAction → Prop}
    {q : DispatcherMachine × List EnqueueNote}
    (run : RecordedRun dispatcherStep enqueueNotes allowed (DispatcherMachine.init outside freq)
      q) : CallBooks q.1 q.2 :=
  run.recorded_invariant (init_callBooks outside freq) fun _ _ _ _ h _ hstep => h.step hstep

/-- The record of the calls holds that of the messages. -/
theorem dispatcherPart_of_run {outside : Memory} {freq : UINT64}
    {allowed : DispatcherMachine → DispatcherAction → Prop}
    {q : DispatcherMachine × List EnqueueNote}
    (run : RecordedRun dispatcherStep enqueueNotes allowed (DispatcherMachine.init outside freq)
      q) : RecordedRun dispatcherStep dispatcherNotes allowed
        (DispatcherMachine.init outside freq) (q.1, dispatcherPart q.2) := by
  refine Run.recorded_part id EnqueueNote.dispatcher? run ?_
  intro t action u hallowed hstep
  have hnotes : (enqueueNotes t action).filterMap EnqueueNote.dispatcher? =
      dispatcherNotes t action := @dispatcherPart_append t [] action
  rw [hnotes]
  exact Run.recorded_single hallowed hstep

/-- No message is sent of an event that no `Enqueue` call was given, and none twice. -/
theorem messages_le_accepted {outside : Memory} {freq : UINT64}
    {q : DispatcherMachine × List EnqueueNote}
    (run : RecordedRun dispatcherStep enqueueNotes RingOrderly
      (DispatcherMachine.init outside freq) q) :
    (messages (dispatcherPart q.2) : Multiset (List Byte)) ≤ acceptedEvents q.2 := by
  have hsent := sentInOrder_of_run (dispatcherPart_of_run run)
  obtain ⟨events, -, hexplains⟩ := hsent.recorded.queue
  have hclaimed : (messages (dispatcherPart q.2)).Sublist (claimedEvents q.2) :=
    hsent.hand.release.trans hexplains.gots_sublist
  rw [(callBooks_of_run run).balance, add_comm (refusedEvents q.2 : Multiset (List Byte)),
    add_assoc]
  exact (Multiset.coe_le.mpr hclaimed.subperm).trans (Multiset.le_add_right _ _)

end

/-- **Conservation of events.**  Whatever the calls, the worker and the client do beside one
another: every event that an `Enqueue` call accepted was given up by `ProduceSlot`, has claimed a
slot, or is in the hands of its call.  If the steps in the ring are orderly, every message is one of
the accepted events, and no event is sent twice. -/
theorem events_conserved (outside : Memory) (freq : UINT64)
    (allowed : DispatcherMachine → DispatcherAction → Prop)
    (q : DispatcherMachine × List EnqueueNote)
    (run : RecordedRun dispatcherStep enqueueNotes allowed (DispatcherMachine.init outside freq)
      q) :
    (acceptedEvents q.2 : Multiset (List Byte)) =
        refusedEvents q.2 + claimedEvents q.2 + q.1.callsHold ∧
      ((∀ s action, allowed s action → RingOrderly s action) →
        (messages (dispatcherPart q.2) : Multiset (List Byte)) ≤ acceptedEvents q.2) :=
  ⟨(callBooks_of_run run).balance, fun horderly =>
    messages_le_accepted (run.mono fun p action hallowed => horderly p.1 action hallowed)⟩

/-- The first event is larger than the largest payload of a slot; the second is sent. -/
private def tooLarge : List DispatcherAction :=
  [.enqueue (.serialized ⟨fun _ => 7, 65509, by decide⟩), .enqueuer 0, .producer 0,
    .enqueue (.serialized (hundredBytes 8)), .enqueuer 1] ++
    List.replicate 17 (DispatcherAction.producer 1) ++
    [DispatcherAction.connect 1, .link, .wake] ++ List.replicate 11 DispatcherAction.worker

theorem events_conserved_tooLarge : ∃ q : DispatcherMachine × List EnqueueNote,
    (acceptedEvents q.2).length = 2 ∧ (refusedEvents q.2).length = 1 ∧
      messages (dispatcherPart q.2) = [List.replicate 100 8] ∧
      (messages (dispatcherPart q.2) : Multiset (List Byte)) ≤ acceptedEvents q.2 := by
  have hfacts : (steps (recording dispatcherStep enqueueNotes)
      (DispatcherMachine.init (fun _ => 0) 10000000, []) tooLarge).map
        (fun q => ((acceptedEvents q.2).length, (refusedEvents q.2).length,
          messages (dispatcherPart q.2))) =
      some (2, 1, [List.replicate 100 8]) := by decide +kernel
  obtain ⟨q, hq, hfacts⟩ := Option.map_eq_some_iff.mp hfacts
  simp only [Prod.mk.injEq] at hfacts
  obtain ⟨haccepted, hrefused, hmessages⟩ := hfacts
  have run : RecordedRun dispatcherStep enqueueNotes RingOrderly
      (DispatcherMachine.init (fun _ => 0) 10000000) q := run_of_steps (by decide +kernel) hq
  exact ⟨q, haccepted, hrefused, hmessages,
    (events_conserved (fun _ => 0) 10000000 RingOrderly q run).2 fun _ _ => id⟩

end Kawin.Driver
