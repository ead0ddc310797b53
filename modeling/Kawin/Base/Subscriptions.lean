import Mathlib.Data.List.Basic

/-!
# Histories of a publisher

Subscribers come and go under keys, and each event that is published is written to some of them; a
write succeeds or fails.  A history lists all this, newest entry first.  `status` replays it: a
subscriber is not registered, registered, or registered and broken, after a failed write.

A history is `Exact` if each event was written once, as one message, to every subscriber that it
concerns and that was registered and not broken, and to nobody else; an event that has no message
was written to nobody.  What a subscriber receives
then depends on its own entries only (`received_eq_of_sameFor`): whether the writes to others
succeed changes nothing for it.
-/

namespace Subscriptions

structure Write (Key Message : Type*) where
  key : Key
  message : Message
  succeeded : Bool
  deriving DecidableEq

inductive Entry (Key Event Message : Type*)
  | subscribed (key : Key)
  | unsubscribed (key : Key)
  | published (event : Event) (writes : List (Write Key Message))
  deriving DecidableEq

variable {Key Event Message : Type*} [DecidableEq Key]

/-- One of the writes failed on the subscriber. -/
def failsOn (key : Key) (writes : List (Write Key Message)) : Bool :=
  writes.any fun write => decide (write.key = key) && !write.succeeded

/-- Whether the subscriber is registered, and if so, whether no write to it failed. -/
def status (key : Key) : List (Entry Key Event Message) → Option Bool
  | [] => none
  | .subscribed key' :: history => if key' = key then some true else status key history
  | .unsubscribed key' :: history => if key' = key then none else status key history
  | .published _ writes :: history =>
      if failsOn key writes then (status key history).map fun _ => false else status key history

/-- The messages of the writes that go to the subscriber. -/
def messagesTo (key : Key) (writes : List (Write Key Message)) : List Message :=
  (writes.filter fun write => write.key = key).map (·.message)

/-- Everything that was ever written to the subscriber, oldest first. -/
def received (key : Key) : List (Entry Key Event Message) → List Message
  | [] => []
  | .published _ writes :: history => received key history ++ messagesTo key writes
  | .subscribed _ :: history | .unsubscribed _ :: history => received key history

/-- All writes, oldest first. -/
def allWrites : List (Entry Key Event Message) → List (Write Key Message)
  | [] => []
  | .published _ writes :: history => allWrites history ++ writes
  | .subscribed _ :: history | .unsubscribed _ :: history => allWrites history

/-- The events that were published, oldest first. -/
def events : List (Entry Key Event Message) → List Event
  | [] => []
  | .published event _ :: history => events history ++ [event]
  | .subscribed _ :: history | .unsubscribed _ :: history => events history

section

variable (concerns : Event → Key → Bool) (message : Event → Option Message)

/-- The message of the event, once, for a subscriber that it concerns and that can be written to. -/
def due (event : Event) (key : Key) (history : List (Entry Key Event Message)) : List Message :=
  if concerns event key = true ∧ status key history = some true then (message event).toList else []

/-- Each event was written to exactly those to whom it was due. -/
def Exact : List (Entry Key Event Message) → Prop
  | [] => True
  | .published event writes :: history =>
      (∀ key, messagesTo key writes = due concerns message event key history) ∧ Exact history
  | .subscribed _ :: history | .unsubscribed _ :: history => Exact history

end

/-- Two entries that are the same for the subscriber: the same happens to it, and where an
event is published, the writes to it fail in both or in neither. -/
inductive SameFor (key : Key) : Entry Key Event Message → Entry Key Event Message → Prop
  | subscribed (key' : Key) : SameFor key (.subscribed key') (.subscribed key')
  | unsubscribed (key' : Key) : SameFor key (.unsubscribed key') (.unsubscribed key')
  | published (event : Event) {writes writes' : List (Write Key Message)}
      (hfails : messagesTo key writes = messagesTo key writes' →
        failsOn key writes = failsOn key writes') :
      SameFor key (.published event writes) (.published event writes')

section

variable {concerns : Event → Key → Bool} {message : Event → Option Message} {key : Key}
  {history history' : List (Entry Key Event Message)}

private theorem status_and_received_eq (hsame : List.Forall₂ (SameFor key) history history')
    (hexact : Exact concerns message history) (hexact' : Exact concerns message history') :
    status key history = status key history' ∧ received key history = received key history' := by
  induction hsame with
  | nil => exact ⟨rfl, rfl⟩
  | cons hentry _ ih =>
      cases hentry with
      | subscribed key' =>
          obtain ⟨hstatus, hreceived⟩ := ih hexact hexact'
          exact ⟨by rw [status, status, hstatus], hreceived⟩
      | unsubscribed key' =>
          obtain ⟨hstatus, hreceived⟩ := ih hexact hexact'
          exact ⟨by rw [status, status, hstatus], hreceived⟩
      | @published event writes writes' hfails =>
          obtain ⟨hstatus, hreceived⟩ := ih hexact.2 hexact'.2
          have hmessages : messagesTo key writes = messagesTo key writes' := by
            rw [hexact.1 key, hexact'.1 key, due, due, hstatus]
          rw [status, status, received, received, hfails hmessages, hstatus, hreceived, hmessages]
          exact ⟨rfl, rfl⟩

/-- **Isolation.**  In exact histories that are the same for a subscriber, it receives the same. -/
theorem received_eq_of_sameFor (hsame : List.Forall₂ (SameFor key) history history')
    (hexact : Exact concerns message history) (hexact' : Exact concerns message history') :
    received key history = received key history' :=
  (status_and_received_eq hsame hexact hexact').2

/-- A broken subscriber stays so, or is gone, until it is registered anew. -/
theorem status_ne_of_failed {later earlier : List (Entry Key Event Message)} {event : Event}
    {writes : List (Write Key Message)} (hfailed : failsOn key writes = true)
    (hnew : Entry.subscribed key ∉ later) :
    status key (later ++ .published event writes :: earlier) ≠ some true := by
  induction later with
  | nil =>
      rw [List.nil_append, status, if_pos hfailed]
      cases status key earlier with
      | none => simp
      | some active => simp
  | cons entry later ih =>
      obtain ⟨hentry, hlater⟩ := not_or.mp (List.mem_cons.not.mp hnew)
      have hbefore := ih hlater
      cases entry with
      | subscribed key' =>
          have hkey : key' ≠ key := fun h => hentry (by rw [h])
          rwa [List.cons_append, status, if_neg hkey]
      | unsubscribed key' =>
          rw [List.cons_append, status]
          split_ifs
          · simp
          · exact hbefore
      | published event' writes' =>
          rw [List.cons_append, status]
          split_ifs
          · cases status key (later ++ .published event writes :: earlier) with
            | none => simp
            | some active => simp
          · exact hbefore

/-- **Silence.**  After a failed write a subscriber is not written to until it is registered
anew. -/
theorem messagesTo_of_failed {later earlier : List (Entry Key Event Message)} {event : Event}
    {writes : List (Write Key Message)}
    (hexact : Exact concerns message (later ++ .published event writes :: earlier))
    (hfailed : failsOn key writes = true) (hnew : Entry.subscribed key ∉ later) :
    ∀ event' writes', Entry.published event' writes' ∈ later → messagesTo key writes' = [] := by
  induction later with
  | nil => exact fun _ _ hmem => absurd hmem List.not_mem_nil
  | cons entry later ih =>
      obtain ⟨-, hlater⟩ := not_or.mp (List.mem_cons.not.mp hnew)
      intro event' writes' hmem
      rcases List.mem_cons.mp hmem with rfl | hmem
      · rw [hexact.1 key, due, if_neg fun h => status_ne_of_failed hfailed hlater h.2]
      · refine ih ?_ hlater event' writes' hmem
        cases entry with
        | subscribed | unsubscribed => exact hexact
        | published => exact hexact.2

end

end Subscriptions
