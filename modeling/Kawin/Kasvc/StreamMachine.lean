import Mathlib.Data.List.Sort
import Mathlib.Logic.Function.Basic
import Kawin.Base.SharedMutex
import Kawin.Base.Transition
import Kawin.Kasvc.SubscriberFanOut

/-!
# Streams and their threads

The writer of a stream belongs to the call of `WatchAlerts` or `WatchLogs` that serves it, and is
gone when that call returns.  `Subscribe` puts it in the map of its kind and `Unsubscribe` takes it
out, both with the mutex of the map locked exclusively; any number of threads run `Publish`, which
walks the map with the mutex shared and locks a mutex of the subscriber around each `Write`.

Alerts and logs have nothing in common but the code, so that the two kinds are two copies of one
machine.
-/

namespace Kawin.Kasvc

open SharedMutex Transition

/-- Whoever locks the mutex of a map. -/
inductive StreamThread
  /-- a call of `WatchAlerts` or `WatchLogs` -/
  | handler (i : ℕ)
  /-- a call of `Publish` -/
  | publisher (p : ℕ)
  deriving DecidableEq

/-- An entry of `alert_subscribers_` or `log_subscribers_`. -/
structure StreamSubscriber where
  id : ℕ
  /-- the handler whose writer it is -/
  writer : ℕ
  active : Bool
  /-- the publisher that has locked `write_mutex` -/
  writeMutex : Option ℕ
  deriving DecidableEq

/-- Where a call of `WatchAlerts` or `WatchLogs` stands. -/
inductive WatchCall
  | outside
  /-- in `Subscribe`, about to lock the mutex -/
  | subscribing
  /-- about to take an id -/
  | locked
  /-- about to add the subscriber to the map -/
  | tookId (id : ℕ)
  /-- about to unlock the mutex -/
  | inserted (id : ℕ)
  /-- waiting for the client to disconnect -/
  | waiting (id : ℕ)
  /-- in `Unsubscribe`, about to lock the mutex -/
  | unsubscribing (id : ℕ)
  /-- about to remove the subscriber from the map -/
  | erasing (id : ℕ)
  /-- about to unlock the mutex -/
  | erased
  | returned
  deriving DecidableEq

/-- Where a call of `Publish` stands. -/
inductive PublishCall
  | outside
  /-- about to lock the mutex -/
  | starting
  /-- at an entry of the map, or at its end -/
  | iterating (entry : Option ℕ)
  /-- about to lock the mutex of the subscriber -/
  | lockingWrite (id : ℕ)
  /-- about to call `Write` -/
  | calling (id : ℕ)
  /-- in `Write`, on the writer of a handler -/
  | writing (id writer : ℕ)
  /-- about to unlock the mutex of the subscriber -/
  | wrote (id : ℕ)
  deriving DecidableEq

/-- The subscribers of one kind, and the calls that concern them. -/
structure StreamMachine where
  mutex : SharedMutex StreamThread
  subscribers : List StreamSubscriber
  nextId : ℕ
  /-- how many ids were handed out -/
  subscriptions : ℕ
  handlers : ℕ → WatchCall
  publishers : ℕ → PublishCall

inductive StreamAction
  /-- the handler does what it does next; a client calls it, and disconnects, at any time -/
  | handler (i : ℕ)
  /-- the publisher does what it does next, with how a `Write` that it is in ends; it is called
  any number of times -/
  | publisher (p : ℕ) (outcome : WriteOutcome)

namespace StreamMachine

def init : StreamMachine := ⟨.unlocked, [], 1, 0, fun _ => .outside, fun _ => .outside⟩

/-! ## The map -/

/-- `std::map::find`. -/
def lookup (s : StreamMachine) (id : ℕ) : Option StreamSubscriber :=
  s.subscribers.find? fun subscriber => subscriber.id = id

/-- The entry after an id; the ids ascend. -/
def next (s : StreamMachine) (id : ℕ) : Option ℕ :=
  (s.subscribers.find? fun subscriber => id < subscriber.id).map (·.id)

/-- The first entry. -/
def first (s : StreamMachine) : Option ℕ := s.subscribers.head?.map (·.id)

/-- `std::map::operator[]`, with an assignment to it. -/
def assign (s : StreamMachine) (subscriber : StreamSubscriber) : StreamMachine :=
  { s with
    subscribers := (s.subscribers.filter fun old => old.id ≠ subscriber.id).orderedInsert
      (fun a b => a.id ≤ b.id) subscriber }

/-- `std::map::erase`, where the id is in the map. -/
def erase (s : StreamMachine) (id : ℕ) : StreamMachine :=
  { s with subscribers := s.subscribers.filter fun subscriber => subscriber.id ≠ id }

/-- The flags of one entry change. -/
def modify (s : StreamMachine) (id : ℕ) (active : Bool) (writeMutex : Option ℕ) :
    StreamMachine :=
  { s with
    subscribers := s.subscribers.map fun subscriber =>
      if subscriber.id = id then { subscriber with active, writeMutex } else subscriber }

/-! ## Steps -/

def handlerGoto (s : StreamMachine) (i : ℕ) (pc : WatchCall) : StreamMachine :=
  { s with handlers := Function.update s.handlers i pc }

def publisherGoto (s : StreamMachine) (p : ℕ) (pc : PublishCall) : StreamMachine :=
  { s with publishers := Function.update s.publishers p pc }

/-- A call on the mutex of the map. -/
def mutexCall (s : StreamMachine) (call : SharedMutex.Call) (thread : StreamThread) :
    Option StreamMachine :=
  (s.mutex.perform call thread).map fun mutex => { s with mutex }

/-- `next_alert_id_++`, on a `uint64_t`. -/
def takeId (s : StreamMachine) : StreamMachine :=
  { s with nextId := (s.nextId + 1) % 2 ^ 64, subscriptions := s.subscriptions + 1 }

/-- `WatchAlerts` and `WatchLogs`, with `SubscribeAlerts`, `UnsubscribeAlerts` and their
siblings. -/
def handlerStep (s : StreamMachine) (i : ℕ) : WatchCall → Option StreamMachine
  | .outside => some (s.handlerGoto i .subscribing)
  | .subscribing => (s.mutexCall .lock (.handler i)).map fun t => t.handlerGoto i .locked
  | .locked => some (s.takeId.handlerGoto i (.tookId s.nextId))
  | .tookId id => some ((s.assign ⟨id, i, true, none⟩).handlerGoto i (.inserted id))
  | .inserted id =>
      (s.mutexCall .unlock (.handler i)).map fun t => t.handlerGoto i (.waiting id)
  | .waiting id => some (s.handlerGoto i (.unsubscribing id))
  | .unsubscribing id =>
      (s.mutexCall .lock (.handler i)).map fun t => t.handlerGoto i (.erasing id)
  | .erasing id => some ((s.erase id).handlerGoto i .erased)
  | .erased => (s.mutexCall .unlock (.handler i)).map fun t => t.handlerGoto i .returned
  | .returned => none

/-- `Publish`; every subscriber gets every event, `ShouldSendToSubscriber` being constant. -/
def publisherStep (s : StreamMachine) (p : ℕ) (outcome : WriteOutcome) :
    PublishCall → Option StreamMachine
  | .outside => some (s.publisherGoto p .starting)
  | .starting =>
      (s.mutexCall .lockShared (.publisher p)).map fun t =>
        t.publisherGoto p (.iterating t.first)
  | .iterating none =>
      (s.mutexCall .unlockShared (.publisher p)).map fun t => t.publisherGoto p .outside
  | .iterating (some id) =>
      (s.lookup id).map fun subscriber =>
        s.publisherGoto p (if subscriber.active then .lockingWrite id else .iterating (s.next id))
  | .lockingWrite id =>
      (s.lookup id).bind fun subscriber =>
        if subscriber.writeMutex ≠ none then none
        else some ((s.modify id subscriber.active (some p)).publisherGoto p (.calling id))
  | .calling id =>
      (s.lookup id).map fun subscriber => s.publisherGoto p (.writing id subscriber.writer)
  | .writing id _ =>
      (s.lookup id).map fun subscriber =>
        let active := if outcome = .written then subscriber.active else false
        (s.modify id active subscriber.writeMutex).publisherGoto p (.wrote id)
  | .wrote id =>
      (s.lookup id).map fun subscriber =>
        (s.modify id subscriber.active none).publisherGoto p (.iterating (s.next id))

end StreamMachine

def streamStep (s : StreamMachine) : StreamAction → Option StreamMachine
  | .handler i => s.handlerStep i (s.handlers i)
  | .publisher p outcome => s.publisherStep p outcome (s.publishers p)

/-- Both kinds. -/
def streamsStep (s : StreamKind → StreamMachine) (action : StreamKind × StreamAction) :
    Option (StreamKind → StreamMachine) :=
  (streamStep (s action.1) action.2).map fun t => Function.update s action.1 t

/-! ## What a call holds -/

/-- The handler has locked the mutex. -/
def WatchCall.holds : WatchCall → Bool
  | .locked | .tookId _ | .inserted _ | .erasing _ | .erased => true
  | .outside | .subscribing | .waiting _ | .unsubscribing _ | .returned => false

/-- The id under which the writer of the handler is registered. -/
def WatchCall.registered : WatchCall → Option ℕ
  | .inserted id | .waiting id | .unsubscribing id | .erasing id => some id
  | .outside | .subscribing | .locked | .tookId _ | .erased | .returned => none

/-- The id of the subscription of the handler. -/
def WatchCall.subscription : WatchCall → Option ℕ
  | .tookId id => some id
  | pc => pc.registered

/-- `Subscribe` has returned, and `Unsubscribe` has not got hold of the mutex. -/
def WatchCall.isLive : WatchCall → Bool
  | .waiting _ | .unsubscribing _ => true
  | _ => false

/-- The publisher shares the mutex. -/
def PublishCall.shares : PublishCall → Bool
  | .iterating _ | .lockingWrite _ | .calling _ | .writing _ _ | .wrote _ => true
  | .outside | .starting => false

/-- The entry that the publisher is at. -/
def PublishCall.position : PublishCall → Option ℕ
  | .iterating entry => entry
  | .lockingWrite id | .calling id | .writing id _ | .wrote id => some id
  | .outside | .starting => none

/-- The entry whose mutex the publisher has locked. -/
def PublishCall.locks : PublishCall → Option ℕ
  | .calling id | .writing id _ | .wrote id => some id
  | .outside | .starting | .iterating _ | .lockingWrite _ => none

/-- The writer that the publisher is writing to. -/
def PublishCall.writes : PublishCall → Option ℕ
  | .writing _ writer => some writer
  | _ => none

@[simp] theorem handlers_handlerGoto (s : StreamMachine) (i : ℕ) (pc : WatchCall) :
    (s.handlerGoto i pc).handlers = Function.update s.handlers i pc := rfl

@[simp] theorem publishers_publisherGoto (s : StreamMachine) (p : ℕ) (pc : PublishCall) :
    (s.publisherGoto p pc).publishers = Function.update s.publishers p pc := rfl

/-! ## Searches -/

section

variable {s : StreamMachine} {id : ℕ} {subscriber : StreamSubscriber}

theorem id_of_lookup (h : s.lookup id = some subscriber) : subscriber.id = id := by
  simpa using List.find?_some h

theorem mem_of_lookup (h : s.lookup id = some subscriber) : subscriber ∈ s.subscribers :=
  List.mem_of_find?_eq_some h

theorem isSome_lookup_of_mem (h : subscriber ∈ s.subscribers) :
    (s.lookup subscriber.id).isSome := by
  rw [StreamMachine.lookup, List.find?_isSome]
  exact ⟨subscriber, h, decide_eq_true rfl⟩

theorem isSome_lookup_first (h : s.first = some id) : (s.lookup id).isSome := by
  obtain ⟨subscriber, hfirst, rfl⟩ := Option.map_eq_some_iff.mp h
  exact isSome_lookup_of_mem (List.mem_of_head? hfirst)

theorem isSome_lookup_next {before : ℕ} (h : s.next before = some id) :
    (s.lookup id).isSome := by
  obtain ⟨subscriber, hnext, rfl⟩ := Option.map_eq_some_iff.mp h
  exact isSome_lookup_of_mem (List.mem_of_find?_eq_some hnext)

/-- What a change of the flags of an entry leaves of an entry. -/
theorem lookup_modify (active : Bool) (writeMutex : Option ℕ) (id other : ℕ) :
    (s.modify id active writeMutex).lookup other = (s.lookup other).map fun subscriber =>
      if subscriber.id = id then { subscriber with active, writeMutex } else subscriber := by
  rw [StreamMachine.lookup, StreamMachine.modify, StreamMachine.lookup, List.find?_map]
  congr 2
  funext subscriber
  rw [Function.comp_apply]
  split <;> rfl

theorem lookup_modify_self (h : s.lookup id = some subscriber) (active : Bool)
    (writeMutex : Option ℕ) : (s.modify id active writeMutex).lookup id =
      some { subscriber with active, writeMutex } := by
  rw [lookup_modify, h, Option.map_some, if_pos (id_of_lookup h)]

theorem lookup_modify_of_ne {other : ℕ} (hne : other ≠ id) (active : Bool)
    (writeMutex : Option ℕ) :
    (s.modify id active writeMutex).lookup other = s.lookup other := by
  rw [lookup_modify]
  cases h : s.lookup other with
  | none => rfl
  | some subscriber =>
      rw [Option.map_some, if_neg (fun heq => hne ((id_of_lookup h).symm.trans heq))]

end

end Kawin.Kasvc
