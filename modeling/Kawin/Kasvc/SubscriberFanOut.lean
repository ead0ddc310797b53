import Kawin.Base.Subscriptions
import Kawin.Base.Transition
import Kawin.Kasvc.EventPublisher

/-!
# Fan-out to the subscribers

`Publish` converts an event once and writes it, in a loop, to every active subscriber of its
stream.  A write that fails or throws deactivates the subscriber and is counted as dropped; the
loop goes on with the next one.  `SubscribeAlerts` and its siblings change the two maps between the
calls.

The loop is modelled as it runs (`FanOutLoop.body`), and `publish_refines` says that it does what
`FeederEventPublisher.publish` says in one go.

What a call was asked for and what it returned, the id or the writes made, is what is seen of it
from outside (`PublisherCall.entries`).  The history of the subscribers consists of that alone.
-/

namespace Kawin.Kasvc

open Subscriptions

/-! ## The streams -/

inductive StreamKind
  | alert | log
  deriving DecidableEq

/-- A subscriber: its stream and its id there. -/
abbrev SubscriberKey := StreamKind × ℕ

/-- What is written to a subscriber. -/
abbrev Message := Alert ⊕ Log

abbrev PublisherEntry := Entry SubscriberKey Event Message

def Event.kind (event : Event) : StreamKind := if event.isAlert then .alert else .log

/-- An entry of the map of a stream. -/
def Stream.lookup (stream : Stream) (id : ℕ) : Option Subscriber :=
  stream.subscribers.find? fun subscriber => subscriber.id = id

/-- The flag of a subscriber, if it is in the map. -/
def Stream.flag (stream : Stream) (id : ℕ) : Option Bool := (stream.lookup id).map (·.active)

namespace FeederEventPublisher

/-- The constructor. -/
def construct (clusterName hostName : String) (calendar : Calendar) : FeederEventPublisher :=
  ⟨clusterName, hostName, calendar, ⟨[], 0⟩, ⟨[], 0⟩, 0⟩

def stream (publisher : FeederEventPublisher) : StreamKind → Stream
  | .alert => publisher.alerts
  | .log => publisher.logs

def setStream (publisher : FeederEventPublisher) (kind : StreamKind) (stream : Stream) :
    FeederEventPublisher :=
  match kind with
  | .alert => { publisher with alerts := stream }
  | .log => { publisher with logs := stream }

/-- The message of an event, if it can be converted. -/
def converted (publisher : FeederEventPublisher) (event : Event) : Option Message :=
  if event.isAlert then (publisher.convertToAlert event).map .inl
  else (publisher.convertToLog event).map .inr

/-- `alerts_published_` and `logs_published_` together, as `GetStatistics` adds them. -/
def eventsPublished (publisher : FeederEventPublisher) : BitVec 64 :=
  publisher.alerts.published + publisher.logs.published

/-- `GetSubscriberCount`. -/
def getSubscriberCount (publisher : FeederEventPublisher) : ℕ :=
  publisher.alerts.subscribers.countP (·.active) + publisher.logs.subscribers.countP (·.active)

end FeederEventPublisher

/-! ## The calls -/

/-- The publisher, and the ids it gives out next. -/
structure PublisherState where
  publisher : FeederEventPublisher
  nextStreamId : StreamKind → ℕ

/-- The writes made of one event, in their order. -/
abbrev Writes := List (Write SubscriberKey Message)

/-- The loop of `Publish`: the map behind it, the counters, and the writes made. -/
structure FanOutLoop where
  subscribers : List Subscriber
  published : BitVec 64
  dropped : BitVec 64
  writes : Writes

/-- The body of the loop. -/
def FanOutLoop.body (kind : StreamKind) (message : Message) (event : Event)
    (outcome : ℕ → WriteOutcome) (loop : FanOutLoop) (subscriber : Subscriber) : FanOutLoop :=
  let key := (kind, subscriber.id)
  if !subscriber.active then { loop with subscribers := loop.subscribers ++ [subscriber] }
  else if !shouldSendToSubscriber event subscriber.filter then
    { loop with subscribers := loop.subscribers ++ [subscriber] }
  else
    match outcome subscriber.id with
    | .written =>
        { loop with
          subscribers := loop.subscribers ++ [subscriber]
          published := loop.published + 1
          writes := loop.writes ++ [⟨key, message, true⟩] }
    | .refused | .threw =>
        { loop with
          subscribers := loop.subscribers ++ [{ subscriber with active := false }]
          dropped := loop.dropped + 1
          writes := loop.writes ++ [⟨key, message, false⟩] }

/-- `std::map::operator[]`, with an assignment to it: the ids ascend. -/
def insertSubscriber (new : Subscriber) : List Subscriber → List Subscriber
  | [] => [new]
  | old :: rest =>
      if new.id < old.id then new :: old :: rest
      else if new.id = old.id then new :: rest
      else old :: insertSubscriber new rest

namespace PublisherState

def construct (clusterName hostName : String) (calendar : Calendar) : PublisherState :=
  ⟨.construct clusterName hostName calendar, fun _ => 1⟩

/-- `SubscribeAlerts` and `SubscribeLogs`, with the id they return, which is a `uint64_t`. -/
def subscribe (kind : StreamKind) (filter : StreamFilter) (s : PublisherState) :
    PublisherState × ℕ :=
  let id := s.nextStreamId kind
  let stream := s.publisher.stream kind
  ({ publisher := s.publisher.setStream kind
      { stream with subscribers := insertSubscriber ⟨id, filter, true⟩ stream.subscribers }
     nextStreamId := Function.update s.nextStreamId kind ((id + 1) % 2 ^ 64) }, id)

/-- `UnsubscribeAlerts` and `UnsubscribeLogs`. -/
def unsubscribe (kind : StreamKind) (id : ℕ) (s : PublisherState) : PublisherState :=
  let stream := s.publisher.stream kind
  { s with
    publisher := s.publisher.setStream kind
      { stream with
        subscribers := stream.subscribers.filter fun subscriber => subscriber.id ≠ id } }

/-- The loop over the subscribers of one stream, with the writes it makes. -/
def writeTo (kind : StreamKind) (message : Message) (event : Event) (outcome : ℕ → WriteOutcome)
    (s : PublisherState) : PublisherState × Writes :=
  let stream := s.publisher.stream kind
  let loop := stream.subscribers.foldl (FanOutLoop.body kind message event outcome)
    ⟨[], stream.published, s.publisher.eventsDropped, []⟩
  ({ s with
    publisher :=
      { s.publisher.setStream kind ⟨loop.subscribers, loop.published⟩ with
        eventsDropped := loop.dropped } }, loop.writes)

/-- `Publish`, with the writes it makes. -/
def publish (event : Event) (outcome : ℕ → WriteOutcome) (s : PublisherState) :
    Option (PublisherState × Writes) :=
  if event.isAlert then
    (s.publisher.convertToAlert event).map fun alert => s.writeTo .alert (.inl alert) event outcome
  else
    (s.publisher.convertToLog event).map fun log => s.writeTo .log (.inr log) event outcome

/-- An event to be published, with what each `Write` of it comes to. -/
abbrev Publication := Event × (ℕ → WriteOutcome)

/-- `PublishBatch`, with the writes it makes of each event. -/
def publishBatch : List Publication → PublisherState → Option (PublisherState × List Writes)
  | [], s => some (s, [])
  | publication :: rest, s =>
      (s.publish publication.1 publication.2).bind fun first =>
        (publishBatch rest first.1).map fun others => (others.1, first.2 :: others.2)

end PublisherState

open PublisherState (Publication)

inductive PublisherCall
  | subscribeAlerts (filter : StreamFilter)
  | subscribeLogs (filter : StreamFilter)
  | unsubscribeAlerts (id : ℕ)
  | unsubscribeLogs (id : ℕ)
  | publish (publication : Publication)
  | publishBatch (events : List Publication)

/-- What is seen of a call when it returns: the id that it gives out, or the writes that it made. -/
def PublisherCall.Result : PublisherCall → Type
  | .subscribeAlerts _ | .subscribeLogs _ => ℕ
  | .unsubscribeAlerts _ | .unsubscribeLogs _ => Unit
  | .publish _ => Writes
  | .publishBatch _ => List Writes

def PublisherState.call (s : PublisherState) :
    (call : PublisherCall) → Option (PublisherState × call.Result)
  | .subscribeAlerts filter => some (s.subscribe .alert filter)
  | .subscribeLogs filter => some (s.subscribe .log filter)
  | .unsubscribeAlerts id => some (s.unsubscribe .alert id, ())
  | .unsubscribeLogs id => some (s.unsubscribe .log id, ())
  | .publish publication => s.publish publication.1 publication.2
  | .publishBatch events => s.publishBatch events

/-! ## The history of the subscribers -/

/-- What a call that returned means to the subscribers, newest entry first: whoever was given an id
is registered under it from then on, and whoever is to be unsubscribed is not. -/
def PublisherCall.entries : (call : PublisherCall) → call.Result → List PublisherEntry
  | .subscribeAlerts _, id => [.subscribed (.alert, id)]
  | .subscribeLogs _, id => [.subscribed (.log, id)]
  | .unsubscribeAlerts id, _ => [.unsubscribed (.alert, id)]
  | .unsubscribeLogs id, _ => [.unsubscribed (.log, id)]
  | .publish publication, writes => [.published publication.1 writes]
  | .publishBatch events, writes =>
      (List.zipWith (fun publication writes => .published publication.1 writes) events
        writes).reverse

/-- A call, entered in the history. -/
def observedCall (observed : PublisherState × List PublisherEntry) (call : PublisherCall) :
    Option (PublisherState × List PublisherEntry) :=
  (observed.1.call call).map fun result => (result.1, call.entries result.2 ++ observed.2)

/-- The publisher after a sequence of calls, and the history of its subscribers; `none` where a call
does not return. -/
def observedCalls (clusterName hostName : String) (calendar : Calendar)
    (calls : List PublisherCall) : Option (PublisherState × List PublisherEntry) :=
  Transition.steps observedCall (.construct clusterName hostName calendar, []) calls

/-! ## The loop in one go -/

section

variable {kind : StreamKind} {message : Message} {event : Event} {outcome : ℕ → WriteOutcome}

/-- A subscriber behind the loop. -/
def Subscriber.afterWrite (outcome : ℕ → WriteOutcome) (subscriber : Subscriber) : Subscriber :=
  { subscriber with active := subscriber.active && decide (outcome subscriber.id = .written) }

/-- The write to a subscriber. -/
def writeOf (kind : StreamKind) (message : Message) (outcome : ℕ → WriteOutcome)
    (subscriber : Subscriber) : Write SubscriberKey Message :=
  ⟨(kind, subscriber.id), message, decide (outcome subscriber.id = .written)⟩

/-- The writes of the loop. -/
def writesOf (kind : StreamKind) (message : Message) (outcome : ℕ → WriteOutcome)
    (subscribers : List Subscriber) : List (Write SubscriberKey Message) :=
  (subscribers.filter (·.active)).map (writeOf kind message outcome)

theorem body_eq (loop : FanOutLoop) (subscriber : Subscriber) :
    loop.body kind message event outcome subscriber =
      { subscribers := loop.subscribers ++ [subscriber.afterWrite outcome]
        published := loop.published +
          BitVec.ofNat 64 ((writesOf kind message outcome [subscriber]).countP (·.succeeded))
        dropped := loop.dropped + BitVec.ofNat 64
          ((writesOf kind message outcome [subscriber]).countP fun write => !write.succeeded)
        writes := loop.writes ++ writesOf kind message outcome [subscriber] } := by
  obtain ⟨id, filter, active⟩ := subscriber
  cases active with
  | false => simp [FanOutLoop.body, writesOf, Subscriber.afterWrite]
  | true =>
      cases houtcome : outcome id with
      | written =>
          simp [FanOutLoop.body, shouldSendToSubscriber, writesOf, writeOf, Subscriber.afterWrite,
            houtcome]
      | refused | threw =>
          simp [FanOutLoop.body, shouldSendToSubscriber, writesOf, writeOf, Subscriber.afterWrite,
            houtcome]

theorem loop_eq (subscribers : List Subscriber) (loop : FanOutLoop) :
    subscribers.foldl (FanOutLoop.body kind message event outcome) loop =
      { subscribers := loop.subscribers ++ subscribers.map (·.afterWrite outcome)
        published := loop.published +
          BitVec.ofNat 64 ((writesOf kind message outcome subscribers).countP (·.succeeded))
        dropped := loop.dropped + BitVec.ofNat 64
          ((writesOf kind message outcome subscribers).countP fun write => !write.succeeded)
        writes := loop.writes ++ writesOf kind message outcome subscribers } := by
  induction subscribers generalizing loop with
  | nil => simp [writesOf]
  | cons subscriber rest ih =>
      have hsplit : writesOf kind message outcome (subscriber :: rest) =
          writesOf kind message outcome [subscriber] ++ writesOf kind message outcome rest := by
        rw [writesOf, writesOf, writesOf, ← List.map_append, ← List.filter_append,
          List.singleton_append]
      rw [List.foldl_cons, ih, body_eq, hsplit, List.countP_append, List.countP_append,
        List.map_cons]
      simp only [List.append_assoc, List.singleton_append, BitVec.ofNat_add, BitVec.add_assoc]

theorem receivers_eq (stream : Stream) :
    stream.receivers event = stream.subscribers.filter (·.active) := by
  simp [Stream.receivers, shouldSendToSubscriber]

theorem subscribers_publish (stream : Stream) : (stream.publish event outcome).1.subscribers =
    stream.subscribers.map (·.afterWrite outcome) := by
  refine List.map_congr_left fun subscriber _ => ?_
  cases hactive : subscriber.active with
  | false => simp [Subscriber.afterWrite, hactive]
  | true => simp [Subscriber.afterWrite, shouldSendToSubscriber, hactive]

theorem countP_written (kind : StreamKind) (message : Message) (stream : Stream) :
    ((stream.receivers event).countP fun subscriber => outcome subscriber.id = .written) =
      (writesOf kind message outcome stream.subscribers).countP (·.succeeded) := by
  rw [writesOf, List.countP_map, receivers_eq]
  rfl

theorem published_publish (kind : StreamKind) (message : Message) (stream : Stream) :
    (stream.publish event outcome).1.published = stream.published + BitVec.ofNat 64
      ((writesOf kind message outcome stream.subscribers).countP (·.succeeded)) := by
  rw [← countP_written]
  rfl

theorem dropped_publish (kind : StreamKind) (message : Message) (stream : Stream) :
    (stream.publish event outcome).2 =
      (writesOf kind message outcome stream.subscribers).countP fun write => !write.succeeded := by
  have hall := List.length_eq_countP_add_countP (·.succeeded)
    (l := writesOf kind message outcome stream.subscribers)
  have hlength : (stream.receivers event).length =
      (writesOf kind message outcome stream.subscribers).length := by
    rw [receivers_eq, writesOf, List.length_map]
  rw [Stream.publish, countP_written kind message, hlength, hall, Nat.add_sub_cancel_left]
  simp

/-- The loop does to the map and the counters what `Stream.publish` says. -/
theorem loop_refines (stream : Stream) (dropped : BitVec 64) :
    stream.subscribers.foldl (FanOutLoop.body kind message event outcome)
        ⟨[], stream.published, dropped, []⟩ =
      { subscribers := (stream.publish event outcome).1.subscribers
        published := (stream.publish event outcome).1.published
        dropped := dropped + BitVec.ofNat 64 (stream.publish event outcome).2
        writes := writesOf kind message outcome stream.subscribers } := by
  rw [loop_eq, subscribers_publish, ← published_publish, ← dropped_publish]
  rfl

end

/-- The write as a call on the writer of the subscriber. -/
def asStreamWrite (write : Write SubscriberKey Message) : StreamWrite :=
  match write.message with
  | .inl alert => .alert write.key.2 alert
  | .inr log => .log write.key.2 log

theorem writeTo_eq (kind : StreamKind) (message : Message) (event : Event)
    (outcome : ℕ → WriteOutcome) (s : PublisherState) :
    s.writeTo kind message event outcome =
      ({ s with
        publisher :=
          { s.publisher.setStream kind ((s.publisher.stream kind).publish event outcome).1 with
            eventsDropped := s.publisher.eventsDropped +
              BitVec.ofNat 64 ((s.publisher.stream kind).publish event outcome).2 } },
        writesOf kind message outcome (s.publisher.stream kind).subscribers) := by
  simp only [PublisherState.writeTo, loop_refines]

theorem publish_eq (s : PublisherState) (event : Event) (outcome : ℕ → WriteOutcome) :
    s.publish event outcome = (s.publisher.converted event).map fun message =>
      s.writeTo event.kind message event outcome := by
  by_cases halert : event.isAlert <;>
    simp [PublisherState.publish, Event.kind, FeederEventPublisher.converted, halert,
      Function.comp_def]

/-- **Refinement.**  `Publish` with its loop does what `FeederEventPublisher.publish` says. -/
theorem publish_refines (s : PublisherState) (event : Event) (outcome : ℕ → WriteOutcome) :
    ((s.publish event outcome).map fun result =>
        (result.1.publisher, result.2.map asStreamWrite)) =
      s.publisher.publish event outcome := by
  by_cases halert : event.isAlert
  · rw [PublisherState.publish, if_pos halert, FeederEventPublisher.publish, if_pos halert,
      Option.map_map]
    refine congrArg (fun f => Option.map f _) (funext fun alert => ?_)
    rw [Function.comp_apply, writeTo_eq, writesOf, List.map_map, receivers_eq]
    rfl
  · rw [PublisherState.publish, if_neg halert, FeederEventPublisher.publish, if_neg halert,
      Option.map_map]
    refine congrArg (fun f => Option.map f _) (funext fun log => ?_)
    rw [Function.comp_apply, writeTo_eq, writesOf, List.map_map, receivers_eq]
    rfl

/-! ## The map of a stream -/

/-- The ids ascend, as in every `std::map`. -/
def Stream.Sorted (stream : Stream) : Prop :=
  stream.subscribers.Pairwise fun first second => first.id < second.id

section

variable {subscribers : List Subscriber} {new subscriber : Subscriber} {id : ℕ}

theorem find_insertSubscriber :
    ((insertSubscriber new subscribers).find? fun subscriber => subscriber.id = id) =
      if new.id = id then some new
      else subscribers.find? fun subscriber => subscriber.id = id := by
  induction subscribers with
  | nil => by_cases hid : new.id = id <;> simp [insertSubscriber, hid]
  | cons old rest ih =>
      rw [insertSubscriber]
      by_cases hid : new.id = id
      · have hfound : decide (new.id = id) = true := decide_eq_true hid
        rw [if_pos hid] at ih ⊢
        split_ifs with hlt heq
        · exact List.find?_cons_of_pos hfound
        · exact List.find?_cons_of_pos hfound
        · rw [List.find?_cons_of_neg (by simp; omega), ih]
      · have hnot : ¬decide (new.id = id) = true := by simpa using hid
        rw [if_neg hid] at ih ⊢
        split_ifs with hlt heq
        · exact List.find?_cons_of_neg hnot
        · have hold : ¬old.id = id := heq ▸ hid
          simp only [List.find?_cons, decide_eq_false hid, decide_eq_false hold]
        · rw [List.find?_cons, List.find?_cons, ih]

theorem mem_insertSubscriber (h : subscriber ∈ insertSubscriber new subscribers) :
    subscriber = new ∨ subscriber ∈ subscribers := by
  induction subscribers with
  | nil => exact .inl (by simpa [insertSubscriber] using h)
  | cons old rest ih =>
      rw [insertSubscriber] at h
      split_ifs at h with hlt heq
      · simpa using h
      · rcases List.mem_cons.mp h with hnew | hrest
        · exact .inl hnew
        · exact .inr (List.mem_cons_of_mem old hrest)
      · rcases List.mem_cons.mp h with hold | hrest
        · exact .inr (hold ▸ List.mem_cons_self)
        · exact (ih hrest).imp id (List.mem_cons_of_mem old)

theorem pairwise_insertSubscriber
    (h : subscribers.Pairwise fun first second => first.id < second.id) :
    (insertSubscriber new subscribers).Pairwise fun first second => first.id < second.id := by
  induction subscribers with
  | nil => simp [insertSubscriber]
  | cons old rest ih =>
      obtain ⟨hold, hrest⟩ := List.pairwise_cons.mp h
      rw [insertSubscriber]
      split_ifs with hlt heq
      · refine List.pairwise_cons.mpr ⟨fun subscriber hmem => ?_, h⟩
        rcases List.mem_cons.mp hmem with rfl | hmem
        · exact hlt
        · exact Nat.lt_trans hlt (hold _ hmem)
      · exact List.pairwise_cons.mpr ⟨fun subscriber hmem => heq ▸ hold _ hmem, hrest⟩
      · refine List.pairwise_cons.mpr ⟨fun subscriber hmem => ?_, ih hrest⟩
        rcases mem_insertSubscriber hmem with rfl | hmem
        · omega
        · exact hold _ hmem

/-- Of a sorted list, the writes make one to the active subscriber with the id, if there is one. -/
theorem messagesTo_writesOf {kind : StreamKind} {message : Message} {outcome : ℕ → WriteOutcome}
    {key : SubscriberKey}
    (hsorted : subscribers.Pairwise fun first second => first.id < second.id) :
    messagesTo key (writesOf kind message outcome subscribers) =
      if key.1 = kind ∧ (subscribers.find? fun subscriber => subscriber.id = key.2).map (·.active) =
        some true then [message] else [] := by
  induction subscribers with
  | nil => simp [messagesTo, writesOf]
  | cons subscriber rest ih =>
      obtain ⟨hfirst, hrest⟩ := List.pairwise_cons.mp hsorted
      have hmessages : messagesTo key (writesOf kind message outcome (subscriber :: rest)) =
          (if subscriber.active = true ∧ (kind, subscriber.id) = key then [message] else []) ++
            messagesTo key (writesOf kind message outcome rest) := by
        cases hactive : subscriber.active with
        | false => simp [messagesTo, writesOf, hactive]
        | true =>
            by_cases hkey : (kind, subscriber.id) = key
            · simp [messagesTo, writesOf, writeOf, hactive, hkey]
            · simp [messagesTo, writesOf, writeOf, hactive, hkey]
      rw [hmessages, ih hrest]
      by_cases hid : subscriber.id = key.2
      · have hnone : rest.find? (fun subscriber => subscriber.id = key.2) = none := by
          refine List.find?_eq_none.mpr fun other hmem => ?_
          have := hfirst other hmem
          simp
          omega
        have hkey : (kind, subscriber.id) = key ↔ key.1 = kind := by
          rw [hid]
          exact ⟨fun h => h ▸ rfl, fun h => h ▸ rfl⟩
        rw [hnone, List.find?_cons_of_pos (by simpa using hid)]
        simp [hkey, and_comm]
      · have hkey : (kind, subscriber.id) ≠ key := fun h => hid (h ▸ rfl)
        rw [List.find?_cons_of_neg (by simpa using hid), if_neg fun h => hkey h.2, List.nil_append]

theorem succeeded_of_mem {kind : StreamKind} {message : Message} {outcome : ℕ → WriteOutcome}
    {write : Write SubscriberKey Message} (h : write ∈ writesOf kind message outcome subscribers) :
    write.succeeded = decide (outcome write.key.2 = .written) := by
  obtain ⟨subscriber, -, rfl⟩ := List.mem_map.mp h
  rfl

theorem kind_of_messagesTo {kind : StreamKind} {message : Message} {outcome : ℕ → WriteOutcome}
    {key : SubscriberKey} (h : messagesTo key (writesOf kind message outcome subscribers) ≠ []) :
    kind = key.1 := by
  obtain ⟨_, hmem⟩ := List.exists_mem_of_ne_nil _ h
  obtain ⟨write, hwrite, -⟩ := List.mem_map.mp hmem
  obtain ⟨hwrite, hkey⟩ := List.mem_filter.mp hwrite
  obtain ⟨subscriber, -, rfl⟩ := List.mem_map.mp hwrite
  rw [← of_decide_eq_true hkey]
  rfl

/-- The writes fail on those written to whose outcome is not `written`. -/
theorem failsOn_writesOf (kind : StreamKind) (message : Message) (outcome : ℕ → WriteOutcome)
    (subscribers : List Subscriber) (key : SubscriberKey) :
    failsOn key (writesOf kind message outcome subscribers) = true ↔
      messagesTo key (writesOf kind message outcome subscribers) ≠ [] ∧
        outcome key.2 ≠ .written := by
  have hfails (write : Write SubscriberKey Message)
      (hmem : write ∈ writesOf kind message outcome subscribers) (hkey : write.key = key) :
      write.succeeded = false ↔ outcome key.2 ≠ .written := by
    rw [succeeded_of_mem hmem, hkey, decide_eq_false_iff_not]
  simp only [failsOn, messagesTo, List.any_eq_true, ne_eq, List.map_eq_nil_iff,
    List.filter_eq_nil_iff, not_forall, Bool.and_eq_true, Bool.not_eq_true', decide_eq_true_eq,
    not_not]
  constructor
  · rintro ⟨write, hmem, hkey, hfailed⟩
    exact ⟨⟨write, hmem, hkey⟩, (hfails write hmem hkey).mp hfailed⟩
  · rintro ⟨⟨write, hmem, hkey⟩, houtcome⟩
    exact ⟨write, hmem, hkey, (hfails write hmem hkey).mpr houtcome⟩

end

namespace Stream

variable {stream : Stream} {id id' : ℕ}

theorem flag_insert (filter : StreamFilter) : Stream.flag
      { stream with subscribers := insertSubscriber ⟨id, filter, true⟩ stream.subscribers } id' =
    if id = id' then some true else stream.flag id' := by
  rw [flag, lookup, find_insertSubscriber]
  split_ifs
  · rfl
  · rfl

theorem flag_erase : Stream.flag
      { stream with subscribers := stream.subscribers.filter fun subscriber => subscriber.id ≠ id }
        id' =
    if id = id' then none else stream.flag id' := by
  rw [flag, lookup, List.find?_filter]
  split_ifs with hid
  · rw [List.find?_eq_none.mpr, Option.map_none]
    simp [hid]
  · rw [flag, lookup]
    congr 2
    funext subscriber
    by_cases hsub : subscriber.id = id'
    · simp [hsub, Ne.symm hid]
    · simp [hsub]

theorem flag_publish (event : Event) (outcome : ℕ → WriteOutcome) :
    (stream.publish event outcome).1.flag id =
      (stream.flag id).map fun active => active && decide (outcome id = .written) := by
  rw [flag, lookup, subscribers_publish, List.find?_map, flag, lookup, Option.map_map,
    Option.map_map]
  have hsame : ((fun subscriber : Subscriber => decide (subscriber.id = id)) ∘
      fun subscriber : Subscriber => subscriber.afterWrite outcome) =
        fun subscriber : Subscriber => decide (subscriber.id = id) := rfl
  rw [hsame]
  cases hfound : stream.subscribers.find? fun subscriber => decide (subscriber.id = id) with
  | none => rfl
  | some subscriber =>
      have hid : subscriber.id = id := by simpa using List.find?_some hfound
      simp [Subscriber.afterWrite, hid]

theorem Sorted.publish (h : stream.Sorted) (event : Event) (outcome : ℕ → WriteOutcome) :
    (stream.publish event outcome).1.Sorted :=
  List.pairwise_map.mpr h

end Stream

end Kawin.Kasvc
