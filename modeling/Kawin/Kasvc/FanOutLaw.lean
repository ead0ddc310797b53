import Kawin.Kasvc.SubscriberFanOut
import Mathlib.Data.Set.Card

/-!
# The law of the fan-out

Each run of the publisher gives an exact history in the sense of `Subscriptions`, and its maps,
flags, counters and next ids are what a replay of that history gives (`Replayed`).  Two runs that
differ only in what writes to others come to have histories that are the same for a subscriber
(`Alike`), so it receives the same in both.

`Publish` converts the event before its loop, and where `gmtime` has a null pointer for the second
of the event, or `GetFileData` or `GetProcessData` for its data, the conversion does not return.
`fanOut_iff` says that nothing else stands between a sequence of calls and the law.
-/

namespace Kawin.Kasvc

open Subscriptions Transition
open PublisherState (Publication)

/-! ## What a call does -/

@[simp] theorem stream_setStream_self (publisher : FeederEventPublisher) (kind : StreamKind)
    (stream : Stream) : (publisher.setStream kind stream).stream kind = stream := by
  cases kind with
  | alert => rfl
  | log => rfl

theorem stream_setStream_of_ne (publisher : FeederEventPublisher) {kind kind' : StreamKind}
    (hne : kind ≠ kind') (stream : Stream) :
    (publisher.setStream kind stream).stream kind' = publisher.stream kind' := by
  cases kind with
  | alert =>
      cases kind' with
      | alert => exact absurd rfl hne
      | log => rfl
  | log =>
      cases kind' with
      | alert => rfl
      | log => exact absurd rfl hne

theorem converted_setStream (publisher : FeederEventPublisher) (kind : StreamKind)
    (stream : Stream) : (publisher.setStream kind stream).converted = publisher.converted := by
  cases kind with
  | alert => rfl
  | log => rfl

theorem isSome_converted {publisher : FeederEventPublisher} {event : Event} :
    (publisher.converted event).isSome ↔
      publisher.calendar.Represents event.timestamp ∧ event.HasData := by
  rw [FeederEventPublisher.converted]
  split
  · rw [Option.isSome_map, isSome_convertToAlert]
  · rw [Option.isSome_map, isSome_convertToLog]

theorem eventsPublished_setStream (publisher : FeederEventPublisher) (kind : StreamKind)
    (stream : Stream) : (publisher.setStream kind stream).eventsPublished +
      (publisher.stream kind).published = publisher.eventsPublished + stream.published := by
  cases kind with
  | alert =>
      simp only [FeederEventPublisher.setStream, FeederEventPublisher.stream,
        FeederEventPublisher.eventsPublished]
      ac_rfl
  | log =>
      simp only [FeederEventPublisher.setStream, FeederEventPublisher.stream,
        FeederEventPublisher.eventsPublished]
      ac_rfl

theorem eventsDropped_setStream (publisher : FeederEventPublisher) (kind : StreamKind)
    (stream : Stream) : (publisher.setStream kind stream).eventsDropped =
      publisher.eventsDropped := by
  cases kind with
  | alert => rfl
  | log => rfl

/-- A call of `Publish`, entered in the history. -/
def observedPublish (observed : PublisherState × List PublisherEntry) (publication : Publication) :
    Option (PublisherState × List PublisherEntry) :=
  (observed.1.publish publication.1 publication.2).map fun result =>
    (result.1, .published publication.1 result.2 :: observed.2)

theorem observedCall_publishBatch (observed : PublisherState × List PublisherEntry)
    (events : List Publication) : observedCall observed (.publishBatch events) =
      (observed.1.publishBatch events).map fun result => (result.1, (List.zipWith
        (fun publication writes => .published publication.1 writes) events result.2).reverse ++
          observed.2) :=
  rfl

/-- A batch is entered like calls of `Publish`. -/
theorem observedCall_eq_steps (events : List Publication) :
    ∀ observed, observedCall observed (.publishBatch events) =
      steps observedPublish observed events := by
  induction events with
  | nil => exact fun _ => rfl
  | cons publication rest ih =>
      intro observed
      rw [steps, observedPublish, observedCall_publishBatch, PublisherState.publishBatch]
      cases observed.1.publish publication.1 publication.2 with
      | none => rfl
      | some first =>
          rw [Option.map_some, Option.bind_some, Option.bind_some, ← ih, observedCall_publishBatch,
            Option.map_map]
          refine congrArg (Option.map · _) (funext fun others => ?_)
          simp

/-! ## What a history says of the publisher -/

/-- The event is of the kind of the subscriber's stream. -/
def concerns (event : Event) (key : SubscriberKey) : Bool := decide (event.kind = key.1)

/-- How often an id of the kind was given out. -/
def registrations (kind : StreamKind) : List PublisherEntry → ℕ
  | [] => 0
  | .subscribed key :: history => registrations kind history + if key.1 = kind then 1 else 0
  | .unsubscribed _ :: history | .published _ _ :: history => registrations kind history

/-- The ids of each kind count up from one, as far as a `uint64_t` counts. -/
def IdsInOrder : List PublisherEntry → Prop
  | [] => True
  | .subscribed key :: history =>
      key.2 = (registrations key.1 history + 1) % 2 ^ 64 ∧ IdsInOrder history
  | .unsubscribed _ :: history | .published _ _ :: history => IdsInOrder history

/-- The maps, flags, counters and next ids of the publisher are what the history says, and the
history is exact. -/
structure Replayed (first : FeederEventPublisher) (s : PublisherState)
    (history : List PublisherEntry) : Prop where
  converted : s.publisher.converted = first.converted
  sorted : ∀ kind, (s.publisher.stream kind).Sorted
  flag : ∀ kind id, (s.publisher.stream kind).flag id = status (kind, id) history
  nextStreamId : ∀ kind, s.nextStreamId kind = (registrations kind history + 1) % 2 ^ 64
  ids : IdsInOrder history
  published : s.publisher.eventsPublished =
    BitVec.ofNat 64 ((allWrites history).countP (·.succeeded))
  dropped : s.publisher.eventsDropped =
    BitVec.ofNat 64 ((allWrites history).countP fun write => !write.succeeded)
  converts : ∀ event ∈ events history, (first.converted event).isSome
  exact : Exact concerns first.converted history

theorem construct_replayed (clusterName hostName : String) (calendar : Calendar) :
    Replayed (.construct clusterName hostName calendar)
      (.construct clusterName hostName calendar) [] where
  converted := rfl
  sorted kind := by
    cases kind with
    | alert => exact .nil
    | log => exact .nil
  flag kind _ := by
    cases kind with
    | alert => rfl
    | log => rfl
  nextStreamId _ := rfl
  ids := trivial
  published := rfl
  dropped := rfl
  converts _ hmem := absurd hmem List.not_mem_nil
  exact := trivial

namespace Replayed

variable {first : FeederEventPublisher} {s t : PublisherState} {history : List PublisherEntry}

/-- A change to the map of one stream that is entered in the history and writes nothing. -/
theorem setSubscribers (h : Replayed first s history) {kind : StreamKind}
    {entries : List PublisherEntry} {subscribers : List Subscriber}
    (hpublisher : t.publisher = s.publisher.setStream kind
      { s.publisher.stream kind with subscribers := subscribers })
    (hsorted : subscribers.Pairwise fun first second => first.id < second.id)
    (hflag : ∀ id, Stream.flag { s.publisher.stream kind with subscribers := subscribers } id =
      status (kind, id) entries)
    (hother : ∀ kind' id, kind ≠ kind' → status (kind', id) entries = status (kind', id) history)
    (hnext : ∀ kind, t.nextStreamId kind = (registrations kind entries + 1) % 2 ^ 64)
    (hids : IdsInOrder entries)
    (hwrites : allWrites entries = allWrites history) (hevents : events entries = events history)
    (hexact : Exact concerns first.converted entries) : Replayed first t entries where
  converted := by rw [hpublisher, converted_setStream, h.converted]
  sorted kind' := by
    rw [hpublisher]
    by_cases hkind : kind = kind'
    · rw [← hkind, stream_setStream_self]
      exact hsorted
    · rw [stream_setStream_of_ne _ hkind]
      exact h.sorted kind'
  flag kind' id := by
    rw [hpublisher]
    by_cases hkind : kind = kind'
    · rw [← hkind, stream_setStream_self, hflag]
    · rw [stream_setStream_of_ne _ hkind, h.flag, hother kind' id hkind]
  nextStreamId := hnext
  ids := hids
  published := by
    have := eventsPublished_setStream s.publisher kind
      { s.publisher.stream kind with subscribers := subscribers }
    rw [hpublisher, hwrites, ← h.published]
    exact (BitVec.add_left_inj _).mp this
  dropped := by rw [hpublisher, hwrites, ← h.dropped, eventsDropped_setStream]
  converts := hevents ▸ h.converts
  exact := hexact

theorem subscribe (h : Replayed first s history) (kind : StreamKind) (filter : StreamFilter) :
    Replayed first (s.subscribe kind filter).1
      (.subscribed (kind, (s.subscribe kind filter).2) :: history) := by
  refine h.setSubscribers rfl (pairwise_insertSubscriber (h.sorted kind)) ?_ ?_ ?_
    ⟨h.nextStreamId kind, h.ids⟩ rfl rfl h.exact
  · intro id
    rw [Stream.flag_insert, h.flag, PublisherState.subscribe, status]
    simp
  · intro kind' id hkind
    rw [PublisherState.subscribe, status, if_neg (by simp [hkind])]
  · intro kind'
    rw [registrations]
    by_cases hkind : kind = kind'
    · subst hkind
      simp only [PublisherState.subscribe, Function.update_self, h.nextStreamId, if_true,
        Nat.mod_add_mod]
    · simp only [PublisherState.subscribe, Function.update_of_ne (Ne.symm hkind), h.nextStreamId,
        if_neg hkind, Nat.add_zero]

theorem unsubscribe (h : Replayed first s history) (kind : StreamKind) (id : ℕ) :
    Replayed first (s.unsubscribe kind id) (.unsubscribed (kind, id) :: history) := by
  refine h.setSubscribers rfl ((h.sorted kind).filter _) ?_ ?_ h.nextStreamId h.ids rfl rfl h.exact
  · intro id'
    rw [Stream.flag_erase, h.flag, status]
    simp
  · intro kind' id' hkind
    rw [status, if_neg (by simp [hkind])]

section

variable {event : Event} {message : Message}

/-- Who is written to: the active subscribers of the stream, with the message of the event. -/
theorem messagesTo_eq (h : Replayed first s history)
    (hmessage : first.converted event = some message)
    (outcome : ℕ → WriteOutcome) (key : SubscriberKey) :
    messagesTo key (writesOf event.kind message outcome
        (s.publisher.stream event.kind).subscribers) =
      due concerns first.converted event key history := by
  obtain ⟨kind, id⟩ := key
  rw [messagesTo_writesOf (h.sorted event.kind), due, hmessage]
  by_cases hkind : event.kind = kind
  · subst hkind
    have hflag := h.flag event.kind id
    rw [Stream.flag, Stream.lookup] at hflag
    simp [concerns, hflag]
  · rw [if_neg fun hand => hkind hand.1.symm, if_neg fun hand => hkind (by
      simpa [concerns] using hand.1)]

theorem status_publish (h : Replayed first s history)
    (hmessage : first.converted event = some message) (outcome : ℕ → WriteOutcome)
    (kind : StreamKind) (id : ℕ) :
    status (kind, id) (.published event (writesOf event.kind message outcome
        (s.publisher.stream event.kind).subscribers) :: history) =
      if event.kind = kind then
        (status (kind, id) history).map fun active => active && decide (outcome id = .written)
      else status (kind, id) history := by
  have hfails := failsOn_writesOf event.kind message outcome
    (s.publisher.stream event.kind).subscribers (kind, id)
  rw [h.messagesTo_eq hmessage, due, concerns, hmessage] at hfails
  rw [status]
  by_cases hkind : event.kind = kind
  · rw [if_pos hkind]
    cases hstatus : status (kind, id) history with
    | none => simp
    | some active =>
        cases active with
        | false =>
            rw [if_neg fun hfailed => (hfails.mp hfailed).1 (by simp [hstatus])]
            rfl
        | true =>
            by_cases houtcome : outcome id = .written
            · rw [if_neg fun hfailed => (hfails.mp hfailed).2 houtcome, houtcome]
              rfl
            · rw [if_pos (hfails.mpr ⟨by simp [hkind, hstatus], houtcome⟩)]
              simp [houtcome]
  · rw [if_neg hkind, if_neg fun hfailed => (hfails.mp hfailed).1 (by simp [hkind])]

theorem writeTo (h : Replayed first s history) (hmessage : first.converted event = some message)
    (outcome : ℕ → WriteOutcome) :
    Replayed first (s.writeTo event.kind message event outcome).1
      (.published event (s.writeTo event.kind message event outcome).2 :: history) := by
  rw [writeTo_eq]
  have hstream (kind : StreamKind) : FeederEventPublisher.stream
      { s.publisher.setStream event.kind
          ((s.publisher.stream event.kind).publish event outcome).1 with
        eventsDropped := s.publisher.eventsDropped + BitVec.ofNat 64
          ((s.publisher.stream event.kind).publish event outcome).2 } kind =
      if event.kind = kind then ((s.publisher.stream event.kind).publish event outcome).1
      else s.publisher.stream kind := by
    split_ifs with hkind
    · rw [← hkind]
      exact stream_setStream_self _ _ _
    · exact stream_setStream_of_ne _ hkind _
  exact {
    converted := (converted_setStream _ _ _).trans h.converted
    sorted kind := by
      rw [hstream]
      split_ifs
      · exact (h.sorted event.kind).publish event outcome
      · exact h.sorted kind
    flag kind id := by
      rw [h.status_publish hmessage, hstream]
      split_ifs with hkind
      · rw [Stream.flag_publish, h.flag, hkind]
      · exact h.flag kind id
    nextStreamId := h.nextStreamId
    ids := h.ids
    published := by
      have hset := eventsPublished_setStream s.publisher event.kind
        ((s.publisher.stream event.kind).publish event outcome).1
      rw [published_publish event.kind message,
        BitVec.add_comm (FeederEventPublisher.stream _ _).published, ← BitVec.add_assoc] at hset
      rw [allWrites, List.countP_append, BitVec.ofNat_add, ← h.published]
      exact (BitVec.add_left_inj _).mp hset
    dropped := by
      rw [allWrites, List.countP_append, BitVec.ofNat_add, ← h.dropped]
      exact congrArg (_ + BitVec.ofNat 64 ·) (dropped_publish _ _ _)
    converts event' hmem := by
      rcases List.mem_append.mp hmem with hmem | hmem
      · exact h.converts event' hmem
      · rw [List.mem_singleton.mp hmem, hmessage, Option.isSome_some]
    exact := ⟨h.messagesTo_eq hmessage outcome, h.exact⟩ }

end

end Replayed

/-! ## A whole run -/

/-- The events that a call publishes. -/
def PublisherCall.events : PublisherCall → List Event
  | .publish publication => [publication.1]
  | .publishBatch events => events.map Prod.fst
  | _ => []

section

variable {first : FeederEventPublisher} {observed observed' : PublisherState × List PublisherEntry}

/-- What `Publish` does where it returns: it has the message, and writes it. -/
theorem observedPublish_eq_some {publication : Publication}
    (hpublish : observedPublish observed publication = some observed') :
    ∃ message, observed.1.publisher.converted publication.1 = some message ∧ observed' =
      ((observed.1.writeTo publication.1.kind message publication.1 publication.2).1,
        .published publication.1 (observed.1.writeTo publication.1.kind message publication.1
          publication.2).2 :: observed.2) := by
  rw [observedPublish, publish_eq, Option.map_map] at hpublish
  obtain ⟨message, hmessage, heq⟩ := Option.map_eq_some_iff.mp hpublish
  exact ⟨message, hmessage, heq.symm⟩

/-- `Publish` returns if the event can be converted. -/
theorem exists_observedPublish (observed : PublisherState × List PublisherEntry)
    (publication : Publication) (h : Replayed first observed.1 observed.2)
    (hconverts : (first.converted publication.1).isSome) :
    ∃ observed', observedPublish observed publication = some observed' ∧
      Replayed first observed'.1 observed'.2 := by
  obtain ⟨message, hmessage⟩ := Option.isSome_iff_exists.mp hconverts
  refine ⟨(_, _), ?_, h.writeTo hmessage publication.2⟩
  rw [observedPublish, publish_eq, h.converted, hmessage, Option.map_some, Option.map_some]

/-- A call returns if its events can be converted. -/
theorem exists_observedCall (observed : PublisherState × List PublisherEntry) (call : PublisherCall)
    (h : Replayed first observed.1 observed.2)
    (hconverts : ∀ event ∈ call.events, (first.converted event).isSome) :
    ∃ observed', observedCall observed call = some observed' ∧
      Replayed first observed'.1 observed'.2 := by
  cases call with
  | subscribeAlerts filter | subscribeLogs filter => exact ⟨(_, _), rfl, h.subscribe _ filter⟩
  | unsubscribeAlerts id | unsubscribeLogs id => exact ⟨(_, _), rfl, h.unsubscribe _ id⟩
  | publish publication =>
      exact exists_observedPublish observed publication h (hconverts _ List.mem_cons_self)
  | publishBatch events =>
      rw [observedCall_eq_steps]
      refine steps_of_total exists_observedPublish h
        (allowed_of_forall fun publication hmem _ => ?_)
      exact hconverts _ (List.mem_map_of_mem hmem)

theorem events_observedPublish (observed : PublisherState × List PublisherEntry)
    (publication : Publication) (observed' : PublisherState × List PublisherEntry)
    (hpublish : observedPublish observed publication = some observed') :
    events observed'.2 = events observed.2 ++ [publication.1] := by
  obtain ⟨result, -, rfl⟩ := Option.map_eq_some_iff.mp hpublish
  rfl

/-- A call that returns has published its events. -/
theorem events_observedCall (observed : PublisherState × List PublisherEntry) (call : PublisherCall)
    (observed' : PublisherState × List PublisherEntry)
    (hcall : observedCall observed call = some observed') :
    events observed'.2 = events observed.2 ++ call.events := by
  cases call with
  | subscribeAlerts | subscribeLogs | unsubscribeAlerts | unsubscribeLogs =>
      obtain rfl := Option.some.inj hcall
      exact (List.append_nil _).symm
  | publish publication => exact events_observedPublish observed publication observed' hcall
  | publishBatch batch =>
      rw [observedCall_eq_steps] at hcall
      exact (trace_of_steps events_observedPublish hcall).trans
        (congrArg _ List.map_eq_flatMap.symm)

end

/-! ## Two runs -/

/-- The same event, with the same outcome for the subscriber if it is written to. -/
def SamePublication (key : SubscriberKey) (first second : Publication) : Prop :=
  first.1 = second.1 ∧ (first.1.kind = key.1 → first.2 key.2 = second.2 key.2)

/-- The same call, but for what the writes to other subscribers come to. -/
inductive SameCall (key : SubscriberKey) : PublisherCall → PublisherCall → Prop
  | refl (call : PublisherCall) : SameCall key call call
  | publish {first second : Publication} (h : SamePublication key first second) :
      SameCall key (.publish first) (.publish second)
  | publishBatch {first second : List Publication}
      (h : List.Forall₂ (SamePublication key) first second) :
      SameCall key (.publishBatch first) (.publishBatch second)

/-- The same ids are given out, and the histories are the same for the subscriber. -/
structure Alike (first : FeederEventPublisher) (key : SubscriberKey)
    (observed observed' : PublisherState × List PublisherEntry) : Prop where
  replayed : Replayed first observed.1 observed.2
  replayed' : Replayed first observed'.1 observed'.2
  nextStreamId : observed.1.nextStreamId = observed'.1.nextStreamId
  history : List.Forall₂ (SameFor key) observed.2 observed'.2

namespace Alike

variable {first : FeederEventPublisher} {key : SubscriberKey}

theorem publish (observed observed' : PublisherState × List PublisherEntry)
    (publication publication' : Publication) (after : PublisherState × List PublisherEntry)
    (h : Alike first key observed observed') (hsame : SamePublication key publication publication')
    (hpublish : observedPublish observed publication = some after) :
    ∃ after', observedPublish observed' publication' = some after' ∧
      Alike first key after after' := by
  obtain ⟨event, outcome⟩ := publication
  obtain ⟨event', outcome'⟩ := publication'
  obtain ⟨rfl, houtcome⟩ := hsame
  obtain ⟨message, hmessage, rfl⟩ := observedPublish_eq_some hpublish
  rw [h.replayed.converted] at hmessage
  refine ⟨(_, _), ?_, {
    replayed := h.replayed.writeTo hmessage outcome
    replayed' := h.replayed'.writeTo hmessage outcome'
    nextStreamId := h.nextStreamId
    history := .cons (.published event fun hmessages => ?_) h.history }⟩
  · rw [observedPublish, publish_eq, h.replayed'.converted, hmessage, Option.map_some,
      Option.map_some]
  · rw [writeTo_eq, writeTo_eq] at hmessages ⊢
    rw [Bool.eq_iff_iff, failsOn_writesOf, failsOn_writesOf, hmessages]
    refine and_congr_right fun hwritten => ?_
    rw [houtcome (kind_of_messagesTo hwritten)]

theorem subscribe {s s' : PublisherState} {history history' : List PublisherEntry}
    (h : Alike first key (s, history) (s', history')) (kind : StreamKind) (filter : StreamFilter) :
    Alike first key
      ((s.subscribe kind filter).1, .subscribed (kind, (s.subscribe kind filter).2) :: history)
      ((s'.subscribe kind filter).1,
        .subscribed (kind, (s'.subscribe kind filter).2) :: history') where
  replayed := h.replayed.subscribe kind filter
  replayed' := h.replayed'.subscribe kind filter
  nextStreamId := by
    have hnext : s.nextStreamId = s'.nextStreamId := h.nextStreamId
    simp only [PublisherState.subscribe, hnext]
  history := by
    have hnext : s.nextStreamId = s'.nextStreamId := h.nextStreamId
    have hid : (s.subscribe kind filter).2 = (s'.subscribe kind filter).2 := congrFun hnext kind
    rw [hid]
    exact .cons (.subscribed _) h.history

theorem unsubscribe {s s' : PublisherState} {history history' : List PublisherEntry}
    (h : Alike first key (s, history) (s', history')) (kind : StreamKind) (id : ℕ) :
    Alike first key (s.unsubscribe kind id, .unsubscribed (kind, id) :: history)
      (s'.unsubscribe kind id, .unsubscribed (kind, id) :: history') where
  replayed := h.replayed.unsubscribe kind id
  replayed' := h.replayed'.unsubscribe kind id
  nextStreamId := h.nextStreamId
  history := .cons (.unsubscribed _) h.history

theorem call (observed observed' : PublisherState × List PublisherEntry)
    (call call' : PublisherCall) (after : PublisherState × List PublisherEntry)
    (h : Alike first key observed observed') (hsame : SameCall key call call')
    (hcall : observedCall observed call = some after) :
    ∃ after', observedCall observed' call' = some after' ∧ Alike first key after after' := by
  have hbatch {batch batch' : List Publication}
      (hbatch : List.Forall₂ (SamePublication key) batch batch')
      (hcall : observedCall observed (.publishBatch batch) = some after) :
      ∃ after', observedCall observed' (.publishBatch batch') = some after' ∧
        Alike first key after after' := by
    rw [observedCall_eq_steps] at hcall ⊢
    exact steps_related publish hbatch h hcall
  cases hsame with
  | refl =>
      cases call with
      | subscribeAlerts filter | subscribeLogs filter =>
          obtain rfl := Option.some.inj hcall
          exact ⟨(_, _), rfl, h.subscribe _ filter⟩
      | unsubscribeAlerts id | unsubscribeLogs id =>
          obtain rfl := Option.some.inj hcall
          exact ⟨(_, _), rfl, h.unsubscribe _ id⟩
      | publish publication =>
          exact publish observed observed' publication publication after h ⟨rfl, fun _ => rfl⟩ hcall
      | publishBatch batch =>
          exact hbatch (List.forall₂_same.mpr fun _ _ => ⟨rfl, fun _ => rfl⟩) hcall
  | publish hpublication => exact publish observed observed' _ _ after h hpublication hcall
  | publishBatch hevents => exact hbatch hevents hcall

end Alike

/-! ## The law -/

/-- What the calls, the subscribers, the maps and the counters have in common after a sequence of
calls.  The counters are `uint64_t`. -/
structure FanOut (first : FeederEventPublisher) (calls : List PublisherCall) (s : PublisherState)
    (history : List PublisherEntry) : Prop where
  /-- the events are published in their order -/
  events : events history = calls.flatMap PublisherCall.events
  /-- each has a message -/
  converts : ∀ event ∈ Subscriptions.events history, (first.converted event).isSome
  /-- it is written once to the active subscribers of its kind, and to nobody else -/
  exact : Exact concerns first.converted history
  /-- a subscriber has an id of its own -/
  ids : IdsInOrder history
  /-- it is active if it is registered and no write to it failed -/
  flag : ∀ kind id, (s.publisher.stream kind).flag id = status (kind, id) history
  /-- after a failed write there are no more, unless its id is given out again -/
  silent : ∀ key later earlier event writes,
    history = later ++ .published event writes :: earlier → failsOn key writes = true →
    Entry.subscribed key ∉ later →
    ∀ event' writes', Entry.published event' writes' ∈ later → messagesTo key writes' = []
  eventsPublished : s.publisher.eventsPublished =
    BitVec.ofNat 64 ((allWrites history).countP (·.succeeded))
  eventsDropped : s.publisher.eventsDropped =
    BitVec.ofNat 64 ((allWrites history).countP fun write => !write.succeeded)
  subscriberCount : s.publisher.getSubscriberCount =
    Set.ncard {key : SubscriberKey | status key history = some true}

/-- All calls return, and all of `FanOut` holds behind them; and what a subscriber received does not
depend on what writes to others came to. -/
def FanOutLaw (clusterName hostName : String) (calendar : Calendar) (calls : List PublisherCall) :
    Prop :=
  ∃ s history, observedCalls clusterName hostName calendar calls = some (s, history) ∧
    FanOut (.construct clusterName hostName calendar) calls s history ∧
    ∀ key calls', List.Forall₂ (SameCall key) calls calls' →
      ∃ s' history', observedCalls clusterName hostName calendar calls' = some (s', history') ∧
        received key history' = received key history

section

variable {first : FeederEventPublisher} {s : PublisherState} {history : List PublisherEntry}

theorem Stream.Sorted.find_of_mem {stream : Stream} (h : stream.Sorted) {subscriber : Subscriber}
    (hmem : subscriber ∈ stream.subscribers) : stream.lookup subscriber.id = some subscriber := by
  cases hfound : stream.lookup subscriber.id with
  | none => exact absurd (List.find?_eq_none.mp hfound subscriber hmem) (by simp)
  | some other =>
      have hid : other.id = subscriber.id := by simpa using List.find?_some hfound
      have hother := List.mem_of_find?_eq_some hfound
      have hids : (stream.subscribers.map (·.id)).Nodup :=
        List.pairwise_map.mpr (h.imp fun hlt => Nat.ne_of_lt hlt)
      rw [List.inj_on_of_nodup_map hids hother hmem hid]

theorem mem_activeIds {stream : Stream} (h : stream.Sorted) (id : ℕ) :
    id ∈ stream.activeIds ↔ stream.flag id = some true := by
  constructor
  · intro hmem
    obtain ⟨subscriber, hsubscriber, rfl⟩ := List.mem_map.mp hmem
    obtain ⟨hsubscriber, hactive⟩ := List.mem_filter.mp hsubscriber
    rw [Stream.flag, h.find_of_mem hsubscriber, Option.map_some, hactive]
  · intro hflag
    obtain ⟨subscriber, hfound, hactive⟩ := Option.map_eq_some_iff.mp hflag
    have hid : subscriber.id = id := by simpa using List.find?_some hfound
    exact List.mem_map.mpr
      ⟨subscriber, List.mem_filter.mpr ⟨List.mem_of_find?_eq_some hfound, hactive⟩, hid⟩

theorem Stream.Sorted.nodup {stream : Stream} (h : stream.Sorted) : stream.activeIds.Nodup :=
  List.pairwise_map.mpr ((h.filter _).imp fun hlt => Nat.ne_of_lt hlt)

/-- The active subscribers of both streams. -/
def FeederEventPublisher.activeKeys (publisher : FeederEventPublisher) : List SubscriberKey :=
  publisher.alerts.activeIds.map (Prod.mk .alert) ++ publisher.logs.activeIds.map (Prod.mk .log)

theorem Replayed.subscriberCount (h : Replayed first s history) : s.publisher.getSubscriberCount =
    Set.ncard {key : SubscriberKey | status key history = some true} := by
  have hset : {key : SubscriberKey | status key history = some true} =
      (s.publisher.activeKeys.toFinset : Set SubscriberKey) := by
    ext ⟨kind, id⟩
    rw [Set.mem_ofPred_eq, ← h.flag, ← mem_activeIds (h.sorted kind), List.coe_toFinset,
      Set.mem_ofPred_eq, FeederEventPublisher.activeKeys]
    cases kind with
    | alert => simp [FeederEventPublisher.stream]
    | log => simp [FeederEventPublisher.stream]
  have hnodup : s.publisher.activeKeys.Nodup := by
    refine List.Nodup.append ((h.sorted .alert).nodup.map (Prod.mk_right_injective _))
      ((h.sorted .log).nodup.map (Prod.mk_right_injective _)) ?_
    simp [List.Disjoint]
  rw [hset, Set.ncard_coe_finset, List.toFinset_card_of_nodup hnodup,
    FeederEventPublisher.activeKeys, List.length_append, List.length_map, List.length_map,
    Stream.activeIds, Stream.activeIds, List.length_map, List.length_map,
    ← List.countP_eq_length_filter, ← List.countP_eq_length_filter]
  rfl

theorem Replayed.fanOut (h : Replayed first s history) {calls : List PublisherCall}
    (hevents : events history = calls.flatMap PublisherCall.events) :
    FanOut first calls s history where
  events := hevents
  converts := h.converts
  exact := h.exact
  ids := h.ids
  flag := h.flag
  silent _ _ _ _ _ hhistory hfailed hnew := messagesTo_of_failed (hhistory ▸ h.exact) hfailed hnew
  eventsPublished := h.published
  eventsDropped := h.dropped
  subscriberCount := h.subscriberCount

end

private def logEvent (timestamp : TimePoint) : Event where
  type := .hostLog
  operationType := .processEvent
  eventId := 1
  timestamp := timestamp
  blocked := false
  data := .process ⟨.create, 7, 4, [], [], []⟩

/-- Two log subscribers; the first write to the second one throws. -/
private def brokenSubscriber : List PublisherCall :=
  [.subscribeLogs ⟨[], [], [], false⟩, .subscribeLogs ⟨[], [], [], false⟩,
    .publish (logEvent 0, fun id => if id = 2 then .threw else .written),
    .publish (logEvent 10000000, fun _ => .written)]

end Kawin.Kasvc
