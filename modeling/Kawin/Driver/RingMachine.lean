import Kawin.Driver.RingGeometry
import Kawin.Base.Transition
import Mathlib.Logic.Function.Basic

/-!
# Producers and the consumer, step by step

Any number of `ProduceSlot` calls run beside the one consumer of `ConsumeOne`, each
cut into its atomic steps: a read or a store of one shared word, a compare-exchange,
a copy of one payload.  Memory is sequentially consistent, so a run is an
interleaving of such steps.  Calls are told apart by a number; `Producer` and
`Consumer` say where each of them stands in the source.

Both parties call `KeQueryPerformanceCounter(&now)` and go on with `now`.  The counter is
what that call returns; through its argument it stores the counter's frequency, which never
changes.  So the machine has a clock that no step of the code reads (`RingMachine.now`).

Three ghosts let the laws be stated.  A `Fill` carries the index of the region its
call claimed, `progress` says for every region how far its producer has come (nothing
stored yet, `Claimed` stored with some fields still missing, or committed), and
`claimedAt` says when it was claimed.

Not every run is safe.  `Orderly` collects what the state must be like before a step
for the consumer to stay in step with the claims, one condition for each way the code
can go wrong.  A run of orderly steps may still give a slot up too early; `Patient` is the
condition that it does not.
-/

namespace Kawin.Driver

open ByteMemory Transition

/-! ## Producers -/

/-- What `Enqueue` hands to `ProduceSlot`: a serialised event, which is never empty. -/
structure Payload where
  bytes : Memory
  size : UINT32
  nonempty : 0 < size.toNat

/-- Events of equal bytes, small ones and the largest. -/
def equalBytes (byte : Byte) (size : UINT32) (nonempty : 0 < size.toNat) : Payload :=
  ⟨fun _ => byte, size, nonempty⟩

def hundredBytes (byte : Byte) : Payload := equalBytes byte 100 (by decide)
def twoHundredBytes (byte : Byte) : Payload := equalBytes byte 200 (by decide)
def mostBytes (byte : Byte) : Payload := equalBytes byte 65508 (by decide)

/-- A payload that passed the size test. -/
structure Accepted extends Payload where
  fits : size ≤ maxPayload

/-- A claimed region that its producer fills: an event slot, or the pad before one. -/
structure Fill where
  event : Accepted
  kind : RegionKind
  /-- the head the compare-exchange replaced -/
  cur : LONG
  /-- which of the claims it is -/
  index : ℕ

/-- The header `hdr` or `pad` of the source. -/
def Fill.hdr (f : Fill) : ℕ := slotAt f.cur

/-- How far the producer of a region has come. -/
inductive Progress
  /-- the compare-exchange succeeded, and nothing is stored -/
  | claimed
  /-- `Claimed` is stored; these other fields are not -/
  | filling (unset : List Field)
  | committed
  deriving DecidableEq

/-- Where a `ProduceSlot` call stands. -/
inductive Producer
  | idle
  | checkSize (event : Payload)
  /-- about to count the event as dropped -/
  | countDropped
  | readWriteHead (event : Accepted)
  | readReadHead (event : Accepted) (cur : LONG)
  | exchange (event : Accepted) (cur : LONG)
  /-- about to store `Claimed` -/
  | mark (fill : Fill)
  | queryCounter (fill : Fill)
  | store (fill : Fill) (rest : List (Field × ℕ))
  | nextSeq (fill : Fill)
  | storeSeq (fill : Fill) (seq : LONG)
  | copyPayload (fill : Fill)
  /-- about to store `Committed` -/
  | commit (fill : Fill)
  | countEnqueued
  | returned

/-- The region the call is filling. -/
def Producer.fill? : Producer → Option Fill
  | .mark f | .queryCounter f | .store f _ | .nextSeq f | .storeSeq f _ | .copyPayload f
  | .commit f => some f
  | _ => none

/-- The field a slot header gets after the others. -/
def Fill.last (f : Fill) : List Field := if f.kind = .pad then [] else [.seqNum]

/-- How far the region of a filling call has come. -/
def Producer.progress : Producer → Progress
  | .mark _ => .claimed
  | .queryCounter _ =>
      .filling [.claimedTick, .flags, .reserved, .payloadBytes, .strideBytes, .seqNum]
  | .store f rest => .filling (rest.map Prod.fst ++ f.last)
  | .nextSeq _ | .storeSeq _ _ => .filling [.seqNum]
  | .copyPayload _ | .commit _ => .filling []
  | _ => .committed

/-- A filling call has not committed its region. -/
theorem progress_ne_of_fill {pc : Producer} {f : Fill} (hf : pc.fill? = some f) :
    pc.progress ≠ .committed := by
  cases pc <;> simp [Producer.fill?, Producer.progress] at hf ⊢

/-! ## The consumer -/

/-- Where `ConsumeOne` stands. -/
inductive Consumer
  /-- between two calls, with what the last one returned -/
  | returned (payload : UINT32)
  | readPending
  | readState
  | readPayload
  | readFlags (payload : UINT32)
  | freePad (payload : UINT32)
  | advancePad (payload : UINT32)
  | copyPayload (payload : UINT32)
  | freeSlot (payload : UINT32)
  | advanceSlot (payload : UINT32)
  | readTick
  | queryCounter (claimedTick : UINT64)
  | readStride
  | zeroSlot (n : UINT32)
  | freePoisoned (n : UINT32)
  | advancePoisoned (n : UINT32)
  | countPoisoned
  | advanceFree

/-- The consumer has begun to overwrite the header at the read head. -/
def Consumer.releasing : Consumer → Prop
  | .advancePad _ | .advanceSlot _ | .freePoisoned _ | .advancePoisoned _ => True
  | _ => False

/-! ## The machine -/

structure RingMachine where
  disp : Dispatcher
  producers : ℕ → Producer
  consumer : Consumer
  /-- the performance counter, unwrapped -/
  clock : ℕ
  /-- its frequency -/
  freqHz : UINT64
  progress : ℕ → Progress
  /-- the performance counter at the compare-exchange of each claim -/
  claimedAt : ℕ → ℕ

namespace RingMachine

def init (outside : Memory) (freqHz : UINT64) : RingMachine where
  disp := Dispatcher.init outside freqHz
  producers := fun _ => .idle
  consumer := .returned 0
  clock := 0
  freqHz := freqHz
  progress := fun _ => .claimed
  claimedAt := fun _ => 0

def claims (s : RingMachine) : List Region := s.disp.history.claims

def consumed (s : RingMachine) : ℕ := s.disp.history.consumed

/-- What `KeQueryPerformanceCounter` returns, and what it stores through its argument. -/
def queryPerformanceCounter (s : RingMachine) : UINT64 × UINT64 :=
  (BitVec.ofNat 64 s.clock, s.freqHz)

/-- The variable `now` after `KeQueryPerformanceCounter(&now)`; the source drops the result. -/
def now (s : RingMachine) : UINT64 := s.queryPerformanceCounter.2

/-- The call goes on without touching the ring. -/
def goto (s : RingMachine) (i : ℕ) (pc : Producer) : RingMachine :=
  { s with producers := Function.update s.producers i pc }

/-- The call stores to its region and goes on. -/
def write (s : RingMachine) (i : ℕ) (f : Fill) (m : Memory) (pc : Producer) : RingMachine :=
  { s with
    disp := { s.disp with ring := m }
    producers := Function.update s.producers i pc
    progress := Function.update s.progress f.index pc.progress }

/-- The compare-exchange of the call succeeds. -/
def claim (s : RingMachine) (i : ℕ) (kind : RegionKind) (len payload : UINT32)
    (pc : Producer) : RingMachine :=
  { s with
    disp := s.disp.claim kind len payload
    producers := Function.update s.producers i pc
    progress := Function.update s.progress s.claims.length .claimed
    claimedAt := Function.update s.claimedAt s.claims.length s.clock }

section

variable {s : RingMachine} {i j k : ℕ} {pc : Producer} {f g : Fill} {m : Memory}
  {kind : RegionKind} {len payload : UINT32}

@[simp] theorem goto_self : (s.goto i pc).producers i = pc := Function.update_self ..

theorem goto_of_ne (h : j ≠ i) : (s.goto i pc).producers j = s.producers j :=
  Function.update_of_ne h ..

@[simp] theorem write_self : (s.write i f m pc).producers i = pc := Function.update_self ..

theorem write_of_ne (h : j ≠ i) : (s.write i f m pc).producers j = s.producers j :=
  Function.update_of_ne h ..

/-- Who fills a region after a store to the region of `f` has filled it before. -/
theorem fill_of_write (hf : (s.producers i).fill? = some f)
    (hpc : pc.fill? = some f ∨ pc.fill? = none)
    (hg : ((s.write i f m pc).producers j).fill? = some g) : (s.producers j).fill? = some g := by
  by_cases hj : j = i
  · rw [hj, write_self] at hg
    rcases hpc with hpc | hpc
    · rw [hj, hf, ← hpc, hg]
    · rw [hpc] at hg
      cases hg
  · rwa [write_of_ne hj] at hg

@[simp] theorem write_progress_self : (s.write i f m pc).progress f.index = pc.progress :=
  Function.update_self ..

theorem write_progress_of_ne (h : k ≠ f.index) :
    (s.write i f m pc).progress k = s.progress k :=
  Function.update_of_ne h ..

@[simp] theorem claim_self : (s.claim i kind len payload pc).producers i = pc :=
  Function.update_self ..

theorem claim_of_ne (h : j ≠ i) :
    (s.claim i kind len payload pc).producers j = s.producers j :=
  Function.update_of_ne h ..

/-- Who fills a region after a claim is the claiming call, or has filled it before. -/
theorem fill_of_claim (hg : ((s.claim i kind len payload pc).producers j).fill? = some g) :
    j = i ∧ pc.fill? = some g ∨ j ≠ i ∧ (s.producers j).fill? = some g := by
  by_cases hj : j = i
  · rw [hj, claim_self] at hg
    exact Or.inl ⟨hj, hg⟩
  · rw [claim_of_ne hj] at hg
    exact Or.inr ⟨hj, hg⟩

@[simp] theorem claim_progress_self :
    (s.claim i kind len payload pc).progress s.claims.length = .claimed :=
  Function.update_self ..

theorem claim_progress_of_ne (h : k ≠ s.claims.length) :
    (s.claim i kind len payload pc).progress k = s.progress k :=
  Function.update_of_ne h ..

@[simp] theorem claim_consumer : (s.claim i kind len payload pc).consumer = s.consumer := rfl

theorem claim_claimedAt_of_ne (h : k ≠ s.claims.length) :
    (s.claim i kind len payload pc).claimedAt k = s.claimedAt k :=
  Function.update_of_ne h ..

theorem claim_claims : (s.claim i kind len payload pc).claims =
    s.claims ++ [⟨kind, s.disp.history.writeTotal, len.toNat, payload.toNat⟩] := rfl

end

def consumerGoto (s : RingMachine) (pc : Consumer) : RingMachine := { s with consumer := pc }

/-- The consumer overwrites the header at the read head. -/
def release (s : RingMachine) (m : Memory) (pc : Consumer) : RingMachine :=
  { s with disp := { s.disp with ring := m }, consumer := pc }

/-- The consumer moves the read head over the oldest region. -/
def take (s : RingMachine) (n : UINT32) (pc : Consumer) : RingMachine :=
  { s with disp := s.disp.take n, consumer := pc }

end RingMachine

/-- The compare-exchange of a `ProduceSlot` call that read the head as `cur`. -/
def exchangeStep (s : RingMachine) (i : ℕ) (event : Accepted) (cur : LONG) : RingMachine :=
  let space := spaceToEnd cur
  let n := stride event.size
  let index := s.claims.length
  -- another call moved the head: the loop starts over
  if s.disp.writeHead ≠ cur then s.goto i (.readWriteHead event)
  -- the pad is filled before the loop comes round to the event again
  else if wraps cur n then
    s.claim i (wrapKind cur) space (space - sizeofSlotHeader) <|
      if space ≥ sizeofSlotHeader then .mark ⟨event, .pad, cur, index⟩ else .readWriteHead event
  else s.claim i .slot n event.size (.mark ⟨event, .slot, cur, index⟩)

/-- The next atomic step of `ProduceSlot`. -/
def producerStep (s : RingMachine) (i : ℕ) : Producer → Option RingMachine
  | .idle | .returned => none
  | .checkSize event =>
      some (s.goto i (if h : event.size ≤ maxPayload then .readWriteHead ⟨event, h⟩
        else .countDropped))
  | .countDropped =>
      let s := s.goto i .returned
      some { s with disp.dropped := s.disp.dropped + 1 }
  | .readWriteHead event => some (s.goto i (.readReadHead event s.disp.writeHead))
  | .readReadHead event cur =>
      some (s.goto i (if lacksRoom cur s.disp.readHead (stride event.size) then .countDropped
        else .exchange event cur))
  | .exchange event cur => some (exchangeStep s i event cur)
  | .mark f =>
      some (s.write i f (Field.state.set s.disp.ring f.hdr slotClaimed)
        (if f.kind = .pad then .store f (padStores (spaceToEnd f.cur)) else .queryCounter f))
  | .queryCounter f =>
      some (s.goto i (.store f (slotStores f.event.size (stride f.event.size) s.now)))
  | .store f [] => some (s.goto i (if f.kind = .pad then .commit f else .nextSeq f))
  | .store f ((field, v) :: rest) =>
      some (s.write i f (field.set s.disp.ring f.hdr v) (.store f rest))
  | .nextSeq f =>
      let seq := s.disp.seqCounter + 1
      let s := s.goto i (.storeSeq f seq)
      some { s with disp.seqCounter := seq }
  | .storeSeq f seq =>
      some (s.write i f (Field.seqNum.set s.disp.ring f.hdr seq.toNat) (.copyPayload f))
  | .copyPayload f =>
      some (s.write i f (copy s.disp.ring (payloadOf f.hdr) f.event.size.toNat f.event.bytes)
        (.commit f))
  | .commit f =>
      some (s.write i f (Field.state.set s.disp.ring f.hdr slotCommitted)
        (if f.kind = .pad then .readWriteHead f.event else .countEnqueued))
  | .countEnqueued =>
      let s := s.goto i .returned
      some { s with disp.enqueued := s.disp.enqueued + 1 }

/-- The next atomic step of `ConsumeOne`. -/
def consumerStep (s : RingMachine) : Consumer → Option RingMachine :=
  let d := s.disp
  let hdr := slotAt d.readHead
  fun
  | .returned _ => none
  | .readPending =>
      some (s.consumerGoto
        (if usedBytes d.writeHead d.readHead = 0 then .returned 0 else .readState))
  | .readState =>
      -- the compare-exchange of `Committed` with itself changes nothing
      let state := Field.state.get d.ring hdr
      some (s.consumerGoto (if state = slotCommitted then .readPayload
        else if state = slotClaimed then .readTick else .advanceFree))
  | .readPayload => some (s.consumerGoto (.readFlags (field32 d.ring hdr .payloadBytes)))
  | .readFlags payload =>
      some (s.consumerGoto (if Field.flags.get d.ring hdr = padFlag then .freePad payload
        else .copyPayload payload))
  | .freePad payload => some (s.release (Field.state.set d.ring hdr slotFree) (.advancePad payload))
  | .advancePad payload => some (s.take (stride payload) .readPending)
  | .copyPayload payload =>
      let sent := copy d.sendBuf 0 payload.toNat fun k => d.ring (payloadOf hdr + k)
      some { s with disp := { d with sendBuf := sent }, consumer := .freeSlot payload }
  | .freeSlot payload =>
      some (s.release (Field.state.set d.ring hdr slotFree) (.advanceSlot payload))
  | .advanceSlot payload => some (s.take (stride payload) (.returned payload))
  | .readTick =>
      let claimedTick : UINT64 := BitVec.ofNat 64 (Field.claimedTick.get d.ring hdr)
      some (s.consumerGoto (if claimedTick ≠ 0 then .queryCounter claimedTick else .returned 0))
  | .queryCounter claimedTick =>
      some (s.consumerGoto (if d.expired claimedTick s.now then .readStride
        else .returned 0))
  | .readStride =>
      some (s.consumerGoto (.zeroSlot (poisonStride (field32 d.ring hdr .strideBytes))))
  | .zeroSlot n => some (s.release (zero d.ring hdr (poisonZeroed d.readHead n)) (.freePoisoned n))
  | .freePoisoned n =>
      some (s.release (Field.state.set d.ring hdr slotFree) (.advancePoisoned n))
  | .advancePoisoned n => some (s.take n .countPoisoned)
  | .countPoisoned =>
      let s := s.consumerGoto .readPending
      some { s with disp.poisoned := s.disp.poisoned + 1 }
  | .advanceFree =>
      -- the head moves, but no region is taken
      some { s with disp := d.advance (alignUp sizeofSlotHeader), consumer := .returned 0 }

inductive RingAction
  /-- the performance counter moves on -/
  | tick
  /-- a `ProduceSlot` call begins -/
  | produce (i : ℕ) (event : Payload)
  | producer (i : ℕ)
  /-- a `ConsumeOne` call begins -/
  | consume
  | consumer

def ringStep (s : RingMachine) : RingAction → Option RingMachine
  | .tick => some { s with clock := s.clock + 1 }
  | .produce i event =>
      match s.producers i with
      | .idle => some (s.goto i (.checkSize event))
      | _ => none
  | .producer i => producerStep s i (s.producers i)
  | .consume =>
      match s.consumer with
      | .returned _ => some (s.consumerGoto .readPending)
      | _ => none
  | .consumer => consumerStep s s.consumer

/-! ## What a step can do -/

section

variable {s s' : RingMachine} {i : ℕ} {event : Payload}

/-- A step of a `ProduceSlot` call goes on, perhaps counting, or stores to the call's region, or
claims a region.  Only the store of `Committed` leads to the count of the event. -/
theorem producerStep_cases {pc : Producer} (hstep : producerStep s i pc = some s') :
    (∃ pc' d, s' = { s.goto i pc' with disp := d } ∧ d.ring = s.disp.ring ∧
      d.history = s.disp.history ∧ pc' ≠ .countEnqueued) ∨
    (∃ f m pc', pc.fill? = some f ∧ s' = s.write i f m pc' ∧
      (pc'.progress = .committed → pc = .commit f)) ∨
    ∃ kind len payload pc', s' = s.claim i kind len payload pc' ∧ pc' ≠ .countEnqueued := by
  cases pc with
  | idle | returned => cases hstep
  | exchange event cur =>
      cases hstep
      unfold exchangeStep
      dsimp only
      split
      · exact Or.inl ⟨_, _, rfl, rfl, rfl, by simp⟩
      · split
        · exact Or.inr (Or.inr ⟨_, _, _, _, rfl, by split <;> simp⟩)
        · exact Or.inr (Or.inr ⟨_, _, _, _, rfl, by simp⟩)
  | mark f =>
      cases hstep
      refine Or.inr (Or.inl ⟨f, _, _, rfl, rfl, fun hcommitted => ?_⟩)
      split at hcommitted <;> cases hcommitted
  | store f rest =>
      cases rest with
      | nil =>
          cases hstep
          exact Or.inl ⟨_, _, rfl, rfl, rfl, by split <;> simp⟩
      | cons st rest =>
          cases hstep
          exact Or.inr (Or.inl ⟨f, _, _, rfl, rfl, fun hcommitted => by cases hcommitted⟩)
  | storeSeq f seq =>
      cases hstep
      exact Or.inr (Or.inl ⟨f, _, _, rfl, rfl, fun hcommitted => by cases hcommitted⟩)
  | copyPayload f =>
      cases hstep
      exact Or.inr (Or.inl ⟨f, _, _, rfl, rfl, fun hcommitted => by cases hcommitted⟩)
  | commit f =>
      cases hstep
      exact Or.inr (Or.inl ⟨f, _, _, rfl, rfl, fun _ => rfl⟩)
  | checkSize event | readReadHead event cur =>
      cases hstep
      exact Or.inl ⟨_, _, rfl, rfl, rfl, by split <;> simp⟩
  | _ =>
      cases hstep
      exact Or.inl ⟨_, _, rfl, rfl, rfl, by simp⟩

/-- Calls other than the stepping one stay where they are. -/
theorem producers_of_ne {j : ℕ} {pc : Producer} (hstep : producerStep s i pc = some s')
    (hj : j ≠ i) : s'.producers j = s.producers j := by
  rcases producerStep_cases hstep with
    ⟨_, _, rfl, _⟩ | ⟨_, _, _, _, rfl, _⟩ | ⟨_, _, _, _, rfl, _⟩
  · exact RingMachine.goto_of_ne hj
  · exact RingMachine.write_of_ne hj
  · exact RingMachine.claim_of_ne hj

theorem ringStep_produce (hstep : ringStep s (.produce i event) = some s') :
    s.producers i = .idle ∧ s' = s.goto i (.checkSize event) := by
  rw [ringStep] at hstep
  split at hstep
  · next hidle =>
      cases hstep
      exact ⟨hidle, rfl⟩
  · cases hstep

theorem ringStep_consume (hstep : ringStep s .consume = some s') :
    (∃ payload, s.consumer = .returned payload) ∧ s' = s.consumerGoto .readPending := by
  rw [ringStep] at hstep
  split at hstep
  · next payload hreturned =>
      cases hstep
      exact ⟨⟨payload, hreturned⟩, rfl⟩
  · cases hstep

end

/-! ## Orderly steps -/

/-- The claim about to be made leaves a byte of the ring free. -/
def LeavesRoom (s : RingMachine) (len : UINT32) : Prop :=
  s.disp.history.writeTotal + len.toNat < s.disp.history.readTotal + asyncRingBytes.toNat

/-- The ring has not come round to the region since it was claimed. -/
def NotLapped (s : RingMachine) (index : ℕ) : Prop :=
  ∀ r, s.claims[index]? = some r →
    s.disp.history.writeTotal ≤ r.start + asyncRingBytes.toNat

/-- The final value of the field is stored. -/
def Progress.Holds (field : Field) : Progress → Prop
  | .claimed => False
  | .filling unset => field ∉ unset
  | .committed => True

/-- The progress of the region at the read head. -/
def RingMachine.front (s : RingMachine) : Progress := s.progress s.consumed

/-- What keeps a producer's step harmless.  A claim leaves room and does not wrap over a tail
too short for a pad header; a store goes to a region the ring has not come round to. -/
def Producer.Orderly (s : RingMachine) : Producer → Prop
  | .exchange event cur => s.disp.writeHead = cur →
      if wraps cur (stride event.size) then
        LeavesRoom s (spaceToEnd cur) ∧ sizeofSlotHeader ≤ spaceToEnd cur
      else LeavesRoom s (stride event.size)
  | .mark f | .store f _ | .storeSeq f _ | .copyPayload f | .commit f => NotLapped s f.index
  | _ => True

/-- The oldest region that the consumer has not taken. -/
def RingMachine.oldest? (s : RingMachine) : Option Region := s.claims[s.consumed]?

/-- What keeps the consumer in step with the claims: it reads `state` only after the producer
stored `Claimed`, or where an earlier lap left `Claimed`; the tick of a pad only after the producer
stored it, or where an earlier lap left zero; and the stride only after the producer stored it, or
where an earlier lap left the stride that was claimed. -/
def Consumer.Orderly (s : RingMachine) : Consumer → Prop
  | .readState =>
      s.front = .claimed → Field.state.get s.disp.ring (slotAt s.disp.readHead) = slotClaimed
  | .readTick => s.oldest?.map Region.kind = some .pad → s.front.Holds .claimedTick ∨
      Field.claimedTick.get s.disp.ring (slotAt s.disp.readHead) = 0
  | .readStride => s.front.Holds .strideBytes ∨
      some (Field.strideBytes.get s.disp.ring (slotAt s.disp.readHead)) =
        s.oldest?.map Region.len
  | _ => True

def Orderly (s : RingMachine) : RingAction → Prop
  | .producer i => (s.producers i).Orderly s
  | .consumer => s.consumer.Orderly s
  | _ => True

instance (field : Field) (p : Progress) : Decidable (p.Holds field) := by
  cases p <;> (unfold Progress.Holds; infer_instance)

instance (s : RingMachine) (index : ℕ) : Decidable (NotLapped s index) :=
  decidable_of_iff (∀ r ∈ s.claims[index]?,
    s.disp.history.writeTotal ≤ r.start + asyncRingBytes.toNat) Iff.rfl

instance (s : RingMachine) (pc : Producer) : Decidable (pc.Orderly s) := by
  cases pc <;> (unfold Producer.Orderly LeavesRoom; infer_instance)

instance (s : RingMachine) (pc : Consumer) : Decidable (pc.Orderly s) := by
  cases pc <;> (unfold Consumer.Orderly; infer_instance)

instance (s : RingMachine) (action : RingAction) : Decidable (Orderly s action) := by
  cases action <;> (unfold Orderly; infer_instance)

/-! ## Patient steps -/

/-- `ASYNC_CLAIM_TIMEOUT_MS` have passed since claim `k`, by the performance counter. -/
def RingMachine.TimedOut (s : RingMachine) (k : ℕ) : Prop :=
  0 < s.freqHz.toNat ∧
    1000 * s.claimedAt k + asyncClaimTimeoutMs.toNat * s.freqHz.toNat ≤ 1000 * s.clock

/-- The oldest region is an event's slot whose claim has timed out. -/
def RingMachine.FrontTimedOut (s : RingMachine) : Prop :=
  s.oldest?.map Region.kind = some .slot ∧ s.TimedOut s.consumed

/-- What keeps the consumer from giving up a slot too early: it reads the tick only after the
producer stored it, or where an earlier lap left zero, or when the claim of the slot has timed
out. -/
def Consumer.Patient (s : RingMachine) : Consumer → Prop
  | .readTick => s.front.Holds .claimedTick ∨
      Field.claimedTick.get s.disp.ring (slotAt s.disp.readHead) = 0 ∨ s.FrontTimedOut
  | _ => True

/-- An orderly step that gives up no slot too early. -/
def Patient (s : RingMachine) (action : RingAction) : Prop :=
  Orderly s action ∧
    match action with
    | .consumer => s.consumer.Patient s
    | _ => True

instance (s : RingMachine) (k : ℕ) : Decidable (s.TimedOut k) := by
  unfold RingMachine.TimedOut; infer_instance

instance (s : RingMachine) : Decidable s.FrontTimedOut := by
  unfold RingMachine.FrontTimedOut; infer_instance

instance (s : RingMachine) (pc : Consumer) : Decidable (pc.Patient s) := by
  cases pc <;> (unfold Consumer.Patient; infer_instance)

instance (s : RingMachine) (action : RingAction) : Decidable (Patient s action) := by
  cases action <;> (unfold Patient; infer_instance)

/-- A run of the machine from the zero-filled ring. -/
abbrev RingRun (outside : Memory) (freq : UINT64) : RingMachine → Prop :=
  Reaches ringStep (RingMachine.init outside freq)

/-- A run of orderly steps. -/
abbrev OrderlyRun (outside : Memory) (freq : UINT64) : RingMachine → Prop :=
  Run ringStep Orderly (RingMachine.init outside freq)

/-- A run of patient steps. -/
abbrev PatientRun (outside : Memory) (freq : UINT64) : RingMachine → Prop :=
  Run ringStep Patient (RingMachine.init outside freq)

end Kawin.Driver
