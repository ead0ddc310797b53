import Kawin.Driver.SlotHeader

/-!
# The dispatcher's ring

The members of `AsyncEventDispatcher` that `ProduceSlot` and `ConsumeOne` work on,
and these two functions as complete, uninterrupted calls.  `RingMachine.lean` runs the
same code step by step.

Beside the members, a `Dispatcher` carries a `History`.  No branch of the code reads
it: it records the unwrapped heads, the regions that were claimed, how many of them
the consumer has taken, and what the code computed or read on the way, so that the
laws of the ring can be stated.
-/

namespace Kawin.Driver

open ByteMemory

/-! ## Status codes -/

abbrev NTSTATUS := BitVec 32

/-- `NT_SUCCESS(status)`: non-negative as a signed 32-bit value. -/
def ntSuccess (status : NTSTATUS) : Bool := !status.msb

def statusSuccess : NTSTATUS := 0x00000000#32
def statusTimeout : NTSTATUS := 0x00000102#32
def statusUnsuccessful : NTSTATUS := 0xC0000001#32
def statusInvalidParameter : NTSTATUS := 0xC000000D#32
def statusBufferTooSmall : NTSTATUS := 0xC0000023#32
def statusPortDisconnected : NTSTATUS := 0xC0000037#32
def statusInsufficientResources : NTSTATUS := 0xC000009A#32

/-! ## Sizes and offsets -/

/-- `RingMask()`. -/
def ringMask : UINT32 := asyncRingBytes - 1#32

/-- `AlignUp(v)`. -/
def alignUp (v : UINT32) : UINT32 :=
  (v + asyncSlotAlign - 1#32) &&& ~~~(asyncSlotAlign - 1#32)

/-- `Stride(payloadBytes)`. -/
def stride (payloadBytes : UINT32) : UINT32 := alignUp (sizeofSlotHeader + payloadBytes)

/-- The offset in the ring of `SlotAt(byteOffset)`. -/
def slotAt (byteOffset : UINT32) : ℕ := (byteOffset &&& ringMask).toNat

/-- The offset in the ring of `PayloadOf(hdr)`. -/
def payloadOf (hdr : ℕ) : ℕ := hdr + sizeofSlotHeader.toNat

/-- The largest payload `ProduceSlot` accepts. -/
def maxPayload : UINT32 := asyncRingBytes / 4#32 - sizeofSlotHeader

/-- The byte count both sides compute from the heads: `used` in `ProduceSlot`, `pending`
in `ConsumeOne`. -/
def usedBytes (writeHead readHead : LONG) : UINT32 := (writeHead - readHead) &&& ringMask

/-- The distance from the write head to the physical end of the ring. -/
def spaceToEnd (cur : LONG) : UINT32 := asyncRingBytes - (cur &&& ringMask)

/-! ## History -/

/-- What a successful compare-exchange on the write head claimed: an event slot, a pad up
to the physical end, or a tail too short to hold a pad header. -/
inductive RegionKind
  | slot | pad | tail
  deriving DecidableEq

/-- A claimed region, in unwrapped offsets. -/
structure Region where
  kind : RegionKind
  start : ℕ
  len : ℕ
  /-- the `payloadBytes` its header is to carry -/
  payload : ℕ
  deriving DecidableEq

/-- The offset of the region in the ring. -/
def Region.hdr (r : Region) : ℕ := r.start % asyncRingBytes.toNat

structure History where
  /-- the unwrapped write head -/
  writeTotal : ℕ
  /-- the unwrapped read head -/
  readTotal : ℕ
  /-- every claimed region, oldest first -/
  claims : List Region
  /-- how many of them the consumer has taken -/
  consumed : ℕ
  /-- each byte count computed from the heads, with the true one -/
  counts : List (UINT32 × ℤ)
  /-- where each header was read, with the oldest region not yet taken -/
  headerReads : List (ℕ × Option Region)

/-- The claimed regions the consumer has not taken, oldest first. -/
def History.live (h : History) : List Region := h.claims.drop h.consumed

/-- The number of claimed but unconsumed bytes. -/
def History.pendingTotal (h : History) : ℤ := h.writeTotal - h.readTotal

/-! ## The dispatcher -/

structure Dispatcher where
  ring : Memory
  writeHead : LONG
  readHead : LONG
  seqCounter : LONG
  sendBuf : Memory
  qpcFreqMs : UINT64
  enqueued : ℕ
  dropped : ℕ
  poisoned : ℕ
  history : History

namespace Dispatcher

/-- `m_qpcFreqMs` as `Initialize` computes it from the frequency, which is a signed number. -/
def initialFreqMs (freqHz : UINT64) : UINT64 :=
  if 0 < freqHz.toInt then freqHz / 1000#64 else 1000000#64

/-- The zero-filled ring of `Initialize`.  Past its end lies memory the dispatcher does
not own, which may hold anything. -/
def init (outside : Memory) (freqHz : UINT64) : Dispatcher where
  ring := zero outside 0 asyncRingBytes.toNat
  writeHead := 0
  readHead := 0
  seqCounter := 0
  sendBuf := fun _ => 0
  qpcFreqMs := initialFreqMs freqHz
  enqueued := 0
  dropped := 0
  poisoned := 0
  history := ⟨0, 0, [], 0, [], []⟩

/-- `TicksToMs(ticks)`. -/
def ticksToMs (d : Dispatcher) (ticks : UINT64) : UINT64 :=
  if d.qpcFreqMs = 0 then 0 else ticks / d.qpcFreqMs

/-- Records a byte count computed from the heads. -/
def recordCount (d : Dispatcher) : Dispatcher :=
  { d with history.counts :=
      (usedBytes d.writeHead d.readHead, d.history.pendingTotal) :: d.history.counts }

/-- Records that a header is read at the read head. -/
def recordHeaderRead (d : Dispatcher) : Dispatcher :=
  { d with history.headerReads :=
      (d.history.readTotal, d.history.live.head?) :: d.history.headerReads }

/-- A successful compare-exchange that moves the write head over `len` bytes. -/
def claim (d : Dispatcher) (kind : RegionKind) (len payload : UINT32) : Dispatcher :=
  { d with
    writeHead := d.writeHead + len
    history.writeTotal := d.history.writeTotal + len.toNat
    history.claims := d.history.claims ++
      [⟨kind, d.history.writeTotal, len.toNat, payload.toNat⟩] }

/-- `m_readHead += n`. -/
def advance (d : Dispatcher) (n : UINT32) : Dispatcher :=
  { d with
    readHead := d.readHead + n
    history.readTotal := d.history.readTotal + n.toNat }

/-- `m_readHead += n` over a region that was found committed or was given up. -/
def take (d : Dispatcher) (n : UINT32) : Dispatcher :=
  { d.advance n with history.consumed := d.history.consumed + 1 }

def setField (d : Dispatcher) (hdr : ℕ) (f : Field) (v : ℕ) : Dispatcher :=
  { d with ring := f.set d.ring hdr v }

end Dispatcher

/-! Recording and claiming leave the other members alone. -/

section

variable (d : Dispatcher)

@[simp] theorem recordCount_ring : d.recordCount.ring = d.ring := rfl
@[simp] theorem recordCount_writeHead : d.recordCount.writeHead = d.writeHead := rfl
@[simp] theorem recordCount_readHead : d.recordCount.readHead = d.readHead := rfl
@[simp] theorem recordCount_sendBuf : d.recordCount.sendBuf = d.sendBuf := rfl
@[simp] theorem recordHeaderRead_ring : d.recordHeaderRead.ring = d.ring := rfl
@[simp] theorem recordHeaderRead_sendBuf : d.recordHeaderRead.sendBuf = d.sendBuf := rfl

@[simp] theorem recordCount_writeTotal :
    d.recordCount.history.writeTotal = d.history.writeTotal := rfl

@[simp] theorem recordCount_readTotal :
    d.recordCount.history.readTotal = d.history.readTotal := rfl

@[simp] theorem withRing_history (m : Memory) : { d with ring := m }.history = d.history := rfl

@[simp] theorem claim_writeTotal (kind : RegionKind) (len payload : UINT32) :
    (d.claim kind len payload).history.writeTotal =
      d.history.writeTotal + len.toNat := rfl

@[simp] theorem claim_readTotal (kind : RegionKind) (len payload : UINT32) :
    (d.claim kind len payload).history.readTotal = d.history.readTotal := rfl

@[simp] theorem claim_ring (kind : RegionKind) (len payload : UINT32) :
    (d.claim kind len payload).ring = d.ring := rfl

end

/-! ## `ProduceSlot` -/

/-- `stride > freeBytes`, by the heads that were read. -/
def lacksRoom (cur readHead : LONG) (n : UINT32) : Bool :=
  n > asyncRingBytes - usedBytes cur readHead

/-- `stride > spaceToEnd`. -/
def wraps (cur : LONG) (n : UINT32) : Bool := n > spaceToEnd cur

/-- The kind of region a wrap claims: a tail shorter than a header gets no pad header. -/
def wrapKind (cur : LONG) : RegionKind :=
  if spaceToEnd cur ≥ sizeofSlotHeader then .pad else .tail

/-- The stores to a pad header between `Claimed` and `Committed`. -/
def padStores (space : UINT32) : List (Field × ℕ) :=
  [(.flags, padFlag), (.reserved, 0), (.payloadBytes, (space - sizeofSlotHeader).toNat),
    (.strideBytes, space.toNat), (.seqNum, 0), (.claimedTick, 0)]

/-- The stores to a slot header between `Claimed` and the sequence number. -/
def slotStores (size stride : UINT32) (now : UINT64) : List (Field × ℕ) :=
  [(.claimedTick, now.toNat), (.flags, 0), (.reserved, 0), (.payloadBytes, size.toNat),
    (.strideBytes, stride.toNat)]

def storeAll (m : Memory) (hdr : ℕ) (stores : List (Field × ℕ)) : Memory :=
  stores.foldl (fun m store => store.1.set m hdr store.2) m

/-- Fills a pad header, in the order of the source. -/
def writePad (m : Memory) (hdr : ℕ) (space : UINT32) : Memory :=
  let m := Field.state.set m hdr slotClaimed
  let m := storeAll m hdr (padStores space)
  Field.state.set m hdr slotCommitted

/-- Fills a slot, in the order of the source. -/
def writeSlot (m : Memory) (hdr : ℕ) (bytes : Memory) (size stride : UINT32) (now : UINT64)
    (seq : LONG) : Memory :=
  let m := Field.state.set m hdr slotClaimed
  let m := storeAll m hdr (slotStores size stride now)
  let m := Field.seqNum.set m hdr seq.toNat
  let m := copy m (payloadOf hdr) size.toNat bytes
  Field.state.set m hdr slotCommitted

/-- The wrap at the physical end: the tail is claimed and, where a header fits, filled with
a pad header. -/
def Dispatcher.wrap (d : Dispatcher) : Dispatcher :=
  let cur := d.writeHead
  let space := spaceToEnd cur
  let claimed := d.claim (wrapKind cur) space (space - sizeofSlotHeader)
  -- a tail that cannot hold a header is left as it is
  if space ≥ sizeofSlotHeader then
    { claimed with ring := writePad claimed.ring (slotAt cur) space }
  else claimed

/-- The claim loop: the claimed head, or `none` when the event is dropped for want of space.
It comes round again only after a wrap, which leaves the write head at the physical start,
so two rounds are enough. -/
def claimLoop (size : UINT32) : ℕ → Dispatcher → Option (Dispatcher × Option LONG)
  | 0, _ => none
  | fuel + 1, d =>
      let cur := d.writeHead
      let d := d.recordCount
      if lacksRoom cur d.readHead (stride size) then
        some ({ d with dropped := d.dropped + 1 }, none)
      -- the slot does not fit before the end: claim the tail and come round again
      else if wraps cur (stride size) then claimLoop size fuel d.wrap
      else some (d.claim .slot (stride size) size, some cur)

/-- `ProduceSlot(bytes, size)`.  `KeQueryPerformanceCounter(&now)` returns the counter, which the
source drops, and stores the frequency of the counter in `now`. -/
def produceSlot (d : Dispatcher) (bytes : Memory) (size : UINT32) (freqHz : UINT64) :
    Option (Dispatcher × NTSTATUS) :=
  if size > maxPayload then
    some ({ d with dropped := d.dropped + 1 }, statusInvalidParameter)
  else
    match claimLoop size 2 d with
    | none => none
    | some (d, none) => some (d, statusInsufficientResources)
    | some (d, some claimed) =>
        let seq := d.seqCounter + 1
        some ({ d with
          ring := writeSlot d.ring (slotAt claimed) bytes size (stride size) freqHz seq
          seqCounter := seq
          enqueued := d.enqueued + 1 }, statusSuccess)

/-! ## `ConsumeOne` -/

/-- The stride by which a poisoned slot is skipped. -/
def poisonStride (storedStride : UINT32) : UINT32 :=
  if storedStride ≥ sizeofSlotHeader ∧ storedStride ≤ asyncRingBytes / 4#32 then
    alignUp storedStride
  else alignUp sizeofSlotHeader

/-- How many bytes of a poisoned slot are zeroed. -/
def poisonZeroed (readHead : LONG) (n : UINT32) : ℕ :=
  min n.toNat (spaceToEnd readHead).toNat

/-- One header field as a 32-bit value. -/
def field32 (m : Memory) (hdr : ℕ) (f : Field) : UINT32 := BitVec.ofNat 32 (f.get m hdr)

/-- `elapsedMs >= ASYNC_CLAIM_TIMEOUT_MS`, for a slot with this tick. -/
def Dispatcher.expired (d : Dispatcher) (claimedTick now : UINT64) : Bool :=
  d.ticksToMs (now - claimedTick) ≥ asyncClaimTimeoutMs

/-- The loop of `ConsumeOne`; round `fuel` finds `now fuel` in its variable `now`. -/
def consumeLoop (now : ℕ → UINT64) : ℕ → Dispatcher → Option (Dispatcher × UINT32)
  | 0, _ => none
  | fuel + 1, d =>
      let pending := usedBytes d.writeHead d.readHead
      let d := d.recordCount
      if pending = 0 then some (d, 0)
      else
        let hdr := slotAt d.readHead
        let d := d.recordHeaderRead
        let state := Field.state.get d.ring hdr
        if state = slotCommitted then
          let payload := field32 d.ring hdr .payloadBytes
          -- a pad carries no event: it is freed and the loop goes on
          if Field.flags.get d.ring hdr = padFlag then
            consumeLoop now fuel ((d.setField hdr .state slotFree).take (stride payload))
          else
            let sent := copy d.sendBuf 0 payload.toNat fun i => d.ring (payloadOf hdr + i)
            let d := { d with sendBuf := sent }
            some ((d.setField hdr .state slotFree).take (stride payload), payload)
        else if state = slotClaimed then
          let claimedTick : UINT64 := BitVec.ofNat 64 (Field.claimedTick.get d.ring hdr)
          -- a producer without a tick never times out
          if claimedTick ≠ 0 ∧ d.expired claimedTick (now fuel) then
            let n := poisonStride (field32 d.ring hdr .strideBytes)
            let d := { d with ring := zero d.ring hdr (poisonZeroed d.readHead n) }
            let d := (d.setField hdr .state slotFree).take n
            consumeLoop now fuel { d with poisoned := d.poisoned + 1 }
          else some (d, 0)
        else
          -- unexpected Free slot: advance by the minimum aligned amount
          some (d.advance (alignUp sizeofSlotHeader), 0)

/-- `ConsumeOne()`.  As in `ProduceSlot`, what `KeQueryPerformanceCounter(&now)` stores is the
frequency, in every round.  Each round that does not return frees one of the aligned headers of
the ring, so there are never more rounds than headers. -/
def consumeOne (d : Dispatcher) (freqHz : UINT64) : Option (Dispatcher × UINT32) :=
  consumeLoop (fun _ => freqHz) (asyncRingBytes.toNat / 8 + 1) d

end Kawin.Driver
