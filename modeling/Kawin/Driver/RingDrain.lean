import Kawin.Base.ByteList
import Kawin.Driver.RingCalls

/-!
# Draining the ring

A ring is well formed if the bytes between its heads are tiled by committed slots: event slots as
`ProduceSlot` fills them, and pads that end at the physical end (`Laid`).  How it came to be so
does not matter, nor what the history says.  `drain_wellFormed` follows `ConsumeOne` through such a
ring: the calls return the events one by one, in order and byte for byte, skip the pads, and then
return zero.

`ConsumeOne` works out each stride from the payload length alone, so the argument turns on
`StandsAt.stride`: the length that the header carries gives back the length of the slot.  What a
call does to the ring is `Consumed`: it frees the headers it has come past and touches no other
byte.  The induction over the calls keeps `Laid` for the slots that are left (`Laid.consumed`).
-/

namespace Kawin.Driver

open ByteMemory CircularBuffer

/-! ## Slots -/

/-- What lies between the heads of a well-formed ring. -/
inductive RingSlot
  | event (payload : List Byte)
  /-- a pad of `space` bytes up to the physical end -/
  | pad (space : ℕ)

namespace RingSlot

def len : RingSlot → ℕ
  | .event payload => (stride (BitVec.ofNat 32 payload.length)).toNat
  | .pad space => space

/-- The region that the slot takes up from the unwrapped offset `a` on. -/
def region (a : ℕ) : RingSlot → Region
  | .event payload =>
      ⟨.slot, a, (stride (BitVec.ofNat 32 payload.length)).toNat, payload.length⟩
  | .pad space => ⟨.pad, a, space, space - sizeofSlotHeader.toNat⟩

/-- The sizes that `ProduceSlot` gives to a slot at offset `a`. -/
def Sized (a : ℕ) : RingSlot → Prop
  | .event payload => 1 ≤ payload.length ∧ payload.length ≤ maxPayload.toNat ∧
      a % asyncRingBytes.toNat + (RingSlot.event payload).len ≤ asyncRingBytes.toNat
  | .pad space => 32 ≤ space ∧ a % asyncRingBytes.toNat + space = asyncRingBytes.toNat

/-- The bytes behind the header: nothing is asked of a pad's. -/
def content : RingSlot → List Byte
  | .event payload => payload
  | .pad _ => []

/-- The slot stands committed in the ring, at the unwrapped offset `a`. -/
structure StandsAt (slot : RingSlot) (m : Memory) (a : ℕ) : Prop where
  sized : slot.Sized a
  header : HeaderAt (fun _ => True) m (slot.region a) []
  content : Carries m (payloadOf (slot.region a).hdr) slot.content

end RingSlot

/-- The slots lie end to end between the unwrapped offsets `a` and `b`. -/
def Laid (m : Memory) : ℕ → List RingSlot → ℕ → Prop
  | a, [], b => a = b
  | a, slot :: rest, b => slot.StandsAt m a ∧ Laid m (a + slot.len) rest b

/-- The events among the slots. -/
def payloads : List RingSlot → List (List Byte)
  | [] => []
  | .event payload :: rest => payload :: payloads rest
  | .pad _ :: rest => payloads rest

def totalLen (slots : List RingSlot) : ℕ := (slots.map RingSlot.len).sum

/-- Where the headers of the slots lie in the ring. -/
def headers : ℕ → List RingSlot → List ℕ
  | _, [] => []
  | a, slot :: rest => a % asyncRingBytes.toNat :: headers (a + slot.len) rest

/-! ## Calls -/

/-- `n` calls of `ConsumeOne`, with what each returns and leaves in `m_sendBuf`. -/
def consumeTimes (freqHz : UINT64) : ℕ → Dispatcher → Option (Dispatcher × List (UINT32 × Memory))
  | 0, d => some (d, [])
  | n + 1, d => do
      let (first, returned) ← consumeOne d freqHz
      let (last, results) ← consumeTimes freqHz n first
      return (last, (returned, first.sendBuf) :: results)

/-- The call returned the size of the payload and left the payload in `m_sendBuf`. -/
def Delivers (payload : List Byte) (result : UINT32 × Memory) : Prop :=
  result.1.toNat = payload.length ∧ Carries result.2 0 payload

/-- The visited slots are free, and no other byte of the ring has changed. -/
structure SlotsFreed (before after : Memory) (a : ℕ) (visited : List RingSlot) : Prop where
  free : ∀ hdr ∈ headers a visited, Field.state.get after hdr = slotFree
  unchanged : ∀ i, (∀ hdr ∈ headers a visited, i < hdr ∨ hdr + Field.state.width ≤ i) →
    after i = before i

/-! ## Slots in the ring -/

section

variable {slot : RingSlot} {m : Memory} {a b c : ℕ} {slots rest : List RingSlot}

@[simp] theorem region_start : (slot.region a).start = a := by cases slot <;> rfl

@[simp] theorem region_len : (slot.region a).len = slot.len := by cases slot <;> rfl

theorem region_hdr : (slot.region a).hdr = a % 262144 := by
  rw [Region.hdr, region_start, asyncRingBytes_toNat]

theorem ofNat_payload_toNat {payload : List Byte} (h : payload.length ≤ 65508) :
    (BitVec.ofNat 32 payload.length).toNat = payload.length := by
  rw [BitVec.toNat_ofNat, Nat.mod_eq_of_lt (by omega)]

theorem len_event {payload : List Byte} (h : payload.length ≤ 65508) :
    (RingSlot.event payload).len = (payload.length + 35) / 8 * 8 := by
  have hlength := ofNat_payload_toNat h
  calc (RingSlot.event payload).len
      = ((BitVec.ofNat 32 payload.length).toNat + 35) / 8 * 8 := stride_toNat (by omega)
    _ = (payload.length + 35) / 8 * 8 := by rw [hlength]

namespace RingSlot.Sized

theorem header_le (h : slot.Sized a) : 32 ≤ slot.len := by
  cases slot with
  | event payload =>
      obtain ⟨hpos, hsize, -⟩ := h
      rw [len_event hsize]
      omega
  | pad space => exact h.1

theorem fits (h : slot.Sized a) : a % 262144 + slot.len ≤ 262144 := by
  cases slot with
  | event payload => exact h.2.2
  | pad space => exact h.2.le

/-- What lies behind the header lies before the end of the slot. -/
theorem content_le (h : slot.Sized a) : 28 + slot.content.length ≤ slot.len := by
  cases slot with
  | event payload =>
      rw [len_event h.2.1, RingSlot.content]
      omega
  | pad space =>
      have hspace := h.1
      simp only [RingSlot.content, List.length_nil, RingSlot.len]
      omega

/-- A slot at an aligned offset ends at one. -/
theorem aligned_end (h : slot.Sized a) (halign : a % 8 = 0) : (a + slot.len) % 8 = 0 := by
  cases slot with
  | event payload =>
      rw [len_event h.2.1]
      omega
  | pad space =>
      obtain ⟨-, hend⟩ := h
      rw [asyncRingBytes_toNat] at hend
      simp only [RingSlot.len]
      omega

end RingSlot.Sized

/-- The payload length that the header of the slot carries. -/
theorem RingSlot.StandsAt.payloadBytes (h : slot.StandsAt m a) :
    (field32 m (a % 262144) .payloadBytes).toNat = (slot.region a).payload := by
  have hfield := h.header .payloadBytes List.not_mem_nil
  rw [region_hdr] at hfield
  rw [field32, show Field.payloadBytes.get m (a % 262144) = _ from hfield, BitVec.toNat_ofNat]
  apply Nat.mod_eq_of_lt
  cases slot with
  | event payload =>
      have hsize : payload.length ≤ 65508 := h.sized.2.1
      simp only [RingSlot.region]
      omega
  | pad space =>
      have hend := h.sized.fits
      simp only [RingSlot.len, RingSlot.region, sizeofSlotHeader_toNat] at hend ⊢
      omega

/-- The consumer works out the length of the slot from the header. -/
theorem RingSlot.StandsAt.stride (h : slot.StandsAt m a) (halign : a % 8 = 0) :
    (stride (field32 m (a % 262144) .payloadBytes)).toNat = slot.len := by
  have hpayload := h.payloadBytes
  have hfits := h.sized.fits
  cases slot with
  | event payload =>
      have hsize : payload.length ≤ 65508 := h.sized.2.1
      rw [stride_toNat (by rw [hpayload]; simp only [RingSlot.region]; omega), hpayload,
        len_event hsize]
      rfl
  | pad space =>
      -- a pad ends at the physical end, so its space is aligned too
      obtain ⟨hspace, hend⟩ := h.sized
      rw [asyncRingBytes_toNat] at hend
      simp only [RingSlot.len, RingSlot.region, sizeofSlotHeader_toNat] at hpayload hfits ⊢
      rw [stride_toNat (by omega), hpayload]
      omega

/-! ## The tiling -/

theorem Laid.le (h : Laid m a slots b) : a + totalLen slots = b := by
  induction slots generalizing a with
  | nil => exact h
  | cons slot rest ih =>
      have hrest := ih h.2
      rw [totalLen, List.map_cons, List.sum_cons, ← totalLen]
      omega

theorem Laid.length_le (h : Laid m a slots b) : a + 32 * slots.length ≤ b := by
  induction slots generalizing a with
  | nil => exact Nat.le_of_eq h
  | cons slot rest ih =>
      have hheader := h.1.sized.header_le
      have hrest := ih h.2
      rw [List.length_cons]
      omega

/-- A header freed behind the slots leaves them as they are. -/
theorem Laid.free (h : Laid m c slots b) (hbehind : a + 32 ≤ c) (hlap : b ≤ a + 262144) :
    Laid (Field.state.set m (a % 262144) slotFree) c slots b := by
  induction slots generalizing c with
  | nil => exact h
  | cons slot rest ih =>
      obtain ⟨hslot, hrest⟩ := h
      have hend : c + slot.len ≤ b := (Nat.le_add_right _ _).trans_eq hrest.le
      have hheader := hslot.sized.header_le
      have hcontent := hslot.sized.content_le
      have hdisj : Disjoint (a % 262144) 32 (c % 262144) slot.len :=
        disjoint_of_le hbehind (by omega)
      refine ⟨⟨hslot.sized, ?_, ?_⟩, ih hrest (by omega)⟩
      · refine hslot.header.set_of_disjoint ?_
        rw [region_hdr]
        exact hdisj.symm.mono le_rfl (by omega) le_rfl (by omega)
      · intro i hi
        rw [← hslot.content i hi, payloadOf_eq, region_hdr]
        refine copy_of_not_mem _ _ ?_
        have hwidth : Field.state.offset + Field.state.width ≤ 32 := by decide
        unfold ByteMemory.Disjoint at hdisj
        omega

end

/-! ## Freeing headers -/

/-- The ring with the state of each of these headers set to `Free`. -/
def freeAll (m : Memory) (hdrs : List ℕ) : Memory :=
  hdrs.foldl (fun m hdr => Field.state.set m hdr slotFree) m

section

variable {m : Memory} {a b : ℕ} {hdrs : List ℕ} {visited slots rest : List RingSlot}

theorem freeAll_of_outside {i : ℕ} : ∀ {m : Memory},
    (∀ hdr ∈ hdrs, i < hdr ∨ hdr + Field.state.width ≤ i) → freeAll m hdrs i = m i := by
  induction hdrs with
  | nil => exact fun _ => rfl
  | cons hdr rest ih =>
      intro m h
      calc freeAll m (hdr :: rest) i
          = freeAll (Field.state.set m hdr slotFree) rest i := rfl
        _ = Field.state.set m hdr slotFree i := ih fun hdr' h' => h hdr' (.tail _ h')
        _ = m i := copy_of_not_mem _ _ (h hdr List.mem_cons_self)

/-- Headers that do not overlap are free once all of them have been freed. -/
theorem state_freeAll {hdr : ℕ} : ∀ {m : Memory}, hdrs.Pairwise (fun h h' => Disjoint h 4 h' 4) →
    hdr ∈ hdrs → Field.state.get (freeAll m hdrs) hdr = slotFree := by
  induction hdrs with
  | nil => exact fun _ hmem => absurd hmem List.not_mem_nil
  | cons first rest ih =>
      intro m hpair hmem
      obtain ⟨hfirst, hrest⟩ := List.pairwise_cons.mp hpair
      rcases List.mem_cons.mp hmem with rfl | hmem
      · -- the frees that follow miss the first header
        have hframe : Field.state.get (freeAll m (hdr :: rest)) hdr =
            Field.state.get (Field.state.set m hdr slotFree) hdr := by
          refine readNat_congr fun i hlow hhigh => ?_
          refine (freeAll_of_outside fun hdr' h' => ?_ :
            freeAll (Field.state.set m hdr slotFree) rest i = _)
          have hdisj := hfirst hdr' h'
          have hoffset : Field.state.offset = 0 := rfl
          have hwidth : Field.state.width = 4 := rfl
          unfold ByteMemory.Disjoint at hdisj
          omega
        rw [hframe]
        exact Field.get_set m hdr .state (by decide)
      · exact ih hrest hmem

theorem headers_append : headers a (visited ++ rest) =
    headers a visited ++ headers (a + totalLen visited) rest := by
  induction visited generalizing a with
  | nil => rfl
  | cons slot visited ih =>
      rw [List.cons_append, headers, headers, ih, totalLen, totalLen, List.map_cons,
        List.sum_cons, Nat.add_assoc, List.cons_append]

theorem payloads_append : payloads (visited ++ rest) = payloads visited ++ payloads rest := by
  induction visited with
  | nil => rfl
  | cons slot visited ih =>
      cases slot with
      | event payload => exact congrArg (payload :: ·) ih
      | pad space => exact ih

theorem mem_headers {hdr : ℕ} (h : Laid m a slots b) (hmem : hdr ∈ headers a slots) :
    ∃ c, hdr = c % 262144 ∧ a ≤ c ∧ c + 32 ≤ b := by
  induction slots generalizing a with
  | nil => exact absurd hmem List.not_mem_nil
  | cons slot rest ih =>
      have hheader := h.1.sized.header_le
      rcases List.mem_cons.mp hmem with rfl | hmem
      · have hend := h.2.le
        exact ⟨a, rfl, le_rfl, by omega⟩
      · obtain ⟨c, hc, hlow, hhigh⟩ := ih h.2 hmem
        exact ⟨c, hc, by omega, hhigh⟩

theorem Laid.headers_disjoint (h : Laid m a slots b) (hlap : b ≤ a + 262144) :
    (headers a slots).Pairwise fun hdr hdr' => Disjoint hdr 4 hdr' 4 := by
  induction slots generalizing a with
  | nil => exact List.Pairwise.nil
  | cons slot rest ih =>
      have hheader := h.1.sized.header_le
      refine List.pairwise_cons.mpr ⟨fun hdr hmem => ?_, ih h.2 (by omega)⟩
      obtain ⟨c, rfl, hlow, hhigh⟩ := mem_headers h.2 hmem
      have hdisj : Disjoint (a % 262144) 32 (c % 262144) 32 :=
        disjoint_of_le (by omega) (by omega)
      exact hdisj.mono le_rfl (Nat.add_le_add_left (by decide) _) le_rfl
        (Nat.add_le_add_left (by decide) _)

/-- The first slots of a tiling tile what they take up. -/
theorem Laid.before (h : Laid m a (visited ++ rest) b) :
    Laid m a visited (a + totalLen visited) := by
  induction visited generalizing a with
  | nil => exact rfl
  | cons slot visited ih =>
      refine ⟨h.1, ?_⟩
      rw [totalLen, List.map_cons, List.sum_cons, ← totalLen, ← Nat.add_assoc]
      exact ih h.2

/-- The slots behind the visited ones stand as before when these have been freed. -/
theorem Laid.consumed (h : Laid m a (visited ++ rest) b) (hlap : b ≤ a + 262144) :
    Laid (freeAll m (headers a visited)) (a + totalLen visited) rest b := by
  induction visited generalizing a m with
  | nil => exact h
  | cons slot visited ih =>
      have hheader := h.1.sized.header_le
      rw [totalLen, List.map_cons, List.sum_cons, ← totalLen, ← Nat.add_assoc]
      exact ih (h.2.free (by omega) hlap) (by omega)

theorem Laid.payload_le {payload : List Byte} (h : Laid m a slots b)
    (hmem : payload ∈ payloads slots) : payload.length ≤ 65508 := by
  induction slots generalizing a with
  | nil => exact absurd hmem List.not_mem_nil
  | cons slot rest ih =>
      cases slot with
      | event first =>
          rcases List.mem_cons.mp hmem with rfl | hmem
          · exact h.1.sized.2.1
          · exact ih h.2 hmem
      | pad space => exact ih h.2 hmem

theorem Laid.aligned (h : Laid m a slots b) (halign : a % 8 = 0) : b % 8 = 0 := by
  induction slots generalizing a with
  | nil => exact (show a = b from h) ▸ halign
  | cons slot rest ih => exact ih h.2 (h.1.sized.aligned_end halign)

theorem Laid.freed (h : Laid m a visited b) (hlap : b ≤ a + 262144) :
    SlotsFreed m (freeAll m (headers a visited)) a visited where
  free := fun _ hmem => state_freeAll (h.headers_disjoint hlap) hmem
  unchanged := fun _ houtside => freeAll_of_outside houtside

end

/-! ## One call -/

/-- The heads of the ring at the unwrapped offsets `a` and `b`, and the slots between them. -/
structure WellFormed (d : Dispatcher) (a b : ℕ) (slots : List RingSlot) : Prop where
  readHead : d.readHead = BitVec.ofNat 32 a
  writeHead : d.writeHead = BitVec.ofNat 32 b
  aligned : a % 8 = 0
  lap : b < a + 262144
  laid : Laid d.ring a slots b

/-- The slots `visited`, from offset `a` on, have been consumed. -/
structure Consumed (d d' : Dispatcher) (a : ℕ) (visited : List RingSlot) : Prop where
  ring : d'.ring = freeAll d.ring (headers a visited)
  readHead : d'.readHead = BitVec.ofNat 32 (a + totalLen visited)
  writeHead : d'.writeHead = d.writeHead

/-- How a call on a well-formed ring ends: with zero behind the last pad, or with the first
event. -/
inductive CallEnds (d : Dispatcher) (a : ℕ) (slots : List RingSlot) :
    Option (Dispatcher × UINT32) → Prop
  | empty (d' : Dispatcher) (hnone : payloads slots = []) (hconsumed : Consumed d d' a slots) :
      CallEnds d a slots (some (d', 0))
  | event (d' : Dispatcher) (before rest : List RingSlot) (payload : List Byte)
      (hslots : slots = before ++ .event payload :: rest) (hbefore : payloads before = [])
      (hsent : Carries d'.sendBuf 0 payload)
      (hconsumed : Consumed d d' a (before ++ [.event payload])) :
      CallEnds d a slots (some (d', BitVec.ofNat 32 payload.length))

section

variable {d d' d₁ d₂ : Dispatcher} {a b : ℕ} {slot : RingSlot}
  {slots visited later rest : List RingSlot} {now : ℕ → UINT64} {freqHz : UINT64}

theorem WellFormed.slotAt_readHead (h : WellFormed d a b slots) :
    slotAt d.readHead = a % 262144 := by
  rw [h.readHead, slotAt_ofNat]

theorem WellFormed.pending (h : WellFormed d a b slots) :
    usedBytes d.writeHead d.readHead = 0 ↔ slots = [] := by
  have hle := h.laid.length_le
  have hlap := h.lap
  have hused : (usedBytes d.writeHead d.readHead).toNat = b - a := by
    rw [h.writeHead, h.readHead, usedBytes_ofNat (by omega), Nat.mod_eq_of_lt (by omega)]
  constructor
  · intro hzero
    have hnone : b - a = 0 := hused.symm.trans (congrArg BitVec.toNat hzero)
    exact List.length_eq_zero_iff.mp (by omega)
  · rintro rfl
    have hends : a = b := h.laid
    exact BitVec.eq_of_toNat_eq (by rw [hused, hends, Nat.sub_self]; rfl)

/-- The header at the read head is that of the first slot. -/
theorem WellFormed.header (h : WellFormed d a b (slot :: rest)) (f : Field) :
    (slot.region a).Expects (fun _ => True) f (f.get d.ring (slotAt d.readHead)) := by
  have hheader := h.laid.1.header f List.not_mem_nil
  rwa [region_hdr, ← h.slotAt_readHead] at hheader

/-- The consumer moves the read head over exactly the first slot. -/
theorem WellFormed.next (h : WellFormed d a b (slot :: rest)) :
    d.readHead + stride (field32 d.ring (slotAt d.readHead) .payloadBytes) =
      BitVec.ofNat 32 (a + slot.len) := by
  rw [h.slotAt_readHead, h.readHead, ofNat_add_of_toNat, h.laid.1.stride h.aligned]

/-- The header of an event says how long its payload is. -/
theorem WellFormed.payloadBytes {payload : List Byte}
    (h : WellFormed d a b (.event payload :: rest)) :
    field32 d.ring (slotAt d.readHead) .payloadBytes = BitVec.ofNat 32 payload.length := by
  have hslot := h.laid.1
  apply BitVec.eq_of_toNat_eq
  rw [h.slotAt_readHead, hslot.payloadBytes, ofNat_payload_toNat hslot.sized.2.1]
  rfl

/-- The consumer copies exactly the payload of the event. -/
theorem WellFormed.carries_copy {payload : List Byte}
    (h : WellFormed d a b (.event payload :: rest)) (sendBuf : Memory) :
    Carries (copy sendBuf 0 (BitVec.ofNat 32 payload.length).toNat
      fun i => d.ring (payloadOf (slotAt d.readHead) + i)) 0 payload := by
  intro i hi
  have hslot := h.laid.1
  have hcopied := copy_of_mem sendBuf (fun i => d.ring (payloadOf (slotAt d.readHead) + i))
    (Nat.le_add_right 0 i) (show 0 + i < 0 + (BitVec.ofNat 32 payload.length).toNat by
      rw [ofNat_payload_toNat hslot.sized.2.1]; exact Nat.add_lt_add_left hi 0)
  have hcontent : d.ring (payloadOf (slotAt d.readHead) + i) = payload[i] := by
    rw [h.slotAt_readHead, ← region_hdr]
    exact hslot.content i hi
  rw [← hcontent]
  refine hcopied.trans ?_
  rw [Nat.zero_add, Nat.sub_zero]

/-- The ring and its heads behind the first slot. -/
theorem WellFormed.tail (h : WellFormed d a b (slot :: rest))
    (hring : d'.ring = Field.state.set d.ring (a % 262144) slotFree)
    (hread : d'.readHead = BitVec.ofNat 32 (a + slot.len))
    (hwrite : d'.writeHead = d.writeHead) : WellFormed d' (a + slot.len) b rest where
  readHead := hread
  writeHead := hwrite.trans h.writeHead
  aligned := h.laid.1.sized.aligned_end h.aligned
  lap := Nat.lt_of_lt_of_le h.lap (by omega)
  laid := by
    have hheader := h.laid.1.sized.header_le
    rw [hring]
    exact h.laid.2.free (by omega) h.lap.le

/-- Consuming the slots behind the first one completes consuming them all. -/
theorem Consumed.cons (hring : d₁.ring = Field.state.set d.ring (a % 262144) slotFree)
    (hwrite : d₁.writeHead = d.writeHead) (h : Consumed d₁ d' (a + slot.len) visited) :
    Consumed d d' a (slot :: visited) where
  ring := by
    rw [h.ring, hring]
    rfl
  readHead := by
    rw [h.readHead, totalLen, totalLen, List.map_cons, List.sum_cons, Nat.add_assoc]
  writeHead := h.writeHead.trans hwrite

theorem Consumed.trans (first : Consumed d d₁ a visited)
    (second : Consumed d₁ d₂ (a + totalLen visited) later) :
    Consumed d d₂ a (visited ++ later) where
  ring := by
    rw [second.ring, first.ring, headers_append]
    exact (List.foldl_append ..).symm
  readHead := by
    rw [second.readHead, totalLen, totalLen, totalLen, List.map_append, List.sum_append,
      Nat.add_assoc]
  writeHead := second.writeHead.trans first.writeHead

theorem WellFormed.consumed (h : WellFormed d a b (visited ++ rest))
    (hconsumed : Consumed d d' a visited) :
    WellFormed d' (a + totalLen visited) b rest where
  readHead := hconsumed.readHead
  writeHead := hconsumed.writeHead.trans h.writeHead
  aligned := h.laid.before.aligned h.aligned
  lap := Nat.lt_of_lt_of_le h.lap (by omega)
  laid := hconsumed.ring ▸ h.laid.consumed h.lap.le

/-- **Step lemma.**  A call comes past the pads in front and returns the first event, by
induction on the slots. -/
theorem consumeLoop_wellFormed {fuel : ℕ} (h : WellFormed d a b slots)
    (hfuel : slots.length < fuel) : CallEnds d a slots (consumeLoop now fuel d) := by
  induction slots generalizing fuel d a with
  | nil =>
      obtain ⟨fuel, rfl⟩ := Nat.exists_eq_succ_of_ne_zero (Nat.ne_of_gt hfuel)
      have hzero := h.pending.mpr rfl
      rw [consumeLoop, if_pos hzero]
      exact .empty _ rfl ⟨rfl, h.readHead, rfl⟩
  | cons slot rest ih =>
      obtain ⟨fuel, rfl⟩ := Nat.exists_eq_succ_of_ne_zero (Nat.ne_of_gt (Nat.zero_lt_of_lt hfuel))
      have hpending : usedBytes d.writeHead d.readHead ≠ 0 :=
        fun hzero => List.cons_ne_nil _ _ (h.pending.mp hzero)
      have hstate : Field.state.get d.ring (slotAt d.readHead) = slotCommitted := h.header .state
      have hhdr := h.slotAt_readHead
      cases slot with
      | pad space =>
          have hflags : Field.flags.get d.ring (slotAt d.readHead) = padFlag := h.header .flags
          rw [consumeLoop_pad fuel hpending hstate hflags]
          generalize hnext : Dispatcher.take _ _ = next
          have hring : next.ring = Field.state.set d.ring (a % 262144) slotFree := by
            rw [← hnext, ← hhdr]
            rfl
          have hread : next.readHead = BitVec.ofNat 32 (a + space) := hnext ▸ h.next
          have hwrite : next.writeHead = d.writeHead := hnext ▸ rfl
          -- the rest of the call runs behind the pad
          have hends := ih (h.tail hring hread hwrite)
            (Nat.lt_of_succ_lt_succ hfuel)
          generalize consumeLoop now fuel next = result at hends ⊢
          cases hends with
          | empty d' hnone hconsumed => exact .empty d' hnone (hconsumed.cons hring hwrite)
          | event d' before after payload hslots hbefore hsent hconsumed =>
              exact .event d' (.pad space :: before) after payload (congrArg _ hslots) hbefore
                hsent (hconsumed.cons hring hwrite)
      | event payload =>
          have hflags : Field.flags.get d.ring (slotAt d.readHead) ≠ padFlag := by
            rw [show Field.flags.get d.ring (slotAt d.readHead) = 0 from h.header .flags]
            decide
          have hread := h.next
          rw [consumeLoop_slot fuel hpending hstate hflags, h.payloadBytes]
          rw [h.payloadBytes] at hread
          have hring : Field.state.set d.ring (slotAt d.readHead) slotFree =
              freeAll d.ring (headers a [.event payload]) := by
            rw [hhdr]
            rfl
          exact .event _ [] rest payload rfl rfl (h.carries_copy d.sendBuf) ⟨hring, hread, rfl⟩

theorem consumeOne_wellFormed (h : WellFormed d a b slots) :
    CallEnds d a slots (consumeOne d freqHz) := by
  refine consumeLoop_wellFormed h ?_
  have hle := h.laid.length_le
  have hlap := h.lap
  rw [asyncRingBytes_toNat]
  omega

/-- A call that still has an event before it returns that event. -/
theorem consumeOne_event (freqHz : UINT64) (h : WellFormed d a b slots)
    (hsome : payloads slots ≠ []) :
    ∃ d' before rest payload, consumeOne d freqHz = some (d', BitVec.ofNat 32 payload.length) ∧
      slots = before ++ rest ∧ payloads before = [payload] ∧ Carries d'.sendBuf 0 payload ∧
      Consumed d d' a before := by
  have hends : CallEnds d a slots (consumeOne d freqHz) := consumeOne_wellFormed h
  generalize consumeOne d freqHz = result at hends
  cases hends with
  | empty d' hnone _ => exact absurd hnone hsome
  | event d' before rest payload hslots hbefore hsent hconsumed =>
      refine ⟨d', before ++ [.event payload], rest, payload, rfl, ?_, ?_, hsent, hconsumed⟩
      · rw [hslots, List.append_assoc, List.singleton_append]
      · rw [payloads_append, hbefore]
        rfl

/-- A call on a ring of pads alone comes to the write head. -/
theorem consumeOne_empty (freqHz : UINT64) (h : WellFormed d a b slots)
    (hnone : payloads slots = []) :
    ∃ d', consumeOne d freqHz = some (d', 0) ∧ Consumed d d' a slots := by
  have hends : CallEnds d a slots (consumeOne d freqHz) := consumeOne_wellFormed h
  generalize consumeOne d freqHz = result at hends
  cases hends with
  | empty d' _ hconsumed => exact ⟨d', rfl, hconsumed⟩
  | event d' before rest payload hslots _ _ _ =>
      rw [hslots, payloads_append] at hnone
      exact absurd hnone (by simp [payloads])

end

/-! ## What `ProduceSlot` leaves behind -/

section

variable {m : Memory} {a : ℕ}

/-- A slot that `ProduceSlot` has filled stands in the ring. -/
theorem standsAt_writeSlot {payload : List Byte} (now : UINT64) (seq : LONG)
    (hsized : (RingSlot.event payload).Sized a) :
    (RingSlot.event payload).StandsAt
      (writeSlot m (a % 262144) (memoryOf payload) (BitVec.ofNat 32 payload.length)
        (stride (BitVec.ofNat 32 payload.length)) now seq) a := by
  have hsize : payload.length ≤ 65508 := hsized.2.1
  have hlength := ofNat_payload_toNat hsize
  refine ⟨hsized, ?_, ?_⟩
  · have hheader := @writeSlot_headerAt (fun _ => True) m ((RingSlot.event payload).region a)
      (memoryOf payload) (BitVec.ofNat 32 payload.length)
      (stride (BitVec.ofNat 32 payload.length)) now seq rfl rfl hlength.symm trivial
    rwa [region_hdr] at hheader
  · intro i hi
    rw [region_hdr]
    -- the final store of the state misses the payload, which the copy has put there
    refine (copy_of_not_mem _ _ (.inr ?_)).trans ?_
    · exact (Nat.add_le_add_left (show 0 + 4 ≤ 28 by decide) _).trans (Nat.le_add_right _ i)
    · refine (copy_of_mem _ _ (Nat.le_add_right _ i) ?_).trans ?_
      · rw [hlength]
        exact Nat.add_lt_add_left hi _
      · rw [Nat.add_sub_cancel_left]
        have hbyte := carries_memoryOf payload i hi
        rwa [Nat.zero_add] at hbyte

/-- A pad that `ProduceSlot` has filled stands in the ring. -/
theorem standsAt_writePad {space : UINT32} (hsized : (RingSlot.pad space.toNat).Sized a) :
    (RingSlot.pad space.toNat).StandsAt (writePad m (a % 262144) space) a := by
  refine ⟨hsized, ?_, fun i hi => absurd hi (Nat.not_lt_zero i)⟩
  have hspace : 32 ≤ space.toNat := hsized.1
  have hsub : (space - sizeofSlotHeader).toNat = space.toNat - 28 := by
    rw [BitVec.toNat_sub_of_le, sizeofSlotHeader_toNat]
    exact (show 28 ≤ 32 by decide).trans hspace
  have hheader := @writePad_headerAt (fun _ => True) m ((RingSlot.pad space.toNat).region a)
    space rfl rfl hsub.symm trivial
  rwa [region_hdr] at hheader

end

/-! ## Consecutive calls -/

section

variable {d : Dispatcher} {a b : ℕ} {slots : List RingSlot}

/-- **Run lemma**, by induction on the calls. -/
theorem consumeTimes_wellFormed (freqHz : UINT64) {n : ℕ} (h : WellFormed d a b slots)
    (hcount : n ≤ (payloads slots).length) :
    ∃ d' results visited rest, consumeTimes freqHz n d = some (d', results) ∧
      slots = visited ++ rest ∧ payloads visited = (payloads slots).take n ∧
      List.Forall₂ Delivers ((payloads slots).take n) results ∧ Consumed d d' a visited := by
  induction n generalizing d a slots with
  | zero =>
      exact ⟨d, [], [], slots, rfl, rfl, rfl, .nil, rfl, h.readHead, rfl⟩
  | succ n ih =>
      have hsome : payloads slots ≠ [] := List.length_pos_iff.mp (Nat.zero_lt_of_lt hcount)
      obtain ⟨first, before, after, payload, hcall, rfl, hbefore, hsent, hfirst⟩ :=
        consumeOne_event freqHz h hsome
      have hpayloads : payloads (before ++ after) = payload :: payloads after := by
        rw [payloads_append, hbefore, List.singleton_append]
      have hsize : payload.length ≤ 65508 :=
        h.laid.before.payload_le (by rw [hbefore]; exact List.mem_singleton_self payload)
      rw [hpayloads, List.length_cons] at hcount
      obtain ⟨last, results, visited, rest, hcalls, rfl, hvisited, hdelivers, hlast⟩ :=
        ih (h.consumed hfirst) (Nat.le_of_succ_le_succ hcount)
      refine ⟨last, (BitVec.ofNat 32 payload.length, first.sendBuf) :: results,
        before ++ visited, rest, ?_, (List.append_assoc ..).symm, ?_, ?_, hfirst.trans hlast⟩
      · rw [consumeTimes, hcall]
        simp only [Option.bind_eq_bind, Option.bind_some, hcalls]
        rfl
      · rw [payloads_append, hbefore, hvisited, hpayloads]
        rfl
      · rw [hpayloads]
        exact .cons ⟨ofNat_payload_toNat hsize, hsent⟩ hdelivers

/-- **Drain.**  On a well-formed ring consecutive calls return the events in order, each with its
payload in `m_sendBuf`, free what they come past, and then return zero with the heads equal. -/
theorem drain_wellFormed (d : Dispatcher) (slots : List RingSlot) (freqHz : UINT64)
    (haligned : d.readHead.toNat % 8 = 0)
    (hfew : (d.writeHead - d.readHead).toNat < asyncRingBytes.toNat)
    (hlaid : Laid d.ring d.readHead.toNat slots
      (d.readHead.toNat + (d.writeHead - d.readHead).toNat)) :
    (∀ n ≤ (payloads slots).length, ∃ d' results visited rest,
      consumeTimes freqHz n d = some (d', results) ∧ slots = visited ++ rest ∧
      payloads visited = (payloads slots).take n ∧
      List.Forall₂ Delivers ((payloads slots).take n) results ∧
      SlotsFreed d.ring d'.ring d.readHead.toNat visited) ∧
    ∃ d₁ results d₂, consumeTimes freqHz (payloads slots).length d = some (d₁, results) ∧
      consumeOne d₁ freqHz = some (d₂, 0) ∧ d₂.readHead = d₂.writeHead ∧
      d₂.writeHead = d.writeHead ∧ SlotsFreed d.ring d₂.ring d.readHead.toNat slots := by
  have hwell : WellFormed d d.readHead.toNat
      (d.readHead.toNat + (d.writeHead - d.readHead).toNat) slots := by
    refine ⟨?_, ?_, haligned, Nat.add_lt_add_left hfew _, hlaid⟩
    · rw [BitVec.ofNat_toNat, BitVec.setWidth_eq]
    · rw [← ofNat_add_of_toNat, BitVec.ofNat_toNat, BitVec.setWidth_eq, BitVec.add_comm,
        BitVec.sub_add_cancel]
  constructor
  · intro n hn
    obtain ⟨d', results, visited, rest, hcalls, rfl, hvisited, hdelivers, hconsumed⟩ :=
      consumeTimes_wellFormed freqHz hwell hn
    have hbefore := hlaid.before
    refine ⟨d', results, visited, rest, hcalls, rfl, hvisited, hdelivers, ?_⟩
    rw [hconsumed.ring]
    have hlap := hwell.lap
    have hle := (hwell.consumed hconsumed).laid.length_le
    exact hbefore.freed (by omega)
  · obtain ⟨d₁, results, visited, rest, hcalls, rfl, hvisited, -, hconsumed⟩ :=
      consumeTimes_wellFormed freqHz hwell le_rfl
    rw [List.take_length, payloads_append, List.self_eq_append_right] at hvisited
    obtain ⟨d₂, hlast, hrest⟩ := consumeOne_empty freqHz (hwell.consumed hconsumed) hvisited
    have hall := hconsumed.trans hrest
    refine ⟨d₁, results, d₂, hcalls, hlast, ?_, hall.writeHead, ?_⟩
    · calc d₂.readHead
          = BitVec.ofNat 32 (d.readHead.toNat + totalLen (visited ++ rest)) := hall.readHead
        _ = BitVec.ofNat 32 (d.readHead.toNat + (d.writeHead - d.readHead).toNat) :=
          congrArg _ hlaid.le
        _ = d.writeHead := hwell.writeHead.symm
        _ = d₂.writeHead := hall.writeHead.symm
    · rw [hall.ring]
      exact hlaid.freed hwell.lap.le

end

/-- The ring at the wrap of the heads: a pad at the physical end, and an event behind it. -/
private def wrappedRing : Memory :=
  writePad (writeSlot (fun _ => 0) (4294967296 % 262144) (memoryOf [7]) 1 32 1 1)
    (4294967264 % 262144) 32

private def wrappedDispatcher : Dispatcher :=
  { Dispatcher.init (fun _ => 0) 10000000 with
    ring := wrappedRing
    readHead := -32
    writeHead := 32 }

private theorem laid_wrappedRing :
    Laid wrappedRing 4294967264 [.pad 32, .event [7]] 4294967328 := by
  have hpad : (RingSlot.pad (32#32).toNat).StandsAt wrappedRing 4294967264 :=
    standsAt_writePad ⟨le_rfl, rfl⟩
  have hevent : (RingSlot.event [7]).StandsAt (writeSlot (fun _ => 0) (4294967296 % 262144)
      (memoryOf [7]) 1 32 1 1) 4294967296 := standsAt_writeSlot 1 1 ⟨le_rfl, by decide, by decide⟩
  have hafter : (RingSlot.event [7]).StandsAt wrappedRing 4294967296 := by
    refine ⟨hevent.sized, ?_, ?_⟩
    · exact hevent.header.writePad_of_disjoint (.inl (by decide))
    · intro i hi
      have hbyte : wrappedRing 28 = 7 := by decide +kernel
      obtain rfl : i = 0 := Nat.lt_one_iff.mp hi
      exact hbyte
  have hlen : (RingSlot.pad 32).len = 32 := rfl
  have hend : (RingSlot.event [7]).len = 32 := by decide
  rw [Laid, Laid, Laid, hlen, hend]
  exact ⟨hpad, hafter, rfl⟩

/-- The drain over the wrap of the heads. -/
theorem drain_over_wrap : ∃ d₁ results d₂,
    consumeTimes 10000000 1 wrappedDispatcher = some (d₁, results) ∧
      consumeOne d₁ 10000000 = some (d₂, 0) ∧ d₂.readHead = d₂.writeHead ∧
      d₂.writeHead = 32 ∧ SlotsFreed wrappedRing d₂.ring 4294967264 [.pad 32, .event [7]] :=
  (drain_wellFormed wrappedDispatcher [.pad 32, .event [7]] 10000000
    (by decide) (by decide) laid_wrappedRing).2

end Kawin.Driver
