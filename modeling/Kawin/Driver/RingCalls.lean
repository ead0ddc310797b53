import Kawin.Driver.RingInvariant
import Kawin.Base.Transition

/-!
# Sequences of complete calls

`Call.run` makes one complete `ProduceSlot` or `ConsumeOne` call, with no producer
in the middle of another.  Two laws are stated over the runs of such calls from the
zero-filled ring:

* `OccupancyLaw`: every byte count the code computed from the heads is the true
  number of claimed but unconsumed bytes, and the unconsumed regions do not overlap;
* `BoundaryLaw`: every header was read at the start of the oldest region that
  `ProduceSlot` wrote and `ConsumeOne` had not taken.

Neither holds of every run.  `ProduceSlot` accepts an event that takes the last free
byte, after which the masked difference of the heads is zero; and when it wraps with
fewer than 28 bytes before the physical end it jumps over them without a pad
header, which `ConsumeOne` does not know.  A call that does neither is `Call.Safe`.
`Settled` is the invariant of the safe calls: the ring is `Ordered` and every live
region carries a committed header.  Both laws follow from it.
-/

namespace Kawin.Driver

open ByteMemory CircularBuffer Transition

/-! ## Filling a header -/

section

variable {tickOk : ℕ → Prop} {m : Memory} {r : Region}

theorem writePad_headerAt {space : UINT32} (hkind : r.kind = .pad) (hlen : r.len = space.toNat)
    (hpayload : r.payload = (space - sizeofSlotHeader).toNat) (htick : tickOk 0) :
    HeaderAt tickOk (writePad m r.hdr space) r [] := by
  have hstart : HeaderAt tickOk (Field.state.set m r.hdr slotClaimed) r
      ((padStores space).map Prod.fst ++ [.state]) :=
    headerAt_of_all fun f => by cases f <;> simp [padStores]
  have hstores := hstart.storeAll (padStores_expects hkind hlen hpayload htick)
  exact hstores.store (by simp [slotCommitted, Field.width]) rfl

theorem writeSlot_headerAt {bytes : Memory} {size n : UINT32} {now : UINT64} {seq : LONG}
    (hkind : r.kind = .slot) (hlen : r.len = n.toNat) (hpayload : r.payload = size.toNat)
    (htick : tickOk now.toNat) :
    HeaderAt tickOk (writeSlot m r.hdr bytes size n now seq) r [] := by
  have hstart : HeaderAt tickOk (Field.state.set m r.hdr slotClaimed) r
      ((slotStores size n now).map Prod.fst ++ [.seqNum, .state]) :=
    headerAt_of_all fun f => by cases f <;> simp [slotStores]
  have hstores := hstart.storeAll (slotStores_expects hkind hlen hpayload htick)
  have hseq := hstores.store (f := .seqNum) (v := seq.toNat) seq.isLt trivial
  have hcopy : HeaderAt tickOk (copy _ (payloadOf r.hdr) size.toNat bytes) r [.state] :=
    hseq.copy_of_disjoint (Or.inl le_rfl)
  exact hcopy.store (by simp [slotCommitted, Field.width]) rfl

theorem HeaderAt.writePad_of_disjoint {unset : List Field} {hdr : ℕ} {space : UINT32}
    (h : HeaderAt tickOk m r unset) (hdisj : Disjoint r.hdr 28 hdr 28) :
    HeaderAt tickOk (writePad m hdr space) r unset :=
  ((h.set_of_disjoint hdisj).storeAll_of_disjoint hdisj).set_of_disjoint hdisj

theorem HeaderAt.writeSlot_of_disjoint {unset : List Field} {hdr : ℕ} {bytes : Memory}
    {size n : UINT32} {now : UINT64} {seq : LONG} (h : HeaderAt tickOk m r unset)
    (hdisj : Disjoint r.hdr 28 hdr (28 + size.toNat)) :
    HeaderAt tickOk (writeSlot m hdr bytes size n now seq) r unset := by
  have hheader : Disjoint r.hdr 28 hdr 28 := hdisj.mono le_rfl le_rfl le_rfl (by omega)
  have hpayload : Disjoint r.hdr 28 (payloadOf hdr) size.toNat :=
    hdisj.mono le_rfl le_rfl (by rw [payloadOf_eq]; omega) (by rw [payloadOf_eq]; omega)
  exact ((((h.set_of_disjoint hheader).storeAll_of_disjoint hheader).set_of_disjoint
    hheader).copy_of_disjoint hpayload).set_of_disjoint hheader

end

/-! ## Rounds of the loops

What one round does, branch by branch. -/

section

variable {d : Dispatcher} {size : UINT32} {now : ℕ → UINT64}

theorem claimLoop_full (fuel : ℕ) (h : lacksRoom d.writeHead d.readHead (stride size) = true) :
    claimLoop size (fuel + 1) d =
      some ({ d.recordCount with dropped := d.dropped + 1 }, none) := by
  rw [claimLoop, recordCount_readHead, if_pos h]
  rfl

theorem claimLoop_wraps (fuel : ℕ) (h : lacksRoom d.writeHead d.readHead (stride size) ≠ true)
    (hwraps : wraps d.writeHead (stride size) = true) :
    claimLoop size (fuel + 1) d = claimLoop size fuel d.recordCount.wrap := by
  rw [claimLoop, recordCount_readHead, if_neg h, if_pos hwraps]

theorem claimLoop_fits (fuel : ℕ) (h : lacksRoom d.writeHead d.readHead (stride size) ≠ true)
    (hwraps : wraps d.writeHead (stride size) ≠ true) :
    claimLoop size (fuel + 1) d =
      some (d.recordCount.claim .slot (stride size) size, some d.writeHead) := by
  rw [claimLoop, recordCount_readHead, if_neg h, if_neg hwraps]

theorem wrap_of_header (hheader : sizeofSlotHeader ≤ spaceToEnd d.writeHead) :
    d.wrap = { d.claim .pad (spaceToEnd d.writeHead)
        (spaceToEnd d.writeHead - sizeofSlotHeader) with
      ring := writePad d.ring (slotAt d.writeHead) (spaceToEnd d.writeHead) } := by
  have hkind : wrapKind d.writeHead = .pad := by
    unfold wrapKind
    rw [if_pos hheader]
  unfold Dispatcher.wrap
  simp only [hkind]
  rw [if_pos hheader, claim_ring]

@[simp] theorem wrap_writeTotal : d.wrap.history.writeTotal =
    d.history.writeTotal + (spaceToEnd d.writeHead).toNat := by
  simp only [Dispatcher.wrap]
  split
  · rw [withRing_history, claim_writeTotal]
  · rw [claim_writeTotal]

@[simp] theorem wrap_readTotal : d.wrap.history.readTotal = d.history.readTotal := by
  simp only [Dispatcher.wrap]
  split
  · rw [withRing_history, claim_readTotal]
  · rw [claim_readTotal]

theorem consumeLoop_pad (fuel : ℕ) (h : usedBytes d.writeHead d.readHead ≠ 0)
    (hstate : Field.state.get d.ring (slotAt d.readHead) = slotCommitted)
    (hflags : Field.flags.get d.ring (slotAt d.readHead) = padFlag) :
    consumeLoop now (fuel + 1) d =
      consumeLoop now fuel ((d.recordCount.recordHeaderRead.setField (slotAt d.readHead) .state
        slotFree).take (stride (field32 d.ring (slotAt d.readHead) .payloadBytes))) := by
  rw [consumeLoop, if_neg h]
  simp only [recordCount_readHead, recordHeaderRead_ring, recordCount_ring, hstate, hflags, if_pos]

theorem consumeLoop_slot (fuel : ℕ) (h : usedBytes d.writeHead d.readHead ≠ 0)
    (hstate : Field.state.get d.ring (slotAt d.readHead) = slotCommitted)
    (hflags : Field.flags.get d.ring (slotAt d.readHead) ≠ padFlag) :
    consumeLoop now (fuel + 1) d =
      some (({ d.recordCount.recordHeaderRead with
          sendBuf := copy d.sendBuf 0 (field32 d.ring (slotAt d.readHead) .payloadBytes).toNat
            fun i => d.ring (payloadOf (slotAt d.readHead) + i) }.setField (slotAt d.readHead)
          .state slotFree).take (stride (field32 d.ring (slotAt d.readHead) .payloadBytes)),
        field32 d.ring (slotAt d.readHead) .payloadBytes) := by
  rw [consumeLoop, if_neg h]
  simp only [recordCount_readHead, recordHeaderRead_ring, recordCount_ring, hstate, if_pos,
    recordHeaderRead_sendBuf, recordCount_sendBuf]
  exact if_neg hflags

end

/-! ## Calls and laws -/

/-- A complete call, with what it gets from outside. -/
inductive Call
  | produce (bytes : Memory) (size : UINT32)
  | consume

def Call.run (freqHz : UINT64) (d : Dispatcher) : Call → Option Dispatcher
  | .produce bytes size => (produceSlot d bytes size freqHz).map Prod.fst
  | .consume => (consumeOne d freqHz).map Prod.fst

/-- The payload of a `ProduceSlot` call has between 1 and 65508 bytes. -/
def Call.Sized : Call → Prop
  | .produce _ size => 1 ≤ size.toNat ∧ size.toNat ≤ 65508
  | .consume => True

/-- Every count computed from the heads was the true one, and unconsumed regions do not
overlap. -/
structure OccupancyLaw (d : Dispatcher) : Prop where
  counts : ∀ p ∈ d.history.counts, (p.1.toNat : ℤ) = p.2
  disjoint : d.history.live.Pairwise fun r s => Disjoint r.hdr r.len s.hdr s.len

/-- Every header was read at the start of the oldest unconsumed slot or pad. -/
def BoundaryLaw (d : Dispatcher) : Prop :=
  ∀ p ∈ d.history.headerReads, ∃ r, p.2 = some r ∧ r.kind ≠ .tail ∧ r.start = p.1

/-- The slot of this size would take the last free byte of the ring, counting the pad that
a wrap inserts before it. -/
def FillsRing (d : Dispatcher) (size : UINT32) : Prop :=
  let used := (usedBytes d.writeHead d.readHead).toNat
  let space := (spaceToEnd d.writeHead).toNat
  if (stride size).toNat ≤ space then used + (stride size).toNat = asyncRingBytes.toNat
  else used + space + (stride size).toNat = asyncRingBytes.toNat

/-- Claiming a slot of this size wraps over a tail too short for a pad header. -/
def ShortTail (d : Dispatcher) (size : UINT32) : Prop :=
  lacksRoom d.writeHead d.readHead (stride size) = false ∧
    wraps d.writeHead (stride size) = true ∧ spaceToEnd d.writeHead < sizeofSlotHeader

instance (d : Dispatcher) (size : UINT32) : Decidable (FillsRing d size) := by
  unfold FillsRing; infer_instance

instance (d : Dispatcher) (size : UINT32) : Decidable (ShortTail d size) := by
  unfold ShortTail; infer_instance

/-- The call neither fills the ring to the last byte nor wraps over a short tail. -/
def Call.Safe (d : Dispatcher) : Call → Prop
  | .produce _ size => ¬ FillsRing d size ∧ ¬ ShortTail d size
  | .consume => True

instance (call : Call) : Decidable call.Sized := by
  cases call <;> (unfold Call.Sized; infer_instance)

instance (d : Dispatcher) (call : Call) : Decidable (call.Safe d) := by
  cases call <;> (unfold Call.Safe; infer_instance)

/-- A sequence of sized and safe calls on the zero-filled ring. -/
abbrev SafeCalls (outside : Memory) (freq : UINT64) (calls : List Call) : Prop :=
  Allowed (Call.run freq) (fun d call => call.Sized ∧ call.Safe d)
    (Dispatcher.init outside freq) calls

/-! ## The invariant of the safe calls -/

/-- Between safe calls the ring is in order and every live region is committed. -/
structure Settled (d : Dispatcher) : Prop where
  ordered : Ordered d
  headers : ∀ r ∈ d.history.live, HeaderAt (fun _ => True) d.ring r []
  counts : ∀ p ∈ d.history.counts, (p.1.toNat : ℤ) = p.2
  headerReads : BoundaryLaw d

theorem init_settled (outside : Memory) (freq : UINT64) :
    Settled (Dispatcher.init outside freq) where
  ordered := init_ordered outside freq
  headers := by simp [Dispatcher.init, History.live]
  counts := by simp [Dispatcher.init]
  headerReads := by simp [Dispatcher.init, BoundaryLaw]

theorem Settled.occupancyLaw {d : Dispatcher} (h : Settled d) : OccupancyLaw d :=
  ⟨h.counts, h.ordered.pairwise_disjoint⟩

theorem Settled.recordCount {d : Dispatcher} (h : Settled d) : Settled d.recordCount where
  ordered := h.ordered.congr rfl rfl rfl rfl rfl rfl
  headers := h.headers
  counts := by
    intro p hp
    rcases List.mem_cons.mp hp with rfl | hp
    · exact h.ordered.count_eq
    · exact h.counts p hp
  headerReads := h.headerReads

theorem Settled.recordHeaderRead {d : Dispatcher} (h : Settled d) {r : Region}
    {rest : List Region} (hlive : d.history.live = r :: rest) : Settled d.recordHeaderRead where
  ordered := h.ordered.congr rfl rfl rfl rfl rfl rfl
  headers := h.headers
  counts := h.counts
  headerReads := by
    intro p hp
    rcases List.mem_cons.mp hp with rfl | hp
    · refine ⟨r, by simp [hlive], ?_, h.ordered.start_head hlive⟩
      exact (h.ordered.shaped r (by rw [hlive]; exact List.mem_cons_self ..)).notTail
    · exact h.headerReads p hp

/-! ## `ProduceSlot` -/

/-- Claiming a region and filling its header, whatever the header says. -/
theorem Settled.claim {d : Dispatcher} (h : Settled d) {kind : RegionKind} {n payload : UINT32}
    {m : Memory} (hshaped : (claimedRegion d kind n payload).Shaped)
    (hroom : d.history.writeTotal + n.toNat < d.history.readTotal + 262144)
    (hnew : HeaderAt (fun _ => True) m (claimedRegion d kind n payload) [])
    (hold : ∀ r ∈ d.history.live,
      Disjoint r.hdr 28 (slotAt d.writeHead) n.toNat → HeaderAt (fun _ => True) m r []) :
    Settled { d.claim kind n payload with ring := m } := by
  have hord := h.ordered
  refine ⟨(hord.claim hshaped hroom).withRing m, ?_, h.counts, h.headerReads⟩
  intro r hr
  change r ∈ (d.claim kind n payload).history.live at hr
  rw [hord.live_claim] at hr
  rcases List.mem_append.mp hr with hr | hr
  · have hdisj := @Ordered.claimed_disjoint d hord kind n payload hroom.le r hr
    have := (hord.shaped r hr).header
    rw [hord.slotAt_writeHead] at hold
    exact hold r hr (hdisj.mono le_rfl (by omega) le_rfl le_rfl)
  · rw [List.mem_singleton.mp hr]
    exact hnew

/-- Wrapping with a pad header. -/
theorem Settled.wrap {d : Dispatcher} (h : Settled d)
    (hheader : sizeofSlotHeader ≤ spaceToEnd d.writeHead)
    (hquarter : (spaceToEnd d.writeHead).toNat ≤ 65536)
    (hroom : d.history.writeTotal + (spaceToEnd d.writeHead).toNat <
      d.history.readTotal + 262144) : Settled d.wrap := by
  have hord := h.ordered
  have hspace : (spaceToEnd d.writeHead).toNat = 262144 - d.history.writeTotal % 262144 := by
    rw [spaceToEnd_toNat, hord.slotAt_writeHead]
  have hsub : (spaceToEnd d.writeHead - sizeofSlotHeader).toNat =
      (spaceToEnd d.writeHead).toNat - 28 := by
    rw [BitVec.toNat_sub_of_le hheader, sizeofSlotHeader_toNat]
  have hheaderNat : 28 ≤ (spaceToEnd d.writeHead).toNat := hheader
  rw [wrap_of_header hheader]
  refine h.claim ?_ hroom ?_ ?_
  · unfold claimedRegion
    rw [hsub]
    exact pad_shaped hord.aligned hspace hheaderNat hquarter
  · rw [hord.slotAt_writeHead]
    exact writePad_headerAt (r := claimedRegion d .pad _ _) rfl rfl rfl trivial
  · intro r hr hdisj
    exact (h.headers r hr).writePad_of_disjoint (hdisj.mono le_rfl le_rfl le_rfl (by omega))

/-- A slot claimed and filled at the write head. -/
theorem Settled.slot {d : Dispatcher} (h : Settled d) {size : UINT32} (bytes : Memory)
    (now : UINT64) (seq : LONG) (hpos : 0 < size.toNat) (hsize : size.toNat ≤ 65508)
    (hfits : d.history.writeTotal % 262144 + (stride size).toNat ≤ 262144)
    (hroom : d.history.writeTotal + (stride size).toNat < d.history.readTotal + 262144) :
    Settled { d.claim .slot (stride size) size with
      ring := writeSlot d.ring (slotAt d.writeHead) bytes size (stride size) now seq } := by
  have hord := h.ordered
  have hstride : (stride size).toNat = (size.toNat + 35) / 8 * 8 := stride_toNat (by omega)
  refine h.claim ?_ hroom ?_ ?_
  · unfold claimedRegion
    rw [hstride]
    exact slot_shaped hord.aligned hpos hsize (by rw [← hstride]; exact hfits)
  · rw [hord.slotAt_writeHead]
    exact writeSlot_headerAt (r := claimedRegion d .slot _ _) rfl rfl rfl trivial
  · intro r hr hdisj
    exact (h.headers r hr).writeSlot_of_disjoint (hdisj.mono le_rfl le_rfl le_rfl (by omega))

theorem Settled.withDropped {d : Dispatcher} (h : Settled d) (n : ℕ) :
    Settled { d with dropped := n } :=
  ⟨h.ordered.withCounters _ _ _ _ _, h.headers, h.counts, h.headerReads⟩

theorem Settled.withSendBuf {d : Dispatcher} (h : Settled d) (m : Memory) :
    Settled { d with sendBuf := m } :=
  ⟨h.ordered.withCounters _ _ _ _ _, h.headers, h.counts, h.headerReads⟩

/-- How a safe claim loop ends: the event is dropped, or a slot is claimed at the write head
of a settled ring with room to spare. -/
def ClaimOutcome (size : UINT32) (result : Option (Dispatcher × Option LONG)) : Prop :=
  (∃ d, Settled d ∧ result = some (d, none)) ∨
  ∃ d, Settled d ∧ d.history.writeTotal % 262144 + (stride size).toNat ≤ 262144 ∧
    d.history.writeTotal + (stride size).toNat < d.history.readTotal + 262144 ∧
    result = some (d.claim .slot (stride size) size, some d.writeHead)

/-- A round of the claim loop that does not wrap ends the loop. -/
theorem claimLoop_of_not_wraps {d : Dispatcher} (h : Settled d) {size : UINT32}
    (fuel : ℕ) (hfits : d.history.writeTotal % 262144 + (stride size).toNat ≤ 262144)
    (hfill : d.history.writeTotal + (stride size).toNat ≠ d.history.readTotal + 262144) :
    ClaimOutcome size (claimLoop size (fuel + 1) d) := by
  have hord := h.ordered
  -- the region fits before the physical end
  have hnowrap : wraps d.writeHead (stride size) ≠ true := by
    rw [ne_eq, hord.wraps_iff]
    omega
  by_cases hfull : lacksRoom d.writeHead d.readHead (stride size) = true
  · exact Or.inl ⟨_, h.recordCount.withDropped _, claimLoop_full fuel hfull⟩
  · refine Or.inr ⟨d.recordCount, h.recordCount, hfits, ?_, claimLoop_fits fuel hfull hnowrap⟩
    rw [hord.lacksRoom_iff] at hfull
    rw [recordCount_writeTotal, recordCount_readTotal]
    omega

theorem claimLoop_settled {d : Dispatcher} (h : Settled d) {size : UINT32}
    (hsize : size.toNat ≤ 65508) (hfill : ¬ FillsRing d size) (htail : ¬ ShortTail d size) :
    ClaimOutcome size (claimLoop size 2 d) := by
  have hord := h.ordered
  have hused := hord.usedBytes_toNat
  have hle := hord.le
  have hstride : (stride size).toNat = (size.toNat + 35) / 8 * 8 := stride_toNat (by omega)
  have hspace : (spaceToEnd d.writeHead).toNat = 262144 - d.history.writeTotal % 262144 := by
    rw [spaceToEnd_toNat, hord.slotAt_writeHead]
  simp only [FillsRing, hused, asyncRingBytes_toNat] at hfill
  by_cases hfits : d.history.writeTotal % 262144 + (stride size).toNat ≤ 262144
  · rw [if_pos (by omega)] at hfill
    exact claimLoop_of_not_wraps h 1 hfits (by omega)
  rw [if_neg (by omega)] at hfill
  have hwraps : wraps d.writeHead (stride size) = true := by
    rw [hord.wraps_iff]
    omega
  by_cases hfull : lacksRoom d.writeHead d.readHead (stride size) = true
  · exact Or.inl ⟨_, h.recordCount.withDropped _, claimLoop_full 1 hfull⟩
  · -- the wrap leaves the write head at the physical start, where the second round fits
    have hheader : sizeofSlotHeader ≤ spaceToEnd d.writeHead := by
      by_contra hshort
      exact htail ⟨Bool.not_eq_true _ ▸ hfull, hwraps, BitVec.not_le.mp hshort⟩
    have hfree := hord.lacksRoom_iff.not.mp hfull
    have hpad : Settled d.recordCount.wrap := by
      refine h.recordCount.wrap hheader ?_ ?_
      · rw [recordCount_writeHead]
        omega
      · rw [recordCount_writeHead, recordCount_writeTotal, recordCount_readTotal]
        omega
    rw [claimLoop_wraps 1 hfull hwraps]
    apply claimLoop_of_not_wraps hpad 0
    · rw [wrap_writeTotal, recordCount_writeTotal, recordCount_writeHead]
      omega
    · rw [wrap_writeTotal, wrap_readTotal, recordCount_writeTotal, recordCount_readTotal,
        recordCount_writeHead]
      omega

/-- **Step lemma for `ProduceSlot`.** -/
theorem produceSlot_settled {d : Dispatcher} (h : Settled d) {bytes : Memory} {size : UINT32}
    {freqHz : UINT64} (hpos : 0 < size.toNat) (hsize : size.toNat ≤ 65508)
    (hfill : ¬ FillsRing d size) (htail : ¬ ShortTail d size) :
    ∃ d' status, produceSlot d bytes size freqHz = some (d', status) ∧ Settled d' := by
  have hmax : ¬ size > maxPayload := by
    rw [gt_iff_lt, BitVec.lt_def, maxPayload_toNat]
    omega
  rcases @claimLoop_settled d h size hsize hfill htail with
    ⟨d₁, hd₁, hloop⟩ | ⟨d₁, hd₁, hfits, hroom, hloop⟩
  · exact ⟨d₁, statusInsufficientResources, by simp only [produceSlot, if_neg hmax, hloop], hd₁⟩
  · have hslot := hd₁.slot bytes freqHz (d₁.seqCounter + 1) hpos hsize hfits hroom
    refine ⟨_, statusSuccess, by simp only [produceSlot, if_neg hmax, hloop]; rfl, ?_⟩
    exact ⟨hslot.ordered.withCounters _ _ _ _ _, hslot.headers, hslot.counts,
      hslot.headerReads⟩

/-! ## `ConsumeOne` -/

/-- Taking the oldest live region after its header was marked free. -/
theorem Settled.take {d : Dispatcher} (h : Settled d) {r : Region} {rest : List Region}
    {n : UINT32} (hlive : d.history.live = r :: rest) (hn : n.toNat = r.len) :
    Settled ((d.setField (slotAt d.readHead) .state slotFree).take n) := by
  have hord := h.ordered
  refine ⟨(hord.withRing _).take hlive hn, ?_, h.counts, h.headerReads⟩
  intro q hq
  have hq' : q ∈ rest := by
    rw [live_take] at hq
    change q ∈ d.history.live.tail at hq
    rwa [hlive] at hq
  have hpair := hord.pairwise_disjoint
  rw [hlive] at hpair
  have hdisj := (List.pairwise_cons.mp hpair).1 q hq'
  have hr := (hord.shaped r (by rw [hlive]; exact List.mem_cons_self ..)).header
  have hmem : q ∈ d.history.live := by rw [hlive]; exact List.mem_cons_of_mem _ hq'
  have hqh := (hord.shaped q hmem).header
  rw [hord.hdr_head hlive] at hdisj
  exact (h.headers q hmem).set_of_disjoint (hdisj.symm.mono le_rfl (by omega) le_rfl (by omega))

/-- **Step lemma for `ConsumeOne`**, by induction on the rounds: a round either returns or
takes a pad, so there are at most as many as live regions. -/
theorem consumeLoop_settled (now : ℕ → UINT64) : ∀ (fuel : ℕ) (d : Dispatcher), Settled d →
    d.history.live.length < fuel →
      ∃ d' payload, consumeLoop now fuel d = some (d', payload) ∧ Settled d' := by
  intro fuel
  induction fuel with
  | zero => intro d _ hfuel; exact absurd hfuel (Nat.not_lt_zero _)
  | succ fuel ih =>
      intro d h hfuel
      have hord := h.ordered
      cases hlive : d.history.live with
      | nil =>
          have hzero := hord.usedBytes_eq_zero_iff.mpr hlive
          exact ⟨d.recordCount, 0, by simp only [consumeLoop, hzero, if_pos], h.recordCount⟩
      | cons r rest =>
          have hpending : usedBytes d.writeHead d.readHead ≠ 0 := by
            rw [ne_eq, hord.usedBytes_eq_zero_iff, hlive]
            exact List.cons_ne_nil _ _
          have hmem : r ∈ d.history.live := by rw [hlive]; exact List.mem_cons_self ..
          have hread : Settled d.recordCount.recordHeaderRead :=
            h.recordCount.recordHeaderRead hlive
          have hheader := h.headers r hmem
          rw [HeaderAt, hord.hdr_head hlive] at hheader
          have hstate : Field.state.get d.ring (slotAt d.readHead) = slotCommitted :=
            hheader .state (List.not_mem_nil)
          have hpayload : Field.payloadBytes.get d.ring (slotAt d.readHead) = r.payload :=
            hheader .payloadBytes (List.not_mem_nil)
          have hn : (stride (field32 d.ring (slotAt d.readHead) .payloadBytes)).toNat = r.len := by
            rw [field32, hpayload]
            exact (hord.shaped r hmem).stride_payload
          by_cases hpad : Field.flags.get d.ring (slotAt d.readHead) = padFlag
          · -- a pad: the loop goes on behind it
            rw [consumeLoop_pad fuel hpending hstate hpad]
            apply ih _ (hread.take hlive hn)
            rw [live_take]
            change d.history.live.tail.length < fuel
            rw [hlive, List.length_cons] at hfuel
            rw [hlive, List.tail_cons]
            omega
          · rw [consumeLoop_slot fuel hpending hstate hpad]
            exact ⟨_, _, rfl, (hread.withSendBuf _).take hlive hn⟩

theorem consumeOne_settled {d : Dispatcher} (h : Settled d) (freqHz : UINT64) :
    ∃ d' payload, consumeOne d freqHz = some (d', payload) ∧ Settled d' := by
  apply consumeLoop_settled (fun _ => freqHz) _ d h
  have hcount := h.ordered.tiles.length_le fun r hr => (h.ordered.shaped r hr).header
  have hroom := h.ordered.room
  rw [asyncRingBytes_toNat]
  omega

/-! ## The laws -/

theorem Call.run_settled {freqHz : UINT64} {d : Dispatcher} (h : Settled d) {call : Call}
    (hallowed : call.Sized ∧ call.Safe d) : ∃ d', call.run freqHz d = some d' ∧ Settled d' := by
  obtain ⟨hsized, hsafe⟩ := hallowed
  cases call with
  | produce bytes size =>
      obtain ⟨e, status, hcall, he⟩ :=
        @produceSlot_settled d h bytes size freqHz hsized.1 hsized.2 hsafe.1 hsafe.2
      exact ⟨e, by rw [Call.run, hcall, Option.map_some], he⟩
  | consume =>
      obtain ⟨e, payload, hcall, he⟩ := consumeOne_settled h freqHz
      exact ⟨e, by rw [Call.run, hcall, Option.map_some], he⟩

/-- Every sequence of safe calls runs to its end and leaves the ring settled. -/
theorem steps_settled {outside : Memory} {freq : UINT64} {calls : List Call}
    (h : SafeCalls outside freq calls) :
    ∃ d, steps (Call.run freq) (Dispatcher.init outside freq) calls = some d ∧ Settled d :=
  steps_of_total (fun _ _ hd hallowed => Call.run_settled hd hallowed)
    (init_settled outside freq) h

/-- A `ProduceSlot` call with a zero payload. -/
private def produceZeros (size : UINT32) : Call := .produce (fun _ => 0) size

/-- **Occupancy law.**  Safe calls return, and both byte counts they compute from the heads are
the number of claimed but unconsumed bytes. -/
theorem occupancyLaw_of_safeCalls (outside : Memory) (freq : UINT64) (calls : List Call)
    (h : SafeCalls outside freq calls) :
    ∃ d, steps (Call.run freq) (Dispatcher.init outside freq) calls = some d ∧ OccupancyLaw d := by
  obtain ⟨d, hd, hsettled⟩ := steps_settled h
  exact ⟨d, hd, hsettled.occupancyLaw⟩

/-- The second lap: three large slots, a pad, and a slot behind it at the physical start. -/
theorem occupancyLaw_second_lap : ∃ d, steps (Call.run 10000000)
    (Dispatcher.init (fun _ => 0) 10000000)
    [produceZeros 65508, produceZeros 65508, produceZeros 65508, .consume, .consume,
      produceZeros 65000, produceZeros 65000, .consume, .consume, .consume] = some d ∧
      OccupancyLaw d :=
  occupancyLaw_of_safeCalls (fun _ => 0) 10000000 _ (by decide +kernel)

/-- Four slots of the largest size fill the ring to the last byte, and the next call takes it
for empty. -/
theorem occupancyLaw_fails_when_full : ¬ ∀ calls : List Call, (∀ call ∈ calls, call.Sized) →
    ∀ d, steps (Call.run 10000000) (Dispatcher.init (fun _ => 0) 10000000) calls = some d →
      OccupancyLaw d := by
  intro hlaw
  have hcount : (steps (Call.run 10000000) (Dispatcher.init (fun _ => 0) 10000000)
      [produceZeros 65508, produceZeros 65508, produceZeros 65508, produceZeros 65508,
        produceZeros 100]).map (·.history.counts.head?) = some (some (0#32, 262144)) := by
    decide +kernel
  obtain ⟨d, hd, hhead⟩ := Option.map_eq_some_iff.mp hcount
  have hmem : (0#32, (262144 : ℤ)) ∈ d.history.counts := List.mem_of_mem_head? hhead
  have := (hlaw _ (by decide +kernel) d hd).counts _ hmem
  simp at this

/-- **Slot-boundary law.**  Safe calls return, and the consumer reads headers only at the start
of the oldest slot or pad. -/
theorem boundaryLaw_of_safeCalls (outside : Memory) (freq : UINT64) (calls : List Call)
    (h : SafeCalls outside freq calls) :
    ∃ d, steps (Call.run freq) (Dispatcher.init outside freq) calls = some d ∧ BoundaryLaw d := by
  obtain ⟨d, hd, hsettled⟩ := steps_settled h
  exact ⟨d, hd, hsettled.headerReads⟩

theorem boundaryLaw_second_lap : ∃ d, steps (Call.run 10000000)
    (Dispatcher.init (fun _ => 0) 10000000)
    [produceZeros 65508, produceZeros 65508, produceZeros 65508, .consume, .consume,
      produceZeros 65000, produceZeros 65000, .consume, .consume, .consume] = some d ∧
      BoundaryLaw d :=
  boundaryLaw_of_safeCalls (fun _ => 0) 10000000 _ (by decide +kernel)

/-- A wrap over a tail of eight bytes writes no pad header: the consumer takes the tail for a
free slot and steps over it into the slot at the physical start. -/
theorem boundaryLaw_fails_after_short_tail :
    ¬ ∀ calls : List Call, (∀ call ∈ calls, call.Sized) →
      ∀ d, steps (Call.run 10000000) (Dispatcher.init (fun _ => 0) 10000000) calls = some d →
        BoundaryLaw d := by
  intro hlaw
  have hread : (steps (Call.run 10000000) (Dispatcher.init (fun _ => 0) 10000000)
      [produceZeros 65508, produceZeros 65508, produceZeros 65508, .consume, .consume,
        .consume, produceZeros 65500, .consume, produceZeros 100, .consume,
        .consume]).map (·.history.headerReads.head?) =
      some (some (262168, some ⟨.tail, 262136, 8, 4294967276⟩)) := by
    decide +kernel
  obtain ⟨d, hd, hhead⟩ := Option.map_eq_some_iff.mp hread
  have hmem := List.mem_of_mem_head? hhead
  obtain ⟨r, hr, hkind, _⟩ := hlaw _ (by decide +kernel) d hd _ hmem
  cases hr
  exact hkind rfl

end Kawin.Driver
