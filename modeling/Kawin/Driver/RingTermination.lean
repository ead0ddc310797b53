import Kawin.Driver.RingCalls
import Mathlib.Data.Finset.Card

/-!
# `ConsumeOne` returns

The loop of `ConsumeOne` has no counter, and its only exit test besides the state of a header is a
masked difference of the heads, which the read head can jump over.  The strides come out of
the headers, so in a ring that is not well formed they can be anything, zero included.

What goes down is the number of aligned headers that are not `Free` (`busyHeaders`).  A round that
goes on has found the header at the read head `Committed` or `Claimed` and leaves it `Free`
(`Round`), and it makes no other header busy: what it stores to is the state of that header, and
what it zeroes is a block of whole headers, since every stride is a multiple of the alignment.  A
`Free` header ends the call.
-/

namespace Kawin.Driver

open ByteMemory

/-! ## Headers that are not `Free` -/

/-- The aligned headers of the ring, by number, that are not `Free`. -/
def busyHeaders (m : Memory) : Finset ℕ :=
  (Finset.range (asyncRingBytes.toNat / 8)).filter fun k => Field.state.get m (8 * k) ≠ slotFree

/-- The memory of the ring after a round that freed the header at `hdr`. -/
structure FreesHeader (m m' : Memory) (hdr : ℕ) : Prop where
  freed : Field.state.get m' hdr = slotFree
  others : ∀ k, Field.state.get m' (8 * k) ≠ slotFree → Field.state.get m (8 * k) ≠ slotFree

section

variable {m m' : Memory} {hdr n k : ℕ}

theorem card_busyHeaders_le (m : Memory) :
    (busyHeaders m).card ≤ asyncRingBytes.toNat / 8 :=
  calc (busyHeaders m).card
      ≤ (Finset.range (asyncRingBytes.toNat / 8)).card := Finset.card_filter_le _ _
    _ = asyncRingBytes.toNat / 8 := Finset.card_range _

theorem mem_busyHeaders : k ∈ busyHeaders m ↔
    k < asyncRingBytes.toNat / 8 ∧ Field.state.get m (8 * k) ≠ slotFree := by
  rw [busyHeaders, Finset.mem_filter, Finset.mem_range]

/-- Freeing a busy header leaves fewer of them. -/
theorem FreesHeader.card_lt (h : FreesHeader m m' hdr) (haligned : 8 ∣ hdr)
    (hring : hdr < asyncRingBytes.toNat) (hbusy : Field.state.get m hdr ≠ slotFree) :
    (busyHeaders m').card < (busyHeaders m).card := by
  obtain ⟨k, rfl⟩ := haligned
  have hk : k < asyncRingBytes.toNat / 8 := by
    rw [asyncRingBytes_toNat] at hring ⊢
    omega
  apply Finset.card_lt_card
  rw [Finset.ssubset_iff_of_subset]
  · refine ⟨k, mem_busyHeaders.mpr ⟨hk, hbusy⟩, ?_⟩
    intro hmem
    exact (mem_busyHeaders.mp hmem).2 h.freed
  · intro j hj
    obtain ⟨hlt, hstate⟩ := mem_busyHeaders.mp hj
    exact mem_busyHeaders.mpr ⟨hlt, h.others j hstate⟩

/-- The states of two aligned headers do not overlap. -/
theorem state_set_of_ne (m : Memory) (v : ℕ) (haligned : 8 ∣ hdr) (hne : 8 * k ≠ hdr) :
    Field.state.get (Field.state.set m hdr v) (8 * k) = Field.state.get m (8 * k) := by
  obtain ⟨j, rfl⟩ := haligned
  apply readNat_writeNat_of_disjoint
  unfold ByteMemory.Disjoint
  have hwidth : Field.state.width = 4 := rfl
  have hoffset : Field.state.offset = 0 := rfl
  omega

/-- Storing `Free` to a header frees it. -/
theorem freesHeader_set (m : Memory) (haligned : 8 ∣ hdr) :
    FreesHeader m (Field.state.set m hdr slotFree) hdr where
  freed := Field.get_set m hdr .state (by decide)
  others := by
    intro k hk
    rcases eq_or_ne (8 * k) hdr with heq | hne
    · rw [heq, Field.get_set m hdr .state (by decide)] at hk
      exact absurd rfl hk
    · rwa [state_set_of_ne m slotFree haligned hne] at hk

/-- Zeroing a block of whole headers makes none of them busy. -/
theorem state_zero (haligned : 8 ∣ hdr) (hblock : 8 ∣ n)
    (hk : Field.state.get (zero m hdr n) (8 * k) ≠ slotFree) :
    Field.state.get m (8 * k) ≠ slotFree := by
  have hwidth : Field.state.width = 4 := rfl
  have hoffset : Field.state.offset = 0 := rfl
  by_cases hinside : hdr ≤ 8 * k ∧ 8 * k < hdr + n
  · -- the whole state has been zeroed
    refine absurd ?_ hk
    obtain ⟨a, ha⟩ := Nat.exists_eq_add_of_le hinside.1
    unfold Field.get
    rw [hwidth, hoffset, Nat.add_zero, ha]
    exact readNat_zero_inside m (by omega)
  · intro hfree
    apply hk
    rw [← hfree]
    apply readNat_copy_of_disjoint
    unfold ByteMemory.Disjoint
    omega

theorem freesHeader_zero (m : Memory) (haligned : 8 ∣ hdr) (hblock : 8 ∣ n) :
    FreesHeader m (Field.state.set (zero m hdr n) hdr slotFree) hdr where
  freed := Field.get_set _ hdr .state (by decide)
  others := by
    intro k hk
    exact state_zero haligned hblock ((freesHeader_set _ haligned).others k hk)

end

/-! ## Rounds -/

/-- A round of `ConsumeOne` that goes on. -/
structure Round (d d' : Dispatcher) : Prop where
  busy : Field.state.get d.ring (slotAt d.readHead) ≠ slotFree
  frees : FreesHeader d.ring d'.ring (slotAt d.readHead)
  aligned : 8 ∣ d'.readHead.toNat

section

variable {d : Dispatcher} {now : ℕ → UINT64} {n : UINT32}

theorem slotAt_toNat (head : UINT32) : slotAt head = head.toNat % asyncRingBytes.toNat := by
  have hslot := slotAt_ofNat head.toNat
  rwa [BitVec.ofNat_toNat, BitVec.setWidth_eq] at hslot

theorem slotAt_aligned {head : UINT32} (haligned : 8 ∣ head.toNat) : 8 ∣ slotAt head := by
  rw [slotAt_toNat, asyncRingBytes_toNat]
  omega

/-- An aligned stride keeps the read head aligned, also where it wraps around. -/
theorem add_aligned {head : UINT32} (haligned : 8 ∣ head.toNat) (hn : 8 ∣ n.toNat) :
    8 ∣ (head + n).toNat := by
  rw [BitVec.toNat_add]
  omega

theorem poisonStride_aligned (storedStride : UINT32) : 8 ∣ (poisonStride storedStride).toNat := by
  unfold poisonStride
  split
  · exact alignUp_aligned storedStride
  · exact alignUp_aligned sizeofSlotHeader

theorem poisonZeroed_aligned (haligned : 8 ∣ d.readHead.toNat) (hn : 8 ∣ n.toNat) :
    8 ∣ poisonZeroed d.readHead n := by
  have hslot := slotAt_aligned haligned
  unfold poisonZeroed
  rw [spaceToEnd_toNat]
  omega

/-- A claimed slot is given up, or the call returns. -/
theorem consumeLoop_claimed (now : ℕ → UINT64) (fuel : ℕ)
    (hpending : usedBytes d.writeHead d.readHead ≠ 0)
    (hstate : Field.state.get d.ring (slotAt d.readHead) = slotClaimed) :
    (∃ result, consumeLoop now (fuel + 1) d = some result) ∨
    ∃ d' n, consumeLoop now (fuel + 1) d = consumeLoop now fuel d' ∧ 8 ∣ BitVec.toNat n ∧
      d'.readHead = d.readHead + n ∧ d'.ring = Field.state.set
        (zero d.ring (slotAt d.readHead) (poisonZeroed d.readHead n)) (slotAt d.readHead)
        slotFree := by
  have hnot : slotClaimed ≠ slotCommitted := by decide
  generalize hround : consumeLoop now (fuel + 1) d = round
  rw [consumeLoop, if_neg hpending] at hround
  simp only [recordCount_readHead, recordHeaderRead_ring, recordCount_ring, hstate, hnot, if_false,
    if_true] at hround
  rcases ite_eq_iff.mp hround with ⟨_, hgoes⟩ | ⟨_, hreturns⟩
  · exact Or.inr ⟨_, _, hgoes.symm, poisonStride_aligned _, rfl, rfl⟩
  · exact Or.inl ⟨_, hreturns.symm⟩

/-- **Step lemma.**  A round returns, or it frees the header at the read head and goes on. -/
theorem consumeLoop_succ (now : ℕ → UINT64) (fuel : ℕ) (haligned : 8 ∣ d.readHead.toNat) :
    (∃ result, consumeLoop now (fuel + 1) d = some result) ∨
    ∃ d', consumeLoop now (fuel + 1) d = consumeLoop now fuel d' ∧ Round d d' := by
  have hslot := slotAt_aligned haligned
  by_cases hpending : usedBytes d.writeHead d.readHead = 0
  · exact Or.inl ⟨_, if_pos hpending⟩
  by_cases hcommitted : Field.state.get d.ring (slotAt d.readHead) = slotCommitted
  · by_cases hpad : Field.flags.get d.ring (slotAt d.readHead) = padFlag
    · refine Or.inr ⟨_, consumeLoop_pad fuel hpending hcommitted hpad, ?_, ?_, ?_⟩
      · rw [hcommitted]
        decide
      · exact freesHeader_set d.ring hslot
      · exact add_aligned haligned (alignUp_aligned _)
    · exact Or.inl ⟨_, consumeLoop_slot fuel hpending hcommitted hpad⟩
  by_cases hclaimed : Field.state.get d.ring (slotAt d.readHead) = slotClaimed
  · rcases consumeLoop_claimed now fuel hpending hclaimed with hreturns |
      ⟨d', n, hgoes, hn, hread, hring⟩
    · exact Or.inl hreturns
    · refine Or.inr ⟨d', hgoes, ?_, ?_, ?_⟩
      · rw [hclaimed]
        decide
      · rw [hring]
        exact freesHeader_zero d.ring hslot (poisonZeroed_aligned haligned hn)
      · rw [hread]
        exact add_aligned haligned hn
  -- an unexpected `Free` slot
  · refine Or.inl ⟨(d.recordCount.recordHeaderRead.advance (alignUp sizeofSlotHeader), 0), ?_⟩
    rw [consumeLoop, if_neg hpending]
    simp only [recordCount_readHead, recordHeaderRead_ring, recordCount_ring, hcommitted, hclaimed,
      if_false]

theorem Round.card_lt {d' : Dispatcher} (h : Round d d') (haligned : 8 ∣ d.readHead.toNat) :
    (busyHeaders d'.ring).card < (busyHeaders d.ring).card := by
  apply h.frees.card_lt (slotAt_aligned haligned) _ h.busy
  rw [slotAt_toNat]
  exact Nat.mod_lt _ (by decide)

/-- **Run lemma.**  There are at most as many rounds that go on as busy headers. -/
theorem consumeLoop_returns (now : ℕ → UINT64) {fuel : ℕ} (haligned : 8 ∣ d.readHead.toNat)
    (hfuel : (busyHeaders d.ring).card < fuel) :
    ∃ result, consumeLoop now fuel d = some result := by
  induction fuel generalizing d with
  | zero => exact absurd hfuel (Nat.not_lt_zero _)
  | succ fuel ih =>
      rcases consumeLoop_succ now fuel haligned with hreturns | ⟨d', hgoes, hround⟩
      · exact hreturns
      · rw [hgoes]
        have hless := hround.card_lt haligned
        exact ih hround.aligned (by omega)

/-- **`ConsumeOne` returns**, whatever the ring holds, wherever the write head is and whatever
`KeQueryPerformanceCounter` stores in each round: after at most one round more than there are
headers not `Free`. -/
theorem consumeOne_returns (d : Dispatcher) (haligned : 8 ∣ d.readHead.toNat) :
    (∀ now : ℕ → UINT64,
      ∃ result, consumeLoop now ((busyHeaders d.ring).card + 1) d = some result) ∧
      ∀ freqHz : UINT64, ∃ result, consumeOne d freqHz = some result := by
  constructor
  · exact fun now => consumeLoop_returns now haligned (Nat.lt_succ_self _)
  · intro freqHz
    apply consumeLoop_returns (fun _ => freqHz) haligned
    exact Nat.lt_succ_of_le (card_busyHeaders_le d.ring)

end

/-- A pad whose stride wraps to zero: the first round frees it, the second finds it `Free`. -/
theorem consumeOne_returns_zeroStride :
    let ring := storeAll (fun _ => 0#8) 0 [(.state, slotCommitted), (.flags, padFlag),
      (.payloadBytes, 2 ^ 32 - 28)]
    stride (field32 ring 0 .payloadBytes) = 0 ∧
      ∃ result, consumeOne { Dispatcher.init (fun _ => 0#8) 10000000#64 with
        ring := ring, writeHead := 64#32 } 10000000#64 = some result := by
  intro ring
  exact ⟨by decide +kernel, (consumeOne_returns _ (by decide)).2 _⟩

end Kawin.Driver
