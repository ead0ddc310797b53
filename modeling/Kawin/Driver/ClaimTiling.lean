import Kawin.Driver.Interleaving

/-!
# The claims tile the ring

Every successful compare-exchange claims the bytes from the write head on, whatever the
consumer does meanwhile: the test against `m_readHead` decides whether a producer drops its
event, never where a claimed region lies.  So the claims of any number of racing producers
lie end to end (`Claimed.tiles`), and each is placed as `ProduceSlot` means it to be, an
event slot without a wrap and a pad up to the physical end (`Region.Placed`).

`Claimed` is the invariant of every step of the ring machine, orderly or not.  For the law
itself the read head may even move by any multiple of 8 between two steps (`claimStep`),
and the write head may start at any multiple of 8, so that the runs include those in which
the 32-bit head wraps.
-/

namespace Kawin.Driver

open ByteMemory CircularBuffer Transition

/-! ## Regions at the write head -/

/-- The write head is the unwrapped one modulo `2 ^ 32`, and 8-aligned. -/
structure HeadAligned (d : Dispatcher) : Prop where
  writeHead : d.writeHead = BitVec.ofNat 32 d.history.writeTotal
  aligned : d.history.writeTotal % 8 = 0

theorem Ordered.headAligned {d : Dispatcher} (h : Ordered d) : HeadAligned d :=
  ⟨h.writeHead, h.aligned⟩

theorem Accepted.size_le (event : Accepted) : event.size.toNat ≤ 65508 := event.fits

theorem Accepted.stride_toNat (event : Accepted) :
    (stride event.size).toNat = (event.size.toNat + 35) / 8 * 8 := by
  have := event.size_le
  exact Driver.stride_toNat (by omega)

section

variable {d : Dispatcher}

theorem HeadAligned.wraps_iff (h : HeadAligned d) (n : UINT32) :
    wraps d.writeHead n = true ↔ 262144 < d.history.writeTotal % 262144 + n.toNat := by
  rw [h.writeHead]
  exact Driver.wraps_iff _ n

theorem HeadAligned.spaceToEnd_toNat (h : HeadAligned d) :
    (spaceToEnd d.writeHead).toNat = 262144 - d.history.writeTotal % 262144 := by
  rw [h.writeHead, spaceToEnd_ofNat]

/-- The region of a slot claimed at the write head. -/
theorem HeadAligned.slot_of (h : HeadAligned d) (event : Accepted) (index : ℕ)
    (hfits : wraps d.writeHead (stride event.size) = false) :
    Fill.Of ⟨event, .slot, d.writeHead, index⟩
      (claimedRegion d .slot (stride event.size) event.size) where
  shaped := by
    have hfits' := Bool.eq_false_iff.mp hfits
    rw [ne_eq, h.wraps_iff, event.stride_toNat] at hfits'
    unfold claimedRegion
    rw [event.stride_toNat]
    exact slot_shaped h.aligned event.nonempty event.size_le (by omega)
  cur := h.writeHead
  kind := rfl
  len := rfl
  payload := rfl

/-- The region of a pad claimed at the write head. -/
theorem HeadAligned.pad_of (h : HeadAligned d) (event : Accepted) (index : ℕ)
    (hwraps : wraps d.writeHead (stride event.size) = true)
    (hheader : sizeofSlotHeader ≤ spaceToEnd d.writeHead) :
    Fill.Of ⟨event, .pad, d.writeHead, index⟩
      (claimedRegion d .pad (spaceToEnd d.writeHead)
        (spaceToEnd d.writeHead - sizeofSlotHeader)) where
  shaped := by
    have hspace := h.spaceToEnd_toNat
    have hheaderNat : 28 ≤ (spaceToEnd d.writeHead).toNat := hheader
    have hsize := event.size_le
    rw [h.wraps_iff, event.stride_toNat] at hwraps
    unfold claimedRegion
    rw [BitVec.toNat_sub_of_le hheader, sizeofSlotHeader_toNat]
    exact pad_shaped h.aligned hspace hheaderNat (by omega)
  cur := h.writeHead
  kind := rfl
  len := by rw [Fill.len, if_pos rfl, claimedRegion]
  payload := by rw [Fill.payload, if_pos rfl, claimedRegion]

end

/-! ## Placed regions -/

/-- How a claimed region lies in the ring. -/
structure Region.Placed (r : Region) : Prop where
  aligned : r.start % 8 = 0
  whole : r.len % 8 = 0
  nonempty : 8 ≤ r.len
  slot : r.kind = .slot → r.hdr + r.len ≤ 262144 ∧ r.payload + 28 ≤ r.len
  toEnd : r.kind ≠ .slot → (r.start + r.len) % 262144 = 0

theorem Region.Shaped.placed {r : Region} (h : r.Shaped) (hslot : r.kind = .slot) : r.Placed where
  aligned := h.startAligned
  whole := h.lenAligned
  nonempty := by
    have := h.header
    omega
  slot := fun _ => ⟨h.fits, h.payload_le⟩
  toEnd := fun hnot => absurd hslot hnot

theorem placed_to_end {kind : RegionKind} {start payload : ℕ} (hkind : kind ≠ .slot)
    (halign : start % 8 = 0) :
    Region.Placed ⟨kind, start, 262144 - start % 262144, payload⟩ where
  aligned := halign
  whole := by simp only; omega
  nonempty := by simp only; omega
  slot := fun hslot => absurd hslot hkind
  toEnd := fun _ => by simp only; omega

theorem wrapKind_ne_slot (cur : LONG) : wrapKind cur ≠ .slot := by
  unfold wrapKind
  split <;> decide

/-! ## The invariant -/

structure Claimed (base : ℕ) (s : RingMachine) : Prop where
  head : HeadAligned s.disp
  tiles : Tiles Region.start Region.len base s.claims s.disp.history.writeTotal
  placed : ∀ r ∈ s.claims, r.Placed
  owner : ∀ i f, (s.producers i).fill? = some f → ∃ r, s.claims[f.index]? = some r ∧ f.Of r

section

variable {base : ℕ} {s s' : RingMachine} {i : ℕ}

/-- The invariant is about the write head, the claims and the filling calls only. -/
theorem Claimed.congr (h : Claimed base s) (hwrite : s'.disp.writeHead = s.disp.writeHead)
    (htotal : s'.disp.history.writeTotal = s.disp.history.writeTotal)
    (hclaims : s'.disp.history.claims = s.disp.history.claims)
    (hfills : ∀ j f, (s'.producers j).fill? = some f → (s.producers j).fill? = some f) :
    Claimed base s' where
  head := ⟨by rw [hwrite, htotal, h.head.writeHead], by rw [htotal]; exact h.head.aligned⟩
  tiles := by
    rw [RingMachine.claims, hclaims, htotal]
    exact h.tiles
  placed := by
    rw [RingMachine.claims, hclaims]
    exact h.placed
  owner := by
    intro j f hf
    rw [RingMachine.claims, hclaims]
    exact h.owner j f (hfills j f hf)

/-- A call whose next stage fills the same region, or none, leaves the fills alone. -/
theorem fills_update {pc : Producer} (hpc : ∀ f, pc.fill? = some f → (s.producers i).fill? = some f)
    (j : ℕ) (f : Fill) (hf : (Function.update s.producers i pc j).fill? = some f) :
    (s.producers j).fill? = some f := by
  by_cases hj : j = i
  · subst hj
    rw [Function.update_self] at hf
    exact hpc f hf
  · rwa [Function.update_of_ne hj] at hf

theorem Claimed.goto (h : Claimed base s) {pc : Producer}
    (hpc : ∀ f, pc.fill? = some f → (s.producers i).fill? = some f) :
    Claimed base (s.goto i pc) :=
  h.congr rfl rfl rfl (fills_update hpc)

/-- A claim at the write head. -/
theorem Claimed.claim (h : Claimed base s) {kind : RegionKind} {len payload : UINT32}
    {pc : Producer} (hplaced : (claimedRegion s.disp kind len payload).Placed)
    (hpc : ∀ f, pc.fill? = some f → f.index = s.claims.length ∧
      f.Of (claimedRegion s.disp kind len payload)) :
    Claimed base (s.claim i kind len payload pc) where
  head := by
    have halign := h.head.aligned
    have hwhole := hplaced.whole
    constructor
    · show s.disp.writeHead + len = _
      rw [h.head.writeHead, ofNat_add_of_toNat]
      rfl
    · simp only [claimedRegion] at hwhole
      simp only [RingMachine.claim, claim_writeTotal]
      omega
  tiles := h.tiles.snoc rfl
  placed := by
    intro r hr
    rw [RingMachine.claim_claims] at hr
    rcases List.mem_append.mp hr with hr | hr
    · exact h.placed r hr
    · rw [List.mem_singleton.mp hr]
      exact hplaced
  owner := by
    intro j f hf
    rw [RingMachine.claim_claims]
    rcases RingMachine.fill_of_claim hf with ⟨_, hf⟩ | ⟨_, hf⟩
    · obtain ⟨hindex, hof⟩ := hpc f hf
      exact ⟨_, hindex ▸ List.getElem?_concat_length, hof⟩
    · obtain ⟨r, hr, hof⟩ := h.owner j f hf
      have hlt := (List.getElem?_eq_some_iff.mp hr).1
      exact ⟨r, (List.getElem?_append_left hlt).trans hr, hof⟩

theorem Claimed.exchange (h : Claimed base s) (event : Accepted) (cur : LONG) :
    Claimed base (exchangeStep s i event cur) := by
  unfold exchangeStep
  by_cases hcur : s.disp.writeHead = cur
  · subst hcur
    simp only [ne_eq, not_true_eq_false, if_false]
    by_cases hwraps : wraps s.disp.writeHead (stride event.size) = true
    · rw [if_pos hwraps]
      refine h.claim ?_ fun f hf => ?_
      · unfold claimedRegion
        rw [h.head.spaceToEnd_toNat]
        exact placed_to_end (wrapKind_ne_slot _) h.head.aligned
      -- a tail too short for a header is claimed, but no call fills it
      · by_cases hheader : spaceToEnd s.disp.writeHead ≥ sizeofSlotHeader
        · rw [if_pos hheader] at hf
          have hkind : wrapKind s.disp.writeHead = .pad := by
            unfold wrapKind
            rw [if_pos hheader]
          rw [← Option.some.inj hf, hkind]
          exact ⟨rfl, h.head.pad_of event _ hwraps hheader⟩
        · rw [if_neg hheader] at hf
          cases hf
    · rw [if_neg hwraps]
      have hslot := h.head.slot_of event s.claims.length (Bool.eq_false_iff.mpr hwraps)
      refine h.claim (hslot.shaped.placed rfl) fun f hf => ?_
      rw [← Option.some.inj hf]
      exact ⟨rfl, hslot⟩
  · simp only [ne_eq, hcur, not_false_eq_true, if_true]
    exact h.goto fun f hf => by cases hf

/-- A producer's step keeps the claims tiled. -/
theorem Claimed.producer (h : Claimed base s) {pc : Producer} (hpc : s.producers i = pc)
    (hstep : producerStep s i pc = some s') : Claimed base s' := by
  cases pc with
  | idle | returned => cases hstep
  | exchange event cur =>
      cases hstep
      exact h.exchange event cur
  | checkSize event =>
      cases hstep
      exact h.goto fun f hf => by split at hf <;> cases hf
  | readReadHead event cur =>
      cases hstep
      exact h.goto fun f hf => by split at hf <;> cases hf
  | countDropped | readWriteHead | countEnqueued =>
      cases hstep
      exact h.congr rfl rfl rfl (fills_update fun f hf => by cases hf)
  | mark f =>
      cases hstep
      refine h.congr rfl rfl rfl (fills_update fun g hg => ?_)
      rw [hpc]
      split at hg <;> exact hg
  | commit f =>
      cases hstep
      refine h.congr rfl rfl rfl (fills_update fun g hg => ?_)
      split at hg <;> cases hg
  | store f rest =>
      cases rest with
      | nil =>
          cases hstep
          refine h.goto fun g hg => ?_
          rw [hpc]
          split at hg <;> exact hg
      | cons st rest =>
          cases hstep
          exact h.congr rfl rfl rfl (fills_update fun g hg => by rw [hpc]; exact hg)
  | queryCounter | nextSeq | storeSeq | copyPayload =>
      cases hstep
      exact h.congr rfl rfl rfl (fills_update fun g hg => by rw [hpc]; exact hg)

/-- What no step of the consumer changes: the claims, the producers and the clock. -/
structure SameClaims (s s' : RingMachine) : Prop where
  writeHead : s'.disp.writeHead = s.disp.writeHead
  writeTotal : s'.disp.history.writeTotal = s.disp.history.writeTotal
  claims : s'.claims = s.claims
  producers : s'.producers = s.producers
  progress : s'.progress = s.progress
  claimedAt : s'.claimedAt = s.claimedAt
  clock : s'.clock = s.clock
  freqHz : s'.freqHz = s.freqHz
  consumed_le : s.consumed ≤ s'.consumed

theorem consumerGoto_sameClaims (pc : Consumer) : SameClaims s (s.consumerGoto pc) :=
  ⟨rfl, rfl, rfl, rfl, rfl, rfl, rfl, rfl, le_rfl⟩

theorem release_sameClaims (m : Memory) (pc : Consumer) : SameClaims s (s.release m pc) :=
  ⟨rfl, rfl, rfl, rfl, rfl, rfl, rfl, rfl, le_rfl⟩

theorem take_sameClaims (n : UINT32) (pc : Consumer) : SameClaims s (s.take n pc) :=
  ⟨rfl, rfl, rfl, rfl, rfl, rfl, rfl, rfl, Nat.le_succ _⟩

theorem advance_sameClaims (n : UINT32) (pc : Consumer) :
    SameClaims s { s with disp := s.disp.advance n, consumer := pc } :=
  ⟨rfl, rfl, rfl, rfl, rfl, rfl, rfl, rfl, le_rfl⟩

/-- The consumer claims nothing. -/
theorem consumerStep_sameClaims {pc : Consumer} (hstep : consumerStep s pc = some s') :
    SameClaims s s' := by
  cases pc with
  | returned => cases hstep
  | freePad | freeSlot | zeroSlot | freePoisoned =>
      cases hstep
      exact release_sameClaims _ _
  | advancePad | advanceSlot | advancePoisoned =>
      cases hstep
      exact take_sameClaims _ _
  | advanceFree =>
      cases hstep
      exact advance_sameClaims _ _
  | copyPayload | countPoisoned =>
      cases hstep
      exact ⟨rfl, rfl, rfl, rfl, rfl, rfl, rfl, rfl, le_rfl⟩
  | _ =>
      cases hstep
      exact consumerGoto_sameClaims _

/-- **Step lemma.**  No step of the machine disturbs the claims. -/
theorem Claimed.step (h : Claimed base s) {action : RingAction}
    (hstep : ringStep s action = some s') : Claimed base s' := by
  cases action with
  | tick =>
      cases hstep
      exact h.congr rfl rfl rfl fun _ _ hf => hf
  | produce j event =>
      obtain ⟨_, rfl⟩ := ringStep_produce hstep
      exact h.goto fun f hf => by cases hf
  | producer j => exact h.producer rfl hstep
  | consume =>
      obtain ⟨_, rfl⟩ := ringStep_consume hstep
      exact h.congr rfl rfl rfl fun _ _ hf => hf
  | consumer =>
      have hsame := consumerStep_sameClaims hstep
      refine h.congr hsame.writeHead hsame.writeTotal hsame.claims fun j f hf => ?_
      rwa [hsame.producers] at hf

end

/-! ## Any movement of the read head -/

/-- A step of the machine, or a movement of the read head by a multiple of 8. -/
inductive ClaimAction
  | ring (action : RingAction)
  | moveReadHead (n : LONG)

def claimStep (s : RingMachine) : ClaimAction → Option RingMachine
  | .ring action => ringStep s action
  | .moveReadHead n => some { s with disp.readHead := s.disp.readHead + 8#32 * n }

/-- The ring with both heads at an offset. -/
def RingMachine.startAt (base : ℕ) (outside : Memory) (freq : UINT64) : RingMachine :=
  let s := RingMachine.init outside freq
  { s with
    disp.writeHead := BitVec.ofNat 32 base
    disp.readHead := BitVec.ofNat 32 base
    disp.history.writeTotal := base
    disp.history.readTotal := base }

/-- A run of producers, the consumer and any movement of the read head. -/
abbrev ClaimRun (base : ℕ) (outside : Memory) (freq : UINT64) : RingMachine → Prop :=
  Reaches claimStep (RingMachine.startAt base outside freq)

/-- The claimed regions tile what the write head has passed, each in its place. -/
structure TilingLaw (base : ℕ) (s : RingMachine) : Prop where
  writeHead : s.disp.writeHead = BitVec.ofNat 32 s.disp.history.writeTotal
  tiles : Tiles Region.start Region.len base s.claims s.disp.history.writeTotal
  disjoint : s.claims.Pairwise fun r q => r.start + r.len ≤ q.start
  aligned : ∀ r ∈ s.claims, r.start % 8 = 0
  slots : ∀ r ∈ s.claims, r.kind = .slot →
    r.start % asyncRingBytes.toNat + r.len ≤ asyncRingBytes.toNat ∧
      sizeofSlotHeader.toNat + r.payload ≤ r.len
  pads : ∀ r ∈ s.claims, r.kind ≠ .slot → (r.start + r.len) % asyncRingBytes.toNat = 0
  /-- the memory a call fills is a claimed region, with the payload of its event -/
  owner : ∀ i f, (s.producers i).fill? = some f → ∃ r, s.claims[f.index]? = some r ∧
    r.kind = f.kind ∧ f.hdr = r.start % asyncRingBytes.toNat ∧
    (f.kind = .slot → r.payload = f.event.size.toNat)

theorem startAt_claimed {base : ℕ} (hbase : base % 8 = 0) (outside : Memory) (freq : UINT64) :
    Claimed base (RingMachine.startAt base outside freq) where
  head := ⟨rfl, hbase⟩
  tiles := rfl
  placed := fun _ hr => absurd hr List.not_mem_nil
  owner := fun _ _ hf => nomatch hf

theorem Claimed.tilingLaw {base : ℕ} {s : RingMachine} (h : Claimed base s) : TilingLaw base s where
  writeHead := h.head.writeHead
  tiles := h.tiles
  disjoint := h.tiles.pairwise
  aligned := fun r hr => (h.placed r hr).aligned
  slots := by
    intro r hr hslot
    obtain ⟨hfits, hpayload⟩ := (h.placed r hr).slot hslot
    rw [asyncRingBytes_toNat, sizeofSlotHeader_toNat, Nat.add_comm 28]
    exact ⟨hfits, hpayload⟩
  pads := fun r hr hnot => (h.placed r hr).toEnd hnot
  owner := by
    intro i f hf
    obtain ⟨r, hr, hof⟩ := h.owner i f hf
    refine ⟨r, hr, hof.kind, hof.hdr, fun hslot => ?_⟩
    rw [hof.payload, Fill.payload, if_neg (by rw [hslot]; decide)]

/-- **Tiling.**  However the producers race and wherever the read head is moved, the claimed
regions tile the offsets the write head has passed, also where the 32-bit head wraps. -/
theorem tilingLaw_of_claimRun (base : ℕ) (hbase : base % 8 = 0) (outside : Memory) (freq : UINT64)
    (s : RingMachine) (run : ClaimRun base outside freq s) : TilingLaw base s := by
  have hclaimed : Claimed base s := by
    refine run.invariant (startAt_claimed hbase outside freq) fun t action u h _ hstep => ?_
    cases action with
    | ring action => exact h.step hstep
    | moveReadHead n =>
        cases hstep
        exact h.congr rfl rfl rfl fun _ _ hf => hf
  exact hclaimed.tilingLaw

/-- Two racing producers 128 bytes before the 32-bit head wraps: the first claims the pad, the
second finds the head moved and claims its slot behind it. -/
private def raceAtWrap : List ClaimAction :=
  [ClaimAction.ring (.produce 0 (twoHundredBytes 7)), .ring (.produce 1 (twoHundredBytes 7)),
      .moveReadHead (-1)] ++
    List.replicate 3 (ClaimAction.ring (.producer 0)) ++
    List.replicate 3 (ClaimAction.ring (.producer 1)) ++
    [ClaimAction.ring (.producer 0)] ++ List.replicate 4 (ClaimAction.ring (.producer 1))

theorem tilingLaw_across_wrap : ∃ s, steps claimStep
    (RingMachine.startAt (2 ^ 32 - 128) (fun _ => 0) 10000000) raceAtWrap = some s ∧
    s.claims.map (fun r => (r.kind, r.start, r.len)) =
      [(.pad, 2 ^ 32 - 128, 128), (.slot, 2 ^ 32, 232)] ∧
    s.disp.writeHead = 232#32 ∧ TilingLaw (2 ^ 32 - 128) s := by
  have hfacts : (steps claimStep (RingMachine.startAt (2 ^ 32 - 128) (fun _ => 0) 10000000)
      raceAtWrap).map (fun s => (s.claims.map (fun r => (r.kind, r.start, r.len)),
        s.disp.writeHead)) =
      some ([(.pad, 2 ^ 32 - 128, 128), (.slot, 2 ^ 32, 232)], 232#32) := by decide +kernel
  obtain ⟨s, hs, hfacts⟩ := Option.map_eq_some_iff.mp hfacts
  rw [Prod.mk.injEq] at hfacts
  exact ⟨s, hs, hfacts.1, hfacts.2, tilingLaw_of_claimRun (2 ^ 32 - 128) (by decide) _ _ s
    (reaches_of_steps hs)⟩

end Kawin.Driver
