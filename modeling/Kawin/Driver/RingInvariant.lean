import Kawin.Driver.RingGeometry

/-!
# The ring in order

`Ordered d` is what the heads and the claimed regions satisfy while nothing has gone
wrong: the wrapped heads are the unwrapped ones, the live regions lie end to end
between them, fewer bytes than the capacity are in use, and every live region has
a header.  Claiming a shaped region that leaves a byte free keeps it
(`Ordered.claim`), and so does taking the oldest live region by its exact length
(`Ordered.take`).  It says nothing about the bytes of the ring; those are the
business of `HeaderAt`.
-/

namespace Kawin.Driver

open ByteMemory CircularBuffer

structure Ordered (d : Dispatcher) : Prop where
  writeHead : d.writeHead = BitVec.ofNat 32 d.history.writeTotal
  readHead : d.readHead = BitVec.ofNat 32 d.history.readTotal
  aligned : d.history.writeTotal % 8 = 0
  tiles : Tiles Region.start Region.len d.history.readTotal d.history.live d.history.writeTotal
  room : d.history.writeTotal < d.history.readTotal + 262144
  shaped : ∀ r ∈ d.history.live, r.Shaped
  consumed_le : d.history.consumed ≤ d.history.claims.length
  behind : ∀ r ∈ d.history.claims.take d.history.consumed, r.start + r.len ≤ d.history.readTotal

theorem init_ordered (outside : Memory) (freq : UINT64) :
    Ordered (Dispatcher.init outside freq) where
  writeHead := rfl
  readHead := rfl
  aligned := rfl
  tiles := rfl
  room := by simp [Dispatcher.init]
  shaped := by simp [Dispatcher.init, History.live]
  consumed_le := by simp [Dispatcher.init]
  behind := by simp [Dispatcher.init]

/-- `Ordered` is about the heads and the regions only. -/
theorem Ordered.congr {d d' : Dispatcher} (h : Ordered d) (hwrite : d'.writeHead = d.writeHead)
    (hread : d'.readHead = d.readHead) (hwriteTotal : d'.history.writeTotal = d.history.writeTotal)
    (hreadTotal : d'.history.readTotal = d.history.readTotal)
    (hclaims : d'.history.claims = d.history.claims)
    (hconsumed : d'.history.consumed = d.history.consumed) : Ordered d' := by
  have hlive : d'.history.live = d.history.live := by
    unfold History.live
    rw [hclaims, hconsumed]
  constructor
  · rw [hwrite, hwriteTotal, h.writeHead]
  · rw [hread, hreadTotal, h.readHead]
  · rw [hwriteTotal]; exact h.aligned
  · rw [hreadTotal, hlive, hwriteTotal]; exact h.tiles
  · rw [hwriteTotal, hreadTotal]; exact h.room
  · rw [hlive]; exact h.shaped
  · rw [hconsumed, hclaims]; exact h.consumed_le
  · rw [hclaims, hconsumed, hreadTotal]; exact h.behind

/-- `Ordered` says nothing about the bytes of the ring. -/
theorem Ordered.withRing {d : Dispatcher} (h : Ordered d) (m : Memory) :
    Ordered { d with ring := m } :=
  h.congr rfl rfl rfl rfl rfl rfl

/-- Nor about the send buffer and the counters. -/
theorem Ordered.withCounters {d : Dispatcher} (h : Ordered d) (sendBuf : Memory)
    (seqCounter : LONG) (enqueued dropped poisoned : ℕ) :
    Ordered { d with sendBuf := sendBuf, seqCounter := seqCounter, enqueued := enqueued,
                     dropped := dropped, poisoned := poisoned } :=
  h.congr rfl rfl rfl rfl rfl rfl

section

variable {d : Dispatcher}

theorem Ordered.le (h : Ordered d) : d.history.readTotal ≤ d.history.writeTotal := h.tiles.le

theorem Ordered.usedBytes_toNat (h : Ordered d) :
    (usedBytes d.writeHead d.readHead).toNat = d.history.writeTotal - d.history.readTotal := by
  have hle := h.le
  have hroom := h.room
  calc (usedBytes d.writeHead d.readHead).toNat
      = (d.history.writeTotal - d.history.readTotal) % 262144 := by
        rw [h.writeHead, h.readHead, usedBytes_ofNat hle]
    _ = d.history.writeTotal - d.history.readTotal := Nat.mod_eq_of_lt (by omega)

/-- The count computed from the heads is the true one. -/
theorem Ordered.count_eq (h : Ordered d) :
    ((usedBytes d.writeHead d.readHead).toNat : ℤ) = d.history.pendingTotal := by
  have hle := h.le
  rw [h.usedBytes_toNat, History.pendingTotal]
  omega

theorem Ordered.slotAt_readHead (h : Ordered d) :
    slotAt d.readHead = d.history.readTotal % 262144 := by
  rw [h.readHead, slotAt_ofNat]

theorem Ordered.slotAt_writeHead (h : Ordered d) :
    slotAt d.writeHead = d.history.writeTotal % 262144 := by
  rw [h.writeHead, slotAt_ofNat]

theorem Ordered.lacksRoom_iff (h : Ordered d) {n : UINT32} :
    lacksRoom d.writeHead d.readHead n = true ↔
      d.history.readTotal + 262144 < d.history.writeTotal + n.toNat := by
  rw [h.writeHead, h.readHead]
  exact Driver.lacksRoom_iff h.le h.room n

theorem Ordered.wraps_iff (h : Ordered d) {n : UINT32} :
    wraps d.writeHead n = true ↔ 262144 < d.history.writeTotal % 262144 + n.toNat := by
  rw [h.writeHead]
  exact Driver.wraps_iff _ n

/-- `pending` is zero exactly when no region is live. -/
theorem Ordered.usedBytes_eq_zero_iff (h : Ordered d) :
    usedBytes d.writeHead d.readHead = 0 ↔ d.history.live = [] := by
  have hcount := h.usedBytes_toNat
  have hle := h.le
  constructor
  · intro hzero
    rw [hzero] at hcount
    cases hlive : d.history.live with
    | nil => rfl
    | cons r rest =>
        have hmem : r ∈ d.history.live := by rw [hlive]; exact List.mem_cons_self ..
        have hbounds := h.tiles.bounds r hmem
        have hheader := (h.shaped r hmem).header
        simp only [BitVec.ofNat_eq_ofNat, BitVec.toNat_ofNat, Nat.zero_mod] at hcount
        omega
  · intro hlive
    have htiles := h.tiles
    rw [hlive] at htiles
    apply BitVec.eq_of_toNat_eq
    rw [hcount, show d.history.readTotal = d.history.writeTotal from htiles]
    simp

/-- The oldest live region starts at the read head. -/
theorem Ordered.start_head (h : Ordered d) {r : Region} {rest : List Region}
    (hlive : d.history.live = r :: rest) : r.start = d.history.readTotal := by
  have htiles := h.tiles
  rw [hlive] at htiles
  exact htiles.1

theorem Ordered.hdr_head (h : Ordered d) {r : Region} {rest : List Region}
    (hlive : d.history.live = r :: rest) : r.hdr = slotAt d.readHead := by
  rw [h.slotAt_readHead, Region.hdr, h.start_head hlive, asyncRingBytes_toNat]

/-- Live regions occupy pairwise disjoint blocks. -/
theorem Ordered.pairwise_disjoint (h : Ordered d) :
    d.history.live.Pairwise fun r s => Disjoint r.hdr r.len s.hdr s.len := by
  have hroom := h.room
  exact h.tiles.disjoint (by rw [asyncRingBytes_toNat]; omega)

/-! ## Claiming -/

/-- The region that `Dispatcher.claim` appends. -/
def claimedRegion (d : Dispatcher) (kind : RegionKind) (len payload : UINT32) : Region :=
  ⟨kind, d.history.writeTotal, len.toNat, payload.toNat⟩

theorem Ordered.live_claim (h : Ordered d) (kind : RegionKind) (len payload : UINT32) :
    (d.claim kind len payload).history.live =
      d.history.live ++ [claimedRegion d kind len payload] :=
  List.drop_append_of_le_length h.consumed_le

theorem Ordered.claim (h : Ordered d) {kind : RegionKind} {len payload : UINT32}
    (hshaped : (claimedRegion d kind len payload).Shaped)
    (hroom : d.history.writeTotal + len.toNat < d.history.readTotal + 262144) :
    Ordered (d.claim kind len payload) where
  writeHead := by
    rw [Dispatcher.claim, h.writeHead, ofNat_add_of_toNat]
  readHead := h.readHead
  aligned := by
    have halign := h.aligned
    have hlen := hshaped.lenAligned
    simp only [claimedRegion] at hlen
    simp only [Dispatcher.claim]
    omega
  tiles := by
    rw [h.live_claim]
    exact h.tiles.snoc rfl
  room := hroom
  shaped := by
    intro r hr
    rw [h.live_claim] at hr
    rcases List.mem_append.mp hr with hr | hr
    · exact h.shaped r hr
    · rw [List.mem_singleton.mp hr]
      exact hshaped
  consumed_le := by
    have := h.consumed_le
    simp only [Dispatcher.claim, List.length_append, List.length_singleton]
    omega
  behind := by
    intro r hr
    rw [show (d.claim kind len payload).history.claims.take
        (d.claim kind len payload).history.consumed =
        d.history.claims.take d.history.consumed from
      List.take_append_of_le_length h.consumed_le] at hr
    exact h.behind r hr

/-- A new region that keeps within the lap is disjoint from every live one. -/
theorem Ordered.claimed_disjoint (h : Ordered d) {kind : RegionKind} {len payload : UINT32}
    (hroom : d.history.writeTotal + len.toNat ≤ d.history.readTotal + 262144)
    {r : Region} (hr : r ∈ d.history.live) :
    Disjoint r.hdr r.len (claimedRegion d kind len payload).hdr len.toNat := by
  have hbounds := h.tiles.bounds r hr
  exact disjoint_of_le hbounds.2 (by simp only [claimedRegion, asyncRingBytes_toNat]; omega)

/-! ## Taking -/

theorem live_take (d : Dispatcher) (n : UINT32) :
    (d.take n).history.live = d.history.live.tail := by
  simp [Dispatcher.take, Dispatcher.advance, History.live]

theorem Ordered.take (h : Ordered d) {r : Region} {rest : List Region} {n : UINT32}
    (hlive : d.history.live = r :: rest) (hn : n.toNat = r.len) : Ordered (d.take n) := by
  have htiles := h.tiles
  have hlive' : (d.take n).history.live = rest := by rw [live_take, hlive, List.tail_cons]
  have hlt : d.history.consumed < d.history.claims.length := by
    by_contra hge
    have : d.history.live = [] := List.drop_eq_nil_of_le (by omega)
    rw [this] at hlive
    cases hlive
  have hget : d.history.claims[d.history.consumed] = r := by
    have := congrArg List.head? hlive
    simpa [History.live, hlt] using this
  rw [hlive] at htiles
  obtain ⟨hstart, hrest⟩ := htiles
  have hend : (d.take n).history.readTotal = d.history.readTotal + r.len := by
    rw [← hn]
    rfl
  constructor
  · exact h.writeHead
  · show d.readHead + n = BitVec.ofNat 32 (d.history.readTotal + n.toNat)
    rw [h.readHead, ofNat_add_of_toNat]
  · exact h.aligned
  · rw [hlive', hend]
    exact hrest
  · have := h.room
    rw [hend]
    show d.history.writeTotal < _
    omega
  · rw [hlive']
    exact fun q hq => h.shaped q (by rw [hlive]; exact List.mem_cons_of_mem _ hq)
  · exact hlt
  · intro q hq
    rw [hend]
    have htake : (d.take n).history.claims.take (d.take n).history.consumed =
        d.history.claims.take d.history.consumed ++ [r] := by
      rw [← hget]
      exact (List.take_append_getElem hlt).symm
    rw [htake] at hq
    rcases List.mem_append.mp hq with hq | hq
    · have := h.behind q hq
      omega
    · rw [List.mem_singleton.mp hq, hstart]

end

end Kawin.Driver
