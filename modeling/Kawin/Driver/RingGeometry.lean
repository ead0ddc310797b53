import Kawin.Driver.Dispatcher
import Kawin.Base.CircularBuffer

/-!
# Offsets and headers in the ring

The 32-bit arithmetic of the dispatcher, read on unwrapped offsets: what
`AlignUp`, `Stride`, `SlotAt`, the `used`/`pending` count and the distance to the
physical end are when the heads are `ofNat 32` of the unwrapped ones.
`lacksRoom_iff` and `wraps_iff` say what the tests at the top of the claim loop decide.

The second half is about one header.  `HeaderAt tickOk m r unset` says that in the
memory `m` the header of region `r` already holds its final value in every field
but those of `unset`.  Each store of the producer takes one field out of `unset`
(`HeaderAt.store`), and nothing outside the region's block changes it
(`HeaderAt.copy_of_disjoint`).
-/

namespace Kawin.Driver

open ByteMemory CircularBuffer

/-! ## Constants -/

@[simp] theorem asyncRingBytes_toNat : asyncRingBytes.toNat = 262144 := rfl

@[simp] theorem sizeofSlotHeader_toNat : sizeofSlotHeader.toNat = 28 := rfl

@[simp] theorem maxPayload_toNat : maxPayload.toNat = 65508 := rfl

theorem payloadOf_eq (hdr : ℕ) : payloadOf hdr = hdr + 28 := rfl

/-! ## Rounding -/

private theorem and_not_seven (v : UINT32) : (v &&& ~~~7#32).toNat = v.toNat / 8 * 8 := by
  have hshift : v &&& ~~~7#32 = (v >>> 3) <<< 3 := by
    apply BitVec.eq_of_getLsbD_eq
    intro i hi
    have hseven : (7#32).getLsbD i = decide (i < 3) := by
      rw [BitVec.getLsbD_ofNat, show (7 : ℕ) = 2 ^ 3 - 1 by norm_num,
        Nat.testBit_two_pow_sub_one]
      simp [hi]
    rw [BitVec.getLsbD_and, BitVec.getLsbD_not, hseven, BitVec.getLsbD_shiftLeft,
      BitVec.getLsbD_ushiftRight]
    by_cases h3 : i < 3
    · simp [h3]
    · simp [h3, hi, show 3 + (i - 3) = i by omega]
  rw [hshift, BitVec.toNat_shiftLeft, BitVec.toNat_ushiftRight, Nat.shiftLeft_eq,
    Nat.shiftRight_eq_div_pow]
  have := v.isLt
  omega

theorem alignUp_toNat {v : UINT32} (h : v.toNat + 7 < 2 ^ 32) :
    (alignUp v).toNat = (v.toNat + 7) / 8 * 8 := by
  have hsum : v + asyncSlotAlign - 1#32 = v + 7#32 := by
    unfold asyncSlotAlign
    bv_omega
  unfold alignUp
  rw [hsum, show asyncSlotAlign - 1#32 = 7#32 from rfl, and_not_seven, BitVec.toNat_add,
    show (7#32).toNat = 7 from rfl, Nat.mod_eq_of_lt h]

/-- Whatever is rounded up, also past the end of the 32 bits, is a multiple of the alignment. -/
theorem alignUp_aligned (v : UINT32) : 8 ∣ (alignUp v).toNat := by
  unfold alignUp
  rw [show asyncSlotAlign - 1#32 = 7#32 from rfl, and_not_seven]
  exact Nat.dvd_mul_left 8 _

theorem stride_toNat {size : UINT32} (h : size.toNat ≤ 262144) :
    (stride size).toNat = (size.toNat + 35) / 8 * 8 := by
  have hsum : (sizeofSlotHeader + size).toNat = 28 + size.toNat := by
    rw [BitVec.toNat_add, sizeofSlotHeader_toNat]
    omega
  calc (stride size).toNat
      = ((sizeofSlotHeader + size).toNat + 7) / 8 * 8 := alignUp_toNat (by omega)
    _ = (size.toNat + 35) / 8 * 8 := by rw [hsum]; omega

/-! ## The heads -/

theorem slotAt_ofNat (a : ℕ) : slotAt (BitVec.ofNat 32 a) = a % 262144 :=
  toNat_and_mask (k := 18) (by omega) a

theorem usedBytes_ofNat {W R : ℕ} (h : R ≤ W) :
    (usedBytes (BitVec.ofNat 32 W) (BitVec.ofNat 32 R)).toNat = (W - R) % 262144 :=
  toNat_sub_and_mask (k := 18) (by omega) h

theorem spaceToEnd_toNat (cur : LONG) : (spaceToEnd cur).toNat = 262144 - slotAt cur := by
  have hlt : slotAt cur < 262144 := by
    have := slotAt_ofNat cur.toNat
    rw [BitVec.ofNat_toNat, BitVec.setWidth_eq] at this
    omega
  unfold spaceToEnd slotAt at *
  rw [BitVec.toNat_sub, asyncRingBytes_toNat]
  omega

theorem spaceToEnd_ofNat (a : ℕ) :
    (spaceToEnd (BitVec.ofNat 32 a)).toNat = 262144 - a % 262144 := by
  rw [spaceToEnd_toNat, slotAt_ofNat]

theorem ofNat_add_of_toNat (a : ℕ) (n : UINT32) :
    BitVec.ofNat 32 a + n = BitVec.ofNat 32 (a + n.toNat) := by
  rw [BitVec.ofNat_add, BitVec.ofNat_toNat, BitVec.setWidth_eq]

/-- What the first test of the claim loop decides, as long as fewer bytes than the capacity
are in use. -/
theorem lacksRoom_iff {W R : ℕ} (hle : R ≤ W) (hroom : W < R + 262144) (n : UINT32) :
    lacksRoom (BitVec.ofNat 32 W) (BitVec.ofNat 32 R) n = true ↔ R + 262144 < W + n.toNat := by
  have hused := usedBytes_ofNat hle
  have hfree : (asyncRingBytes - usedBytes (BitVec.ofNat 32 W) (BitVec.ofNat 32 R)).toNat =
      262144 - (W - R) := by
    rw [BitVec.toNat_sub, asyncRingBytes_toNat, hused]
    omega
  simp only [lacksRoom, gt_iff_lt, decide_eq_true_eq, BitVec.lt_def, hfree]
  omega

theorem wraps_iff (W : ℕ) (n : UINT32) :
    wraps (BitVec.ofNat 32 W) n = true ↔ 262144 < W % 262144 + n.toNat := by
  simp only [wraps, gt_iff_lt, decide_eq_true_eq, BitVec.lt_def, spaceToEnd_ofNat]
  omega

/-! ## Regions -/

/-- The `flags` a region's header carries. -/
def Region.flags (r : Region) : ℕ := if r.kind = .pad then padFlag else 0

/-- The shape of every event slot and every pad with a header. -/
structure Region.Shaped (r : Region) : Prop where
  notTail : r.kind ≠ .tail
  startAligned : r.start % 8 = 0
  lenAligned : r.len % 8 = 0
  header : 32 ≤ r.len
  quarter : r.len ≤ 65536
  fits : r.hdr + r.len ≤ 262144
  payload : r.len = (r.payload + 35) / 8 * 8
  pad : r.kind = .pad → r.payload + 28 = r.len
  nonempty : r.kind = .slot → 0 < r.payload

theorem Region.Shaped.payload_le {r : Region} (h : r.Shaped) : r.payload + 28 ≤ r.len := by
  have := h.payload
  omega

/-- The consumer recomputes the stride the producer claimed. -/
theorem Region.Shaped.stride_payload {r : Region} (h : r.Shaped) :
    (stride (BitVec.ofNat 32 r.payload)).toNat = r.len := by
  have hle := h.payload_le
  have hquarter := h.quarter
  have hsize : (BitVec.ofNat 32 r.payload).toNat = r.payload := by
    rw [BitVec.toNat_ofNat]
    omega
  calc (stride (BitVec.ofNat 32 r.payload)).toNat
      = ((BitVec.ofNat 32 r.payload).toNat + 35) / 8 * 8 := stride_toNat (by omega)
    _ = (r.payload + 35) / 8 * 8 := by rw [hsize]
    _ = r.len := h.payload.symm

theorem slotAt_start (r : Region) : slotAt (BitVec.ofNat 32 r.start) = r.hdr :=
  slotAt_ofNat r.start

theorem slot_shaped {start size : ℕ} (halign : start % 8 = 0) (hpos : 0 < size)
    (hsize : size ≤ 65508)
    (hfits : start % 262144 + (size + 35) / 8 * 8 ≤ 262144) :
    Region.Shaped ⟨.slot, start, (size + 35) / 8 * 8, size⟩ where
  notTail := by simp
  startAligned := halign
  lenAligned := Nat.mul_mod_left _ _
  header := by simp only; omega
  quarter := by simp only; omega
  fits := hfits
  payload := rfl
  pad := by simp
  nonempty := fun _ => hpos

theorem pad_shaped {start space : ℕ} (halign : start % 8 = 0)
    (hspace : space = 262144 - start % 262144) (hheader : 28 ≤ space) (hquarter : space ≤ 65536) :
    Region.Shaped ⟨.pad, start, space, space - 28⟩ where
  notTail := by simp
  startAligned := halign
  lenAligned := by simp only; omega
  header := by simp only; omega
  quarter := hquarter
  fits := by simp only [Region.hdr, asyncRingBytes_toNat]; omega
  payload := by simp only; omega
  pad := by simp only; omega
  nonempty := by simp

/-! ## Headers -/

/-- The final value of a header field. -/
def Region.Expects (tickOk : ℕ → Prop) (r : Region) : Field → ℕ → Prop
  | .state, v => v = slotCommitted
  | .flags, v => v = r.flags
  | .payloadBytes, v => v = r.payload
  | .strideBytes, v => v = r.len
  | .claimedTick, v => tickOk v
  | .reserved, _ => True
  | .seqNum, _ => True

/-- The header of `r` holds its final value in every field outside `unset`. -/
def HeaderAt (tickOk : ℕ → Prop) (m : Memory) (r : Region) (unset : List Field) : Prop :=
  ∀ f, f ∉ unset → r.Expects tickOk f (f.get m r.hdr)

section HeaderAt

variable {tickOk : ℕ → Prop} {m : Memory} {r : Region} {unset : List Field}

/-- Nothing is promised while every field is still to be stored. -/
theorem headerAt_of_all (h : ∀ f, f ∈ unset) : HeaderAt tickOk m r unset :=
  fun f hf => absurd (h f) hf

/-- A store of a final value takes its field out of `unset`. -/
theorem HeaderAt.store {f : Field} {v : ℕ} (h : HeaderAt tickOk m r (f :: unset))
    (hv : v < 256 ^ f.width) (hexpects : r.Expects tickOk f v) :
    HeaderAt tickOk (f.set m r.hdr v) r unset := by
  intro g hg
  by_cases hfg : g = f
  · subst hfg
    rwa [Field.get_set m r.hdr g hv]
  · rw [Field.get_set_of_ne m r.hdr v hfg]
    exact h g (by simp [hfg, hg])

theorem HeaderAt.storeAll {stores : List (Field × ℕ)} :
    ∀ {m : Memory}, HeaderAt tickOk m r (stores.map Prod.fst ++ unset) →
      (∀ s ∈ stores, s.2 < 256 ^ s.1.width ∧ r.Expects tickOk s.1 s.2) →
      HeaderAt tickOk (storeAll m r.hdr stores) r unset := by
  induction stores with
  | nil => exact fun h _ => h
  | cons s rest ih =>
      intro m h hvalues
      obtain ⟨hv, hexpects⟩ := hvalues s (List.mem_cons_self ..)
      exact ih (h.store hv hexpects) fun t ht => hvalues t (List.mem_cons_of_mem _ ht)

/-- A copy that misses the header leaves it alone. -/
theorem HeaderAt.copy_of_disjoint {source : Memory} {b n : ℕ} (h : HeaderAt tickOk m r unset)
    (hdisj : Disjoint r.hdr 28 b n) : HeaderAt tickOk (copy m b n source) r unset := by
  intro f hf
  rw [Field.get_copy_of_disjoint m source f hdisj]
  exact h f hf

/-- A store to a header elsewhere leaves it alone. -/
theorem HeaderAt.set_of_disjoint {f : Field} {hdr v : ℕ} (h : HeaderAt tickOk m r unset)
    (hdisj : Disjoint r.hdr 28 hdr 28) : HeaderAt tickOk (f.set m hdr v) r unset := by
  have := f.offset_add_width_le
  exact h.copy_of_disjoint (hdisj.mono le_rfl le_rfl (by omega) (by omega))

theorem HeaderAt.storeAll_of_disjoint {stores : List (Field × ℕ)} {hdr : ℕ}
    (hdisj : Disjoint r.hdr 28 hdr 28) :
    ∀ {m : Memory}, HeaderAt tickOk m r unset →
      HeaderAt tickOk (Kawin.Driver.storeAll m hdr stores) r unset := by
  induction stores with
  | nil => exact fun h => h
  | cons s rest ih => exact fun h => ih (h.set_of_disjoint hdisj)

end HeaderAt

/-- The values a producer stores to a slot header are the final ones. -/
theorem slotStores_expects {tickOk : ℕ → Prop} {r : Region} {size n : UINT32} {now : UINT64}
    (hkind : r.kind = .slot) (hlen : r.len = n.toNat) (hpayload : r.payload = size.toNat)
    (htick : tickOk now.toNat) :
    ∀ s ∈ slotStores size n now, s.2 < 256 ^ s.1.width ∧ r.Expects tickOk s.1 s.2 := by
  have hsize := size.isLt
  have hn := n.isLt
  have hnow := now.isLt
  simp [slotStores, Field.width, Region.Expects, Region.flags, hkind, hlen, hpayload, htick]
  omega

/-- The values a producer stores to a pad header are the final ones. -/
theorem padStores_expects {tickOk : ℕ → Prop} {r : Region} {space : UINT32}
    (hkind : r.kind = .pad) (hlen : r.len = space.toNat)
    (hpayload : r.payload = (space - sizeofSlotHeader).toNat) (htick : tickOk 0) :
    ∀ s ∈ padStores space, s.2 < 256 ^ s.1.width ∧ r.Expects tickOk s.1 s.2 := by
  have hspace := space.isLt
  have hsub := (space - sizeofSlotHeader).isLt
  simp [padStores, padFlag, Field.width, Region.Expects, Region.flags, hkind, hlen, hpayload,
    htick]
  omega

end Kawin.Driver
