import Kawin.Base.ByteMemory

/-!
# The slot header

`AsyncEventDispatcher.h` packs a `SlotHeader` into the first 28 bytes of every
slot of the ring.  The ring is a byte memory, and a header field is the
little-endian value at its offset, so that the bytes an earlier lap left behind
are readable as header fields like any others.

`Field.get_set` and `Field.get_set_of_ne` are all that later files use about the
layout.
-/

namespace Kawin.Driver

open ByteMemory

abbrev UINT8 := BitVec 8
abbrev UINT16 := BitVec 16
abbrev UINT32 := BitVec 32
abbrev UINT64 := BitVec 64
abbrev ULONG := BitVec 32
/-- `LONG` arithmetic wraps; no code below depends on the sign. -/
abbrev LONG := BitVec 32
abbrev UCHAR := BitVec 8
abbrev CHAR := BitVec 8
abbrev USHORT := BitVec 16
abbrev SHORT := BitVec 16
abbrev ULONGLONG := BitVec 64
abbrev LONGLONG := BitVec 64

/-! ## Constants of `AsyncEventDispatcher.h` -/

/-- `ASYNC_RING_BYTES`, 256 KB. -/
def asyncRingBytes : UINT32 := 262144#32

/-- `ASYNC_CLAIM_TIMEOUT_MS`. -/
def asyncClaimTimeoutMs : UINT64 := 500#64

/-- `ASYNC_MAX_SEND_TIMEOUTS`. -/
def asyncMaxSendTimeouts : ULONG := 3#32

/-- `ASYNC_SLOT_ALIGN`. -/
def asyncSlotAlign : UINT32 := 8#32

/-- `sizeof(SlotHeader)`. -/
def sizeofSlotHeader : UINT32 := 28#32

/-- `PAD_FLAG`. -/
def padFlag : ℕ := 0xFFFF

/-- `SlotState::Free`. -/
def slotFree : ℕ := 0

/-- `SlotState::Claimed`. -/
def slotClaimed : ℕ := 1

/-- `SlotState::Committed`. -/
def slotCommitted : ℕ := 2

/-! ## Fields -/

/-- The fields of `SlotHeader`, in order. -/
inductive Field
  | state | flags | reserved | payloadBytes | seqNum | strideBytes | claimedTick
  deriving DecidableEq

def Field.offset : Field → ℕ
  | state => 0
  | flags => 4
  | reserved => 6
  | payloadBytes => 8
  | seqNum => 12
  | strideBytes => 16
  | claimedTick => 20

def Field.width : Field → ℕ
  | state => 4
  | flags => 2
  | reserved => 2
  | payloadBytes => 4
  | seqNum => 4
  | strideBytes => 4
  | claimedTick => 8

/-- The field of the header at `hdr`. -/
def Field.get (m : Memory) (hdr : ℕ) (f : Field) : ℕ := readNat m (hdr + f.offset) f.width

/-- A store to the field of the header at `hdr`. -/
def Field.set (m : Memory) (hdr : ℕ) (f : Field) (v : ℕ) : Memory :=
  writeNat m (hdr + f.offset) f.width v

theorem Field.offset_add_width_le (f : Field) : f.offset + f.width ≤ 28 := by
  cases f <;> decide

theorem Field.disjoint_of_ne {f g : Field} (h : f ≠ g) (hdr : ℕ) :
    ByteMemory.Disjoint (hdr + f.offset) f.width (hdr + g.offset) g.width := by
  have hfields : f.offset + f.width ≤ g.offset ∨ g.offset + g.width ≤ f.offset := by
    cases f <;> cases g <;> first | exact absurd rfl h | decide
  unfold ByteMemory.Disjoint
  omega

/-- A field reads what was last stored to it. -/
@[simp] theorem Field.get_set (m : Memory) (hdr : ℕ) (f : Field) {v : ℕ}
    (hv : v < 256 ^ f.width) : f.get (f.set m hdr v) hdr = v :=
  readNat_writeNat_of_lt m hv

/-- A store to one field leaves the others of the same header alone. -/
theorem Field.get_set_of_ne (m : Memory) (hdr v : ℕ) {f g : Field} (h : f ≠ g) :
    f.get (g.set m hdr v) hdr = f.get m hdr :=
  readNat_writeNat_of_disjoint m v (disjoint_of_ne h hdr)

/-- A header does not see a copy outside its 28 bytes. -/
theorem Field.get_copy_of_disjoint (m source : Memory) {hdr b n : ℕ} (f : Field)
    (h : ByteMemory.Disjoint hdr 28 b n) : f.get (copy m b n source) hdr = f.get m hdr := by
  apply readNat_copy_of_disjoint
  have := f.offset_add_width_le
  exact h.mono (by omega) (by omega) le_rfl le_rfl

end Kawin.Driver
