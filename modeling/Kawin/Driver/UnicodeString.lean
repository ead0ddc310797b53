import Kawin.Driver.SlotHeader
import Mathlib.Data.List.TakeDrop

/-!
# Counted strings

A `UNICODE_STRING` counts its bytes in a `USHORT`, so its contents are at most 32767 UTF-16
units, and every string of the model carries that bound.
-/

namespace Kawin.Driver

/-- A `UNICODE_STRING`.  No units models both a zero `Length` and a null `Buffer`, which the
driver treats alike; `Length` is a `USHORT` count of bytes. -/
@[ext] structure UnicodeString where
  units : List UINT16
  short : 2 * units.length < 2 ^ 16
  deriving DecidableEq

/-- The `Length` field. -/
def UnicodeString.length (s : UnicodeString) : ℕ := 2 * s.units.length

def UnicodeString.empty : UnicodeString := ⟨[], by decide⟩

/-- `RtlCopyUnicodeString` into a buffer of `capacity` characters: what does not fit is cut
off. -/
def UnicodeString.copyInto (capacity : ℕ) (s : UnicodeString) : UnicodeString :=
  ⟨s.units.take capacity, by
    have := s.short
    have := s.units.length_take_le' capacity
    omega⟩

/-- `RtlInitUnicodeString` for the text before a terminator: `Length` is at most 65532. -/
def rtlInitUnicodeString (text : List UINT16) : UnicodeString :=
  ⟨text.take 32766, by
    have := text.length_take_le 32766
    omega⟩

theorem UnicodeString.copyInto_eq_self_iff {capacity : ℕ} {s : UnicodeString} :
    s.copyInto capacity = s ↔ s.units.length ≤ capacity := by
  rw [UnicodeString.ext_iff]
  exact List.take_eq_self_iff _

end Kawin.Driver
