import Kawin.Base.ByteMemory
import Kawin.Base.PrefixCode

/-!
# UTF-16 as bytes

`decodeWTF16` turns the units of a UTF-16 text into UTF-8.  A surrogate without its partner, which
stands for no character, comes out as the three bytes its number would have, so that no unit is
lost.

Where a unit of one of two texts is no surrogate, the texts can be taken apart in front of it
(`decodeWTF16_append_cons`), and its bytes can be told from those of any other unit: UTF-8 is
self-delimiting (`utf8`).
-/

namespace Wtf8

open ByteMemory

/-! ## One number -/

def continuationByte (r : ℕ) : Byte := BitVec.ofNat 8 (0x80 + r % 0x40)

/-- The bytes of a number below `2 ^ 21`. -/
def encodeRune (r : ℕ) : List Byte :=
  if r < 0x80 then [BitVec.ofNat 8 r]
  else if r < 0x800 then [BitVec.ofNat 8 (0xC0 + r / 0x40), continuationByte r]
  else if r < 0x10000 then
    [BitVec.ofNat 8 (0xE0 + r / 0x1000), continuationByte (r / 0x40), continuationByte r]
  else
    [BitVec.ofNat 8 (0xF0 + r / 0x40000), continuationByte (r / 0x1000),
      continuationByte (r / 0x40), continuationByte r]

/-- The six bits of a continuation byte. -/
def payload (b : Byte) : ℕ := b.toNat - 0x80

/-- `r`, and behind it the bits of the next `n` bytes. -/
def readContinuation : ℕ → ℕ → List Byte → Option (ℕ × List Byte)
  | 0, r, xs => some (r, xs)
  | _ + 1, _, [] => none
  | n + 1, r, b :: rest => readContinuation n (r * 0x40 + payload b) rest

/-- The number that a text begins with, and what follows it. -/
def readRune : List Byte → Option (ℕ × List Byte)
  | [] => none
  | b :: rest =>
      if b.toNat < 0x80 then readContinuation 0 b.toNat rest
      else if b.toNat < 0xE0 then readContinuation 1 (b.toNat - 0xC0) rest
      else if b.toNat < 0xF0 then readContinuation 2 (b.toNat - 0xE0) rest
      else readContinuation 3 (b.toNat - 0xF0) rest

variable {r : ℕ} {u : BitVec 16} {units rest : List (BitVec 16)}

theorem payload_continuationByte (r : ℕ) : payload (continuationByte r) = r % 0x40 := by
  have hbyte : (continuationByte r).toNat = 0x80 + r % 0x40 := by
    rw [continuationByte, BitVec.toNat_ofNat]
    omega
  unfold payload
  omega

theorem encodeRune_ne_nil (r : ℕ) : encodeRune r ≠ [] := by
  unfold encodeRune
  split_ifs <;> exact List.cons_ne_nil _ _

/-- The first byte says how many follow. -/
theorem readRune_encodeRune (hr : r < 0x200000) (xs : List Byte) :
    readRune (encodeRune r ++ xs) = some (r, xs) := by
  have hlead : ∀ n < 256, (BitVec.ofNat 8 n).toNat = n := by
    intro n hn
    rw [BitVec.toNat_ofNat, Nat.mod_eq_of_lt hn]
  rw [encodeRune]
  split
  · rw [List.singleton_append, readRune, hlead r (by omega), if_pos (by omega), readContinuation]
  · split
    · have hvalue : (0xC0 + r / 0x40 - 0xC0) * 0x40 + r % 0x40 = r := by omega
      rw [List.cons_append, List.singleton_append, readRune, hlead _ (by omega),
        if_neg (by omega), if_pos (by omega)]
      simp only [readContinuation, payload_continuationByte, hvalue]
    · split
      · have hvalue : ((0xE0 + r / 0x1000 - 0xE0) * 0x40 + r / 0x40 % 0x40) * 0x40 + r % 0x40 =
            r := by omega
        rw [List.cons_append, List.cons_append, List.singleton_append, readRune,
          hlead _ (by omega), if_neg (by omega), if_neg (by omega), if_pos (by omega)]
        simp only [readContinuation, payload_continuationByte, hvalue]
      · have hvalue : (((0xF0 + r / 0x40000 - 0xF0) * 0x40 + r / 0x1000 % 0x40) * 0x40 +
            r / 0x40 % 0x40) * 0x40 + r % 0x40 = r := by omega
        rw [List.cons_append, List.cons_append, List.cons_append, List.singleton_append, readRune,
          hlead _ (by omega), if_neg (by omega), if_neg (by omega), if_neg (by omega)]
        simp only [readContinuation, payload_continuationByte, hvalue]

/-- UTF-8 of the units of UTF-16. -/
def utf8 : PrefixCode (BitVec 16) Byte :=
  .ofRead (fun u => encodeRune u.toNat)
    (fun xs => (readRune xs).map fun read => (BitVec.ofNat 16 read.1, read.2))
    fun u xs => by
      rw [readRune_encodeRune (u.isLt.trans (by decide)), Option.map_some, BitVec.ofNat_toNat,
        BitVec.setWidth_eq]

/-! ## Texts -/

def IsHighSurrogate (u : BitVec 16) : Prop := 0xD800 ≤ u.toNat ∧ u.toNat < 0xDC00

def IsLowSurrogate (u : BitVec 16) : Prop := 0xDC00 ≤ u.toNat ∧ u.toNat < 0xE000

instance : DecidablePred IsHighSurrogate := fun _ => inferInstanceAs (Decidable (_ ∧ _))

instance : DecidablePred IsLowSurrogate := fun _ => inferInstanceAs (Decidable (_ ∧ _))

/-- The character that two surrogates stand for. -/
def decodePair (u v : BitVec 16) : ℕ :=
  0x10000 + (u.toNat - 0xD800) * 0x400 + (v.toNat - 0xDC00)

def decodeWTF16 : List (BitVec 16) → List Byte
  | [] => []
  | [u] => encodeRune u.toNat
  | u :: v :: rest =>
      if IsHighSurrogate u ∧ IsLowSurrogate v then encodeRune (decodePair u v) ++ decodeWTF16 rest
      else encodeRune u.toNat ++ decodeWTF16 (v :: rest)

theorem decodeWTF16_cons (hhigh : ¬IsHighSurrogate u) :
    decodeWTF16 (u :: rest) = encodeRune u.toNat ++ decodeWTF16 rest := by
  cases rest with
  | nil => exact (List.append_nil _).symm
  | cons v rest => exact if_neg fun h => hhigh h.1

/-- No pair reaches over a unit that is no low surrogate. -/
theorem decodeWTF16_append (hlow : ¬IsLowSurrogate u) :
    decodeWTF16 (units ++ u :: rest) = decodeWTF16 units ++ decodeWTF16 (u :: rest) := by
  fun_induction decodeWTF16 units with
  | case1 => rfl
  | case2 x => exact if_neg fun h => hlow h.2
  | case3 x y units hpair ih =>
      rw [List.cons_append, List.cons_append, decodeWTF16, if_pos hpair, ih, List.append_assoc]
  | case4 x y units hpair ih =>
      rw [List.cons_append, List.cons_append, decodeWTF16, if_neg hpair, ← List.cons_append, ih,
        List.append_assoc]

/-- **A text taken apart** in front of a unit that is no surrogate. -/
theorem decodeWTF16_append_cons (hhigh : ¬IsHighSurrogate u) (hlow : ¬IsLowSurrogate u) :
    decodeWTF16 (units ++ u :: rest) =
      decodeWTF16 units ++ (utf8.encode u ++ decodeWTF16 rest) := by
  rw [decodeWTF16_append hlow, decodeWTF16_cons hhigh]
  rfl

end Wtf8
