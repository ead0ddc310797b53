import Kawin.Base.Json

/-!
# JSON round trip

The parser reads back what the serialiser wrote (`parse_dump`), for every value whose numbers are
integers of 64 bits and whose objects have their keys in order.

The scanner is followed with `Scans`: a text starts with some tokens, and what follows is left.
Such facts compose, so there is one for each piece of the serialised text.  A number ends
only where the next character cannot belong to it (`Delimited`).  The machine then takes the tokens
of a value, as a whole, from where the value is expected to where it is complete (`run_tokensOf`).
-/

namespace Json

/-- Integers fit 64 bits and have a minus sign if they are signed; keys ascend. -/
inductive WellFormed : Json → Prop
  | null : WellFormed null
  | boolean (b : Bool) : WellFormed (boolean b)
  | unsigned (n : ℕ) (h : n < 2 ^ 64) : WellFormed (unsigned n)
  | integer (i : ℤ) (hneg : i < 0) (h : i.natAbs ≤ 2 ^ 63) : WellFormed (integer i)
  | string (s : String) : WellFormed (string s)
  | array (elements : List Json) (h : ∀ j ∈ elements, WellFormed j) : WellFormed (array elements)
  | object (members : List (String × Json))
      (hsorted : (members.map Prod.fst).Pairwise KeyBefore)
      (h : ∀ member ∈ members, WellFormed member.2) : WellFormed (object members)

/-! ## The tokens of a value -/

mutual

def tokensOf : Json → List Token
  | null => [.literalNull]
  | boolean true => [.literalTrue]
  | boolean false => [.literalFalse]
  | unsigned n => [.valueUnsigned n]
  | integer i => [.valueInteger i]
  | float text => [.valueFloat text]
  | string s => [.valueString s]
  | array [] => [.beginArray, .endArray]
  | array (first :: rest) => .beginArray :: tokensOf first ++ elementTokens rest ++ [.endArray]
  | object [] => [.beginObject, .endObject]
  | object ((key, value) :: rest) =>
      .beginObject :: .valueString key :: .nameSeparator :: tokensOf value ++ memberTokens rest ++
        [.endObject]

def elementTokens : List Json → List Token
  | [] => []
  | first :: rest => .valueSeparator :: tokensOf first ++ elementTokens rest

def memberTokens : List (String × Json) → List Token
  | [] => []
  | (key, value) :: rest =>
      .valueSeparator :: .valueString key :: .nameSeparator :: tokensOf value ++ memberTokens rest

end

/-! ## Scanning -/

/-- The text starts with the tokens, and the rest is left. -/
structure Scans (text : List Char) (tokens : List Token) (rest : List Char) : Prop where
  length : tokens.length + rest.length ≤ text.length
  scanAll : ∀ fuel, tokens.length ≤ fuel →
    Json.scanAll fuel text = tokens ++ Json.scanAll (fuel - tokens.length) rest

namespace Scans

variable {text rest rest' : List Char} {tokens tokens' : List Token} {token : Token} {c : Char}

theorem refl : Scans text [] text := ⟨by simp, fun _ _ => rfl⟩

theorem append (first : Scans text tokens rest) (second : Scans rest tokens' rest') :
    Scans text (tokens ++ tokens') rest' where
  length := by
    have := first.length
    have := second.length
    rw [List.length_append]
    omega
  scanAll fuel hfuel := by
    rw [List.length_append] at hfuel ⊢
    rw [first.scanAll fuel (by omega), second.scanAll _ (by omega), List.append_assoc,
      Nat.sub_sub]

theorem single (hscan : scan text = (token, rest)) (hlength : rest.length < text.length)
    (hend : token ≠ .endOfInput) (herror : token ≠ .parseError) : Scans text [token] rest where
  length := by
    rw [List.length_singleton]
    omega
  scanAll fuel hfuel := by
    obtain ⟨fuel, rfl⟩ := Nat.exists_eq_add_of_le' hfuel
    rw [List.length_singleton, Nat.add_sub_cancel, Json.scanAll, hscan]
    cases token with
    | endOfInput => exact absurd rfl hend
    | parseError => exact absurd rfl herror
    | _ => rfl

theorem scan_whitespace (hspace : isWhitespace c) : scan (c :: text) = scan text := by
  rw [scan, skipWhitespace, if_pos hspace, ← scan]

/-- White space in front of a token is skipped. -/
theorem whitespace (hspace : isWhitespace c) (h : Scans text tokens rest) :
    Scans (c :: text) tokens rest where
  length := Nat.le_succ_of_le h.length
  scanAll fuel hfuel := by
    rw [← h.scanAll fuel hfuel]
    cases fuel with
    | zero => rfl
    | succ fuel => rw [Json.scanAll, Json.scanAll, scan_whitespace hspace]

theorem indentation (n : ℕ) (h : Scans text tokens rest) :
    Scans (Json.indentation n ++ text) tokens rest := by
  induction n with
  | zero => exact h
  | succ n ih => exact whitespace (c := ' ') rfl ih

end Scans

/-! ### Numbers -/

/-- The text does not go on with a character of a number. -/
def Delimited (text : List Char) : Prop :=
  ∀ c ∈ text.head?, c.isDigit = false ∧ c ≠ '.' ∧ c ≠ 'e' ∧ c ≠ 'E'

section

variable {text : List Char}

theorem delimited_nil : Delimited [] := fun _ h => absurd h (by simp)

theorem scanDigits_of_delimited {state : NumberState} (hstate : state = .zero ∨ state = .any1)
    (read : List Char) (h : Delimited text) :
    scanDigits state read text = (state, read, text) := by
  cases text with
  | nil => rfl
  | cons c text =>
      obtain ⟨hdigit, hpoint, he, hE⟩ := h c rfl
      have hnext : state.next c = none := by
        rcases hstate with rfl | rfl
        · simp [NumberState.next, hpoint, he, hE]
        · simp [NumberState.next, hdigit, hpoint, he, hE]
      rw [scanDigits, hnext]

theorem scanDigits_any1 {digits : List Char} (hdigits : ∀ c ∈ digits, c.isDigit = true)
    (h : Delimited text) : ∀ read, scanDigits .any1 read (digits ++ text) =
      (.any1, digits.reverse ++ read, text) := by
  induction digits with
  | nil => exact fun read => scanDigits_of_delimited (.inr rfl) read h
  | cons c digits ih =>
      intro read
      have hnext : NumberState.any1.next c = some .any1 := by
        rw [NumberState.next, if_pos (hdigits c List.mem_cons_self)]
      rw [List.cons_append, scanDigits, hnext, List.reverse_cons, List.append_assoc]
      exact ih (fun c hc => hdigits c (List.mem_cons_of_mem _ hc)) (c :: read)

theorem isDigit_of_toDigits {n : ℕ} {c : Char} (h : c ∈ Nat.toDigits 10 n) : c.isDigit = true :=
  Nat.isDigit_of_mem_toDigits (by decide) (by decide) h

/-- A number has at least one digit. -/
theorem toDigits_eq_cons (n : ℕ) :
    ∃ first digits, Nat.toDigits 10 n = first :: digits ∧ first.isDigit = true := by
  obtain ⟨first, digits, hdigits⟩ := List.exists_cons_of_ne_nil (Nat.toDigits_ne_nil (n := n))
  exact ⟨first, digits, hdigits, isDigit_of_toDigits (hdigits ▸ List.mem_cons_self)⟩

/-- Only zero is written with a leading zero. -/
theorem zero_of_toDigits {n : ℕ} {digits : List Char}
    (h : Nat.toDigits 10 n = '0' :: digits) : n = 0 ∧ digits = [] := by
  induction n using Nat.strongRecOn generalizing digits with
  | _ n ih =>
      by_cases hlt : n < 10
      · rw [Nat.toDigits_of_lt_base hlt, List.cons.injEq] at h
        exact ⟨Nat.digitChar_eq_zero.mp h.1, h.2.symm⟩
      · rw [Nat.toDigits_of_base_le (by decide) (by omega)] at h
        obtain ⟨first, high, hhigh, -⟩ := toDigits_eq_cons (n / 10)
        rw [hhigh, List.cons_append, List.cons.injEq] at h
        obtain ⟨hzero, -⟩ := ih (n / 10) (by omega) (h.1 ▸ hhigh)
        omega

/-- The digits of a number, from the state behind a minus sign or from the beginning. -/
theorem scanDigits_toDigits {n : ℕ} {first : Char} {digits : List Char}
    (hn : Nat.toDigits 10 n = first :: digits) (h : Delimited text) (read : List Char) :
    ∃ state, (state = NumberState.zero ∨ state = .any1) ∧
      scanDigits (if first = '0' then .zero else .any1) (first :: read) (digits ++ text) =
        (state, (first :: digits).reverse ++ read, text) := by
  by_cases hzero : first = '0'
  · subst hzero
    obtain ⟨-, rfl⟩ := zero_of_toDigits hn
    refine ⟨.zero, .inl rfl, ?_⟩
    rw [if_pos rfl, List.nil_append, scanDigits_of_delimited (.inl rfl) _ h]
    rfl
  · refine ⟨.any1, .inr rfl, ?_⟩
    have hdigits : ∀ c ∈ digits, c.isDigit = true := fun c hc =>
      isDigit_of_toDigits (hn ▸ List.mem_cons_of_mem first hc)
    rw [if_neg hzero, scanDigits_any1 hdigits h, List.reverse_cons, List.append_assoc]
    rfl

theorem ofDigitChars_toDigits (n : ℕ) : Nat.ofDigitChars 10 (Nat.toDigits 10 n) 0 = n :=
  Nat.ofDigitChars_toDigits (by decide) (by decide)

theorem scan_digit {c : Char} (hdigit : c.isDigit = true) :
    scan (c :: text) = scanNumber c text := by
  have hne (d : Char) (hd : d.isDigit = false) : c ≠ d := by
    rintro rfl
    rw [hdigit] at hd
    cases hd
  have hspace : isWhitespace c = false := by
    simp [isWhitespace, hne ' ' rfl, hne '\t' rfl, hne '\n' rfl, hne '\r' rfl]
  simp [scan, skipWhitespace, hspace, hne '[' rfl, hne ']' rfl, hne '{' rfl, hne '}' rfl,
    hne ':' rfl, hne ',' rfl, hne 't' rfl, hne 'f' rfl, hne 'n' rfl, hne '"' rfl, hdigit]

theorem scans_unsigned {n : ℕ} (hn : n < 2 ^ 64) (h : Delimited text) :
    Scans (dumpUnsigned n ++ text) [.valueUnsigned n] text := by
  obtain ⟨first, digits, hdigits, hfirst⟩ := toDigits_eq_cons n
  have hminus : first ≠ '-' := by
    rintro rfl
    cases hfirst
  obtain ⟨state, hstate, hscan⟩ := scanDigits_toDigits hdigits h []
  have hvalue := ofDigitChars_toDigits n
  rw [hdigits] at hvalue
  have hlimit : n < 18446744073709551616 := hn
  have hnumber : scanNumber first (digits ++ text) = (.valueUnsigned n, text) := by
    rw [scanNumber, if_neg hminus, hscan]
    rcases hstate with rfl | rfl
    · simp [hminus, hvalue, hlimit]
    · simp [hminus, hvalue, hlimit]
  rw [dumpUnsigned, hdigits]
  refine .single ?_ ?_ (by simp) (by simp)
  · rw [List.cons_append, scan_digit hfirst, hnumber]
  · rw [List.cons_append, List.length_cons, List.length_append]
    omega

theorem scans_integer {i : ℤ} (hneg : i < 0) (hi : i.natAbs ≤ 2 ^ 63) (h : Delimited text) :
    Scans (dumpInteger i ++ text) [.valueInteger i] text := by
  obtain ⟨first, digits, hdigits, hfirst⟩ := toDigits_eq_cons i.natAbs
  obtain ⟨state, hstate, hscan⟩ := scanDigits_toDigits hdigits h ['-']
  have hvalue := ofDigitChars_toDigits i.natAbs
  rw [hdigits] at hvalue
  have hnext : NumberState.minus.next first =
      some (if first = '0' then .zero else .any1) := by
    rw [NumberState.next]
    split_ifs
    · rfl
    · rfl
  have hnumber : scanNumber '-' (first :: (digits ++ text)) = (.valueInteger i, text) := by
    rw [scanNumber, if_pos rfl, scanDigits, hnext]
    have htail : (((first :: digits).reverse ++ ['-']).reverse).tail = first :: digits := by
      simp
    have habs : -(i.natAbs : ℤ) = i := by omega
    simp only [hscan, htail, hvalue]
    rcases hstate with rfl | rfl
    · simp only [hi, habs, ↓reduceIte]
    · simp only [hi, habs, ↓reduceIte]
  rw [dumpInteger, if_pos hneg, dumpUnsigned, hdigits]
  refine .single ?_ ?_ (by simp) (by simp)
  · exact hnumber
  · rw [List.cons_append, List.cons_append, List.length_cons, List.length_cons,
      List.length_append]
    omega

end

/-! ### Strings -/

section

variable {text : List Char}

theorem hexValue_digitChar {n : ℕ} (h : n < 16) : hexValue (Nat.digitChar n) = some n := by
  revert n
  decide

theorem scanString_control {c : Char} (h : c.toNat < 32) (read : List Char) :
    scanString read
        ('\\' :: 'u' :: '0' :: '0' :: Nat.digitChar (c.toNat / 16) ::
          Nat.digitChar (c.toNat % 16) :: text) =
      scanString (c :: read) text := by
  have hcode : getCodepoint '0' '0' (Nat.digitChar (c.toNat / 16)) (Nat.digitChar (c.toNat % 16)) =
      some c.toNat := by
    have hzero : hexValue '0' = some 0 := rfl
    rw [getCodepoint, hzero, hexValue_digitChar (by omega), hexValue_digitChar (by omega)]
    exact congrArg some (by omega)
  rw [scanString, hcode]
  simp only
  rw [if_neg (by omega), if_neg (by omega), Char.ofNat_toNat]

theorem scanString_plain {c : Char} (hquote : c ≠ '"') (hslash : c ≠ '\\') (h : ¬c.toNat < 32)
    (read : List Char) : scanString read (c :: text) = scanString (c :: read) text := by
  simp [scanString, hslash, h]

/-- An escaped character is read as the character. -/
theorem scanString_escape (c : Char) (read : List Char) :
    scanString read (escape c ++ text) = scanString (c :: read) text := by
  have hchar {n : ℕ} (hn : c.toNat = n) : c = Char.ofNat n := by rw [← hn, Char.ofNat_toNat]
  rw [escape]
  split_ifs with hquote hslash h8 h9 h10 h12 h13 hcontrol
  · rw [hquote]
    rfl
  · rw [hslash]
    rfl
  · rw [hchar h8]
    rfl
  · rw [hchar h9]
    rfl
  · rw [hchar h10]
    rfl
  · rw [hchar h12]
    rfl
  · rw [hchar h13]
    rfl
  · exact scanString_control hcontrol read
  · exact scanString_plain hquote hslash hcontrol read

theorem scanString_flatMap (s : List Char) : ∀ read : List Char,
    scanString read (s.flatMap escape ++ '"' :: text) =
      (.valueString (String.ofList (read.reverse ++ s)), text) := by
  induction s with
  | nil => simp [scanString]
  | cons c s ih =>
      intro read
      rw [List.flatMap_cons, List.append_assoc, scanString_escape, ih]
      simp

theorem scans_string (s : String) : Scans (dumpString s ++ text) [.valueString s] text := by
  have hscan : scanString [] (s.toList.flatMap escape ++ '"' :: text) = (.valueString s, text) := by
    rw [scanString_flatMap, List.reverse_nil, List.nil_append, String.ofList_toList]
  rw [dumpString, List.cons_append, List.append_assoc, List.singleton_append]
  refine .single ?_ ?_ (by simp) (by simp)
  · exact hscan
  · rw [List.length_cons, List.length_append, List.length_cons]
    omega

end

/-! ### Values -/

section

variable (format : FloatFormat) (step : ℕ) {text : List Char}

/-- A single character that is a token. -/
theorem scans_char {c : Char} {token : Token} (hscan : ∀ text, scan (c :: text) = (token, text))
    (hend : token ≠ .endOfInput) (herror : token ≠ .parseError) : Scans (c :: text) [token] text :=
  .single (hscan text) (by simp) hend herror

theorem scans_beginArray : Scans ('[' :: text) [.beginArray] text :=
  scans_char (fun _ => rfl) (by simp) (by simp)

theorem scans_endArray : Scans (']' :: text) [.endArray] text :=
  scans_char (fun _ => rfl) (by simp) (by simp)

theorem scans_beginObject : Scans ('{' :: text) [.beginObject] text :=
  scans_char (fun _ => rfl) (by simp) (by simp)

theorem scans_endObject : Scans ('}' :: text) [.endObject] text :=
  scans_char (fun _ => rfl) (by simp) (by simp)

theorem scans_nameSeparator : Scans (':' :: text) [.nameSeparator] text :=
  scans_char (fun _ => rfl) (by simp) (by simp)

theorem scans_valueSeparator : Scans (',' :: text) [.valueSeparator] text :=
  scans_char (fun _ => rfl) (by simp) (by simp)

theorem scans_literal {c : Char} (literal : List Char) {token : Token}
    (hscan : ∀ text, scan (c :: text) = scanLiteral literal token text)
    (hend : token ≠ .endOfInput) (herror : token ≠ .parseError) :
    Scans (c :: (literal ++ text)) [token] text := by
  refine .single ?_ ?_ hend herror
  · rw [hscan, scanLiteral, if_pos (by simp), List.drop_left]
  · rw [List.length_cons, List.length_append]
    omega

/-- White space and closing brackets do not belong to a number. -/
theorem delimited_cons {c : Char} (h : c.isDigit = false ∧ c ≠ '.' ∧ c ≠ 'e' ∧ c ≠ 'E') :
    Delimited (c :: text) := by
  intro c' hc'
  cases hc'
  exact h

/-- Each of the values can be scanned where what follows cannot be part of it. -/
def Scannable (j : Json) : Prop :=
  ∀ indent text, Delimited text → Scans (dumpAt format step indent j ++ text) (tokensOf j) text

variable {format step}

theorem delimited_dumpElements (format : FloatFormat) (step indent : ℕ)
    (rest : List Json) (h : Delimited text) :
    Delimited (dumpElements format step indent rest ++ text) := by
  cases rest with
  | nil => exact h
  | cons first rest => exact delimited_cons (by decide)

theorem scans_elements (indent : ℕ) {rest : List Json} (hrest : ∀ j ∈ rest, Scannable format step j)
    (h : Delimited text) :
    Scans (dumpElements format step indent rest ++ text) (elementTokens rest) text := by
  induction rest with
  | nil => exact .refl
  | cons first rest ih =>
      have hfirst := hrest first List.mem_cons_self indent
        (dumpElements format step indent rest ++ text)
        (delimited_dumpElements format step indent rest h)
      have hmore := ih fun j hj => hrest j (List.mem_cons_of_mem first hj)
      have hline := ((hfirst.append hmore).indentation indent).whitespace (c := '\n') rfl
      have htext : dumpElements format step indent (first :: rest) ++ text =
          ',' :: '\n' :: (indentation indent ++ (dumpAt format step indent first ++
            (dumpElements format step indent rest ++ text))) := by
        simp [dumpElements]
      rw [htext, elementTokens]
      exact scans_valueSeparator.append hline

/-- A member from its key on. -/
theorem scans_member (indent : ℕ) (key : String) {value : Json}
    (hvalue : Scannable format step value) (h : Delimited text) :
    Scans (indentation indent ++ (dumpString key ++ (':' :: ' ' ::
        (dumpAt format step indent value ++ text))))
      (.valueString key :: .nameSeparator :: tokensOf value) text := by
  have hmember := (hvalue indent text h).whitespace (c := ' ') rfl
  exact ((scans_string key).append (scans_nameSeparator.append hmember)).indentation indent

theorem delimited_dumpMembers (format : FloatFormat) (step indent : ℕ)
    (rest : List (String × Json)) (h : Delimited text) :
    Delimited (dumpMembers format step indent rest ++ text) := by
  cases rest with
  | nil => exact h
  | cons first rest => exact delimited_cons (by decide)

theorem scans_members (indent : ℕ) {rest : List (String × Json)}
    (hrest : ∀ member ∈ rest, Scannable format step member.2) (h : Delimited text) :
    Scans (dumpMembers format step indent rest ++ text) (memberTokens rest) text := by
  induction rest with
  | nil => exact .refl
  | cons first rest ih =>
      obtain ⟨key, value⟩ := first
      have hdelimited : Delimited (dumpMembers format step indent rest ++ text) :=
        delimited_dumpMembers format step indent rest h
      have hfirst := scans_member indent key (hrest (key, value) List.mem_cons_self) hdelimited
      have hmore := ih fun j hj => hrest j (List.mem_cons_of_mem _ hj)
      have hline := (hfirst.append hmore).whitespace (c := '\n') rfl
      have htext : dumpMembers format step indent ((key, value) :: rest) ++ text =
          ',' :: '\n' :: (indentation indent ++ (dumpString key ++ (':' :: ' ' ::
            (dumpAt format step indent value ++
              (dumpMembers format step indent rest ++ text))))) := by
        simp [dumpMembers]
      rw [htext, memberTokens]
      exact scans_valueSeparator.append hline

/-- The line with the closing bracket. -/
theorem scans_closing (indent : ℕ) {c : Char} {token : Token}
    (h : Scans (c :: text) [token] text) :
    Scans ('\n' :: (indentation indent ++ c :: text)) [token] text :=
  (h.indentation indent).whitespace (c := '\n') rfl

/-- An array, element by element. -/
theorem scannable_array {first : Json} {rest : List Json}
    (h : ∀ j ∈ first :: rest, Scannable format step j) :
    Scannable format step (.array (first :: rest)) := by
  intro indent text _
  have hclosing : Scans ('\n' :: (indentation indent ++ ']' :: text)) [.endArray] text :=
    scans_closing indent scans_endArray
  have hdelimited : Delimited ('\n' :: (indentation indent ++ ']' :: text)) :=
    delimited_cons (by decide)
  have hrest := scans_elements (indent + step)
    (fun j hj => h j (List.mem_cons_of_mem first hj)) hdelimited
  have hfirst := h first List.mem_cons_self (indent + step) _
    (delimited_dumpElements format step (indent + step) rest hdelimited)
  have hlines := (((hfirst.append hrest).append hclosing).indentation
    (indent + step)).whitespace (c := '\n') rfl
  have htext : dumpAt format step indent (.array (first :: rest)) ++ text =
      '[' :: '\n' :: (indentation (indent + step) ++
        (dumpAt format step (indent + step) first ++
          (dumpElements format step (indent + step) rest ++
            '\n' :: (indentation indent ++ ']' :: text)))) := by
    change "[\n".toList ++ indentation (indent + step) ++
      dumpAt format step (indent + step) first ++
      dumpElements format step (indent + step) rest ++ '\n' :: indentation indent ++
      "]".toList ++ text = _
    simp
  rw [htext]
  exact scans_beginArray.append hlines

/-- An object, member by member. -/
theorem scannable_object {key : String} {value : Json} {rest : List (String × Json)}
    (h : ∀ member ∈ (key, value) :: rest, Scannable format step member.2) :
    Scannable format step (.object ((key, value) :: rest)) := by
  intro indent text _
  have hclosing : Scans ('\n' :: (indentation indent ++ '}' :: text)) [.endObject] text :=
    scans_closing indent scans_endObject
  have hdelimited : Delimited ('\n' :: (indentation indent ++ '}' :: text)) :=
    delimited_cons (by decide)
  have hrest := scans_members (indent + step)
    (fun member hmember => h member (List.mem_cons_of_mem _ hmember)) hdelimited
  have hfirst := scans_member (indent + step) key (h (key, value) List.mem_cons_self)
    (delimited_dumpMembers format step (indent + step) rest hdelimited)
  have hlines := ((hfirst.append hrest).append hclosing).whitespace (c := '\n') rfl
  have htext : dumpAt format step indent (.object ((key, value) :: rest)) ++ text =
      '{' :: '\n' :: (indentation (indent + step) ++ (dumpString key ++ (':' :: ' ' ::
        (dumpAt format step (indent + step) value ++
          (dumpMembers format step (indent + step) rest ++
            '\n' :: (indentation indent ++ '}' :: text)))))) := by
    change ['{', '\n'] ++ indentation (indent + step) ++ dumpString key ++ ": ".toList ++
      dumpAt format step (indent + step) value ++
      dumpMembers format step (indent + step) rest ++ '\n' :: indentation indent ++
      ['}'] ++ text = _
    simp
  rw [htext]
  exact scans_beginObject.append hlines

theorem WellFormed.scannable {j : Json} (hj : WellFormed j) : Scannable format step j := by
  induction hj with
  | null =>
      intro indent text _
      exact scans_literal "ull".toList (fun _ => rfl) (by simp) (by simp)
  | boolean b =>
      intro indent text _
      cases b with
      | true => exact scans_literal "rue".toList (fun _ => rfl) (by simp) (by simp)
      | false => exact scans_literal "alse".toList (fun _ => rfl) (by simp) (by simp)
  | unsigned n hn =>
      intro indent text h
      change Scans (dumpUnsigned n ++ text) [.valueUnsigned n] text
      exact scans_unsigned hn h
  | integer i hneg hi =>
      intro indent text h
      change Scans (dumpInteger i ++ text) [.valueInteger i] text
      exact scans_integer hneg hi h
  | string s =>
      intro indent text h
      change Scans (dumpString s ++ text) [.valueString s] text
      exact scans_string s
  | array elements _ ih =>
      cases elements with
      | nil => exact fun _ _ _ => scans_beginArray.append scans_endArray
      | cons first rest => exact scannable_array ih
  | object members _ _ ih =>
      cases members with
      | nil => exact fun _ _ _ => scans_beginObject.append scans_endObject
      | cons first rest => exact scannable_object ih

end

theorem skipBom_cons {c : Char} (hc : c.toNat ≠ 0xFEFF) (text : List Char) :
    skipBom (c :: text) = c :: text := by
  rw [skipBom, if_neg hc]

/-- A serialised value does not start with a byte order mark. -/
theorem skipBom_dump (format : FloatFormat) (step : ℕ) {j : Json} (hj : WellFormed j) :
    skipBom (dump format step j) = dump format step j := by
  cases hj with
  | null => rfl
  | boolean b =>
      cases b with
      | true => rfl
      | false => rfl
  | unsigned n =>
      change skipBom (dumpUnsigned n) = dumpUnsigned n
      rw [dumpUnsigned]
      cases hdigits : Nat.toDigits 10 n with
      | nil => rfl
      | cons first digits =>
          refine skipBom_cons (fun hfirst => ?_) digits
          have hdigit : first.isDigit = true :=
            isDigit_of_toDigits (hdigits ▸ List.mem_cons_self)
          rw [← Char.ofNat_toNat first, hfirst] at hdigit
          exact absurd hdigit (by decide)
  | integer i hneg =>
      change skipBom (dumpInteger i) = dumpInteger i
      rw [dumpInteger, if_pos hneg]
      rfl
  | string s =>
      change skipBom (dumpString s) = dumpString s
      rw [dumpString]
      rfl
  | array elements =>
      cases elements with
      | nil => rfl
      | cons first rest =>
          rfl
  | object members =>
      cases members with
      | nil => rfl
      | cons first rest =>
          rfl

/-- The tokens of a serialised value. -/
theorem tokens_dump (format : FloatFormat) (step : ℕ) {j : Json} (hj : WellFormed j) :
    tokens (dump format step j) = tokensOf j ++ [Token.endOfInput] := by
  have hscannable : Scannable format step j := hj.scannable
  have hscans := hscannable 0 [] delimited_nil
  rw [List.append_nil, ← dump] at hscans
  have hlength := hscans.length
  rw [List.length_nil] at hlength
  rw [tokens, skipBom_dump format step hj, hscans.scanAll _ (by omega)]
  obtain ⟨fuel, hfuel⟩ := Nat.exists_eq_add_of_le hlength
  rw [hfuel, show (tokensOf j).length + 0 + fuel + 1 - (tokensOf j).length = fuel + 1 by omega]
  rfl

/-! ## Parsing -/

section

variable {format : FloatFormat} {stack : List Frame} {tokens : List Token}

theorem precedes_asymm {first second : List Char} (h : precedes first second = true) :
    ¬precedes second first = true := by
  induction first generalizing second with
  | nil => cases second <;> simp [precedes]
  | cons c rest ih =>
      cases second with
      | nil => cases h
      | cons c' rest' =>
          simp only [precedes, Bool.or_eq_true, decide_eq_true_eq, Bool.and_eq_true,
            beq_iff_eq] at h ⊢
          rintro (hlt | ⟨rfl, hrest⟩)
          · obtain hgt | ⟨rfl, -⟩ := h
            · omega
            · omega
          · obtain hgt | ⟨-, h⟩ := h
            · omega
            · exact ih h hrest

theorem insertMember_last {key : String} {value : Json} {members : List (String × Json)}
    (h : ∀ member ∈ members, KeyBefore member.1 key) :
    insertMember key value members = members ++ [(key, value)] := by
  induction members with
  | nil => rfl
  | cons first members ih =>
      obtain ⟨other, old⟩ := first
      have hother : KeyBefore other key := h _ List.mem_cons_self
      have hne : key ≠ other := by
        rintro rfl
        exact precedes_asymm hother hother
      have hkey : ¬KeyBefore key other := precedes_asymm hother
      rw [insertMember, if_neg hkey, if_neg hne,
        ih fun member hmember => h member (List.mem_cons_of_mem _ hmember)]
      rfl

/-- The machine takes the tokens of the value and has it complete. -/
def Parsable (format : FloatFormat) (j : Json) : Prop :=
  ∀ stack tokens, ParserState.run format ⟨stack, .value⟩ (tokensOf j ++ tokens) =
    ParserState.run format (ParserState.complete j stack) tokens

theorem run_cons (state : ParserState) (token : Token) :
    ParserState.run format state (token :: tokens) =
      (state.step format token).bind fun state => ParserState.run format state tokens :=
  rfl

/-- No value starts with a closing bracket. -/
theorem tokensOf_head (j : Json) :
    ∃ token rest, tokensOf j = token :: rest ∧ token ≠ .endArray := by
  cases j with
  | null => exact ⟨_, _, by rw [tokensOf], by simp⟩
  | boolean b =>
      cases b with
      | true => exact ⟨_, _, by rw [tokensOf], by simp⟩
      | false => exact ⟨_, _, by rw [tokensOf], by simp⟩
  | unsigned | integer | float | string => exact ⟨_, _, by rw [tokensOf], by simp⟩
  | array elements =>
      cases elements with
      | nil => exact ⟨_, _, by rw [tokensOf], by simp⟩
      | cons => exact ⟨_, _, by rw [tokensOf]; rfl, by simp⟩
  | object members =>
      cases members with
      | nil => exact ⟨_, _, by rw [tokensOf], by simp⟩
      | cons => exact ⟨_, _, by rw [tokensOf]; rfl, by simp⟩

/-- Behind an opening bracket a value is expected, as the first element. -/
theorem run_firstElement (j : Json) :
    ParserState.run format ⟨stack, .firstElement⟩ (tokensOf j ++ tokens) =
      ParserState.run format ⟨.array [] :: stack, .value⟩ (tokensOf j ++ tokens) := by
  obtain ⟨token, rest, htokens, hend⟩ := tokensOf_head j
  rw [htokens, List.cons_append, run_cons, run_cons]
  simp only [ParserState.step, if_neg hend]

theorem run_elements {rest : List Json} (hrest : ∀ j ∈ rest, Parsable format j) :
    ∀ elements, ParserState.run format ⟨stack, .afterElement elements⟩
        (elementTokens rest ++ .endArray :: tokens) =
      ParserState.run format (ParserState.complete (.array (elements.reverse ++ rest)) stack)
        tokens := by
  induction rest with
  | nil =>
      intro elements
      rw [List.append_nil]
      rfl
  | cons first rest ih =>
      intro elements
      rw [elementTokens, List.cons_append, List.cons_append, List.append_assoc, run_cons]
      refine (hrest first List.mem_cons_self (.array elements :: stack) _).trans ?_
      refine (ih (fun j hj => hrest j (List.mem_cons_of_mem first hj)) (first :: elements)).trans ?_
      rw [List.reverse_cons, List.append_assoc, List.singleton_append]

theorem run_member (state : ParserState) (key : String) {value : Json}
    (hvalue : Parsable format value) {members : List (String × Json)}
    (hstate : state.mode = .firstKey ∧ members = [] ∨ state.mode = .nextKey members)
    (hkey : ∀ member ∈ members, KeyBefore member.1 key) :
    ParserState.run format state
        (.valueString key :: .nameSeparator :: tokensOf value ++ tokens) =
      ParserState.run format ⟨state.stack, .afterMember (members ++ [(key, value)])⟩ tokens := by
  have hstep : state.step format (.valueString key) =
      .ok ⟨state.stack, .separator members key⟩ := by
    rcases hstate with ⟨hmode, rfl⟩ | hmode
    · rw [ParserState.step, hmode]
    · rw [ParserState.step, hmode]
  rw [List.cons_append, List.cons_append, run_cons, hstep]
  refine (hvalue (.object members key :: state.stack) tokens).trans ?_
  rw [ParserState.complete, insertMember_last hkey]

theorem run_members {rest : List (String × Json)}
    (hrest : ∀ member ∈ rest, Parsable format member.2) :
    ∀ members : List (String × Json), ((members ++ rest).map Prod.fst).Pairwise KeyBefore →
      ParserState.run format ⟨stack, .afterMember members⟩
          (memberTokens rest ++ .endObject :: tokens) =
        ParserState.run format (ParserState.complete (.object (members ++ rest)) stack) tokens := by
  induction rest with
  | nil =>
      intro members _
      rw [List.append_nil]
      rfl
  | cons first rest ih =>
      obtain ⟨key, value⟩ := first
      intro members hsorted
      have hkey : ∀ member ∈ members, KeyBefore member.1 key := by
        intro member hmember
        rw [List.map_append] at hsorted
        exact (List.pairwise_append.mp hsorted).2.2 member.1 (List.mem_map_of_mem hmember) key
          List.mem_cons_self
      have hassoc : members ++ (key, value) :: rest = (members ++ [(key, value)]) ++ rest := by
        rw [List.append_assoc, List.singleton_append]
      rw [hassoc] at hsorted ⊢
      rw [memberTokens, List.cons_append, List.cons_append, List.cons_append, List.cons_append,
        List.append_assoc, run_cons]
      refine (run_member ⟨stack, .nextKey members⟩ key (hrest _ List.mem_cons_self) (.inr rfl)
        hkey).trans ?_
      exact ih (fun member hmember => hrest member (List.mem_cons_of_mem _ hmember)) _ hsorted

theorem WellFormed.parsable {j : Json} (hj : WellFormed j) : Parsable format j := by
  induction hj with
  | null | unsigned | integer | string =>
      intro stack tokens
      rw [tokensOf]
      rfl
  | boolean b =>
      intro stack tokens
      cases b with
      | true => rfl
      | false => rfl
  | array elements _ ih =>
      intro stack tokens
      cases elements with
      | nil => rfl
      | cons first rest =>
          have htokens : tokensOf (.array (first :: rest)) ++ tokens =
              .beginArray :: (tokensOf first ++ (elementTokens rest ++ .endArray :: tokens)) := by
            simp [tokensOf]
          rw [htokens, run_cons]
          refine (run_firstElement first).trans ?_
          refine (ih first List.mem_cons_self (.array [] :: stack) _).trans ?_
          exact run_elements (fun j hj => ih j (List.mem_cons_of_mem first hj)) [first]
  | object members hsorted _ ih =>
      intro stack tokens
      cases members with
      | nil => rfl
      | cons first rest =>
          obtain ⟨key, value⟩ := first
          have htokens : tokensOf (.object ((key, value) :: rest)) ++ tokens =
              .beginObject :: (.valueString key :: .nameSeparator :: tokensOf value ++
                (memberTokens rest ++ .endObject :: tokens)) := by
            simp [tokensOf]
          rw [htokens, run_cons]
          refine (run_member ⟨stack, .firstKey⟩ key (ih _ List.mem_cons_self)
            (.inl ⟨rfl, rfl⟩) (by simp)).trans ?_
          exact run_members (fun member hmember => ih member (List.mem_cons_of_mem _ hmember)) _
            hsorted

end

/-- **Round trip.**  The parser reads back what the serialiser wrote. -/
theorem parse_dump (format : FloatFormat) (step : ℕ) {j : Json} (hj : WellFormed j) :
    parse format (dump format step j) = .ok j := by
  have hrun : ParserState.run format ⟨[], .value⟩ (tokens (dump format step j)) =
      .ok ⟨[], .finished j⟩ := by
    rw [tokens_dump format step hj, hj.parsable]
    rfl
  rw [parse, hrun]
  rfl

end Json
