import Mathlib.Algebra.Group.Nat.Defs
import Mathlib.Data.Int.Notation
import Mathlib.Data.List.Basic

/-!
# JSON

The values, the serialiser and the parser of a JSON library of the usual design: integers are
unsigned, or signed with a minus sign, as long as they fit 64 bits, and everything else is a
floating-point number; objects keep their keys in order, and the last of several equal keys counts.

Texts are lists of characters; a byte sequence that is not UTF-8 is not a text and no parser
accepts it.  What a floating-point number is to the platform is a parameter (`FloatFormat`).

The parser is a scanner, which reads one token at a time (`scan`), and a machine with a stack of
the arrays and objects it is in (`ParserState.step`).
-/

inductive Json
  | null
  | boolean (b : Bool)
  | unsigned (n : ℕ)
  | integer (i : ℤ)
  | float (text : String)
  | string (s : String)
  | array (elements : List Json)
  | object (members : List (String × Json))

namespace Json

/-- The platform's floating-point numbers, by the text they were read from: whether they are
finite, how they are written, and what a cast to an integer gives. -/
structure FloatFormat where
  isFinite : String → Bool
  print : String → String
  truncate : String → ℤ

inductive JsonException
  | parseError
  | numberOverflow (text : String)
  | typeError (id : ℕ) (message : String)
  deriving DecidableEq

/-! ## Objects -/

/-- The order of the keys: that of their bytes, and so that of their characters. -/
def precedes : List Char → List Char → Bool
  | _, [] => false
  | [], _ :: _ => true
  | c :: rest, c' :: rest' => decide (c.toNat < c'.toNat) || (c == c' && precedes rest rest')

def KeyBefore (key other : String) : Prop := precedes key.toList other.toList = true

instance (key other : String) : Decidable (KeyBefore key other) :=
  inferInstanceAs (Decidable (_ = _))

/-- `std::map::operator[]`, with an assignment to it. -/
def insertMember (key : String) (value : Json) :
    List (String × Json) → List (String × Json)
  | [] => [(key, value)]
  | (other, old) :: rest =>
      if KeyBefore key other then (key, value) :: (other, old) :: rest
      else if key = other then (key, value) :: rest
      else (other, old) :: insertMember key value rest

/-- A member of an object. -/
def find : Json → String → Option Json
  | object members, key => members.lookup key
  | _, _ => none

/-- `operator[]`, with an assignment to it: null becomes an object. -/
def assign (j : Json) (key : String) (value : Json) : Json :=
  match j with
  | object members => object (insertMember key value members)
  | _ => object [(key, value)]

/-- An assignment to a member of a member. -/
def assignIn (j : Json) (first second : String) (value : Json) : Json :=
  j.assign first (((j.find first).getD null).assign second value)

/-! ## Conversions -/

def typeName : Json → String
  | null => "null"
  | boolean _ => "boolean"
  | unsigned _ | integer _ | float _ => "number"
  | string _ => "string"
  | array _ => "array"
  | object _ => "object"

/-- The conversion to a string. -/
def getString : Json → Except JsonException String
  | string s => .ok s
  | j => .error (.typeError 302 ("type must be string, but is " ++ j.typeName))

/-- The conversion to an arithmetic type, before the cast to it. -/
def getNumber (format : FloatFormat) : Json → Except JsonException ℤ
  | unsigned n => .ok n
  | integer i => .ok i
  | float text => .ok (format.truncate text)
  | boolean b => .ok b.toNat
  | j => .error (.typeError 302 ("type must be number, but is " ++ j.typeName))

/-- `value`: a member, converted, or the default. -/
def value {α : Type} (get : Json → Except JsonException α) (key : String) (default : α) :
    Json → Except JsonException α
  | object members =>
      match members.lookup key with
      | some member => get member
      | none => .ok default
  | j => .error (.typeError 306 ("cannot use value() with " ++ j.typeName))

/-! ## The serialiser -/

/-- `dump_escaped`, for one character. -/
def escape (c : Char) : List Char :=
  if c = '"' then ['\\', '"']
  else if c = '\\' then ['\\', '\\']
  else if c.toNat = 8 then ['\\', 'b']
  else if c.toNat = 9 then ['\\', 't']
  else if c.toNat = 10 then ['\\', 'n']
  else if c.toNat = 12 then ['\\', 'f']
  else if c.toNat = 13 then ['\\', 'r']
  else if c.toNat < 32 then
    ['\\', 'u', '0', '0', Nat.digitChar (c.toNat / 16), Nat.digitChar (c.toNat % 16)]
  else [c]

def dumpString (s : String) : List Char := '"' :: (s.toList.flatMap escape ++ ['"'])

def dumpUnsigned (n : ℕ) : List Char := Nat.toDigits 10 n

def dumpInteger (i : ℤ) : List Char :=
  if i < 0 then '-' :: dumpUnsigned i.natAbs else dumpUnsigned i.natAbs

def indentation (n : ℕ) : List Char := List.replicate n ' '

section

variable (format : FloatFormat) (step : ℕ)

mutual

/-- `dump` with an indent. -/
def dumpAt (indent : ℕ) : Json → List Char
  | null => "null".toList
  | boolean true => "true".toList
  | boolean false => "false".toList
  | unsigned n => dumpUnsigned n
  | integer i => dumpInteger i
  | float text => (format.print text).toList
  | string s => dumpString s
  | array [] => "[]".toList
  | array (first :: rest) =>
      "[\n".toList ++ indentation (indent + step) ++ dumpAt (indent + step) first ++
        dumpElements (indent + step) rest ++ '\n' :: indentation indent ++ "]".toList
  | object [] => ['{', '}']
  | object ((key, value) :: rest) =>
      ['{', '\n'] ++ indentation (indent + step) ++ dumpString key ++ ": ".toList ++
        dumpAt (indent + step) value ++ dumpMembers (indent + step) rest ++
        '\n' :: indentation indent ++ ['}']

def dumpElements (indent : ℕ) : List Json → List Char
  | [] => []
  | first :: rest =>
      ",\n".toList ++ indentation indent ++ dumpAt indent first ++ dumpElements indent rest

def dumpMembers (indent : ℕ) : List (String × Json) → List Char
  | [] => []
  | (key, value) :: rest =>
      ",\n".toList ++ indentation indent ++ dumpString key ++ ": ".toList ++ dumpAt indent value ++
        dumpMembers indent rest

end

def dump (j : Json) : List Char := dumpAt format step 0 j

end

/-! ## The scanner -/

inductive Token
  | beginArray | endArray | beginObject | endObject | nameSeparator | valueSeparator
  | literalTrue | literalFalse | literalNull
  | valueString (s : String)
  | valueUnsigned (n : ℕ)
  | valueInteger (i : ℤ)
  | valueFloat (text : String)
  | endOfInput
  | parseError
  deriving DecidableEq

def isWhitespace (c : Char) : Bool := c == ' ' || c == '\t' || c == '\n' || c == '\r'

def skipWhitespace : List Char → List Char
  | [] => []
  | c :: rest => if isWhitespace c then skipWhitespace rest else c :: rest

/-- `scan_literal`, behind its first character. -/
def scanLiteral (literal : List Char) (token : Token) (text : List Char) : Token × List Char :=
  if literal.isPrefixOf text then (token, text.drop literal.length) else (.parseError, [])

def hexValue (c : Char) : Option ℕ :=
  if '0' ≤ c ∧ c ≤ '9' then some (c.toNat - 48)
  else if 'A' ≤ c ∧ c ≤ 'F' then some (c.toNat - 55)
  else if 'a' ≤ c ∧ c ≤ 'f' then some (c.toNat - 87)
  else none

/-- `get_codepoint`. -/
def getCodepoint (a b c d : Char) : Option ℕ := do
  return (← hexValue a) * 4096 + (← hexValue b) * 256 + (← hexValue c) * 16 + (← hexValue d)

/-- What a single character behind a backslash stands for. -/
def unescape : Char → Option Char
  | '"' => some '"'
  | '\\' => some '\\'
  | '/' => some '/'
  | 'b' => some (Char.ofNat 8)
  | 'f' => some (Char.ofNat 12)
  | 'n' => some '\n'
  | 'r' => some '\r'
  | 't' => some '\t'
  | _ => none

/-- `scan_string`, behind the opening quote: the characters read so far, newest first. -/
def scanString (read : List Char) : List Char → Token × List Char
  | [] => (.parseError, [])
  | '"' :: text => (.valueString (String.ofList read.reverse), text)
  | '\\' :: 'u' :: a :: b :: c :: d :: text =>
      match getCodepoint a b c d with
      | none => (.parseError, [])
      | some high =>
          if 0xD800 ≤ high ∧ high ≤ 0xDBFF then
            match text with
            | '\\' :: 'u' :: e :: f :: g :: h :: text =>
                match getCodepoint e f g h with
                | none => (.parseError, [])
                | some low =>
                    if 0xDC00 ≤ low ∧ low ≤ 0xDFFF then
                      scanString (Char.ofNat
                        ((high - 0xD800) * 1024 + (low - 0xDC00) + 0x10000) :: read) text
                    else (.parseError, [])
            | _ => (.parseError, [])
          else if 0xDC00 ≤ high ∧ high ≤ 0xDFFF then (.parseError, [])
          else scanString (Char.ofNat high :: read) text
  | '\\' :: c :: text =>
      match unescape c with
      | none => (.parseError, [])
      | some c => scanString (c :: read) text
  | c :: text => if c.toNat < 32 then (.parseError, []) else scanString (c :: read) text

/-- The states of `scan_number`. -/
inductive NumberState
  | minus | zero | any1 | decimal1 | decimal2 | exponent | sign | any2
  deriving DecidableEq

/-- The next state, where the character belongs to the number. -/
def NumberState.next (c : Char) : NumberState → Option NumberState
  | minus => if c = '0' then some zero else if c.isDigit then some any1 else none
  | zero => if c = '.' then some decimal1 else if c = 'e' ∨ c = 'E' then some exponent else none
  | any1 =>
      if c.isDigit then some any1 else if c = '.' then some decimal1
      else if c = 'e' ∨ c = 'E' then some exponent else none
  | decimal1 => if c.isDigit then some decimal2 else none
  | decimal2 =>
      if c.isDigit then some decimal2 else if c = 'e' ∨ c = 'E' then some exponent else none
  | exponent => if c = '+' ∨ c = '-' then some sign else if c.isDigit then some any2 else none
  | sign => if c.isDigit then some any2 else none
  | any2 => if c.isDigit then some any2 else none

/-- The number as far as it goes, newest character first, and the rest of the text. -/
def scanDigits (state : NumberState) (read : List Char) :
    List Char → NumberState × List Char × List Char
  | [] => (state, read, [])
  | c :: text =>
      match state.next c with
      | some state => scanDigits state (c :: read) text
      | none => (state, read, c :: text)

/-- `scan_number`, from its first character. -/
def scanNumber (first : Char) (text : List Char) : Token × List Char :=
  let start : NumberState := if first = '-' then .minus else if first = '0' then .zero else .any1
  let (state, read, rest) := scanDigits start [first] text
  let digits := read.reverse
  match state with
  | .zero | .any1 =>
      if first = '-' then
        let n := Nat.ofDigitChars 10 digits.tail 0
        (if n ≤ 2 ^ 63 then .valueInteger (-n) else .valueFloat (String.ofList digits), rest)
      else
        let n := Nat.ofDigitChars 10 digits 0
        (if n < 2 ^ 64 then .valueUnsigned n else .valueFloat (String.ofList digits), rest)
  | .decimal2 | .any2 => (.valueFloat (String.ofList digits), rest)
  | .minus | .decimal1 | .exponent | .sign => (.parseError, [])

/-- `scan`. -/
def scan (text : List Char) : Token × List Char :=
  match skipWhitespace text with
  | [] => (.endOfInput, [])
  | c :: rest =>
      if c = '[' then (.beginArray, rest)
      else if c = ']' then (.endArray, rest)
      else if c = '{' then (.beginObject, rest)
      else if c = '}' then (.endObject, rest)
      else if c = ':' then (.nameSeparator, rest)
      else if c = ',' then (.valueSeparator, rest)
      else if c = 't' then scanLiteral "rue".toList .literalTrue rest
      else if c = 'f' then scanLiteral "alse".toList .literalFalse rest
      else if c = 'n' then scanLiteral "ull".toList .literalNull rest
      else if c = '"' then scanString [] rest
      else if c = '-' ∨ c.isDigit then scanNumber c rest
      -- a null character ends the text
      else if c.toNat = 0 then (.endOfInput, [])
      else (.parseError, [])

/-- The tokens of a text, up to its end or the first that is none.  Each takes a character, so
fuel for all characters is enough. -/
def scanAll : ℕ → List Char → List Token
  | 0, _ => []
  | fuel + 1, text =>
      match scan text with
      | (.endOfInput, _) => [.endOfInput]
      | (.parseError, _) => [.parseError]
      | (token, rest) => token :: scanAll fuel rest

/-- The byte order mark. -/
def skipBom : List Char → List Char
  | [] => []
  | c :: text => if c.toNat = 0xFEFF then text else c :: text

def tokens (text : List Char) : List Token :=
  scanAll ((skipBom text).length + 1) (skipBom text)

/-! ## The parser -/

/-- An array or object around the value that is parsed; the elements are newest first. -/
inductive Frame
  | array (elements : List Json)
  | object (members : List (String × Json)) (key : String)

/-- What the parser has read last, and what may come next. -/
inductive ParserMode
  | value
  | firstElement
  | afterElement (elements : List Json)
  | firstKey
  | nextKey (members : List (String × Json))
  | separator (members : List (String × Json)) (key : String)
  | afterMember (members : List (String × Json))
  | finished (j : Json)

structure ParserState where
  stack : List Frame
  mode : ParserMode

namespace ParserState

/-- A value is complete. -/
def complete (j : Json) : List Frame → ParserState
  | [] => ⟨[], .finished j⟩
  | .array elements :: stack => ⟨stack, .afterElement (j :: elements)⟩
  | .object members key :: stack => ⟨stack, .afterMember (insertMember key j members)⟩

/-- A token where a value is expected. -/
def startValue (format : FloatFormat) (stack : List Frame) :
    Token → Except JsonException ParserState
  | .beginArray => .ok ⟨stack, .firstElement⟩
  | .beginObject => .ok ⟨stack, .firstKey⟩
  | .literalTrue => .ok (complete (.boolean true) stack)
  | .literalFalse => .ok (complete (.boolean false) stack)
  | .literalNull => .ok (complete .null stack)
  | .valueString s => .ok (complete (.string s) stack)
  | .valueUnsigned n => .ok (complete (.unsigned n) stack)
  | .valueInteger i => .ok (complete (.integer i) stack)
  | .valueFloat text =>
      if format.isFinite text then .ok (complete (.float text) stack)
      else .error (.numberOverflow text)
  | _ => .error .parseError

/-- One token of `sax_parse_internal`. -/
def step (format : FloatFormat) (state : ParserState) (token : Token) :
    Except JsonException ParserState :=
  match state.mode with
  | .value => startValue format state.stack token
  | .firstElement =>
      if token = .endArray then .ok (complete (.array []) state.stack)
      else startValue format (.array [] :: state.stack) token
  | .afterElement elements =>
      match token with
      | .valueSeparator => .ok ⟨.array elements :: state.stack, .value⟩
      | .endArray => .ok (complete (.array elements.reverse) state.stack)
      | _ => .error .parseError
  | .firstKey =>
      match token with
      | .endObject => .ok (complete (.object []) state.stack)
      | .valueString key => .ok ⟨state.stack, .separator [] key⟩
      | _ => .error .parseError
  | .nextKey members =>
      match token with
      | .valueString key => .ok ⟨state.stack, .separator members key⟩
      | _ => .error .parseError
  | .separator members key =>
      match token with
      | .nameSeparator => .ok ⟨.object members key :: state.stack, .value⟩
      | _ => .error .parseError
  | .afterMember members =>
      match token with
      | .valueSeparator => .ok ⟨state.stack, .nextKey members⟩
      | .endObject => .ok (complete (.object members) state.stack)
      | _ => .error .parseError
  | .finished j => if token = .endOfInput then .ok ⟨[], .finished j⟩ else .error .parseError

/-- The state behind some tokens. -/
def run (format : FloatFormat) (state : ParserState) (tokens : List Token) :
    Except JsonException ParserState :=
  tokens.foldlM (step format) state

end ParserState

/-- `json::parse`. -/
def parse (format : FloatFormat) (text : List Char) : Except JsonException Json := do
  match (← ParserState.run format ⟨[], .value⟩ (tokens text)).mode with
  | .finished j => return j
  | _ => throw .parseError

end Json
