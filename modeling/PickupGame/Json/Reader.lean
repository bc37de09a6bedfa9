import PickupGame.Json.Value
import PickupGame.Text.Utf8

/-!
# Reading JSON

A reader takes characters from the front of a text and gives a value with what is left. Nesting is
bounded, so a value is read by recursion on the levels that may still be opened; the loops inside a
level are bounded by the length of the text. A failure keeps the number of bytes behind the place
where it was noticed, from which line and column follow.
-/

namespace PickupGame.Json

open PickupGame.Numeral (digit? hexDigit?)

/-- Why a text is not JSON. -/
inductive Fault
  | endInValue
  | endInObject
  | endInList
  | endInString
  | expectedValue
  | expectedWord
  | expectedColon
  | expectedCommaOrBrace
  | expectedCommaOrBracket
  | trailingComma
  | trailingCharacters
  | keyNotString
  | invalidNumber
  | numberOutOfRange
  | invalidEscape
  | controlCharacter
  | loneSurrogate
  | unpairedSurrogate
  | tooDeep
  deriving DecidableEq, Repr

def Fault.message : Fault → String
  | .endInValue => "EOF while parsing a value"
  | .endInObject => "EOF while parsing an object"
  | .endInList => "EOF while parsing a list"
  | .endInString => "EOF while parsing a string"
  | .expectedValue => "expected value"
  | .expectedWord => "expected ident"
  | .expectedColon => "expected `:`"
  | .expectedCommaOrBrace => "expected `,` or `\x7d`"
  | .expectedCommaOrBracket => "expected `,` or `]`"
  | .trailingComma => "trailing comma"
  | .trailingCharacters => "trailing characters"
  | .keyNotString => "key must be a string"
  | .invalidNumber => "invalid number"
  | .numberOutOfRange => "number out of range"
  | .invalidEscape => "invalid escape"
  | .controlCharacter => "control character (\\u0000-\\u001F) found while parsing a string"
  | .loneSurrogate => "lone leading surrogate in hex escape"
  | .unpairedSurrogate => "unexpected end of hex escape"
  | .tooDeep => "recursion limit exceeded"

/-- A fault and the number of bytes of the text behind the place where it was noticed. -/
structure Failure where
  fault : Fault
  remaining : Nat
  deriving DecidableEq, Repr

abbrev Reader (α : Type) := List Char → Except Failure (α × List Char)

/-- A fault noticed `extra` bytes into `rest`. -/
def failAfter {α : Type} (extra : Nat) (fault : Fault) (rest : List Char) : Except Failure α :=
  .error ⟨fault, Text.byteLength rest - extra⟩

/-- A fault noticed in front of `rest`. -/
def failAt {α : Type} (fault : Fault) (rest : List Char) : Except Failure α :=
  failAfter 0 fault rest

/-- A fault noticed by looking at the first byte of `rest`, if there is one. -/
def failOn {α : Type} (fault : Fault) (rest : List Char) : Except Failure α :=
  failAfter 1 fault rest

def isSpace (c : Char) : Bool :=
  c = ' ' || c = '\n' || c = '\t' || c = '\r'

def skipSpace (cs : List Char) : List Char :=
  cs.dropWhile isSpace

/-- The rest of a word such as `true`. -/
def word (value : Value) : List Char → Reader Value
  | [], cs => .ok (value, cs)
  | _ :: _, [] => failAt .endInValue []
  | w :: ws, c :: cs => if c = w then word value ws cs else failAfter 1 .expectedWord (c :: cs)

/-! ## Numbers -/

/-- The power `10 ^ n` as a double, exact or correctly rounded. -/
def tenPower (n : Nat) : Float :=
  Float.ofScientific 1 false n

/-- Divides by `10 ^ n`, in steps of at most `10 ^ 308`. -/
def shrink (f : Float) (n : Nat) : Float :=
  if n ≤ 308 then f / tenPower n
  else if f == 0.0 then f
  else shrink (f / tenPower 308) (n - 308)
  termination_by n

/-- The double for `significand · 10 ^ exponent`, one rounding per step; none past the largest. -/
def scaled? (significand : Nat) (exponent : Int) : Option Float :=
  let f := significand.toFloat
  if exponent < 0 then some (shrink f exponent.natAbs)
  else if exponent ≤ 308 then
    let g := f * tenPower exponent.toNat
    if g.isInf then none else some g
  else if significand = 0 then some f
  else none

def float (negative : Bool) (f : Float) : Value :=
  .number (.float (if negative then -f else f))

def fromParts (negative : Bool) (significand : Nat) (exponent : Int) : Reader Value := fun cs =>
  match scaled? significand exponent with
  | some f => .ok (float negative f, cs)
  | none => failAt .numberOutOfRange cs

def isDigit (c : Char) : Bool :=
  (digit? c).isSome

/-- The digits of an exponent read so far are `e`; a value past `2 ^ 31 - 1` is as good as infinite,
which is harmless only for a zero or a negative exponent. -/
def exponentDigits (negative : Bool) (significand : Nat) (start : Int) (down : Bool) :
    Nat → Reader Value
  | e, c :: cs =>
    match digit? c with
    | some d =>
      if e * 10 + d < 0x80000000 then exponentDigits negative significand start down (e * 10 + d) cs
      else if significand ≠ 0 ∧ !down then failAt .numberOutOfRange cs
      else .ok (float negative 0.0, cs.dropWhile isDigit)
    | none => fromParts negative significand (if down then start - e else start + e) (c :: cs)
  | e, [] => fromParts negative significand (if down then start - e else start + e) []

def exponentBody (negative : Bool) (significand : Nat) (start : Int) (down : Bool) : Reader Value
  | [] => failAt .endInValue []
  | c :: cs =>
    match digit? c with
    | some d => exponentDigits negative significand start down d cs
    | none => failAfter 1 .invalidNumber (c :: cs)

def exponent (negative : Bool) (significand : Nat) (start : Int) : Reader Value
  | '+' :: cs => exponentBody negative significand start false cs
  | '-' :: cs => exponentBody negative significand start true cs
  | cs => exponentBody negative significand start false cs

def finish (negative : Bool) (significand : Nat) (start : Int) : Reader Value
  | 'e' :: cs => exponent negative significand start cs
  | 'E' :: cs => exponent negative significand start cs
  | cs => fromParts negative significand start cs

/-- The digits behind the point; those that no longer fit a word of 64 bits are dropped. -/
def fraction (negative : Bool) (empty : Bool) : Nat → Int → Reader Value
  | s, e, c :: cs =>
    match digit? c with
    | some d =>
      if s * 10 + d ≤ Numeral.maxU64 then fraction negative false (s * 10 + d) (e - 1) cs
      else finish negative s e (cs.dropWhile isDigit)
    | none => if empty then failOn .invalidNumber (c :: cs) else finish negative s e (c :: cs)
  | s, e, [] => if empty then failAt .endInValue [] else finish negative s e []

/-- The digits of a whole number that no longer fit a word only count. -/
def longInteger (negative : Bool) (s : Nat) : Int → Reader Value
  | e, c :: cs =>
    if isDigit c then longInteger negative s (e + 1) cs
    else if c = '.' then fraction negative true s e cs
    else finish negative s e (c :: cs)
  | e, [] => finish negative s e []

/-- The value of a whole number without point or exponent. A negative one that is zero or does not
fit is a double. -/
def whole (negative : Bool) (s : Nat) : Value :=
  if negative then
    if h : 1 ≤ s ∧ s ≤ 0x8000000000000000 then .number (.integer (-(s : Int)) (by omega) (by omega))
    else float true s.toFloat
  else if h : s < 0x10000000000000000 then .number (.integer s (by omega) (by omega))
  else float false s.toFloat

/-- What follows the digits of a whole number. -/
def afterWhole (negative : Bool) (s : Nat) : Reader Value
  | '.' :: cs => fraction negative true s 0 cs
  | 'e' :: cs => exponent negative s 0 cs
  | 'E' :: cs => exponent negative s 0 cs
  | cs => .ok (whole negative s, cs)

/-- The digits of a whole number, `s` being read. -/
def wholeDigits (negative : Bool) : Nat → Reader Value
  | s, c :: cs =>
    match digit? c with
    | some d =>
      if s * 10 + d ≤ Numeral.maxU64 then wholeDigits negative (s * 10 + d) cs
      else longInteger negative s 0 (c :: cs)
    | none => afterWhole negative s (c :: cs)
  | s, [] => afterWhole negative s []

/-- A number behind its sign. A leading zero stands alone. -/
def number (negative : Bool) : Reader Value
  | [] => failAt .endInValue []
  | c :: cs =>
    match digit? c with
    | some 0 =>
      match cs with
      | d :: _ => if isDigit d then failOn .invalidNumber cs else afterWhole negative 0 cs
      | [] => afterWhole negative 0 []
    | some d => wholeDigits negative d cs
    | none => failAfter 1 .invalidNumber (c :: cs)

/-! ## Strings -/

def hexEscape : Reader Nat := fun cs =>
  match cs with
  | a :: b :: c :: d :: rest =>
    match hexDigit? a, hexDigit? b, hexDigit? c, hexDigit? d with
    | some a, some b, some c, some d => .ok (((a * 16 + b) * 16 + c) * 16 + d, rest)
    | _, _, _, _ => failAfter 4 .invalidEscape cs
  | _ => if Text.byteLength cs < 4 then failAt .endInString [] else failAfter 4 .invalidEscape cs

/-- What follows a leading surrogate: the escape of a trailing one. -/
def trailingSurrogate (n : Nat) : Reader Char
  | [] => failAt .endInString []
  | '\\' :: [] => failAt .endInString []
  | '\\' :: 'u' :: cs => do
    let (m, rest) ← hexEscape cs
    if 0xDC00 ≤ m ∧ m ≤ 0xDFFF then
      .ok (Char.ofNat ((n - 0xD800) * 1024 + (m - 0xDC00) + 0x10000), rest)
    else failAt .loneSurrogate rest
  | '\\' :: cs => failAfter 1 .unpairedSurrogate cs
  | cs => failAfter 1 .unpairedSurrogate cs

def unicodeEscape : Reader Char := fun cs => do
  let (n, rest) ← hexEscape cs
  if 0xDC00 ≤ n ∧ n ≤ 0xDFFF then failAt .loneSurrogate rest
  else if 0xD800 ≤ n ∧ n ≤ 0xDBFF then trailingSurrogate n rest
  else .ok (Char.ofNat n, rest)

def escape : Reader Char
  | [] => failAt .endInString []
  | '"' :: cs => .ok ('"', cs)
  | '\\' :: cs => .ok ('\\', cs)
  | '/' :: cs => .ok ('/', cs)
  | 'b' :: cs => .ok ('\x08', cs)
  | 'f' :: cs => .ok ('\x0c', cs)
  | 'n' :: cs => .ok ('\n', cs)
  | 'r' :: cs => .ok ('\r', cs)
  | 't' :: cs => .ok ('\t', cs)
  | 'u' :: cs => unicodeEscape cs
  | cs => failAfter 1 .invalidEscape cs

/-- The characters of a string up to its closing quote; `acc` holds those read, the last one first,
and `fuel` bounds those to come. -/
def characters : Nat → List Char → Reader (List Char)
  | _, _, [] => failAt .endInString []
  | 0, _, cs => failAt .endInString cs
  | fuel + 1, acc, c :: cs =>
    if c = '"' then .ok (acc.reverse, cs)
    else if c = '\\' then
      match escape cs with
      | .ok (d, rest) => characters fuel (d :: acc) rest
      | .error e => .error e
    else if c.toNat < 0x20 then failAfter 1 .controlCharacter (c :: cs)
    else characters fuel (c :: acc) cs

def string : Reader String := fun cs =>
  match characters cs.length [] cs with
  | .ok (s, rest) => .ok (String.ofList s, rest)
  | .error e => .error e

/-! ## Values -/

def items (item : Reader Value) : Nat → List Value → Reader (List Value)
  | fuel, acc, cs =>
    match skipSpace cs with
    | [] => failAt .endInList []
    | ']' :: rest => .ok (acc.reverse, rest)
    | ',' :: rest =>
      match skipSpace rest with
      | [] => failAt .endInValue []
      | ']' :: rest => failOn .trailingComma (']' :: rest)
      | rest =>
        match fuel with
        | 0 => failAt .endInList rest
        | fuel + 1 =>
          match item rest with
          | .ok (v, rest) => items item fuel (v :: acc) rest
          | .error e => .error e
    | rest => failOn .expectedCommaOrBracket rest

def array (item : Reader Value) : Reader Value := fun cs =>
  match skipSpace cs with
  | [] => failAt .endInList []
  | ']' :: rest => .ok (.array [], rest)
  | rest => do
    let (v, rest) ← item rest
    let (vs, rest) ← items item rest.length [v] rest
    .ok (.array vs, rest)

def member (item : Reader Value) : Reader (String × Value) := fun cs => do
  let (key, rest) ← string cs
  match skipSpace rest with
  | [] => failAt .endInObject []
  | ':' :: rest => do
    let (v, rest) ← item rest
    .ok ((key, v), rest)
  | rest => failOn .expectedColon rest

def members (item : Reader Value) : Nat → Members → Reader Members
  | fuel, acc, cs =>
    match skipSpace cs with
    | [] => failAt .endInObject []
    | '}' :: rest => .ok (acc, rest)
    | ',' :: rest =>
      match skipSpace rest with
      | [] => failAt .endInValue []
      | '}' :: rest => failOn .trailingComma ('}' :: rest)
      | '"' :: rest =>
        match fuel with
        | 0 => failAt .endInObject rest
        | fuel + 1 =>
          match member item rest with
          | .ok ((k, v), rest) => members item fuel (acc.insert k v) rest
          | .error e => .error e
      | rest => failOn .keyNotString rest
    | rest => failOn .expectedCommaOrBrace rest

def object (item : Reader Value) : Reader Value := fun cs =>
  match skipSpace cs with
  | [] => failAt .endInObject []
  | '}' :: rest => .ok (.object [], rest)
  | '"' :: rest => do
    let ((k, v), rest) ← member item rest
    let (ms, rest) ← members item rest.length [(k, v)] rest
    .ok (.object ms, rest)
  | rest => failOn .keyNotString rest

/-- A value inside which `levels` arrays and objects may still be opened in one another. -/
def value (levels : Nat) (cs : List Char) : Except Failure (Value × List Char) :=
  match skipSpace cs with
  | [] => failAt .endInValue []
  | 'n' :: rest => word .null ['u', 'l', 'l'] rest
  | 't' :: rest => word (.bool true) ['r', 'u', 'e'] rest
  | 'f' :: rest => word (.bool false) ['a', 'l', 's', 'e'] rest
  | '-' :: rest => number true rest
  | '"' :: rest => do
    let (s, rest) ← string rest
    .ok (.string s, rest)
  | '[' :: rest =>
    match levels with
    | 0 => failOn .tooDeep ('[' :: rest)
    | levels + 1 => array (value levels) rest
  | '{' :: rest =>
    match levels with
    | 0 => failOn .tooDeep ('{' :: rest)
    | levels + 1 => object (value levels) rest
  | c :: rest => if isDigit c then number false (c :: rest) else failOn .expectedValue (c :: rest)

/-- How many arrays and objects may be open at a time. -/
def maxLevels : Nat := 127

/-- A text that is one value with nothing but white space around it. -/
def document (cs : List Char) : Except Failure Value := do
  let (v, rest) ← value maxLevels cs
  match skipSpace rest with
  | [] => .ok v
  | rest => failOn .trailingCharacters rest

/-- A place in a text: lines count from one, columns are bytes since the line began. -/
structure Position where
  line : Nat
  column : Nat
  deriving DecidableEq, Repr

/-- The place `offset` bytes behind `p`. -/
def Position.advance (p : Position) : Nat → List Char → Position
  | offset, [] => { p with column := p.column + offset }
  | offset, c :: cs =>
    if offset < c.utf8Size then { p with column := p.column + offset }
    else if c = '\n' then advance ⟨p.line + 1, 0⟩ (offset - 1) cs
    else advance ⟨p.line, p.column + c.utf8Size⟩ (offset - c.utf8Size) cs

/-- A fault and where it was noticed. -/
structure SyntaxFault where
  fault : Fault
  position : Position
  deriving DecidableEq, Repr

def SyntaxFault.message (e : SyntaxFault) : String :=
  s!"{e.fault.message} at line {e.position.line} column {e.position.column}"

def parse (s : String) : Except SyntaxFault Value :=
  match document s.toList with
  | .ok v => .ok v
  | .error e =>
    .error ⟨e.fault, Position.advance ⟨1, 0⟩ (Text.byteLength s.toList - e.remaining) s.toList⟩

end PickupGame.Json
