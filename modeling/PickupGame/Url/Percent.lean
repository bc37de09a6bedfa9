import PickupGame.Numeral.Decimal
import PickupGame.Text.Utf8

/-!
# Percent-encoding

A character that may not stand for itself is written as the bytes of its UTF-8 form, each as a
percent sign and two hexadecimal digits. Each part of an address has its own set of characters that
have to be written so; characters beyond ASCII always are.
-/

namespace PickupGame.Url

def upperHex (n : Nat) : Char :=
  if n < 10 then Char.ofNat (48 + n) else Char.ofNat (55 + n)

/-- A byte as a percent sign and two digits. -/
def percentByte (b : UInt8) : List Char :=
  ['%', upperHex (b.toNat / 16), upperHex (b.toNat % 16)]

def percentChar (c : Char) : List Char :=
  (String.utf8EncodeChar c).flatMap percentByte

/-- A text in which the characters of a set, and all beyond ASCII, are written as bytes. -/
def percentEncode (escaped : Char → Bool) (cs : List Char) : List Char :=
  cs.flatMap fun c => if escaped c || 0x7F ≤ c.toNat then percentChar c else [c]

/-- The bytes of a text in which a percent sign and two digits stand for a byte. -/
def percentDecode : List Char → List UInt8
  | [] => []
  | '%' :: a :: b :: cs =>
    match Numeral.hexDigit? a, Numeral.hexDigit? b with
    | some x, some y => UInt8.ofNat (16 * x + y) :: percentDecode cs
    | _, _ => String.utf8EncodeChar '%' ++ percentDecode (a :: b :: cs)
  | c :: cs => String.utf8EncodeChar c ++ percentDecode cs

/-! ## The sets of the parts of an address -/

def isControl (c : Char) : Bool :=
  c.toNat < 0x20

def inFragmentSet (c : Char) : Bool :=
  isControl c || c = ' ' || c = '"' || c = '<' || c = '>' || c = '`'

def inQuerySet (c : Char) : Bool :=
  isControl c || c = ' ' || c = '"' || c = '#' || c = '<' || c = '>'

def inSpecialQuerySet (c : Char) : Bool :=
  inQuerySet c || c = '\''

def inPathSet (c : Char) : Bool :=
  inFragmentSet c || c = '#' || c = '?' || c = '{' || c = '}'

def inUserinfoSet (c : Char) : Bool :=
  inPathSet c || c = '/' || c = ':' || c = ';' || c = '=' || c = '@' || c = '[' || c = '\\'
    || c = ']' || c = '^' || c = '|'

end PickupGame.Url
