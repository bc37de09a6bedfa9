import PickupGame.Numeral.Decimal
import PickupGame.Toml.Value

/-!
# Unquoted TOML values

Booleans, integers, floats, dates and times. Such a value is one run of letters, digits and the signs
`+ - _ . :`, except that a blank may stand between a date and a time.
-/

namespace PickupGame.Toml

open PickupGame.Numeral (digit? hexDigit?)

def isScalarChar (c : Char) : Bool :=
  c.isAlphanum || c = '+' || c = '-' || c = '_' || c = '.' || c = ':'

def isDigit (c : Char) : Bool :=
  (digit? c).isSome

/-! ## Integers -/

/-- Digits of a base, single underscores between them; the digits without the underscores. -/
def grouped (ok : Char → Bool) : List Char → Option (List Char)
  | [] => none
  | [c] => if ok c then some [c] else none
  | c :: '_' :: cs => if ok c then (grouped ok cs).map (c :: ·) else none
  | c :: cs => if ok c then (grouped ok cs).map (c :: ·) else none

def ofDigits (base : Nat) (ds : List Char) : Nat :=
  ds.foldl (fun n c => n * base + (hexDigit? c).getD 0) 0

/-- A whole number in decimal, without zeros in front. -/
def plainDecimal (cs : List Char) : Option (List Char) :=
  match cs with
  | '0' :: _ :: _ => none
  | _ => grouped isDigit cs

def inRange (n : Int) : Option Value :=
  if -(Numeral.sizeMinI64 : Int) ≤ n ∧ n ≤ Numeral.maxI64 then some (.integer n) else none

def isBinaryDigit (c : Char) : Bool := c = '0' || c = '1'

def isOctalDigit (c : Char) : Bool := '0' ≤ c && c ≤ '7'

def isHexDigit (c : Char) : Bool := (hexDigit? c).isSome

/-- An integer in base two, eight, ten or sixteen; only those in base ten have a sign. -/
def integer? : List Char → Option Value
  | '0' :: 'x' :: cs => (grouped isHexDigit cs).bind fun ds => inRange (ofDigits 16 ds)
  | '0' :: 'o' :: cs => (grouped isOctalDigit cs).bind fun ds => inRange (ofDigits 8 ds)
  | '0' :: 'b' :: cs => (grouped isBinaryDigit cs).bind fun ds => inRange (ofDigits 2 ds)
  | '+' :: cs => (plainDecimal cs).bind fun ds => inRange (ofDigits 10 ds)
  | '-' :: cs => (plainDecimal cs).bind fun ds => inRange (-(ofDigits 10 ds : Int))
  | cs => (plainDecimal cs).bind fun ds => inRange (ofDigits 10 ds)

/-! ## Floats -/

/-- Whether `m · 10 ^ e` rounds to a double, the limit being half a step past the largest one. -/
def isFinite (m : Nat) (e : Int) : Bool :=
  let size : Int := (Numeral.digits m).length + e
  if m = 0 || size < 308 then true
  else if 310 < size then false
  else
    m * Nat.pow 10 e.toNat < (Nat.pow 2 1024 - Nat.pow 2 970) * Nat.pow 10 (-e).toNat

def exponentPart? : List Char → Option Int
  | '+' :: cs => (grouped isDigit cs).map fun ds => (ofDigits 10 ds : Int)
  | '-' :: cs => (grouped isDigit cs).map fun ds => -(ofDigits 10 ds : Int)
  | cs => (grouped isDigit cs).map fun ds => (ofDigits 10 ds : Int)

def isExponentMark (c : Char) : Bool := c = 'e' || c = 'E'

/-- A decimal with a fraction, an exponent or both. A positive one must not round to infinity. -/
def decimalFloat? (negative : Bool) (cs : List Char) : Option Value :=
  let mantissa := cs.takeWhile (!isExponentMark ·)
  let exponent := cs.dropWhile (!isExponentMark ·)
  let whole := mantissa.takeWhile (· ≠ '.')
  let fraction := mantissa.dropWhile (· ≠ '.')
  if fraction.isEmpty && exponent.isEmpty then none
  else do
    let whole ← plainDecimal whole
    let fraction ← if fraction.isEmpty then some [] else grouped isDigit fraction.tail
    let e ← if exponent.isEmpty then some 0 else exponentPart? exponent.tail
    if negative || isFinite (ofDigits 10 (whole ++ fraction)) (e - fraction.length) then
      some (.float (String.ofList cs))
    else none

def float? : List Char → Option Value
  | '+' :: cs => unsignedFloat? false cs
  | '-' :: cs => unsignedFloat? true cs
  | cs => unsignedFloat? false cs
where
  unsignedFloat? (negative : Bool) (cs : List Char) : Option Value :=
    if cs = ['i', 'n', 'f'] ∨ cs = ['n', 'a', 'n'] then some (.float (String.ofList cs))
    else decimalFloat? negative cs

/-! ## Dates and times -/

/-- Two digits of a number between two limits. -/
def twoDigits (low high : Nat) : List Char → Option (Nat × List Char)
  | a :: b :: cs =>
    match digit? a, digit? b with
    | some a, some b =>
      if low ≤ 10 * a + b ∧ 10 * a + b ≤ high then some (10 * a + b, cs) else none
    | _, _ => none
  | _ => none

def isLeapYear (y : Nat) : Bool :=
  y % 4 = 0 && (y % 100 ≠ 0 || y % 400 = 0)

def daysIn (year month : Nat) : Nat :=
  if month = 2 then (if isLeapYear year then 29 else 28)
  else if month = 4 || month = 6 || month = 9 || month = 11 then 30
  else 31

/-- A date, and what follows it. -/
def date? (cs : List Char) : Option (List Char) := do
  let (century, cs) ← twoDigits 0 99 cs
  let (year, cs) ← twoDigits 0 99 cs
  let '-' :: cs := cs | none
  let (month, cs) ← twoDigits 1 12 cs
  let '-' :: cs := cs | none
  let (_, cs) ← twoDigits 1 (daysIn (100 * century + year) month) cs
  return cs

def clock? (cs : List Char) : Option (List Char) := do
  let (_, cs) ← twoDigits 0 23 cs
  let ':' :: cs := cs | none
  let (_, cs) ← twoDigits 0 59 cs
  let ':' :: cs := cs | none
  let (_, cs) ← twoDigits 0 60 cs
  match cs with
  | '.' :: c :: cs => if isDigit c then return cs.dropWhile isDigit else none
  | '.' :: [] => none
  | cs => return cs

/-- Nothing, or an offset from universal time. -/
def isOffset : List Char → Bool
  | [] => true
  | ['Z'] => true
  | ['z'] => true
  | c :: cs =>
    if c = '+' || c = '-' then
      match twoDigits 0 23 cs with
      | some (_, ':' :: cs) => (twoDigits 0 59 cs).any (·.2.isEmpty)
      | _ => false
    else false

/-- A time of day with an offset, if there is one. -/
def isClockWithOffset (cs : List Char) : Bool :=
  (clock? cs).any isOffset

/-- A date, a time or a date and a time joined by a letter. -/
def isTime (cs : List Char) : Bool :=
  match date? cs with
  | some [] => true
  | some ('T' :: cs) => isClockWithOffset cs
  | some ('t' :: cs) => isClockWithOffset cs
  | some _ => false
  | none => (clock? cs).any (·.isEmpty)

def scalar? (cs : List Char) : Option Value :=
  if cs = ['t', 'r', 'u', 'e'] then some (.boolean true)
  else if cs = ['f', 'a', 'l', 's', 'e'] then some (.boolean false)
  else if isTime cs then some (.time (String.ofList cs))
  else (integer? cs).or (float? cs)

/-- The unquoted value at the front of a text, and what follows it. -/
def readScalar (cs : List Char) : Option (Value × List Char) :=
  let token := cs.takeWhile isScalarChar
  let rest := cs.dropWhile isScalarChar
  match date? token, rest with
  | some [], ' ' :: next =>
    let clock := next.takeWhile isScalarChar
    if (twoDigits 0 23 clock).any (·.2.head? = some ':') then
      if isClockWithOffset clock then
        some (.time (String.ofList (token ++ ' ' :: clock)), next.dropWhile isScalarChar)
      else none
    else (scalar? token).map (·, rest)
  | _, _ => (scalar? token).map (·, rest)

end PickupGame.Toml
