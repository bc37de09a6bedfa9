/-!
# Decimal numerals

Reading whole numbers within limits. An optional sign comes first; the digits are read from the
left, and the first one that is no digit, or that leads past the limit, decides the fault.
-/

namespace PickupGame.Numeral

/-- Why a text is not a number of the wanted range. -/
inductive Fault
  | empty
  | invalidDigit
  | tooLarge
  | tooSmall
  deriving DecidableEq, Repr

def Fault.message : Fault → String
  | .empty => "cannot parse integer from empty string"
  | .invalidDigit => "invalid digit found in string"
  | .tooLarge => "number too large to fit in target type"
  | .tooSmall => "number too small to fit in target type"

def digit? (c : Char) : Option Nat :=
  if '0' ≤ c ∧ c ≤ '9' then some (c.toNat - 48) else none

/-- Reads digits onto `acc` and gives up with `fault` at the first one that leads past `limit`. -/
def readDigits (limit : Nat) (fault : Fault) : Nat → List Char → Except Fault Nat
  | acc, [] => .ok acc
  | acc, c :: cs =>
    match digit? c with
    | none => .error .invalidDigit
    | some d =>
      if acc * 10 + d ≤ limit then readDigits limit fault (acc * 10 + d) cs else .error fault

/-- A whole number of at most `limit`, with an optional plus sign before its digits. -/
def readNat (limit : Nat) : List Char → Except Fault Nat
  | [] => .error .empty
  | ['+'] => .error .invalidDigit
  | '+' :: cs => readDigits limit .tooLarge 0 cs
  | cs => readDigits limit .tooLarge 0 cs

/-- A whole number of at most `high` and at least `-low`, with an optional sign. -/
def readInt (low high : Nat) : List Char → Except Fault Int
  | [] => .error .empty
  | ['-'] => .error .invalidDigit
  | '-' :: cs => (readDigits low .tooSmall 0 cs).map fun n => -(n : Int)
  | cs => (readNat high cs).map fun n => (n : Int)

/-- The largest values of the fixed widths in use. -/
def maxU16 : Nat := 0xFFFF
def maxU32 : Nat := 0xFFFFFFFF
def maxU64 : Nat := 0xFFFFFFFFFFFFFFFF
def maxI64 : Nat := 0x7FFFFFFFFFFFFFFF

/-- The size of the smallest signed number of 64 bits. -/
def sizeMinI64 : Nat := 0x8000000000000000

/-- The digits of a number, without sign or leading zeros. -/
def digits (n : Nat) : List Char :=
  Nat.toDigits 10 n

/-- A number filled up with zeros on the left to at least `width` digits. -/
def padded (width n : Nat) : List Char :=
  List.replicate (width - (digits n).length) '0' ++ digits n

def hexDigit? (c : Char) : Option Nat :=
  if '0' ≤ c ∧ c ≤ '9' then some (c.toNat - 48)
  else if 'a' ≤ c ∧ c ≤ 'f' then some (c.toNat - 87)
  else if 'A' ≤ c ∧ c ≤ 'F' then some (c.toNat - 55)
  else none

def hexDigits (n : Nat) : List Char :=
  Nat.toDigits 16 n

end PickupGame.Numeral
