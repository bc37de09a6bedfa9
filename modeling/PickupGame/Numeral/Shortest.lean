import PickupGame.Numeral.Decimal

/-!
# Shortest decimals

The decimal with the fewest digits that rounds to a given double, and of those the nearest. A
double is `mantissa · 2 ^ exponent`; the decimals that round to it form an interval, ends included
exactly when the mantissa is even. If a grid of multiples of a power of ten meets the interval, one
of the two neighbours of the double on that grid does, so these two are all that is tried, on finer
and finer grids.
-/

namespace PickupGame.Numeral

/-- The positive number `mantissa · 2 ^ exponent` and how it is spaced: its neighbour below is at
half the usual distance when `narrowBelow` holds. -/
structure Binary where
  mantissa : Nat
  exponent : Int
  narrowBelow : Bool
  deriving DecidableEq, Repr

/-- The positive number `digits · 10 ^ exponent`. -/
structure Decimal where
  digits : Nat
  exponent : Int
  deriving DecidableEq, Repr

namespace Binary

/-- The magnitude of a finite double, or none for zero. -/
def ofFloat? (x : Float) : Option Binary :=
  let bits : Nat := x.toBits.toNat
  let biased : Nat := bits / 0x10000000000000 % 0x800
  let fraction : Nat := bits % 0x10000000000000
  if biased = 0 then
    if fraction = 0 then none else some ⟨fraction, -1074, false⟩
  else some ⟨fraction + 0x10000000000000, (biased : Int) - 1075, fraction = 0 && 1 < biased⟩

def scale (b : Binary) : Nat × Nat :=
  (Nat.pow 2 (b.exponent - 2).toNat, Nat.pow 2 (2 - b.exponent).toNat)

def leading (b : Binary) : Int :=
  let p := 4 * b.mantissa * b.scale.1
  let q := b.scale.2
  if q ≤ p then ((digits (p / q)).length : Int) - 1
  else -((digits ((q + p - 1) / p - 1)).length : Int)

/-- The better of the two neighbours on the grid of multiples of `10 ^ e` that rounds to `b`, a tie
going to the even one. -/
def neighbour? (b : Binary) (e : Int) : Option Nat :=
  let up := b.scale.1 * Nat.pow 10 (-e).toNat
  let down := b.scale.2 * Nat.pow 10 e.toNat
  let value := 4 * b.mantissa * up
  let low := (4 * b.mantissa - if b.narrowBelow then 1 else 2) * up
  let high := (4 * b.mantissa + 2) * up
  let inside (d : Nat) : Bool :=
    if b.mantissa % 2 = 0 then low ≤ d * down && d * down ≤ high
    else low < d * down && d * down < high
  let d := value / down
  let above := (d + 1) * down - value
  let below := value - d * down
  match 0 < d && inside d, inside (d + 1) with
  | true, true =>
    some (if below < above then d else if above < below then d + 1 else d + d % 2)
  | true, false => some d
  | false, true => some (d + 1)
  | false, false => none

/-- The first hit on the grids of `n`, `n + 1`, … digits, `fuel` of them. -/
def search (b : Binary) : Nat → Nat → Option Decimal
  | 0, _ => none
  | fuel + 1, n =>
    let e := b.leading - n + 1
    match b.neighbour? e with
    | some d => some ⟨d, e⟩
    | none => search b fuel (n + 1)

end Binary

/-- The same number without zeros at the end of its digits. -/
def Decimal.strip : Nat → Decimal → Decimal
  | 0, d => d
  | fuel + 1, d =>
    if d.digits % 10 = 0 then strip fuel ⟨d.digits / 10, d.exponent + 1⟩ else d

/-- The shortest decimal of a number; seventeen digits always suffice for a double. -/
def Binary.shortest (b : Binary) : Decimal :=
  ((b.search 17 1).getD ⟨b.mantissa, 0⟩).strip 17

end PickupGame.Numeral
