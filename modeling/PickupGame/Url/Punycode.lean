/-!
# Punycode

Labels with characters beyond ASCII as labels of letters, digits and dashes. The ASCII characters
come first, in order, with a dash behind them if there are any; then the other characters by
ascending code point, each as the number of steps from the one before it. Those numbers are written
in digits of base 36 with the lowest digit first; a digit below a threshold is the last one of a
number, and the thresholds follow the size of the numbers written so far.
-/

namespace PickupGame.Url.Punycode

/-- A letter for 0 to 25, an ASCII digit for 26 to 35. -/
def digitChar (d : Nat) : Char :=
  if d < 26 then Char.ofNat (97 + d) else Char.ofNat (22 + d)

def digitValue? (c : Char) : Option Nat :=
  if 'a' ≤ c ∧ c ≤ 'z' then some (c.toNat - 97)
  else if '0' ≤ c ∧ c ≤ '9' then some (c.toNat - 22)
  else none

/-- The threshold of the digit at a position, which goes up in steps of 36. -/
def threshold (position bias : Nat) : Nat :=
  if position ≤ bias then 1 else if bias + 26 ≤ position then 26 else position - bias

theorem threshold_pos (position bias : Nat) : 1 ≤ threshold position bias := by
  unfold threshold
  split
  · exact Nat.le_refl 1
  · split <;> omega

/-- How often `delta` is divided by 35 until it is at most 455, in steps of 36, and what is left. -/
def shrink (delta steps : Nat) : Nat × Nat :=
  if 455 < delta then shrink (delta / 35) (steps + 36) else (delta, steps)
  termination_by delta
  decreasing_by exact Nat.div_lt_self (by omega) (by omega)

/-- The bias after a number, `count` being how many characters there are with its one. -/
def adapt (delta count : Nat) (first : Bool) : Nat :=
  let delta := if first then delta / 700 else delta / 2
  let (rest, steps) := shrink (delta + delta / count) 0
  steps + 36 * rest / (rest + 38)

def numberText (bias position n : Nat) : List Char :=
  let t := threshold position bias
  if n < t then [digitChar n]
  else digitChar (t + (n - t) % (36 - t)) :: numberText bias (position + 36) ((n - t) / (36 - t))
  termination_by n
  decreasing_by
    have := threshold_pos position bias
    exact Nat.lt_of_le_of_lt (Nat.div_le_self _ _) (by omega)

/-- The state of encoding: what has been written, the steps since the last number, the bias, and how
many characters are done. -/
structure Encoder where
  written : List Char
  steps : Nat
  bias : Nat
  done : Nat

/-- Goes past one character of the label while `point` is written. -/
def Encoder.pass (plain point : Nat) (e : Encoder) (c : Char) : Encoder :=
  if c.toNat < point then { e with steps := e.steps + 1 }
  else if c.toNat = point then
    { written := e.written ++ numberText e.bias 36 e.steps
      steps := 0
      bias := adapt e.steps (e.done + 1) (e.done = plain)
      done := e.done + 1 }
  else e

/-- Writes the code points `points`, which ascend from `next` on. -/
def Encoder.run (plain : Nat) (label : List Char) (next : Nat) : List Nat → Encoder → Encoder
  | [], e => e
  | point :: points, e =>
    let e := { e with steps := e.steps + (point - next) * (e.done + 1) }
    let e := label.foldl (Encoder.pass plain point) e
    Encoder.run plain label (point + 1) points { e with steps := e.steps + 1 }

/-- A number put in its place among ascending ones, unless it is there. -/
def insert (n : Nat) : List Nat → List Nat
  | [] => [n]
  | m :: ms => if n < m then n :: m :: ms else if n = m then m :: ms else m :: insert n ms

def isPlain (c : Char) : Bool :=
  c.toNat < 0x80

def encode (label : List Char) : List Char :=
  let plain := label.filter isPlain
  let points := ((label.filter (!isPlain ·)).map Char.toNat).foldr insert []
  let e := Encoder.run plain.length label 0x80 points ⟨[], 0, 72, plain.length⟩
  plain ++ (if plain.isEmpty then [] else ['-']) ++ e.written

/-- Reads a number; `weight` is what the next digit counts. -/
def readNumber (bias : Nat) : List Char → Nat → Nat → Nat → Option (Nat × List Char)
  | [], _, _, _ => none
  | c :: cs, position, weight, n =>
    match digitValue? c with
    | none => none
    | some d =>
      let t := threshold position bias
      if d < t then some (n + d * weight, cs)
      else readNumber bias cs (position + 36) (weight * (36 - t)) (n + d * weight)

theorem length_readNumber {bias : Nat} {cs : List Char} {position weight n m : Nat}
    {rest : List Char} (h : readNumber bias cs position weight n = some (m, rest)) :
    rest.length < cs.length := by
  induction cs generalizing position weight n with
  | nil => simp [readNumber] at h
  | cons c cs ih =>
    unfold readNumber at h
    split at h
    · contradiction
    · simp only at h
      split at h
      · injection h with h
        injection h with _ h
        subst h
        exact Nat.lt_succ_self _
      · exact Nat.lt_succ_of_lt (ih h)

/-- Puts the characters that the digits stand for into `label`, behind `place` steps from `point`. -/
def insertAll (point place bias : Nat) (first : Bool) (label : List Char) (cs : List Char) :
    Option (List Char) :=
  if cs.isEmpty then some label
  else match _read : readNumber bias cs 36 1 0 with
    | none => none
    | some (steps, rest) =>
      let count := label.length + 1
      let point := point + (place + steps) / count
      let place := (place + steps) % count
      if point.isValidChar then
        insertAll point (place + 1) (adapt steps count first) false
          (label.take place ++ Char.ofNat point :: label.drop place) rest
      else none
  termination_by cs.length
  decreasing_by exact length_readNumber ‹_›

def decode? (cs : List Char) : Option (List Char) :=
  if cs.all isPlain then
    let plain := (cs.reverse.dropWhile (· ≠ '-')).tail.reverse
    let digits := if cs.contains '-' then (cs.reverse.takeWhile (· ≠ '-')).reverse else cs
    insertAll 0x80 0 72 true plain digits
  else none

end PickupGame.Url.Punycode
