/-!
# UTF-8

Characters as bytes and back. Reading is either strict, failing at the first ill-formed sequence,
or lossy, putting U+FFFD for each longest start of a sequence that cannot be completed.
-/

namespace PickupGame.Text

def utf8 (cs : List Char) : List UInt8 :=
  cs.flatMap String.utf8EncodeChar

@[simp] theorem utf8_nil : utf8 [] = [] := rfl

@[simp] theorem utf8_cons (c : Char) (cs : List Char) :
    utf8 (c :: cs) = String.utf8EncodeChar c ++ utf8 cs := rfl

@[simp] theorem utf8_append (cs ds : List Char) : utf8 (cs ++ ds) = utf8 cs ++ utf8 ds := by
  simp [utf8]

def byteLength (cs : List Char) : Nat :=
  cs.foldl (fun n c => n + c.utf8Size) 0

namespace Utf8

/-- What the first byte of a sequence calls for: the bits it contributes, the range of the byte
after it, and how many further bytes follow that one. -/
structure Lead where
  bits : Nat
  low : UInt8
  high : UInt8
  more : Nat

/-- The multi-byte sequences; overlong forms, surrogates and values past U+10FFFF are shut out by
the range of the second byte. -/
def lead? (b : UInt8) : Option Lead :=
  let n := b.toNat
  if 0xC2 ≤ n ∧ n ≤ 0xDF then some ⟨n - 0xC0, 0x80, 0xBF, 0⟩
  else if n = 0xE0 then some ⟨0, 0xA0, 0xBF, 1⟩
  else if n = 0xED then some ⟨0xD, 0x80, 0x9F, 1⟩
  else if 0xE1 ≤ n ∧ n ≤ 0xEF then some ⟨n - 0xE0, 0x80, 0xBF, 1⟩
  else if n = 0xF0 then some ⟨0, 0x90, 0xBF, 2⟩
  else if 0xF1 ≤ n ∧ n ≤ 0xF3 then some ⟨n - 0xF0, 0x80, 0xBF, 2⟩
  else if n = 0xF4 then some ⟨4, 0x80, 0x8F, 2⟩
  else none

/-- Reads `more` plain continuation bytes onto `acc`; without them, what is left. -/
def tail (acc : Nat) : Nat → List UInt8 → Option Char × List UInt8
  | 0, bs => (some (Char.ofNat acc), bs)
  | _ + 1, [] => (none, [])
  | more + 1, b :: bs =>
    if 0x80 ≤ b ∧ b ≤ 0xBF then tail (acc * 64 + (b.toNat - 0x80)) more bs else (none, b :: bs)

/-- The first character of a non-empty sequence, or none for an ill-formed start, and the rest. -/
def next (b : UInt8) (bs : List UInt8) : Option Char × List UInt8 :=
  if b < 0x80 then (some (Char.ofNat b.toNat), bs)
  else match lead? b, bs with
    | some l, c :: cs =>
      if l.low ≤ c ∧ c ≤ l.high then tail (l.bits * 64 + (c.toNat - 0x80)) l.more cs
      else (none, bs)
    | _, _ => (none, bs)

theorem length_tail_le (acc more : Nat) (bs : List UInt8) :
    (tail acc more bs).2.length ≤ bs.length := by
  induction more generalizing acc bs with
  | zero => simp [tail]
  | succ more ih =>
    cases bs with
    | nil => simp [tail]
    | cons b bs =>
      unfold tail
      split
      · exact Nat.le_succ_of_le (ih _ bs)
      · simp

theorem length_next_le (b : UInt8) (bs : List UInt8) : (next b bs).2.length ≤ bs.length := by
  unfold next
  split
  · exact Nat.le_refl _
  · split
    · split
      · exact Nat.le_succ_of_le (length_tail_le _ _ _)
      · exact Nat.le_refl _
    · exact Nat.le_refl _

/-- The characters of a byte sequence, none standing for each ill-formed piece. -/
def pieces : List UInt8 → List (Option Char)
  | [] => []
  | b :: bs => (next b bs).1 :: pieces (next b bs).2
  termination_by bs => bs.length
  decreasing_by exact Nat.lt_succ_of_le (length_next_le b bs)

end Utf8

/-- The text of a byte sequence, if it is well formed. -/
def ofUtf8? (bs : List UInt8) : Option (List Char) :=
  (Utf8.pieces bs).mapM id

/-- The text of any byte sequence, with U+FFFD for each ill-formed piece. -/
def ofUtf8Lossy (bs : List UInt8) : List Char :=
  (Utf8.pieces bs).map (·.getD '\uFFFD')

end PickupGame.Text
