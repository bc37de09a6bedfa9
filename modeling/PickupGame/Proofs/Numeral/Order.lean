import Mathlib.Algebra.Group.Nat.Defs
import Mathlib.Order.Monotone.Basic
import PickupGame.Proofs.Numeral.Decimal

/-!
# Numbers in parts

A number may be written as several parts, the weightiest first. Such numbers compare as their first
parts that differ do; so do digits of one length, and texts that begin with them.
-/

namespace PickupGame.Numeral

/-- Sums of what lies before a part and of a rest that does not reach to the next one compare as the
pairs of part and rest do. -/
theorem add_lt_add_iff {f : Nat → Nat} (hf : Monotone f) {a b r s : Nat} (hr : f a + r < f (a + 1))
    (hs : f b + s < f (b + 1)) : f a + r < f b + s ↔ a < b ∨ a = b ∧ r < s := by
  rcases Nat.lt_trichotomy a b with hab | rfl | hba
  · have hle : f (a + 1) ≤ f b := hf hab
    simp only [hab, true_or, iff_true]
    omega
  · simp
  · have hle : f (b + 1) ≤ f a := hf hba
    simp only [hba.not_gt, hba.ne', false_and, or_self, iff_false]
    omega

theorem add_eq_add_iff {f : Nat → Nat} (hf : Monotone f) {a b r s : Nat} (hr : f a + r < f (a + 1))
    (hs : f b + s < f (b + 1)) : f a + r = f b + s ↔ a = b ∧ r = s := by
  have hlt := add_lt_add_iff hf hr hs
  have hgt := add_lt_add_iff hf hs hr
  omega

/-! ## Digits -/

/-- The value of digits. -/
def value (cs : List Char) : Nat :=
  Nat.ofDigitChars 10 cs 0

theorem value_cons (c : Char) (cs : List Char) :
    value (c :: cs) = 10 ^ cs.length * (c.toNat - '0'.toNat) + value cs := by
  rw [value, Nat.ofDigitChars_cons, Nat.ofDigitChars_eq_ofDigitChars_zero, Nat.mul_zero,
    Nat.zero_add, value]

theorem value_lt {cs : List Char} (h : ∀ c ∈ cs, c.isDigit = true) : value cs < 10 ^ cs.length := by
  induction cs with
  | nil => exact Nat.one_pos
  | cons c cs ih =>
    have hc := (digits_of_isDigit (h c List.mem_cons_self)).2
    have ih := ih fun d hd => h d (List.mem_cons_of_mem c hd)
    rw [value_cons, List.length_cons, Nat.pow_succ]
    calc 10 ^ cs.length * (c.toNat - '0'.toNat) + value cs
        < 10 ^ cs.length * (c.toNat - '0'.toNat) + 10 ^ cs.length := Nat.add_lt_add_left ih _
      _ = 10 ^ cs.length * (c.toNat - '0'.toNat + 1) := (Nat.mul_succ _ _).symm
      _ ≤ 10 ^ cs.length * 10 := Nat.mul_le_mul_left _ hc

theorem zero_le_of_isDigit {c : Char} (h : c.isDigit = true) : '0'.toNat ≤ c.toNat := by
  simp only [Char.isDigit, Bool.and_eq_true, decide_eq_true_eq, ge_iff_le] at h
  exact h.1

theorem char_lt_iff {c d : Char} (hc : c.isDigit = true) :
    c < d ↔ c.toNat - '0'.toNat < d.toNat - '0'.toNat := by
  have hc := zero_le_of_isDigit hc
  have hlt : c < d ↔ c.toNat < d.toNat := Iff.rfl
  rw [hlt, Nat.sub_lt_sub_iff_right hc]

theorem char_eq_iff {c d : Char} (hc : c.isDigit = true) (hd : d.isDigit = true) :
    c = d ↔ c.toNat - '0'.toNat = d.toNat - '0'.toNat := by
  rw [← Char.toNat_inj]
  constructor
  · exact fun h => h ▸ rfl
  · intro h
    rw [← Nat.sub_add_cancel (zero_le_of_isDigit hc), h, Nat.sub_add_cancel (zero_le_of_isDigit hd)]

theorem append_lt_append_iff {as bs xs ys : List Char} (ha : ∀ c ∈ as, c.isDigit = true)
    (hb : ∀ c ∈ bs, c.isDigit = true) (hlength : as.length = bs.length) :
    as ++ xs < bs ++ ys ↔ value as < value bs ∨ value as = value bs ∧ xs < ys := by
  induction as generalizing bs with
  | nil =>
    obtain rfl := List.eq_nil_of_length_eq_zero hlength.symm
    simp
  | cons a as ih =>
    cases bs with
    | nil => cases hlength
    | cons b bs =>
      have hlength : as.length = bs.length := Nat.succ.inj hlength
      have ha' : ∀ c ∈ as, c.isDigit = true := fun c hc => ha c (List.mem_cons_of_mem a hc)
      have hb' : ∀ c ∈ bs, c.isDigit = true := fun c hc => hb c (List.mem_cons_of_mem b hc)
      have hmono : Monotone (10 ^ as.length * ·) := fun m n h => Nat.mul_le_mul_left _ h
      have hrest := Nat.add_lt_add_left (value_lt ha')
      have hrest' := Nat.add_lt_add_left (hlength ▸ value_lt hb')
      rw [List.cons_append, List.cons_append, List.cons_lt_cons_iff, ih ha' hb' hlength,
        value_cons, value_cons, ← hlength, add_lt_add_iff hmono (hrest _) (hrest' _),
        add_eq_add_iff hmono (hrest _) (hrest' _), char_lt_iff (ha a List.mem_cons_self),
        char_eq_iff (ha a List.mem_cons_self) (hb b List.mem_cons_self)]
      simp only [and_or_left, or_assoc, and_assoc]

/-! ## Numbers filled up with zeros -/

theorem length_padded {w n : Nat} (hw : 0 < w) (h : n < 10 ^ w) : (padded w n).length = w := by
  have hle : (digits n).length ≤ w := (Nat.length_toDigits_le_iff (by decide) hw).2 h
  rw [padded, List.length_append, List.length_replicate, Nat.sub_add_cancel hle]

theorem isDigit_of_mem_padded {w n : Nat} {c : Char} (h : c ∈ padded w n) : c.isDigit = true := by
  rcases List.mem_append.1 h with h | h
  · rw [List.eq_of_mem_replicate h]
    rfl
  · exact isDigit_of_mem_digits h

theorem value_padded (w n : Nat) : value (padded w n) = n := by
  rw [value, padded, Nat.ofDigitChars_append, Nat.ofDigitChars_replicate_zero, Nat.mul_zero, digits,
    Nat.ofDigitChars_ten_toDigits]

/-- Numbers filled up to one width compare as themselves. -/
theorem padded_append_lt_iff {w m n : Nat} (hw : 0 < w) (hm : m < 10 ^ w) (hn : n < 10 ^ w)
    {xs ys : List Char} : padded w m ++ xs < padded w n ++ ys ↔ m < n ∨ m = n ∧ xs < ys := by
  rw [append_lt_append_iff (fun _ => isDigit_of_mem_padded) (fun _ => isDigit_of_mem_padded)
    ((length_padded hw hm).trans (length_padded hw hn).symm), value_padded, value_padded]

end PickupGame.Numeral
