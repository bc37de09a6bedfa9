import Mathlib.Tactic.IntervalCases
import PickupGame.Json.Reader
import PickupGame.Json.Writer
import PickupGame.Proofs.Numeral.Decimal

/-!
# Reading back strings and integers

A string is read from its quoted form, and an integer of 64 bits from its digits as long as nothing
follows that would go on the number.
-/

namespace PickupGame.Json

open PickupGame.Numeral (digits digit? maxU64)

/-! ## Strings -/

/-- What stands behind a backslash for a character. -/
def Escapes (t : List Char) (c : Char) : Prop :=
  ∀ rest, escape (t ++ rest) = .ok (c, rest)

theorem exists_escapes_of_lt {c : Char} (h : c.toNat < 0x20) :
    ∃ t, escaped c = '\\' :: t ∧ Escapes t c := by
  obtain ⟨n, hn, rfl⟩ : ∃ n, n < 0x20 ∧ Char.ofNat n = c := ⟨c.toNat, h, Char.ofNat_toNat c⟩
  interval_cases n <;> exact ⟨_, rfl, fun _ => rfl⟩

/-- A character is written as an escape of it or stands for itself. -/
theorem escaped_cases (c : Char) :
    (∃ t, escaped c = '\\' :: t ∧ Escapes t c) ∨
      (escaped c = [c] ∧ c ≠ '"' ∧ c ≠ '\\' ∧ ¬ c.toNat < 0x20) := by
  by_cases hcontrol : c.toNat < 0x20
  · exact .inl (exists_escapes_of_lt hcontrol)
  by_cases hquote : c = '"'
  · subst hquote
    exact .inl ⟨_, rfl, fun _ => rfl⟩
  by_cases hback : c = '\\'
  · subst hback
    exact .inl ⟨_, rfl, fun _ => rfl⟩
  refine .inr ⟨?_, hquote, hback, hcontrol⟩
  have hlow : ¬ c.toNat < 0x10 := fun h => hcontrol (by omega)
  have hne {d : Char} (hd : d.toNat < 0x20) : c ≠ d := by
    rintro rfl
    exact hcontrol hd
  unfold escaped
  rw [if_neg hquote, if_neg hback, if_neg (hne (by decide)), if_neg (hne (by decide)),
    if_neg (hne (by decide)), if_neg (hne (by decide)), if_neg (hne (by decide)), if_neg hlow,
    if_neg hcontrol]

/-- The characters of a string are read up to the quote that closes it. -/
theorem characters_escaped (cs rest : List Char) {fuel : Nat} (acc : List Char)
    (h : (cs.flatMap escaped).length < fuel) :
    characters fuel acc (cs.flatMap escaped ++ '"' :: rest) = .ok (acc.reverse ++ cs, rest) := by
  induction cs generalizing fuel acc with
  | nil =>
    obtain ⟨fuel, rfl⟩ := Nat.exists_eq_add_one_of_ne_zero (Nat.ne_zero_of_lt h)
    simp [characters]
  | cons c cs ih =>
    obtain ⟨fuel, rfl⟩ := Nat.exists_eq_add_one_of_ne_zero (Nat.ne_zero_of_lt h)
    rw [List.flatMap_cons, List.length_append] at h
    rw [List.flatMap_cons, List.append_assoc]
    rcases escaped_cases c with ⟨t, he, ht⟩ | ⟨he, hquote, hback, hcontrol⟩
    · rw [he, List.length_cons] at h
      have hback : '\\' ≠ '"' := by decide
      simp only [he, List.cons_append, characters, if_neg hback, if_true, ht _]
      have hnext := @ih fuel (c :: acc) (by omega)
      rwa [List.reverse_cons, List.append_assoc] at hnext
    · rw [he, List.length_singleton] at h
      rw [he, List.singleton_append, characters, if_neg hquote, if_neg hback, if_neg hcontrol]
      have hnext := @ih fuel (c :: acc) (by omega)
      rwa [List.reverse_cons, List.append_assoc] at hnext

theorem quoted_append (s : String) (rest : List Char) :
    quoted s ++ rest = '"' :: (s.toList.flatMap escaped ++ '"' :: rest) := by
  simp [quoted]

theorem string_escaped (s : String) (rest : List Char) :
    string (s.toList.flatMap escaped ++ '"' :: rest) = .ok (s, rest) := by
  have hlength : (s.toList.flatMap escaped).length <
      (s.toList.flatMap escaped ++ '"' :: rest).length := by
    simp
  rw [string, characters_escaped s.toList rest [] hlength]
  simp

/-! ## Integers -/

/-- What may stand behind a whole number without going on it. -/
def NumberEnds (rest : List Char) : Prop :=
  ∀ c ∈ rest.head?, isDigit c = false ∧ c ≠ '.' ∧ c ≠ 'e' ∧ c ≠ 'E'

theorem numberEnds_nil : NumberEnds [] := by
  intro c hc
  cases hc

theorem numberEnds_cons {c : Char} {cs : List Char} :
    NumberEnds (c :: cs) ↔ isDigit c = false ∧ c ≠ '.' ∧ c ≠ 'e' ∧ c ≠ 'E' := by
  simp [NumberEnds]

theorem isDigit_of_isDigit {c : Char} (h : c.isDigit = true) : isDigit c = true := by
  rw [isDigit, Numeral.digit?_of_isDigit h]
  rfl

theorem digit?_of_numberEnds {c : Char} {cs : List Char} (h : NumberEnds (c :: cs)) :
    digit? c = none := by
  have hc := (numberEnds_cons.1 h).1
  rwa [isDigit, Option.isSome_eq_false_iff, Option.isNone_iff_eq_none] at hc

section Integers

variable {rest : List Char} (hrest : NumberEnds rest)
include hrest

theorem afterWhole_of_numberEnds (negative : Bool) (s : Nat) :
    afterWhole negative s rest = .ok (whole negative s, rest) := by
  unfold afterWhole
  split
  · exact absurd rfl (numberEnds_cons.1 hrest).2.1
  · exact absurd rfl (numberEnds_cons.1 hrest).2.2.1
  · exact absurd rfl (numberEnds_cons.1 hrest).2.2.2
  · rfl

theorem wholeDigits_append (negative : Bool) {ds : List Char} (hds : ∀ c ∈ ds, c.isDigit = true)
    {s : Nat} (hs : Nat.ofDigitChars 10 ds s ≤ maxU64) :
    wholeDigits negative s (ds ++ rest) =
      .ok (whole negative (Nat.ofDigitChars 10 ds s), rest) := by
  induction ds generalizing s with
  | nil =>
    have hafter := afterWhole_of_numberEnds hrest negative s
    rw [List.nil_append, Nat.ofDigitChars_nil]
    cases rest with
    | nil => exact hafter
    | cons c cs => rwa [wholeDigits, digit?_of_numberEnds hrest]
  | cons c ds ih =>
    have hc := Numeral.digit?_of_isDigit (hds c List.mem_cons_self)
    rw [Nat.ofDigitChars_cons, Nat.mul_comm] at hs ⊢
    have hle : s * 10 + (c.toNat - '0'.toNat) ≤ maxU64 := (Numeral.le_ofDigitChars ds _).trans hs
    rw [List.cons_append, wholeDigits, hc]
    simp only [if_pos hle]
    exact ih (fun d hd => hds d (List.mem_cons_of_mem c hd)) hs

omit hrest in
/-- No digit may stand behind a leading zero. -/
theorem number_zero_cons (negative : Bool) (c : Char) (cs : List Char) :
    number negative ('0' :: c :: cs) =
      if isDigit c then failOn .invalidNumber (c :: cs) else afterWhole negative 0 (c :: cs) :=
  rfl

theorem number_zero (negative : Bool) :
    number negative ('0' :: rest) = .ok (whole negative 0, rest) := by
  have hafter := afterWhole_of_numberEnds hrest negative 0
  cases rest with
  | nil => exact hafter
  | cons d rest =>
    rwa [number_zero_cons, (numberEnds_cons.1 hrest).1, if_neg Bool.false_ne_true]

omit hrest in
theorem number_of_ne_zero (negative : Bool) {c : Char} (hc : c.isDigit = true) (hzero : c ≠ '0')
    (cs : List Char) :
    number negative (c :: cs) = wholeDigits negative (c.toNat - '0'.toNat) cs := by
  have hdigit := Numeral.digit?_of_isDigit hc
  have hpos : c.toNat - '0'.toNat ≠ 0 := by
    simp only [Char.isDigit, Bool.and_eq_true, decide_eq_true_eq, ge_iff_le] at hc
    have hlow : '0'.toNat ≤ c.toNat := hc.1
    intro h
    exact hzero (Char.toNat_inj.1 (by omega))
  obtain ⟨d, hd⟩ := Nat.exists_eq_add_one_of_ne_zero hpos
  rw [hd] at hdigit ⊢
  simp only [number, hdigit]

theorem number_digits (negative : Bool) {n : Nat} (hn : n ≤ maxU64) :
    number negative (digits n ++ rest) = .ok (whole negative n, rest) := by
  have hvalue : Nat.ofDigitChars 10 (digits n) 0 = n := Nat.ofDigitChars_ten_toDigits
  have hdigits : ∀ c ∈ digits n, c.isDigit = true := fun c hc => Numeral.isDigit_of_mem_digits hc
  obtain ⟨c, ds, hd, hc⟩ := Numeral.exists_digits_eq_cons n
  rw [hd] at hvalue hdigits ⊢
  by_cases hzero : c = '0'
  · subst hzero
    cases ds with
    | nil =>
      obtain rfl : 0 = n := hvalue
      exact number_zero hrest negative
    | cons d ds => exact absurd hd (Numeral.digits_ne_zero_cons n d ds)
  · rw [Nat.ofDigitChars_cons, Nat.mul_zero, Nat.zero_add] at hvalue
    have hds : ∀ d ∈ ds, d.isDigit = true := fun d hd => hdigits d (List.mem_cons_of_mem c hd)
    have htail := wholeDigits_append hrest negative hds (hvalue.trans_le hn)
    rw [List.cons_append, number_of_ne_zero negative hc hzero, htail, hvalue]

end Integers

/-! ## Values -/

theorem skipSpace_cons {c : Char} (h : isSpace c = false) (cs : List Char) :
    skipSpace (c :: cs) = c :: cs := by
  rw [skipSpace, List.dropWhile_cons, h]
  rfl

theorem isSpace_of_isDigit {c : Char} (h : c.isDigit = true) : isSpace c = false := by
  have hne {d : Char} (hd : d.isDigit = false) : c ≠ d := Numeral.ne_of_isDigit h hd
  simp [isSpace, hne]

theorem value_quoted (levels : Nat) (s : String) (rest : List Char) :
    value levels (quoted s ++ rest) = .ok (.string s, rest) := by
  have hread := string_escaped s rest
  rw [quoted_append]
  unfold value
  rw [skipSpace_cons rfl]
  simp only [hread]
  rfl

theorem value_of_isDigit (levels : Nat) {c : Char} (hc : c.isDigit = true) (cs : List Char) :
    value levels (c :: cs) = number false (c :: cs) := by
  unfold value
  rw [skipSpace_cons (isSpace_of_isDigit hc)]
  split
  case h_1 h => cases h
  case h_9 h =>
    cases h
    rw [isDigit_of_isDigit hc, if_pos rfl]
  all_goals
    rename_i h
    exact absurd (List.cons.inj h).1 (Numeral.ne_of_isDigit hc rfl)

/-- An integer of 64 bits is read back from its text. -/
theorem value_integerText (levels : Nat) {n : Int} (low : -0x8000000000000000 ≤ n)
    (high : n < 0x10000000000000000) {rest : List Char} (hrest : NumberEnds rest) :
    value levels (integerText n ++ rest) = .ok (.number (.integer n low high), rest) := by
  cases n with
  | ofNat n =>
    have hn : n < 0x10000000000000000 := by simpa using high
    have hread := number_digits hrest false (Nat.le_of_lt_succ hn)
    rw [whole, if_neg Bool.false_ne_true, dif_pos hn] at hread
    rw [integerText]
    obtain ⟨c, ds, hd, hc⟩ := Numeral.exists_digits_eq_cons n
    rw [hd] at hread ⊢
    exact (value_of_isDigit levels hc _).trans hread
  | negSucc n =>
    have hn : n + 1 ≤ 0x8000000000000000 := by
      rw [Int.negSucc_eq] at low
      omega
    have hmax : n + 1 ≤ maxU64 := hn.trans (by decide)
    have hread := number_digits hrest true hmax
    rw [whole, if_pos rfl, dif_pos ⟨Nat.le_add_left 1 n, hn⟩] at hread
    have hvalue : value levels ('-' :: (digits (n + 1) ++ rest)) =
        number true (digits (n + 1) ++ rest) := by
      rw [value]
      rfl
    exact hvalue.trans hread

end PickupGame.Json
