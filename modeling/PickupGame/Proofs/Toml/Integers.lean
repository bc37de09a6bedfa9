import PickupGame.Proofs.Numeral.Decimal
import PickupGame.Toml.Reader

/-!
# Reading back integers

The digits of a number are read as an integer when it fits, and as nothing else: without signs and
colons they are no date and no time.
-/

namespace PickupGame.Toml

open PickupGame.Numeral (digits digit? hexDigit?)

variable {cs : List Char}

theorem isDigit_of_isDigit {c : Char} (h : c.isDigit = true) : isDigit c = true := by
  rw [isDigit, Numeral.digit?_of_isDigit h]
  rfl

/-! ## Digits are no date -/

theorem subset_of_twoDigits {low high n : Nat} {rest : List Char}
    (h : twoDigits low high cs = some (n, rest)) : ∀ c ∈ rest, c ∈ cs := by
  unfold twoDigits at h
  split at h
  · split at h
    · split at h
      · simp only [Option.some.injEq, Prod.mk.injEq] at h
        intro c hc
        simp [h.2, hc]
      · exact absurd h (by simp)
    · exact absurd h (by simp)
  · exact absurd h (by simp)

theorem date?_digits (h : ∀ c ∈ cs, c.isDigit = true) : date? cs = none := by
  unfold date?
  cases hcentury : twoDigits 0 99 cs with
  | none => rfl
  | some p =>
    obtain ⟨century, rest⟩ := p
    cases hyear : twoDigits 0 99 rest with
    | none => simp [hyear]
    | some q =>
      obtain ⟨year, rest'⟩ := q
      have hrest : ∀ c ∈ rest', c.isDigit = true := fun c hc =>
        h c (subset_of_twoDigits hcentury c (subset_of_twoDigits hyear c hc))
      cases rest' with
      | nil => simp [hyear]
      | cons c rest' =>
        have hc : c ≠ '-' := Numeral.ne_of_isDigit (hrest c List.mem_cons_self) rfl
        simp [hyear, hc]

theorem clock?_digits (h : ∀ c ∈ cs, c.isDigit = true) : clock? cs = none := by
  unfold clock?
  cases hhour : twoDigits 0 23 cs with
  | none => rfl
  | some p =>
    obtain ⟨hour, rest⟩ := p
    have hrest : ∀ c ∈ rest, c.isDigit = true := fun c hc => h c (subset_of_twoDigits hhour c hc)
    cases rest with
    | nil => rfl
    | cons c rest =>
      have hc : c ≠ ':' := Numeral.ne_of_isDigit (hrest c List.mem_cons_self) rfl
      simp [hc]

/-! ## Digits are an integer -/

theorem grouped_digits (hne : cs ≠ []) (h : ∀ c ∈ cs, c.isDigit = true) :
    grouped isDigit cs = some cs := by
  induction cs with
  | nil => exact absurd rfl hne
  | cons c cs ih =>
    have hc := isDigit_of_isDigit (h c List.mem_cons_self)
    cases cs with
    | nil => simp [grouped, hc]
    | cons d cs =>
      have hd : d ≠ '_' := Numeral.ne_of_isDigit (h d (by simp)) rfl
      have ih := ih (List.cons_ne_nil d cs) fun x hx => h x (List.mem_cons_of_mem c hx)
      unfold grouped
      split <;> simp_all

theorem foldl_digits (h : ∀ c ∈ cs, c.isDigit = true) (acc : Nat) :
    cs.foldl (fun n c => n * 10 + (hexDigit? c).getD 0) acc = Nat.ofDigitChars 10 cs acc := by
  induction cs generalizing acc with
  | nil => rfl
  | cons c cs ih =>
    have hc := Numeral.hexDigit?_of_isDigit (h c List.mem_cons_self)
    rw [List.foldl_cons, hc, Option.getD_some, Nat.mul_comm, Nat.ofDigitChars_cons,
      ih fun d hd => h d (List.mem_cons_of_mem c hd)]

theorem ofDigits_digits (n : Nat) : ofDigits 10 (digits n) = n := by
  rw [ofDigits, foldl_digits fun c hc => Numeral.isDigit_of_mem_digits hc, digits,
    Nat.ofDigitChars_ten_toDigits]

theorem plainDecimal_digits (n : Nat) : plainDecimal (digits n) = some (digits n) := by
  have hgrouped := grouped_digits (Numeral.digits_ne_nil n) fun c hc =>
    Numeral.isDigit_of_mem_digits hc
  unfold plainDecimal
  split
  · rename_i h
    exact absurd h (Numeral.digits_ne_zero_cons n _ _)
  · exact hgrouped

theorem integer?_digits (n : Nat) : integer? (digits n) = inRange n := by
  have hfirst {c : Char} {ds : List Char} (h : digits n = c :: ds) : c.isDigit = true :=
    Numeral.isDigit_of_mem_digits (h ▸ List.mem_cons_self)
  unfold integer?
  split
  · rename_i h; exact absurd h (Numeral.digits_ne_zero_cons n _ _)
  · rename_i h; exact absurd h (Numeral.digits_ne_zero_cons n _ _)
  · rename_i h; exact absurd h (Numeral.digits_ne_zero_cons n _ _)
  · rename_i h; exact absurd (hfirst h) (by decide)
  · rename_i h; exact absurd (hfirst h) (by decide)
  · rw [plainDecimal_digits, Option.bind_some, ofDigits_digits]

theorem scalar?_digits {n : Nat} (h : n ≤ Numeral.maxI64) :
    scalar? (digits n) = some (.integer n) := by
  have hdigit : ∀ c ∈ digits n, c.isDigit = true := fun c hc => Numeral.isDigit_of_mem_digits hc
  have hne (c : Char) (cs : List Char) (hc : c.isDigit = false) : digits n ≠ c :: cs := fun he =>
    Bool.noConfusion ((hdigit c (he ▸ List.mem_cons_self)).symm.trans hc)
  have htime : isTime (digits n) = false := by
    simp [isTime, date?_digits hdigit, clock?_digits hdigit]
  have hrange : inRange n = some (.integer n) := if_pos (by omega)
  simp [scalar?, hne, htime, integer?_digits, hrange]

theorem readScalar_digits {n : Nat} (h : n ≤ Numeral.maxI64) (rest : List Char) :
    readScalar (digits n ++ '\n' :: rest) = some (.integer n, '\n' :: rest) := by
  have hscalar : ∀ c ∈ digits n, isScalarChar c = true := fun c hc => by
    simp [isScalarChar, Char.isAlphanum, Numeral.isDigit_of_mem_digits hc]
  have hbreak : isScalarChar '\n' = false := rfl
  have htake : (digits n ++ '\n' :: rest).takeWhile isScalarChar = digits n := by
    simp [List.takeWhile_append_of_pos hscalar, hbreak]
  have hdrop : (digits n ++ '\n' :: rest).dropWhile isScalarChar = '\n' :: rest := by
    simp [List.dropWhile_append_of_pos hscalar, hbreak]
  simp only [readScalar, htake, hdrop, scalar?_digits h]
  split
  · rename_i he
    exact absurd (List.cons.inj he).1 (by decide)
  · rfl

theorem value_digits (levels : Nat) {n : Nat} (h : n ≤ Numeral.maxI64) (rest : List Char) :
    value levels (digits n ++ '\n' :: rest) = some (.integer n, '\n' :: rest) := by
  have hread := readScalar_digits h rest
  cases hd : digits n with
  | nil => exact absurd hd (Numeral.digits_ne_nil n)
  | cons c cs =>
    have hc : c.isDigit = true := Numeral.isDigit_of_mem_digits (hd ▸ List.mem_cons_self)
    rw [hd] at hread
    unfold value
    split <;> simp_all

end PickupGame.Toml
