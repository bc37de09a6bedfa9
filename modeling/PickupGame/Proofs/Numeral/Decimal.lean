import PickupGame.Numeral.Decimal

/-!
# Digits of numbers

The digits of a number are decimal ones, none of them a zero in front of others, and they determine
the number.
-/

namespace PickupGame.Numeral

theorem digits_injective {m n : Nat} (h : digits m = digits n) : m = n := by
  have h := congrArg (Nat.ofDigitChars 10 · 0) h
  simpa only [digits, Nat.ofDigitChars_ten_toDigits] using h

theorem digits_ne_nil (n : Nat) : digits n ≠ [] :=
  Nat.toDigits_ne_nil

theorem ne_of_isDigit {c d : Char} (hc : c.isDigit = true) (hd : d.isDigit = false) : c ≠ d := by
  rintro rfl
  exact Bool.noConfusion (hc.symm.trans hd)

theorem digit?_of_isDigit {c : Char} (h : c.isDigit = true) :
    digit? c = some (c.toNat - '0'.toNat) := by
  simp only [Char.isDigit, Bool.and_eq_true, decide_eq_true_eq, ge_iff_le] at h
  exact if_pos h

theorem digit?_of_not_isDigit {c : Char} (h : c.isDigit = false) : digit? c = none := by
  refine if_neg fun hrange => ?_
  have hdigit : c.isDigit = true := by
    simp only [Char.isDigit, Bool.and_eq_true, decide_eq_true_eq, ge_iff_le]
    exact hrange
  exact Bool.noConfusion (h.symm.trans hdigit)

theorem hexDigit?_of_isDigit {c : Char} (h : c.isDigit = true) :
    hexDigit? c = some (c.toNat - '0'.toNat) := by
  simp only [Char.isDigit, Bool.and_eq_true, decide_eq_true_eq, ge_iff_le] at h
  exact if_pos h

theorem isDigit_of_mem_digits {n : Nat} {c : Char} (h : c ∈ digits n) : c.isDigit = true :=
  Nat.isDigit_of_mem_toDigits (by decide) (by decide) h

theorem exists_digits_eq_cons (n : Nat) : ∃ c cs, digits n = c :: cs ∧ c.isDigit = true := by
  obtain ⟨c, cs, hd⟩ := List.exists_cons_of_ne_nil (digits_ne_nil n)
  exact ⟨c, cs, hd, isDigit_of_mem_digits (hd ▸ List.mem_cons_self)⟩

/-- The first digit of a positive number is no zero. -/
theorem head?_digits {n : Nat} (h : 0 < n) : (digits n).head? ≠ some '0' := by
  induction n using Nat.base_induction 10 (by decide) with
  | single m hm =>
    rw [digits, Nat.toDigits_of_lt_base hm]
    intro h0
    have h0 := congrArg Char.toNat (Option.some.inj h0)
    rw [Nat.toNat_digitChar_of_lt_ten hm] at h0
    have hzero : '0'.toNat = 48 := rfl
    omega
  | digit m k hk hm ih =>
    rw [digits, ← Nat.toDigits_append_toDigits (by decide) hm hk]
    cases hd : Nat.toDigits 10 m with
    | nil => exact absurd hd Nat.toDigits_ne_nil
    | cons c cs =>
      have ih := ih hm
      rw [digits, hd] at ih
      simpa using ih

theorem digits_ne_zero_cons (n : Nat) (c : Char) (cs : List Char) : digits n ≠ '0' :: c :: cs := by
  intro h
  rcases Nat.eq_zero_or_pos n with rfl | hn
  · exact absurd h (by simp [digits, Nat.toDigits_zero])
  · exact head?_digits hn (by rw [h]; rfl)

theorem digits_of_isDigit {c : Char} (h : c.isDigit = true) :
    digits (c.toNat - '0'.toNat) = [c] ∧ c.toNat - '0'.toNat < 10 := by
  simp only [Char.isDigit, Bool.and_eq_true, decide_eq_true_eq, ge_iff_le] at h
  have hlow : 48 ≤ c.toNat := h.1
  have hhigh : c.toNat ≤ 57 := h.2
  have hzero : '0'.toNat = 48 := rfl
  have hlt : c.toNat - '0'.toNat < 10 := by omega
  have hchar : (c.toNat - '0'.toNat).digitChar = c := by
    refine Char.toNat_inj.1 ?_
    rw [Nat.toNat_digitChar_of_lt_ten hlt]
    omega
  rw [digits, Nat.toDigits_of_lt_base hlt, hchar]
  exact ⟨rfl, hlt⟩

/-- Digits put behind those of a positive number stand there. -/
theorem digits_ofDigitChars_of_pos {ds : List Char} (hds : ∀ c ∈ ds, c.isDigit = true) {n : Nat}
    (hn : 0 < n) : digits (Nat.ofDigitChars 10 ds n) = digits n ++ ds := by
  induction ds generalizing n with
  | nil => rw [Nat.ofDigitChars_nil, List.append_nil]
  | cons c ds ih =>
    obtain ⟨hc, hlt⟩ := digits_of_isDigit (hds c List.mem_cons_self)
    have hpush : digits (10 * n + (c.toNat - '0'.toNat)) = digits n ++ [c] := by
      rw [digits, ← Nat.toDigits_append_toDigits (by decide) hn hlt, ← hc]
      rfl
    rw [Nat.ofDigitChars_cons, ih (fun d hd => hds d (List.mem_cons_of_mem c hd)) (by omega), hpush,
      List.append_assoc]
    rfl

/-- Digits without a zero in front of others are those of their value. -/
theorem digits_ofDigitChars {ds : List Char} (hds : ∀ c ∈ ds, c.isDigit = true) (hne : ds ≠ [])
    (hleading : ds.head? = some '0' → ds = ['0']) : digits (Nat.ofDigitChars 10 ds 0) = ds := by
  obtain ⟨c, ds, rfl⟩ := List.exists_cons_of_ne_nil hne
  by_cases hzero : c = '0'
  · subst hzero
    rw [hleading rfl]
    rfl
  · have hc := (digits_of_isDigit (hds c List.mem_cons_self)).1
    have hpos : 0 < c.toNat - '0'.toNat := by
      refine Nat.pos_of_ne_zero fun h => hzero ?_
      rw [h] at hc
      exact (List.cons.inj hc).1.symm
    rw [Nat.ofDigitChars_cons, Nat.mul_zero, Nat.zero_add,
      digits_ofDigitChars_of_pos (fun d hd => hds d (List.mem_cons_of_mem c hd)) hpos, hc]
    rfl

/-- Digits that stand for a number, none of them a zero in front of others. -/
structure IsNumeral (cs : List Char) (n : Nat) : Prop where
  ne_nil : cs ≠ []
  isDigit : ∀ c ∈ cs, c.isDigit = true
  leading : cs.head? = some '0' → cs = ['0']
  value : Nat.ofDigitChars 10 cs 0 = n

theorem isNumeral_digits (n : Nat) : IsNumeral (digits n) n := by
  constructor
  · exact digits_ne_nil n
  · exact fun c hc => isDigit_of_mem_digits hc
  · intro hzero
    obtain ⟨cs, hcs⟩ := List.head?_eq_some_iff.1 hzero
    cases cs with
    | nil => exact hcs
    | cons c cs => exact absurd hcs (digits_ne_zero_cons n c cs)
  · rw [digits, Nat.ofDigitChars_ten_toDigits]

theorem le_ofDigitChars (cs : List Char) (n : Nat) : n ≤ Nat.ofDigitChars 10 cs n := by
  rw [Nat.ofDigitChars_eq_ofDigitChars_zero]
  calc n ≤ 10 ^ cs.length * n := Nat.le_mul_of_pos_left n (Nat.pow_pos (by decide))
    _ ≤ 10 ^ cs.length * n + Nat.ofDigitChars 10 cs 0 := Nat.le_add_right _ _

theorem readDigits_of_isDigit {limit acc : Nat} (fault : Fault) {cs : List Char}
    (hcs : ∀ c ∈ cs, c.isDigit = true) (hle : Nat.ofDigitChars 10 cs acc ≤ limit) :
    readDigits limit fault acc cs = .ok (Nat.ofDigitChars 10 cs acc) := by
  induction cs generalizing acc with
  | nil => rfl
  | cons c cs ih =>
    have hc := digit?_of_isDigit (hcs c List.mem_cons_self)
    rw [Nat.ofDigitChars_cons, Nat.mul_comm] at hle ⊢
    have hstep : acc * 10 + (c.toNat - '0'.toNat) ≤ limit :=
      Nat.le_trans (le_ofDigitChars cs _) hle
    rw [readDigits, hc]
    simp only [if_pos hstep]
    exact ih (fun d hd => hcs d (List.mem_cons_of_mem c hd)) hle

theorem readDigits_digits {limit n : Nat} (h : n ≤ limit) (fault : Fault) :
    readDigits limit fault 0 (digits n) = .ok n := by
  have hvalue : Nat.ofDigitChars 10 (digits n) 0 = n := by
    rw [digits, Nat.ofDigitChars_ten_toDigits]
  rw [readDigits_of_isDigit fault (fun c hc => isDigit_of_mem_digits hc) (by rwa [hvalue]), hvalue]

theorem readNat_digits {limit n : Nat} (h : n ≤ limit) : readNat limit (digits n) = .ok n := by
  obtain ⟨c, cs, hd, hc⟩ := exists_digits_eq_cons n
  have hplus : c ≠ '+' := ne_of_isDigit hc rfl
  have hread : readNat limit (c :: cs) = readDigits limit .tooLarge 0 (c :: cs) := by
    unfold readNat
    split <;> simp_all
  rw [hd, hread, ← hd, readDigits_digits h]

theorem readInt_digits (low : Nat) {high n : Nat} (h : n ≤ high) :
    readInt low high (digits n) = .ok (n : Int) := by
  obtain ⟨c, cs, hd, hc⟩ := exists_digits_eq_cons n
  have hminus : c ≠ '-' := ne_of_isDigit hc rfl
  have hread : readInt low high (c :: cs) = (readNat high (c :: cs)).map fun n => (n : Int) := by
    unfold readInt
    split <;> simp_all
  rw [hd, hread, ← hd, readNat_digits h]
  rfl

/-! ## Numbers that have been read -/

theorem le_of_readDigits {limit acc n : Nat} {fault : Fault} {cs : List Char}
    (hacc : acc ≤ limit) (h : readDigits limit fault acc cs = .ok n) : n ≤ limit := by
  induction cs generalizing acc with
  | nil =>
    cases h
    exact hacc
  | cons c cs ih =>
    unfold readDigits at h
    split at h
    · cases h
    · split at h
      · rename_i hle
        exact ih hle h
      · cases h

theorem le_of_readNat {limit n : Nat} {cs : List Char} (h : readNat limit cs = .ok n) :
    n ≤ limit := by
  unfold readNat at h
  split at h
  · cases h
  · cases h
  · exact le_of_readDigits (Nat.zero_le limit) h
  · exact le_of_readDigits (Nat.zero_le limit) h

end PickupGame.Numeral
