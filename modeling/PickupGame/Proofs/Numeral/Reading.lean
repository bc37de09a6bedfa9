import PickupGame.Proofs.Numeral.Decimal

/-!
# Numbers that are read

A number is read off digits that may stand behind a plus sign, whatever zeros they begin with. What
is wrong with another text is decided from the left: by the first character that is no digit or by
the first digit that leads past the limit, whichever comes first.
-/

namespace PickupGame.Numeral

/-! ## Runs of digits -/

section Digits

variable {limit acc : Nat} {fault : Fault} {c : Char} {cs : List Char}

theorem readDigits_cons (h : c.isDigit = true) (cs : List Char) :
    readDigits limit fault acc (c :: cs) =
      if 10 * acc + (c.toNat - '0'.toNat) ≤ limit then
        readDigits limit fault (10 * acc + (c.toNat - '0'.toNat)) cs
      else .error fault := by
  simp only [readDigits, digit?_of_isDigit h, Nat.mul_comm acc 10]

theorem readDigits_cons_of_not_isDigit (h : c.isDigit = false) (cs : List Char) :
    readDigits limit fault acc (c :: cs) = .error .invalidDigit := by
  simp only [readDigits, digit?_of_not_isDigit h]

theorem isDigit_of_readDigits {n : Nat} (h : readDigits limit fault acc cs = .ok n) :
    (∀ c ∈ cs, c.isDigit = true) ∧ Nat.ofDigitChars 10 cs acc = n := by
  induction cs generalizing acc with
  | nil => exact ⟨nofun, Except.ok.inj h⟩
  | cons c cs ih =>
    cases hc : c.isDigit with
    | false =>
      rw [readDigits_cons_of_not_isDigit hc] at h
      cases h
    | true =>
      rw [readDigits_cons hc] at h
      split at h
      · obtain ⟨hcs, hvalue⟩ := ih h
        exact ⟨List.forall_mem_cons.2 ⟨hc, hcs⟩, Nat.ofDigitChars_cons ▸ hvalue⟩
      · cases h

/-- Digits are read to their end just if there is nothing else and their value keeps to the limit. -/
theorem readDigits_eq_ok {n : Nat} (hacc : acc ≤ limit) :
    readDigits limit fault acc cs = .ok n ↔
      ((∀ c ∈ cs, c.isDigit = true) ∧ Nat.ofDigitChars 10 cs acc = n) ∧ n ≤ limit := by
  constructor
  · exact fun h => ⟨isDigit_of_readDigits h, le_of_readDigits hacc h⟩
  · rintro ⟨⟨hcs, rfl⟩, hle⟩
    exact readDigits_of_isDigit fault hcs hle

/-- The limit is passed just if digits in front lead past it, whatever stands behind them. -/
theorem readDigits_eq_fault (hfault : fault ≠ .invalidDigit) (hacc : acc ≤ limit) :
    readDigits limit fault acc cs = .error fault ↔
      ∃ ds, ds <+: cs ∧ (∀ c ∈ ds, c.isDigit = true) ∧ limit < Nat.ofDigitChars 10 ds acc := by
  induction cs generalizing acc with
  | nil =>
    constructor
    · nofun
    · rintro ⟨ds, hds, -, hlt⟩
      rw [List.prefix_nil.1 hds, Nat.ofDigitChars_nil] at hlt
      omega
  | cons c cs ih =>
    -- Digits in front of the text that lead past the limit are not none, so they begin as it does.
    have hcons : (∃ ds, ds <+: c :: cs ∧ (∀ d ∈ ds, d.isDigit = true) ∧
        limit < Nat.ofDigitChars 10 ds acc) ↔
        c.isDigit = true ∧ ∃ ds, ds <+: cs ∧ (∀ d ∈ ds, d.isDigit = true) ∧
          limit < Nat.ofDigitChars 10 ds (10 * acc + (c.toNat - '0'.toNat)) := by
      constructor
      · rintro ⟨ds, hds, hdigits, hlt⟩
        rcases List.prefix_cons_iff.1 hds with rfl | ⟨es, rfl, hes⟩
        · rw [Nat.ofDigitChars_nil] at hlt
          omega
        · rw [Nat.ofDigitChars_cons] at hlt
          exact ⟨hdigits c List.mem_cons_self, es, hes,
            fun d hd => hdigits d (List.mem_cons_of_mem c hd), hlt⟩
      · rintro ⟨hc, ds, hds, hdigits, hlt⟩
        refine ⟨c :: ds, List.cons_prefix_cons.2 ⟨rfl, hds⟩,
          List.forall_mem_cons.2 ⟨hc, hdigits⟩, ?_⟩
        rwa [Nat.ofDigitChars_cons]
    rw [hcons]
    cases hc : c.isDigit with
    | false => simp [readDigits_cons_of_not_isDigit hc, Ne.symm hfault]
    | true =>
      rw [readDigits_cons hc]
      split
      · rename_i hle
        rw [ih hle]
        simp
      · rename_i hlt
        simp only [true_and, true_iff]
        exact ⟨[], List.nil_prefix, nofun, Nat.not_le.1 hlt⟩

theorem readDigits_cases (limit : Nat) (fault : Fault) (acc : Nat) (cs : List Char) :
    (∃ n, readDigits limit fault acc cs = .ok n) ∨
      readDigits limit fault acc cs = .error fault ∨
      readDigits limit fault acc cs = .error .invalidDigit := by
  induction cs generalizing acc with
  | nil => exact .inl ⟨acc, rfl⟩
  | cons c cs ih =>
    cases hc : c.isDigit with
    | false => exact .inr (.inr (readDigits_cons_of_not_isDigit hc cs))
    | true =>
      rw [readDigits_cons hc]
      split
      · exact ih _
      · exact .inr (.inl rfl)

end Digits

/-! ## Digits behind a sign -/

/-- Digits for a number, perhaps behind a plus sign. Zeros may stand in front. -/
def Spells (cs : List Char) (n : Nat) : Prop :=
  ∃ ds, (cs = ds ∨ cs = '+' :: ds) ∧ ds ≠ [] ∧ (∀ c ∈ ds, c.isDigit = true) ∧
    Nat.ofDigitChars 10 ds 0 = n

/-- A text without the plus sign that it may begin with. -/
def unsigned : List Char → List Char
  | '+' :: cs => cs
  | cs => cs

theorem unsigned_cons_of_ne {c : Char} (h : c ≠ '+') (cs : List Char) :
    unsigned (c :: cs) = c :: cs := by
  unfold unsigned
  split
  · rename_i heq
    exact absurd (List.cons.inj heq).1 h
  · rfl

theorem unsigned_append_of_isDigit {ds : List Char} (hne : ds ≠ [])
    (hds : ∀ c ∈ ds, c.isDigit = true) (back : List Char) : unsigned (ds ++ back) = ds ++ back := by
  obtain ⟨d, es, rfl⟩ := List.exists_cons_of_ne_nil hne
  exact unsigned_cons_of_ne (ne_of_isDigit (hds d List.mem_cons_self) rfl) (es ++ back)

theorem eq_unsigned (cs : List Char) : cs = unsigned cs ∨ cs = '+' :: unsigned cs := by
  unfold unsigned
  split
  · exact .inr rfl
  · exact .inl rfl

/-- What is spelled in front of a text are digits in front of the text without its sign. -/
theorem exists_spells_prefix_iff {cs : List Char} {p : Nat → Prop} :
    (∃ front n, front <+: cs ∧ Spells front n ∧ p n) ↔
      ∃ ds, ds <+: unsigned cs ∧ ds ≠ [] ∧ (∀ c ∈ ds, c.isDigit = true) ∧
        p (Nat.ofDigitChars 10 ds 0) := by
  constructor
  · rintro ⟨front, n, ⟨back, rfl⟩, ⟨ds, hds, hne, hdigits, rfl⟩, hp⟩
    refine ⟨ds, ?_, hne, hdigits, hp⟩
    rcases hds with rfl | rfl
    · rw [unsigned_append_of_isDigit hne hdigits]
      exact List.prefix_append front back
    · exact List.prefix_append ds back
  · rintro ⟨ds, hds, hne, hdigits, hp⟩
    rcases eq_unsigned cs with heq | heq
    · rw [← heq] at hds
      exact ⟨ds, _, hds, ⟨ds, .inl rfl, hne, hdigits, rfl⟩, hp⟩
    · rw [heq]
      exact ⟨'+' :: ds, _, List.cons_prefix_cons.2 ⟨rfl, hds⟩, ⟨ds, .inr rfl, hne, hdigits, rfl⟩, hp⟩

theorem spells_iff {cs : List Char} {n : Nat} :
    Spells cs n ↔ unsigned cs ≠ [] ∧ (∀ c ∈ unsigned cs, c.isDigit = true) ∧
      Nat.ofDigitChars 10 (unsigned cs) 0 = n := by
  constructor
  · rintro ⟨ds, rfl | rfl, hne, hds, hvalue⟩
    · have hself := unsigned_append_of_isDigit hne hds []
      rw [List.append_nil] at hself
      rw [hself]
      exact ⟨hne, hds, hvalue⟩
    · exact ⟨hne, hds, hvalue⟩
  · exact fun h => ⟨unsigned cs, eq_unsigned cs, h⟩

/-! ## Whole numbers -/

theorem readNat_cons_of_ne (limit : Nat) {c : Char} (h : c ≠ '+') (cs : List Char) :
    readNat limit (c :: cs) = readDigits limit .tooLarge 0 (c :: cs) := by
  unfold readNat
  split
  · rename_i heq
    cases heq
  · rename_i heq
    exact absurd (List.cons.inj heq).1 h
  · rename_i heq
    exact absurd (List.cons.inj heq).1 h
  · rfl

/-- A text is empty, or it is a sign alone, or what stands behind its sign is read. -/
theorem readNat_cases (limit : Nat) (cs : List Char) :
    (cs = [] ∧ readNat limit cs = .error .empty) ∨
      (cs ≠ [] ∧ unsigned cs = [] ∧ readNat limit cs = .error .invalidDigit) ∨
      (unsigned cs ≠ [] ∧ readNat limit cs = readDigits limit .tooLarge 0 (unsigned cs)) := by
  cases cs with
  | nil => exact .inl ⟨rfl, rfl⟩
  | cons c cs =>
    by_cases hc : c = '+'
    · subst hc
      cases cs with
      | nil => exact .inr (.inl ⟨List.cons_ne_nil _ _, rfl, rfl⟩)
      | cons d cs => exact .inr (.inr ⟨List.cons_ne_nil _ _, rfl⟩)
    · rw [unsigned_cons_of_ne hc]
      exact .inr (.inr ⟨List.cons_ne_nil _ _, readNat_cons_of_ne limit hc cs⟩)

section Numbers

variable {limit : Nat} {cs : List Char}

theorem readNat_eq_ok {n : Nat} : readNat limit cs = .ok n ↔ Spells cs n ∧ n ≤ limit := by
  rw [spells_iff]
  rcases readNat_cases limit cs with ⟨rfl, h⟩ | ⟨-, hnil, h⟩ | ⟨hne, h⟩
  · simp [h, unsigned]
  · simp [h, hnil]
  · rw [h, readDigits_eq_ok (Nat.zero_le limit)]
    simp only [ne_eq, hne, not_false_eq_true, true_and]

theorem readNat_eq_tooLarge :
    readNat limit cs = .error .tooLarge ↔
      ∃ front n, front <+: cs ∧ Spells front n ∧ limit < n := by
  rw [exists_spells_prefix_iff]
  rcases readNat_cases limit cs with ⟨rfl, h⟩ | ⟨-, hnil, h⟩ | ⟨hne, h⟩
  · simp [h, unsigned]
  · simp [h, hnil]
  · rw [h, readDigits_eq_fault (by decide) (Nat.zero_le limit)]
    constructor
    · rintro ⟨ds, hds, hdigits, hlt⟩
      refine ⟨ds, hds, ?_, hdigits, hlt⟩
      rintro rfl
      exact absurd hlt (Nat.not_lt_zero limit)
    · rintro ⟨ds, hds, -, hdigits, hlt⟩
      exact ⟨ds, hds, hdigits, hlt⟩

theorem readNat_eq_empty : readNat limit cs = .error .empty ↔ cs = [] := by
  rcases readNat_cases limit cs with ⟨rfl, h⟩ | ⟨hcs, -, h⟩ | ⟨hne, h⟩
  · simp [h]
  · simp [h, hcs]
  · have hcs : cs ≠ [] := by
      rintro rfl
      exact hne rfl
    rcases readDigits_cases limit .tooLarge 0 (unsigned cs) with ⟨n, hread⟩ | hread | hread <;>
      simp [h, hread, hcs]

/-- A text that is not empty and spells no number is read up to what is no digit, unless the digits
in front of that are too large. -/
theorem readNat_eq_invalidDigit :
    readNat limit cs = .error .invalidDigit ↔
      cs ≠ [] ∧ (¬ ∃ n, Spells cs n) ∧ ¬ ∃ front n, front <+: cs ∧ Spells front n ∧ limit < n := by
  constructor
  · intro h
    refine ⟨fun hnil => ?_, ?_, fun hlarge => ?_⟩
    · rw [readNat_eq_empty.2 hnil] at h
      cases h
    · rintro ⟨n, hn⟩
      rcases Nat.lt_or_ge limit n with hlt | hle
      · rw [readNat_eq_tooLarge.2 ⟨cs, n, List.prefix_refl cs, hn, hlt⟩] at h
        cases h
      · rw [readNat_eq_ok.2 ⟨hn, hle⟩] at h
        cases h
    · rw [readNat_eq_tooLarge.2 hlarge] at h
      cases h
  · rintro ⟨hcs, hspelled, hlarge⟩
    rcases readNat_cases limit cs with ⟨hnil, -⟩ | ⟨-, -, h⟩ | ⟨-, h⟩
    · exact absurd hnil hcs
    · exact h
    · rcases readDigits_cases limit .tooLarge 0 (unsigned cs) with ⟨n, hread⟩ | hread | hread
      · exact absurd ⟨n, (readNat_eq_ok.1 (h.trans hread)).1⟩ hspelled
      · exact absurd (readNat_eq_tooLarge.1 (h.trans hread)) hlarge
      · exact h.trans hread

end Numbers

end PickupGame.Numeral
