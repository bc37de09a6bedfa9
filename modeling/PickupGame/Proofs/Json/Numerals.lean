import PickupGame.Proofs.Json.Scalars

/-!
# Numerals

A numeral has a sign, whole digits, and perhaps a fraction and an exponent. What the readers of
numbers take from the front of a text is a numeral, and every numeral whose double is not too large
is taken where it ends. The digits that fit a word of 64 bits make its significand; those of a
fraction that no longer fit are dropped, and those of a whole number count as powers of ten.
-/

namespace PickupGame.Json

open PickupGame.Numeral (digits digit? digit?_of_not_isDigit maxU64)

/-! ## Runs of digits -/

/-- The text does not begin with a digit. -/
def NoDigit (rest : List Char) : Prop :=
  ∀ c ∈ rest.head?, c.isDigit = false

theorem isDigit_eq (c : Char) : isDigit c = c.isDigit := by
  cases h : c.isDigit with
  | true => exact isDigit_of_isDigit h
  | false => rw [isDigit, digit?_of_not_isDigit h, Option.isSome_none]

theorem noDigit_nil : NoDigit [] :=
  nofun

theorem noDigit_cons {c : Char} {cs : List Char} : NoDigit (c :: cs) ↔ c.isDigit = false := by
  simp [NoDigit]

theorem NumberEnds.noDigit {rest : List Char} (h : NumberEnds rest) : NoDigit rest := by
  intro c hc
  rw [← isDigit_eq]
  exact (h c hc).1

/-- Every text is a run of digits with something behind it that is none. -/
theorem exists_digits_append (cs : List Char) :
    ∃ ds rest, cs = ds ++ rest ∧ (∀ c ∈ ds, c.isDigit = true) ∧ NoDigit rest := by
  induction cs with
  | nil => exact ⟨[], [], rfl, nofun, noDigit_nil⟩
  | cons c cs ih =>
    cases hc : c.isDigit with
    | false => exact ⟨[], c :: cs, rfl, nofun, noDigit_cons.2 hc⟩
    | true =>
      obtain ⟨ds, rest, rfl, hds, hrest⟩ := ih
      exact ⟨c :: ds, rest, rfl, List.forall_mem_cons.2 ⟨hc, hds⟩, hrest⟩

/-- The value of a digit put behind those of `s`. -/
def pushDigit (s : Nat) (c : Char) : Nat :=
  10 * s + (c.toNat - '0'.toNat)

/-- The digits in front with which a number that began as `s` still fits a word of 64 bits. -/
def fitting (s : Nat) : List Char → List Char
  | [] => []
  | c :: cs => if pushDigit s c ≤ maxU64 then c :: fitting (pushDigit s c) cs else []

theorem fitting_cons_of_le {s : Nat} {c : Char} (h : pushDigit s c ≤ maxU64) (cs : List Char) :
    fitting s (c :: cs) = c :: fitting (pushDigit s c) cs :=
  if_pos h

theorem fitting_cons_of_lt {s : Nat} {c : Char} (h : ¬ pushDigit s c ≤ maxU64) (cs : List Char) :
    fitting s (c :: cs) = [] :=
  if_neg h

theorem fitting_eq_self {s : Nat} {ds : List Char} (h : Nat.ofDigitChars 10 ds s ≤ maxU64) :
    fitting s ds = ds := by
  induction ds generalizing s with
  | nil => rfl
  | cons c ds ih =>
    have h : Nat.ofDigitChars 10 ds (pushDigit s c) ≤ maxU64 := by
      rwa [Nat.ofDigitChars_cons] at h
    rw [fitting_cons_of_le ((Numeral.le_ofDigitChars ds _).trans h), ih h]

/-! ## Exponents -/

/-- The exponent of a numeral, with its mark, its sign and its digits. -/
structure Exponent where
  mark : Char
  sign : List Char
  digits : List Char
  mark_eq : mark = 'e' ∨ mark = 'E'
  sign_eq : sign = [] ∨ sign = ['+'] ∨ sign = ['-']
  isDigit : ∀ c ∈ digits, c.isDigit = true
  nonempty : digits ≠ []

def Exponent.text (ex : Exponent) : List Char :=
  ex.mark :: (ex.sign ++ ex.digits)

/-- The double for a significand and the power `start` of ten, scaled by an exponent besides. One
past `2 ^ 31 - 1` makes it zero or too large. -/
def scaledBy? (size : Nat) (down : Bool) (significand : Nat) (start : Int) : Option Float :=
  if size < 0x80000000 then scaled? significand (if down then start - size else start + size)
  else if significand ≠ 0 ∧ !down then none
  else some 0.0

def Exponent.double? (ex : Exponent) (significand : Nat) (start : Int) : Option Float :=
  scaledBy? (Nat.ofDigitChars 10 ex.digits 0) (ex.sign = ['-']) significand start

/-- From the front of `cs` the reader takes what leaves `rest`, and gives the value if there is one. -/
def Reader.Yields (r : Reader Value) (cs rest : List Char) (v? : Option Value) : Prop :=
  ∀ v rest', r cs = .ok (v, rest') ↔ rest = rest' ∧ v? = some v

theorem yields_fromParts (negative : Bool) (s : Nat) (e : Int) (rest : List Char) :
    (fromParts negative s e).Yields rest rest ((scaled? s e).map (float negative)) := by
  intro v rest'
  unfold fromParts
  cases scaled? s e with
  | none => simp [failAt, failAfter]
  | some x => simp [and_comm]

theorem dropWhile_isDigit_append {ds rest : List Char} (hds : ∀ c ∈ ds, c.isDigit = true)
    (hrest : NoDigit rest) : (ds ++ rest).dropWhile isDigit = rest := by
  rw [List.dropWhile_append_of_pos fun c hc => isDigit_of_isDigit (hds c hc)]
  cases rest with
  | nil => rfl
  | cons c cs =>
    rw [List.dropWhile_cons, isDigit_eq, noDigit_cons.1 hrest, if_neg Bool.false_ne_true]

theorem yields_exponentDigits {ds rest : List Char} (hds : ∀ c ∈ ds, c.isDigit = true)
    (hrest : NoDigit rest) (negative : Bool) (s : Nat) (start : Int) (down : Bool) {e : Nat}
    (he : e < 0x80000000) :
    (exponentDigits negative s start down e).Yields (ds ++ rest) rest
      ((scaledBy? (Nat.ofDigitChars 10 ds e) down s start).map (float negative)) := by
  induction ds generalizing e with
  | nil =>
    have hparts := yields_fromParts negative s (if down then start - e else start + e) rest
    rw [Nat.ofDigitChars_nil, scaledBy?, if_pos he, List.nil_append]
    cases rest with
    | nil => exact hparts
    | cons c cs =>
      intro v rest'
      rw [exponentDigits, digit?_of_not_isDigit (noDigit_cons.1 hrest)]
      exact hparts v rest'
  | cons c ds ih =>
    obtain ⟨hc, hds⟩ := List.forall_mem_cons.1 hds
    intro v rest'
    rw [List.cons_append, exponentDigits, Numeral.digit?_of_isDigit hc, Nat.ofDigitChars_cons,
      Nat.mul_comm 10]
    simp only
    split
    · rename_i hlt
      exact ih hds hlt v rest'
    · rename_i hge
      -- Once the exponent is too large, no digit behind it makes it smaller.
      have hlarge := (not_lt.1 hge).trans (Numeral.le_ofDigitChars ds _)
      rw [scaledBy?, if_neg (not_lt.2 hlarge), dropWhile_isDigit_append hds hrest]
      split
      · simp [failAt, failAfter]
      · simp [and_comm]

theorem ofDigitChars_cons_zero (c : Char) (ds : List Char) :
    Nat.ofDigitChars 10 (c :: ds) 0 = Nat.ofDigitChars 10 ds (c.toNat - '0'.toNat) := by
  rw [Nat.ofDigitChars_cons, Nat.mul_zero, Nat.zero_add]

section Readers

variable {negative : Bool} {s : Nat} {start : Int} {cs rest : List Char} {v : Value}

theorem exponentBody_eq_ok {down : Bool} (hrest : NoDigit rest) :
    exponentBody negative s start down cs = .ok (v, rest) ↔
      ∃ ds, cs = ds ++ rest ∧ ds ≠ [] ∧ (∀ c ∈ ds, c.isDigit = true) ∧
        (scaledBy? (Nat.ofDigitChars 10 ds 0) down s start).map (float negative) = some v := by
  have hread {c : Char} {ds rest : List Char} (hc : c.isDigit = true)
      (hds : ∀ c ∈ ds, c.isDigit = true) (hrest : NoDigit rest) :
      (exponentBody negative s start down).Yields (c :: ds ++ rest) rest
        ((scaledBy? (Nat.ofDigitChars 10 (c :: ds) 0) down s start).map (float negative)) := by
    have hsmall : c.toNat - '0'.toNat < 0x80000000 :=
      (Numeral.digits_of_isDigit hc).2.trans (by decide)
    intro v rest'
    rw [ofDigitChars_cons_zero, List.cons_append, exponentBody, Numeral.digit?_of_isDigit hc]
    exact yields_exponentDigits hds hrest negative s start down hsmall v rest'
  constructor
  · intro h
    obtain ⟨ds, rest', rfl, hds, hrest'⟩ := exists_digits_append cs
    cases ds with
    | nil =>
      cases rest' with
      | nil => cases h
      | cons c cs =>
        rw [List.nil_append, exponentBody, digit?_of_not_isDigit (noDigit_cons.1 hrest')] at h
        cases h
    | cons c ds =>
      obtain ⟨hc, htail⟩ := List.forall_mem_cons.1 hds
      obtain ⟨rfl, hv⟩ := (hread hc htail hrest' v rest).1 h
      exact ⟨c :: ds, rfl, List.cons_ne_nil c ds, hds, hv⟩
  · rintro ⟨ds, rfl, hne, hds, hv⟩
    obtain ⟨c, ds, rfl⟩ := List.exists_cons_of_ne_nil hne
    obtain ⟨hc, htail⟩ := List.forall_mem_cons.1 hds
    exact (hread hc htail hrest v rest).2 ⟨rfl, hv⟩

/-- A text of digits has no sign in front. -/
theorem exponent_of_isDigit {c : Char} (hc : c.isDigit = true) (cs : List Char) :
    exponent negative s start (c :: cs) = exponentBody negative s start false (c :: cs) := by
  unfold exponent
  split
  · rename_i h
    exact absurd (List.cons.inj h).1 (Numeral.ne_of_isDigit hc rfl)
  · rename_i h
    exact absurd (List.cons.inj h).1 (Numeral.ne_of_isDigit hc rfl)
  · rfl

theorem exponent_eq_ok {mark : Char} (hmark : mark = 'e' ∨ mark = 'E') (hrest : NoDigit rest) :
    exponent negative s start cs = .ok (v, rest) ↔
      ∃ ex : Exponent, mark :: cs = ex.text ++ rest ∧
        (ex.double? s start).map (float negative) = some v := by
  constructor
  · intro h
    unfold exponent at h
    split at h <;> obtain ⟨ds, rfl, hne, hds, hv⟩ := (exponentBody_eq_ok hrest).1 h
    · exact ⟨⟨mark, ['+'], ds, hmark, .inr (.inl rfl), hds, hne⟩, rfl, hv⟩
    · exact ⟨⟨mark, ['-'], ds, hmark, .inr (.inr rfl), hds, hne⟩, rfl, hv⟩
    · exact ⟨⟨mark, [], ds, hmark, .inl rfl, hds, hne⟩, rfl, hv⟩
  · rintro ⟨⟨mark', sign, ds, _, hsign, hds, hne⟩, htext, hv⟩
    have hbody (down : Bool) (hdown : decide (sign = ['-']) = down) :
        exponentBody negative s start down (ds ++ rest) = .ok (v, rest) := by
      subst hdown
      exact (exponentBody_eq_ok hrest).2 ⟨ds, rfl, hne, hds, hv⟩
    obtain rfl : cs = sign ++ ds ++ rest := (List.cons.inj htext).2
    rcases hsign with rfl | rfl | rfl
    · obtain ⟨c, ds, rfl⟩ := List.exists_cons_of_ne_nil hne
      exact (exponent_of_isDigit (hds c List.mem_cons_self) _).trans (hbody false rfl)
    · exact hbody false rfl
    · exact hbody true rfl

/-! ## Fractions -/

/-- What may stand behind the whole digits of a numeral. -/
structure Tail where
  fraction : List Char
  exponent : Option Exponent
  isDigit : ∀ c ∈ fraction, c.isDigit = true

namespace Tail

def point : List Char → List Char
  | [] => []
  | c :: cs => '.' :: c :: cs

def exponentText (exponent : Option Exponent) : List Char :=
  exponent.elim [] Exponent.text

def text (t : Tail) : List Char :=
  point t.fraction ++ exponentText t.exponent

end Tail

/-- The double for a significand and a power of ten with an exponent, if there is one. -/
def exponentDouble? : Option Exponent → Nat → Int → Option Float
  | none => scaled?
  | some ex => ex.double?

/-- The double for the whole digits, of which `significand` and `start` are made, with a tail. -/
def Tail.double? (t : Tail) (significand : Nat) (start : Int) : Option Float :=
  exponentDouble? t.exponent (Nat.ofDigitChars 10 (fitting significand t.fraction) significand)
    (start - (fitting significand t.fraction).length)

theorem noDigit_exponentText (exponent : Option Exponent) (hrest : NumberEnds rest) :
    NoDigit (Tail.exponentText exponent ++ rest) := by
  cases exponent with
  | none => exact hrest.noDigit
  | some ex =>
    refine noDigit_cons.2 ?_
    rcases ex.mark_eq with h | h <;> rw [h] <;> rfl

/-- What stands behind whole digits is none of them. -/
theorem Tail.noDigit_append (t : Tail) (hrest : NumberEnds rest) : NoDigit (t.text ++ rest) := by
  obtain ⟨_ | ⟨c, ds⟩, exponent, hds⟩ := t
  · exact noDigit_exponentText exponent hrest
  · exact noDigit_cons.2 rfl

theorem finish_eq_ok (hrest : NumberEnds rest) :
    finish negative s start cs = .ok (v, rest) ↔
      ∃ exponent, cs = Tail.exponentText exponent ++ rest ∧
        (exponentDouble? exponent s start).map (float negative) = some v := by
  constructor
  · intro h
    unfold finish at h
    split at h
    · obtain ⟨ex, htext, hv⟩ := (exponent_eq_ok (.inl rfl) hrest.noDigit).1 h
      exact ⟨some ex, htext, hv⟩
    · obtain ⟨ex, htext, hv⟩ := (exponent_eq_ok (.inr rfl) hrest.noDigit).1 h
      exact ⟨some ex, htext, hv⟩
    · obtain ⟨rfl, hv⟩ := (yields_fromParts negative s start cs v rest).1 h
      exact ⟨none, rfl, hv⟩
  · rintro ⟨exponent, rfl, hv⟩
    cases exponent with
    | none =>
      have hparts := (yields_fromParts negative s start rest v rest).2 ⟨rfl, hv⟩
      change finish negative s start rest = .ok (v, rest)
      unfold finish
      split
      · exact absurd rfl (numberEnds_cons.1 hrest).2.2.1
      · exact absurd rfl (numberEnds_cons.1 hrest).2.2.2
      · exact hparts
    | some ex =>
      have hbody := (exponent_eq_ok ex.mark_eq hrest.noDigit).2 ⟨ex, rfl, hv⟩
      change finish negative s start (ex.mark :: (ex.sign ++ ex.digits ++ rest)) = .ok (v, rest)
      rcases ex.mark_eq with h | h <;> rw [h] <;> exact hbody

/-- The digits of a fraction are taken as far as they go. -/
theorem fraction_append {ds : List Char} (hds : ∀ c ∈ ds, c.isDigit = true) (hrest : NoDigit rest)
    {empty : Bool} (hempty : empty = true → ds ≠ []) :
    fraction negative empty s start (ds ++ rest) =
      finish negative (Nat.ofDigitChars 10 (fitting s ds) s) (start - (fitting s ds).length)
        rest := by
  induction ds generalizing empty s start with
  | nil =>
    have hfull : empty ≠ true := fun h => hempty h rfl
    have hzero : start - ([] : List Char).length = start := Int.sub_zero start
    rw [fitting, Nat.ofDigitChars_nil, hzero, List.nil_append]
    cases rest with
    | nil => rw [fraction, if_neg hfull]
    | cons c cs =>
      rw [fraction, digit?_of_not_isDigit (noDigit_cons.1 hrest)]
      exact if_neg hfull
  | cons c ds ih =>
    obtain ⟨hc, htail⟩ := List.forall_mem_cons.1 hds
    have hpush : s * 10 + (c.toNat - '0'.toNat) = pushDigit s c := by rw [pushDigit, Nat.mul_comm]
    rw [List.cons_append, fraction, Numeral.digit?_of_isDigit hc]
    simp only [hpush]
    split
    · rename_i hle
      have hlength : start - 1 - (fitting (pushDigit s c) ds).length =
          start - (c :: fitting (pushDigit s c) ds).length := by
        rw [List.length_cons]
        omega
      rw [ih htail fun h => absurd h Bool.false_ne_true, hlength, fitting_cons_of_le hle, Nat.ofDigitChars_cons, pushDigit]
    · rename_i hgt
      have hzero : start - ([] : List Char).length = start := Int.sub_zero start
      rw [fitting_cons_of_lt hgt, Nat.ofDigitChars_nil, hzero, dropWhile_isDigit_append htail hrest]

theorem fraction_eq_ok (hrest : NumberEnds rest) :
    fraction negative true s start cs = .ok (v, rest) ↔
      ∃ t : Tail, t.fraction ≠ [] ∧ '.' :: cs = t.text ++ rest ∧
        (t.double? s start).map (float negative) = some v := by
  constructor
  · intro h
    obtain ⟨ds, rest', rfl, hds, hrest'⟩ := exists_digits_append cs
    cases ds with
    | nil =>
      cases rest' with
      | nil => cases h
      | cons c cs =>
        rw [List.nil_append, fraction, digit?_of_not_isDigit (noDigit_cons.1 hrest')] at h
        cases h
    | cons c ds =>
      rw [fraction_append hds hrest' fun _ => List.cons_ne_nil c ds] at h
      obtain ⟨exponent, rfl, hv⟩ := (finish_eq_ok hrest).1 h
      refine ⟨⟨c :: ds, exponent, hds⟩, List.cons_ne_nil c ds, ?_, hv⟩
      simp [Tail.text, Tail.point]
  · rintro ⟨⟨ds, exponent, hds⟩, hne, htext, hv⟩
    obtain ⟨c, ds, rfl⟩ := List.exists_cons_of_ne_nil hne
    have htext : cs = c :: ds ++ (Tail.exponentText exponent ++ rest) := by
      simpa [Tail.text, Tail.point] using htext
    rw [htext, fraction_append hds (noDigit_exponentText exponent hrest) fun _ => hne]
    exact (finish_eq_ok hrest).2 ⟨exponent, rfl, hv⟩

/-! ## Whole digits -/

theorem Tail.text_eq_nil {t : Tail} : t.text = [] ↔ t.fraction = [] ∧ t.exponent = none := by
  obtain ⟨fraction, exponent, hds⟩ := t
  cases fraction <;> cases exponent <;>
    simp [Tail.text, Tail.point, Tail.exponentText, Exponent.text]

theorem longInteger_append {ds : List Char} (hds : ∀ c ∈ ds, c.isDigit = true) :
    longInteger negative s start (ds ++ cs) = longInteger negative s (start + ds.length) cs := by
  induction ds generalizing start with
  | nil => simp
  | cons c ds ih =>
    obtain ⟨hc, htail⟩ := List.forall_mem_cons.1 hds
    have hlength : start + 1 + ds.length = start + (c :: ds).length := by
      rw [List.length_cons]
      omega
    rw [List.cons_append, longInteger, isDigit_of_isDigit hc, if_pos rfl, ih htail, hlength]

theorem double?_of_fraction_eq_nil {t : Tail} (h : t.fraction = []) :
    t.double? s start = exponentDouble? t.exponent s start := by
  simp [Tail.double?, h, fitting]

theorem longInteger_eq_ok (hcs : NoDigit cs) (hrest : NumberEnds rest) :
    longInteger negative s start cs = .ok (v, rest) ↔
      ∃ t : Tail, cs = t.text ++ rest ∧ (t.double? s start).map (float negative) = some v := by
  have hpoint : ∀ cs, longInteger negative s start ('.' :: cs) =
      fraction negative true s start cs :=
    fun _ => rfl
  have hother (hne : ∀ c ∈ cs.head?, c ≠ '.') :
      longInteger negative s start cs = finish negative s start cs := by
    cases cs with
    | nil => rfl
    | cons c cs =>
      rw [longInteger, isDigit_eq, noDigit_cons.1 hcs, if_neg Bool.false_ne_true,
        if_neg (hne c rfl)]
  constructor
  · intro h
    by_cases hne : ∀ c ∈ cs.head?, c ≠ '.'
    · rw [hother hne] at h
      obtain ⟨exponent, rfl, hv⟩ := (finish_eq_ok hrest).1 h
      refine ⟨⟨[], exponent, nofun⟩, rfl, ?_⟩
      rwa [double?_of_fraction_eq_nil rfl]
    · cases cs with
      | nil => exact absurd nofun hne
      | cons c cs =>
        obtain rfl : c = '.' := by simpa using hne
        obtain ⟨t, -, htext, hv⟩ := (fraction_eq_ok hrest).1 ((hpoint cs).symm.trans h)
        exact ⟨t, htext, hv⟩
  · rintro ⟨⟨ds, exponent, hds⟩, rfl, hv⟩
    cases ds with
    | nil =>
      rw [double?_of_fraction_eq_nil rfl] at hv
      have hfinish := (finish_eq_ok hrest).2 ⟨exponent, rfl, hv⟩
      refine (hother fun c hc => ?_).trans hfinish
      cases exponent with
      | none => exact (hrest c hc).2.1
      | some ex =>
        obtain rfl : ex.mark = c := Option.some.inj hc
        rcases ex.mark_eq with h | h <;> rw [h] <;> decide
    | cons c ds =>
      refine (hpoint _).trans ((fraction_eq_ok hrest).2 ⟨_, List.cons_ne_nil c ds, ?_, hv⟩)
      rfl

theorem afterWhole_eq_ok (hrest : NumberEnds rest) :
    afterWhole negative s cs = .ok (v, rest) ↔
      ∃ t : Tail, cs = t.text ++ rest ∧
        (if t.text = [] then some (whole negative s)
          else (t.double? s 0).map (float negative)) = some v := by
  constructor
  · intro h
    have hexponent {mark : Char} {cs : List Char} (hmark : mark = 'e' ∨ mark = 'E')
        (h : exponent negative s 0 cs = .ok (v, rest)) :
        ∃ t : Tail, mark :: cs = t.text ++ rest ∧
          (if t.text = [] then some (whole negative s)
            else (t.double? s 0).map (float negative)) = some v := by
      obtain ⟨ex, htext, hv⟩ := (exponent_eq_ok hmark hrest.noDigit).1 h
      refine ⟨⟨[], some ex, nofun⟩, htext, ?_⟩
      rwa [if_neg fun h => Option.some_ne_none ex (Tail.text_eq_nil.1 h).2,
        double?_of_fraction_eq_nil rfl]
    unfold afterWhole at h
    split at h
    · obtain ⟨t, hne, htext, hv⟩ := (fraction_eq_ok hrest).1 h
      refine ⟨t, htext, ?_⟩
      rwa [if_neg fun h => hne (Tail.text_eq_nil.1 h).1]
    · exact hexponent (.inl rfl) h
    · exact hexponent (.inr rfl) h
    · cases h
      exact ⟨⟨[], none, nofun⟩, rfl, rfl⟩
  · rintro ⟨⟨ds, exponent, hds⟩, rfl, hv⟩
    cases ds with
    | cons c ds =>
      rw [if_neg fun h => List.cons_ne_nil c ds (Tail.text_eq_nil.1 h).1] at hv
      exact (fraction_eq_ok hrest).2 ⟨_, List.cons_ne_nil c ds, rfl, hv⟩
    | nil =>
      cases exponent with
      | none =>
        cases hv
        exact afterWhole_of_numberEnds hrest negative s
      | some ex =>
        rw [if_neg fun h => Option.some_ne_none ex (Tail.text_eq_nil.1 h).2,
          double?_of_fraction_eq_nil rfl] at hv
        have hbody := (exponent_eq_ok ex.mark_eq hrest.noDigit).2 ⟨ex, rfl, hv⟩
        change afterWhole negative s (ex.mark :: (ex.sign ++ ex.digits ++ rest)) = .ok (v, rest)
        rcases ex.mark_eq with h | h <;> rw [h] <;> exact hbody

/-- The value for the whole digits of a numeral with what stands behind them. -/
def wholeValue? (negative : Bool) (s : Nat) (ds : List Char) (t : Tail) : Option Value :=
  if fitting s ds = ds ∧ t.text = [] then some (whole negative (Nat.ofDigitChars 10 ds s))
  else (t.double? (Nat.ofDigitChars 10 (fitting s ds) s)
    (ds.length - (fitting s ds).length)).map (float negative)

theorem wholeValue?_cons {c : Char} (h : pushDigit s c ≤ maxU64) (ds : List Char) (t : Tail) :
    wholeValue? negative s (c :: ds) t = wholeValue? negative (pushDigit s c) ds t := by
  have hlength : ((c :: ds).length : Int) - (c :: fitting (pushDigit s c) ds).length =
      ds.length - (fitting (pushDigit s c) ds).length := by
    simp only [List.length_cons]
    omega
  have hiff : c :: fitting (pushDigit s c) ds = c :: ds ∧ t.text = [] ↔
      fitting (pushDigit s c) ds = ds ∧ t.text = [] := by
    rw [List.cons_inj_right]
  rw [wholeValue?, wholeValue?, fitting_cons_of_le h, hlength, Nat.ofDigitChars_cons,
    Nat.ofDigitChars_cons]
  exact if_congr hiff rfl rfl

theorem wholeDigits_eq_ok {ds : List Char} (hds : ∀ c ∈ ds, c.isDigit = true) (hcs : NoDigit cs)
    (hrest : NumberEnds rest) :
    wholeDigits negative s (ds ++ cs) = .ok (v, rest) ↔
      ∃ t : Tail, cs = t.text ++ rest ∧ wholeValue? negative s ds t = some v := by
  induction ds generalizing s with
  | nil =>
    have hread : wholeDigits negative s cs = afterWhole negative s cs := by
      cases cs with
      | nil => rfl
      | cons c cs => rw [wholeDigits, digit?_of_not_isDigit (noDigit_cons.1 hcs)]
    have hvalue (t : Tail) : wholeValue? negative s [] t =
        if t.text = [] then some (whole negative s) else (t.double? s 0).map (float negative) := by
      simp [wholeValue?, fitting]
    rw [List.nil_append, hread, afterWhole_eq_ok hrest]
    simp only [hvalue]
  | cons c ds ih =>
    obtain ⟨hc, htail⟩ := List.forall_mem_cons.1 hds
    have hpush : s * 10 + (c.toNat - '0'.toNat) = pushDigit s c := by rw [pushDigit, Nat.mul_comm]
    rw [List.cons_append, wholeDigits, Numeral.digit?_of_isDigit hc]
    simp only [hpush]
    split
    · rename_i hle
      rw [ih htail]
      simp only [wholeValue?_cons hle]
    · rename_i hgt
      have hvalue (t : Tail) : wholeValue? negative s (c :: ds) t =
          (t.double? s (0 + (c :: ds).length)).map (float negative) := by
        simp [wholeValue?, fitting_cons_of_lt hgt]
      rw [← List.cons_append, longInteger_append hds, longInteger_eq_ok hcs hrest]
      simp only [hvalue]

end Readers

/-! ## Numbers -/

/-- A numeral: a sign, whole digits, none of them a zero in front of others, and a tail. -/
structure NumberText where
  negative : Bool
  integral : List Char
  tail : Tail
  isDigit : ∀ c ∈ integral, c.isDigit = true
  nonempty : integral ≠ []
  leading : integral.head? = some '0' → integral = ['0']

namespace NumberText

def unsigned (n : NumberText) : List Char :=
  n.integral ++ n.tail.text

def text (n : NumberText) : List Char :=
  (if n.negative then ['-'] else []) ++ n.unsigned

def value? (n : NumberText) : Option Value :=
  wholeValue? n.negative 0 n.integral n.tail

end NumberText

theorem pushDigit_zero (c : Char) : pushDigit 0 c = c.toNat - '0'.toNat := by
  rw [pushDigit, Nat.mul_zero, Nat.zero_add]

section Numbers

variable {negative : Bool} {cs rest : List Char} {v : Value}

/-- Behind a sign, whole digits are read up to what is none. -/
theorem number_append_eq_ok {ds : List Char} (hds : ∀ c ∈ ds, c.isDigit = true) (hne : ds ≠ [])
    (hleading : ds.head? = some '0' → ds = ['0']) (hcs : NoDigit cs) (hrest : NumberEnds rest) :
    number negative (ds ++ cs) = .ok (v, rest) ↔
      ∃ t : Tail, cs = t.text ++ rest ∧ wholeValue? negative 0 ds t = some v := by
  obtain ⟨c, ds, rfl⟩ := List.exists_cons_of_ne_nil hne
  obtain ⟨hc, htail⟩ := List.forall_mem_cons.1 hds
  have hsmall : pushDigit 0 c ≤ maxU64 := by
    rw [pushDigit_zero]
    exact (Nat.le_of_lt (Numeral.digits_of_isDigit hc).2).trans (by decide)
  simp only [wholeValue?_cons hsmall]
  -- A zero is read by itself, any other digit begins a run of them.
  by_cases hzero : c = '0'
  · subst hzero
    obtain rfl : ds = [] := (List.cons.inj (hleading rfl)).2
    have hread : number negative ('0' :: cs) = wholeDigits negative 0 ([] ++ cs) := by
      cases cs with
      | nil => rfl
      | cons d cs =>
        have hd := noDigit_cons.1 hcs
        rw [number_zero_cons, isDigit_eq, hd, if_neg Bool.false_ne_true, List.nil_append,
          wholeDigits, digit?_of_not_isDigit hd]
    exact (congrArg (· = _) hread).to_iff.trans (wholeDigits_eq_ok htail hcs hrest)
  · rw [List.cons_append, number_of_ne_zero negative hc hzero, ← pushDigit_zero]
    exact wholeDigits_eq_ok htail hcs hrest

theorem number_eq_ok (hrest : NumberEnds rest) :
    number negative cs = .ok (v, rest) ↔
      ∃ n : NumberText, n.negative = negative ∧ cs = n.unsigned ++ rest ∧ n.value? = some v := by
  constructor
  · intro h
    obtain ⟨ds, cs, rfl, hds, hcs⟩ := exists_digits_append cs
    have hne : ds ≠ [] := by
      rintro rfl
      cases cs with
      | nil => cases h
      | cons c cs =>
        simp only [List.nil_append, number, digit?_of_not_isDigit (noDigit_cons.1 hcs)] at h
        cases h
    have hleading (hhead : ds.head? = some '0') : ds = ['0'] := by
      obtain ⟨c, ds, rfl⟩ := List.exists_cons_of_ne_nil hne
      obtain rfl : c = '0' := Option.some.inj hhead
      cases ds with
      | nil => rfl
      | cons d ds =>
        have hd : isDigit d = true := isDigit_of_isDigit (hds d (by simp))
        rw [List.cons_append, List.cons_append, number_zero_cons, if_pos hd] at h
        cases h
    obtain ⟨t, rfl, hv⟩ := (number_append_eq_ok hds hne hleading hcs hrest).1 h
    exact ⟨⟨negative, ds, t, hds, hne, hleading⟩, rfl, (List.append_assoc _ _ _).symm, hv⟩
  · rintro ⟨n, rfl, rfl, hv⟩
    have hcs := n.tail.noDigit_append hrest
    rw [NumberText.unsigned, List.append_assoc]
    exact (number_append_eq_ok n.isDigit n.nonempty n.leading hcs hrest).2 ⟨n.tail, rfl, hv⟩

end Numbers

end PickupGame.Json
