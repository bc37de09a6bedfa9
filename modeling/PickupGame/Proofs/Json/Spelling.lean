import PickupGame.Proofs.Json.Decode
import PickupGame.Proofs.Json.Numerals

/-!
# Spellings of numbers and strings

The texts that stand for a number or a string. An integer of 64 bits has a single one, any other
numeral stands for a double; the characters of a string stand for themselves or are escaped. What
the readers take from the front of a text is such a spelling, and they take every one.
-/

namespace PickupGame.Json

open PickupGame.Numeral (digits hexDigit? maxU64)

/-! ## Spellings of numbers -/

/-- The text is the one of an integer of 64 bits. -/
def IsIntegerText (t : List Char) : Prop :=
  ∃ n : Int, -0x8000000000000000 ≤ n ∧ n < 0x10000000000000000 ∧ t = integerText n

/-- The double a numeral stands for when it is none of an integer, unless it is too large. -/
def NumberText.double? (n : NumberText) : Option Float :=
  let kept := fitting 0 n.integral
  let magnitude? :=
    if kept = n.integral ∧ n.tail.text = [] then some (Nat.ofDigitChars 10 n.integral 0).toFloat
    else n.tail.double? (Nat.ofDigitChars 10 kept 0) (n.integral.length - kept.length)
  magnitude?.map fun x => if n.negative then -x else x

/-- An integer of 64 bits has one spelling. A double is spelled by every other numeral that stands
for it. -/
inductive Number.Spelled : Number → List Char → Prop
  | integer (n : Int) (low : -0x8000000000000000 ≤ n) (high : n < 0x10000000000000000) :
      Number.Spelled (.integer n low high) (integerText n)
  | float {n : NumberText} {x : Float} (hnot : ¬ IsIntegerText n.text) (h : n.double? = some x) :
      Number.Spelled (.float x) n.text

namespace NumberText

def size (n : NumberText) : Nat :=
  Nat.ofDigitChars 10 n.integral 0

variable (n : NumberText)

theorem digits_size : digits n.size = n.integral :=
  Numeral.digits_ofDigitChars n.isDigit n.nonempty n.leading

/-- A numeral of digits only has no tail. -/
theorem unsigned_eq_digits {m : Nat} : n.unsigned = digits m ↔ n.size = m ∧ n.tail.text = [] := by
  constructor
  · intro h
    have htail : n.tail.text = [] := by
      by_contra hne
      obtain ⟨c, cs, hc⟩ := List.exists_cons_of_ne_nil hne
      have hdigit : c.isDigit = true := by
        refine Numeral.isDigit_of_mem_digits (n := m) ?_
        rw [← h, unsigned, hc]
        simp
      have hnone := n.tail.noDigit_append numberEnds_nil
      rw [hc, List.append_nil, noDigit_cons, hdigit] at hnone
      cases hnone
    refine ⟨Numeral.digits_injective ?_, htail⟩
    rw [digits_size, ← h, unsigned, htail, List.append_nil]
  · rintro ⟨rfl, htail⟩
    rw [unsigned, htail, List.append_nil, digits_size]

theorem text_eq_integerText {k : Int} :
    n.text = integerText k ↔ n.tail.text = [] ∧
      ((n.negative = false ∧ k = n.size) ∨ (n.negative = true ∧ n.size ≠ 0 ∧ k = -n.size)) := by
  have hminus : ∀ c ∈ n.integral, c ≠ '-' := fun c hc => Numeral.ne_of_isDigit (n.isDigit c hc) rfl
  cases k with
  | ofNat m =>
    cases hsign : n.negative with
    | false =>
      have htext : n.text = n.unsigned := by simp [text, hsign]
      rw [htext, integerText, unsigned_eq_digits]
      constructor
      · rintro ⟨rfl, htail⟩
        exact ⟨htail, .inl ⟨rfl, rfl⟩⟩
      · rintro ⟨htail, ⟨-, h⟩ | ⟨⟨⟩, -⟩⟩
        exact ⟨(Int.ofNat.inj h).symm, htail⟩
    | true =>
      have htext : n.text = '-' :: n.unsigned := by simp [text, hsign]
      refine iff_of_false (fun h => ?_) ?_
      · obtain ⟨c, cs, hd, hc⟩ := Numeral.exists_digits_eq_cons m
        rw [htext, integerText, hd] at h
        exact Numeral.ne_of_isDigit hc rfl (List.cons.inj h).1.symm
      · rintro ⟨-, ⟨⟨⟩, -⟩ | ⟨-, hne, h⟩⟩
        have hneg : (m : Int) = -n.size := h
        omega
  | negSucc m =>
    have hnegSucc : Int.negSucc m = -((m : Int) + 1) := Int.negSucc_eq m
    cases hsign : n.negative with
    | false =>
      have htext : n.text = n.unsigned := by simp [text, hsign]
      refine iff_of_false (fun h => ?_) ?_
      · obtain ⟨c, cs, hintegral⟩ := List.exists_cons_of_ne_nil n.nonempty
        rw [htext, integerText, unsigned, hintegral] at h
        exact hminus c (hintegral ▸ List.mem_cons_self) (List.cons.inj h).1
      · rintro ⟨-, ⟨-, h⟩ | ⟨⟨⟩, -⟩⟩
        omega
    | true =>
      have htext : n.text = '-' :: n.unsigned := by simp [text, hsign]
      rw [htext, integerText, List.cons_inj_right, unsigned_eq_digits]
      constructor
      · rintro ⟨hsize, htail⟩
        exact ⟨htail, .inr ⟨rfl, by omega, by omega⟩⟩
      · rintro ⟨htail, ⟨⟨⟩, -⟩ | ⟨-, hne, h⟩⟩
        exact ⟨by omega, htail⟩

/-- A whole number is an integer or the double of its digits. -/
theorem whole_cases (htail : n.tail.text = []) :
    (∃ k low high, whole n.negative n.size = .number (.integer k low high) ∧
        n.text = integerText k) ∨
      (¬ IsIntegerText n.text ∧ whole n.negative n.size = float n.negative n.size.toFloat) := by
  have htext {k : Int} := n.text_eq_integerText (k := k)
  simp only [htail, true_and] at htext
  cases hsign : n.negative with
  | false =>
    by_cases hfits : n.size < 0x10000000000000000
    · refine .inl ⟨n.size, by omega, by omega, ?_, htext.2 (.inl ⟨hsign, rfl⟩)⟩
      rw [whole, if_neg Bool.false_ne_true, dif_pos hfits]
    · refine .inr ⟨?_, ?_⟩
      · rintro ⟨k, -, high, hk⟩
        rcases htext.1 hk with ⟨-, rfl⟩ | ⟨h, -⟩
        · exact hfits (by omega)
        · exact Bool.noConfusion (hsign.symm.trans h)
      · rw [whole, if_neg Bool.false_ne_true, dif_neg hfits]
  | true =>
    by_cases hfits : 1 ≤ n.size ∧ n.size ≤ 0x8000000000000000
    · refine .inl ⟨-n.size, by omega, by omega, ?_, htext.2 (.inr ⟨hsign, by omega, rfl⟩)⟩
      rw [whole, if_pos rfl, dif_pos hfits]
    · refine .inr ⟨?_, ?_⟩
      · rintro ⟨k, low, -, hk⟩
        rcases htext.1 hk with ⟨h, -⟩ | ⟨-, hne, rfl⟩
        · exact Bool.noConfusion (hsign.symm.trans h)
        · exact hfits (by omega)
      · rw [whole, if_pos rfl, dif_neg hfits]

/-- A numeral that is none of an integer with digits in excess, a fraction or an exponent. -/
theorem not_isIntegerText (h : ¬ (fitting 0 n.integral = n.integral ∧ n.tail.text = [])) :
    ¬ IsIntegerText n.text := by
  rintro ⟨k, low, high, hk⟩
  obtain ⟨htail, hsize⟩ := n.text_eq_integerText.1 hk
  have hle : n.size ≤ maxU64 := by
    unfold maxU64
    rcases hsize with ⟨-, rfl⟩ | ⟨-, -, rfl⟩ <;> omega
  exact h ⟨fitting_eq_self hle, htail⟩

theorem value?_eq_some {v : Value} (h : n.value? = some v) :
    ∃ k : Number, v = .number k ∧ k.Spelled n.text := by
  rw [value?, wholeValue?] at h
  split at h
  · rename_i hintegral
    obtain rfl : whole n.negative n.size = v := Option.some.inj h
    rcases n.whole_cases hintegral.2 with ⟨k, low, high, hk, htext⟩ | ⟨hnot, hk⟩
    · rw [hk, htext]
      exact ⟨_, rfl, .integer k low high⟩
    · rw [hk]
      refine ⟨_, rfl, .float hnot ?_⟩
      simp only [double?, if_pos hintegral]
      rfl
  · rename_i hintegral
    obtain ⟨x, hx, rfl⟩ := Option.map_eq_some_iff.1 h
    refine ⟨_, rfl, .float (n.not_isIntegerText hintegral) ?_⟩
    simp only [double?, if_neg hintegral, hx]
    rfl

theorem value?_of_double? {x : Float} (hnot : ¬ IsIntegerText n.text) (h : n.double? = some x) :
    n.value? = some (.number (.float x)) := by
  rw [value?, wholeValue?]
  rw [double?] at h
  split
  · rename_i hintegral
    rw [if_pos hintegral] at h
    rcases n.whole_cases hintegral.2 with ⟨k, low, high, -, htext⟩ | ⟨-, hk⟩
    · exact absurd ⟨k, low, high, htext⟩ hnot
    · cases h
      exact congrArg some hk
  · rename_i hintegral
    rw [if_neg hintegral] at h
    obtain ⟨y, hy, rfl⟩ := Option.map_eq_some_iff.1 h
    rw [hy]
    rfl

end NumberText

/-- What a reader of numbers takes is the spelling of a number. -/
theorem exists_spelled_of_number {negative : Bool} {cs rest : List Char} {v : Value}
    (hrest : NumberEnds rest) (h : number negative cs = .ok (v, rest)) :
    ∃ (k : Number) (t : List Char), v = .number k ∧ k.Spelled t ∧
      (if negative then ['-'] else []) ++ cs = t ++ rest := by
  obtain ⟨n, rfl, rfl, hv⟩ := (number_eq_ok hrest).1 h
  obtain ⟨k, rfl, hk⟩ := n.value?_eq_some hv
  exact ⟨k, n.text, rfl, hk, (List.append_assoc _ _ _).symm⟩

/-- The spelling of a number is read as that number. -/
theorem value_of_spelled (levels : Nat) {k : Number} {t rest : List Char} (h : k.Spelled t)
    (hrest : NumberEnds rest) : value levels (t ++ rest) = .ok (.number k, rest) := by
  cases h with
  | integer n low high => exact value_integerText levels low high hrest
  | @float n x hnot h =>
    have hread := (number_eq_ok hrest).2 ⟨n, rfl, rfl, n.value?_of_double? hnot h⟩
    rw [NumberText.text, List.append_assoc]
    cases hsign : n.negative with
    | true =>
      rw [hsign] at hread
      have hvalue : value levels ('-' :: (n.unsigned ++ rest)) = number true (n.unsigned ++ rest) := by
        rw [value]
        rfl
      exact hvalue.trans hread
    | false =>
      rw [hsign] at hread
      obtain ⟨c, cs, hintegral⟩ := List.exists_cons_of_ne_nil n.nonempty
      have hc : c.isDigit = true := n.isDigit c (hintegral ▸ List.mem_cons_self)
      rw [NumberText.unsigned, hintegral] at hread ⊢
      exact (value_of_isDigit levels hc _).trans hread

/-! ## Spellings of strings -/

/-- What may stand behind a backslash for a character, besides its number. -/
def shortEscapes : List (Char × Char) :=
  [('"', '"'), ('\\', '\\'), ('/', '/'), ('b', '\x08'), ('f', '\x0c'), ('n', '\n'), ('r', '\r'),
    ('t', '\t')]

/-- Four hexadecimal digits and the number they make. -/
def HexSpelled (n : Nat) (t : List Char) : Prop :=
  ∃ a b c d w x y z, t = [a, b, c, d] ∧ hexDigit? a = some w ∧ hexDigit? b = some x ∧
    hexDigit? c = some y ∧ hexDigit? d = some z ∧ n = ((w * 16 + x) * 16 + y) * 16 + z

/-- A character and what stands behind the backslash of an escape of it. One past `0xFFFF` is given
by a leading and a trailing surrogate. -/
inductive EscapeSpelled : Char → List Char → Prop
  | short {e c : Char} (h : (e, c) ∈ shortEscapes) : EscapeSpelled c [e]
  | unit {n : Nat} {t : List Char} (h : HexSpelled n t) (hn : ¬ (0xD800 ≤ n ∧ n ≤ 0xDFFF)) :
      EscapeSpelled (Char.ofNat n) ('u' :: t)
  | pair {m n : Nat} {t u : List Char} (hm : HexSpelled m t) (hn : HexSpelled n u)
      (hleading : 0xD800 ≤ m ∧ m ≤ 0xDBFF) (htrailing : 0xDC00 ≤ n ∧ n ≤ 0xDFFF) :
      EscapeSpelled (Char.ofNat ((m - 0xD800) * 1024 + (n - 0xDC00) + 0x10000))
        ('u' :: (t ++ '\\' :: 'u' :: u))

/-- The characters of a string and what stands for them between its quotes. -/
inductive CharsSpelled : List Char → List Char → Prop
  | nil : CharsSpelled [] []
  | plain {c : Char} {s t : List Char} (hquote : c ≠ '"') (hback : c ≠ '\\')
      (hcontrol : ¬ c.toNat < 0x20) (h : CharsSpelled s t) : CharsSpelled (c :: s) (c :: t)
  | escaped {c : Char} {s t u : List Char} (hc : EscapeSpelled c u) (h : CharsSpelled s t) :
      CharsSpelled (c :: s) ('\\' :: u ++ t)

theorem hexEscape_eq_ok {n : Nat} {cs rest : List Char} :
    hexEscape cs = .ok (n, rest) ↔ ∃ t, cs = t ++ rest ∧ HexSpelled n t := by
  constructor
  · intro h
    unfold hexEscape at h
    split at h
    · rename_i a b c d cs
      split at h
      · rename_i w x y z ha hb hc hd
        cases h
        exact ⟨[a, b, c, d], rfl, a, b, c, d, w, x, y, z, rfl, ha, hb, hc, hd, rfl⟩
      · cases h
    · split at h <;> cases h
  · rintro ⟨_, rfl, a, b, c, d, w, x, y, z, rfl, ha, hb, hc, hd, rfl⟩
    simp only [hexEscape, List.cons_append, List.nil_append, ha, hb, hc, hd]

theorem trailingSurrogate_eq_ok {m : Nat} {c : Char} {cs rest : List Char} :
    trailingSurrogate m cs = .ok (c, rest) ↔
      ∃ n t, cs = '\\' :: 'u' :: t ++ rest ∧ HexSpelled n t ∧ (0xDC00 ≤ n ∧ n ≤ 0xDFFF) ∧
        c = Char.ofNat ((m - 0xD800) * 1024 + (n - 0xDC00) + 0x10000) := by
  constructor
  · intro h
    unfold trailingSurrogate at h
    split at h
    · cases h
    · cases h
    · obtain ⟨⟨n, rest'⟩, hn, htail⟩ := Decode.bind_eq_ok.1 h
      obtain ⟨t, rfl, ht⟩ := hexEscape_eq_ok.1 hn
      simp only at htail
      split at htail
      · rename_i hrange
        obtain ⟨hc, rfl⟩ := Prod.mk.inj (Except.ok.inj htail)
        exact ⟨n, t, rfl, ht, hrange, hc.symm⟩
      · cases htail
    · cases h
    · cases h
  · rintro ⟨n, t, rfl, ht, hrange, hc⟩
    have hread : hexEscape (t ++ rest) = .ok (n, rest) := hexEscape_eq_ok.2 ⟨t, rfl, ht⟩
    have hbind : trailingSurrogate m ('\\' :: 'u' :: (t ++ rest)) =
        hexEscape (t ++ rest) >>= fun p =>
          if 0xDC00 ≤ p.1 ∧ p.1 ≤ 0xDFFF then
            .ok (Char.ofNat ((m - 0xD800) * 1024 + (p.1 - 0xDC00) + 0x10000), p.2)
          else failAt .loneSurrogate p.2 :=
      rfl
    refine hbind.trans ?_
    rw [hread, hc]
    exact if_pos hrange

theorem unicodeEscape_eq_ok {c : Char} {cs rest : List Char} :
    unicodeEscape cs = .ok (c, rest) ↔
      ∃ t, cs = t ++ rest ∧ EscapeSpelled c ('u' :: t) := by
  have hread {n : Nat} {t rest : List Char} (ht : HexSpelled n t) :
      unicodeEscape (t ++ rest) =
        if 0xDC00 ≤ n ∧ n ≤ 0xDFFF then failAt .loneSurrogate rest
        else if 0xD800 ≤ n ∧ n ≤ 0xDBFF then trailingSurrogate n rest
        else .ok (Char.ofNat n, rest) := by
    rw [unicodeEscape, hexEscape_eq_ok.2 ⟨t, rfl, ht⟩]
    rfl
  constructor
  · intro h
    obtain ⟨⟨n, rest'⟩, hn, -⟩ := Decode.bind_eq_ok.1 h
    obtain ⟨t, rfl, ht⟩ := hexEscape_eq_ok.1 hn
    rw [hread ht] at h
    split at h
    · cases h
    · rename_i htrailing
      split at h
      · rename_i hleading
        obtain ⟨m, u, rfl, hu, hrange, hc⟩ := trailingSurrogate_eq_ok.1 h
        rw [hc]
        refine ⟨t ++ '\\' :: 'u' :: u, by simp, .pair ht hu hleading hrange⟩
      · rename_i hleading
        cases h
        exact ⟨t, rfl, .unit ht (by omega)⟩
  · rintro ⟨t, rfl, h⟩
    cases h with
    | short h => simp [shortEscapes] at h
    | unit ht hn =>
      rw [hread ht, if_neg (by omega), if_neg (by omega)]
    | @pair m n t u ht hu hleading htrailing =>
      rw [List.append_assoc, hread ht, if_neg (by omega), if_pos hleading]
      exact trailingSurrogate_eq_ok.2 ⟨n, u, rfl, hu, htrailing, rfl⟩

theorem escape_eq_ok {c : Char} {cs rest : List Char} :
    escape cs = .ok (c, rest) ↔ ∃ t, cs = t ++ rest ∧ EscapeSpelled c t := by
  constructor
  · intro h
    have hshort {e : Char} (h : (e, c) ∈ shortEscapes) :
        ∃ t, e :: rest = t ++ rest ∧ EscapeSpelled c t :=
      ⟨[e], rfl, .short h⟩
    unfold escape at h
    split at h
    case h_1 => cases h
    case h_10 =>
      obtain ⟨t, rfl, ht⟩ := unicodeEscape_eq_ok.1 h
      exact ⟨'u' :: t, rfl, ht⟩
    case h_11 => cases h
    all_goals
      cases h
      exact hshort (by decide)
  · rintro ⟨t, rfl, h⟩
    cases h with
    | short h =>
      simp only [shortEscapes, List.mem_cons, Prod.mk.injEq, List.not_mem_nil, or_false] at h
      rcases h with ⟨rfl, rfl⟩ | ⟨rfl, rfl⟩ | ⟨rfl, rfl⟩ | ⟨rfl, rfl⟩ | ⟨rfl, rfl⟩ | ⟨rfl, rfl⟩ |
        ⟨rfl, rfl⟩ | ⟨rfl, rfl⟩ <;> rfl
    | unit ht hn => exact unicodeEscape_eq_ok.2 ⟨_, rfl, .unit ht hn⟩
    | pair ht hu hleading htrailing =>
      exact unicodeEscape_eq_ok.2 ⟨_, rfl, .pair ht hu hleading htrailing⟩

/-- What is read as the characters of a string is a spelling of them and a quote. -/
theorem exists_charsSpelled {fuel : Nat} {acc s cs rest : List Char}
    (h : characters fuel acc cs = .ok (s, rest)) :
    ∃ s' t, s = acc.reverse ++ s' ∧ cs = t ++ '"' :: rest ∧ CharsSpelled s' t := by
  induction fuel generalizing acc cs with
  | zero => cases cs <;> cases h
  | succ fuel ih =>
    cases cs with
    | nil => cases h
    | cons c cs =>
      unfold characters at h
      split at h
      · rename_i hquote
        cases h
        subst hquote
        exact ⟨[], [], (List.append_nil _).symm, rfl, .nil⟩
      · rename_i hquote
        split at h
        · rename_i hback
          subst hback
          split at h
          · rename_i d rest' hd
            obtain ⟨u, rfl, hu⟩ := escape_eq_ok.1 hd
            obtain ⟨s', t, rfl, rfl, ht⟩ := ih h
            exact ⟨d :: s', '\\' :: u ++ t, by simp, by simp, .escaped hu ht⟩
          · cases h
        · rename_i hback
          split at h
          · cases h
          · rename_i hcontrol
            obtain ⟨s', t, rfl, rfl, ht⟩ := ih h
            exact ⟨c :: s', c :: t, by simp, rfl, .plain hquote hback hcontrol ht⟩

theorem characters_of_charsSpelled {s t : List Char} (h : CharsSpelled s t) (rest : List Char)
    {fuel : Nat} (acc : List Char) (hfuel : t.length < fuel) :
    characters fuel acc (t ++ '"' :: rest) = .ok (acc.reverse ++ s, rest) := by
  induction h generalizing fuel acc with
  | nil =>
    obtain ⟨fuel, rfl⟩ := Nat.exists_eq_add_one_of_ne_zero (Nat.ne_zero_of_lt hfuel)
    simp [characters]
  | @plain c s t hquote hback hcontrol _ ih =>
    obtain ⟨fuel, rfl⟩ := Nat.exists_eq_add_one_of_ne_zero (Nat.ne_zero_of_lt hfuel)
    rw [List.cons_append, characters, if_neg hquote, if_neg hback, if_neg hcontrol,
      ih (c :: acc) (by simpa using hfuel), List.reverse_cons, List.append_assoc]
    rfl
  | @escaped c s t u hc _ ih =>
    obtain ⟨fuel, rfl⟩ := Nat.exists_eq_add_one_of_ne_zero (Nat.ne_zero_of_lt hfuel)
    have hback : '\\' ≠ '"' := by decide
    have hread : escape (u ++ (t ++ '"' :: rest)) = .ok (c, t ++ '"' :: rest) :=
      escape_eq_ok.2 ⟨u, rfl, hc⟩
    have hlength : t.length < fuel := by
      simp only [List.length_append, List.length_cons] at hfuel
      omega
    rw [List.append_assoc, List.cons_append, characters, if_neg hback, if_pos rfl, hread]
    simp only
    rw [ih (c :: acc) hlength, List.reverse_cons, List.append_assoc]
    rfl

theorem string_eq_ok {s : String} {cs rest : List Char} :
    string cs = .ok (s, rest) ↔ ∃ t, cs = t ++ '"' :: rest ∧ CharsSpelled s.toList t := by
  constructor
  · intro h
    unfold string at h
    split at h
    · rename_i hread
      cases h
      obtain ⟨s', t, rfl, rfl, ht⟩ := exists_charsSpelled hread
      exact ⟨t, rfl, by simpa using ht⟩
    · cases h
  · rintro ⟨t, rfl, ht⟩
    have hlength : t.length < (t ++ '"' :: rest).length := by simp
    rw [string, characters_of_charsSpelled ht rest [] hlength]
    simp

end PickupGame.Json
