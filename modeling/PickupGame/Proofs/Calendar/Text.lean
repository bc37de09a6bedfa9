import PickupGame.Proofs.Calendar.Days
import PickupGame.Proofs.Text.Lines

/-!
# Instants as texts

The text of an instant is read by cutting it at its separators. It gives back the instant, and as
long as years have four digits the texts are in the order of the instants.
-/

namespace PickupGame.Instant

open Numeral (digits padded value)

/-- The number that digits stand for. -/
def number? (cs : List Char) : Option Nat :=
  if cs ≠ [] ∧ cs.all Char.isDigit = true then some (value cs) else none

/-- A number of exactly so many digits. -/
def fixed? (width : Nat) (cs : List Char) : Option Nat :=
  if cs.length = width then number? cs else none

/-- A year of four digits, or a later one behind a plus sign. -/
def year? : List Char → Option Nat
  | '+' :: cs => (number? cs).filter (9999 < ·)
  | cs => fixed? 4 cs

def date? (cs : List Char) : Option Date :=
  match cs.splitOn '-' with
  | [year, month, day] => do return ⟨← year? year, ← fixed? 2 month, ← fixed? 2 day⟩
  | _ => none

/-- Reads a date and a time of day in UTC. -/
def read? (cs : List Char) : Option Instant :=
  match cs.splitOn ' ' with
  | [date, clock, ['U', 'T', 'C']] =>
    match clock.splitOn ':' with
    | [hour, minute, second] => do
      return ⟨← date? date, ← fixed? 2 hour, ← fixed? 2 minute, ← fixed? 2 second⟩
    | _ => none
  | _ => none

/-! ## Reading texts back -/

theorem number?_of_isDigit {cs : List Char} (hne : cs ≠ []) (h : ∀ c ∈ cs, c.isDigit = true) :
    number? cs = some (value cs) :=
  if_pos ⟨hne, List.all_eq_true.2 h⟩

theorem fixed?_padded {w n : Nat} (hw : 0 < w) (h : n < 10 ^ w) :
    fixed? w (padded w n) = some n := by
  have hlength := Numeral.length_padded hw h
  have hne : padded w n ≠ [] := List.ne_nil_of_length_pos (Nat.lt_of_lt_of_eq hw hlength.symm)
  rw [fixed?, if_pos hlength, number?_of_isDigit hne fun _ => Numeral.isDigit_of_mem_padded,
    Numeral.value_padded]

theorem year?_yearText (y : Nat) : year? (yearText y) = some y := by
  rw [yearText]
  split
  · rename_i hy
    have hfixed := fixed?_padded (n := y) (by decide : 0 < 4) (by omega)
    rw [year?]
    · exact hfixed
    · -- Digits do not begin with the sign of later years.
      intro cs hcs
      have hplus : '+' ∈ padded 4 y := hcs ▸ List.mem_cons_self
      exact absurd (Numeral.isDigit_of_mem_padded hplus) (by decide)
  · rename_i hy
    rw [year?, number?_of_isDigit (Numeral.digits_ne_nil y) fun _ => Numeral.isDigit_of_mem_digits]
    have hvalue : value (digits y) = y := Nat.ofDigitChars_ten_toDigits
    rw [hvalue]
    simp
    omega

/-- A character that is neither a digit nor a sign separates the parts of a text. -/
def Separates (c : Char) : Prop :=
  c.isDigit = false ∧ c ≠ '+'

theorem Separates.notMem_padded {c : Char} (h : Separates c) (w n : Nat) : c ∉ padded w n :=
  fun hc => Bool.noConfusion ((Numeral.isDigit_of_mem_padded hc).symm.trans h.1)

theorem Separates.notMem_yearText {c : Char} (h : Separates c) (y : Nat) : c ∉ yearText y := by
  rw [yearText]
  split
  · exact h.notMem_padded 4 y
  · intro hc
    rcases List.mem_cons.1 hc with hplus | hc
    · exact h.2 hplus
    · exact Bool.noConfusion ((Numeral.isDigit_of_mem_digits hc).symm.trans h.1)

/-- The date of a text. -/
def dateText (d : Date) : List Char :=
  ['-'].intercalate [yearText d.year, padded 2 d.month, padded 2 d.day]

/-- The time of day of a text. -/
def clockText (t : Instant) : List Char :=
  [':'].intercalate [padded 2 t.hour, padded 2 t.minute, padded 2 t.second]

theorem toList_text (t : Instant) :
    t.text.toList = [' '].intercalate [dateText t.date, clockText t, ['U', 'T', 'C']] := by
  simp [text, dateText, clockText, List.intercalate_cons_cons]

theorem Separates.notMem_dateText {c : Char} (h : Separates c) (hc : c ≠ '-') (d : Date) :
    c ∉ dateText d := by
  intro hmem
  obtain rfl | ⟨part, hpart, hmem⟩ := Text.mem_intercalate hmem
  · exact hc rfl
  · simp only [List.mem_cons, List.not_mem_nil, or_false] at hpart
    rcases hpart with rfl | rfl | rfl
    · exact h.notMem_yearText d.year hmem
    · exact h.notMem_padded 2 d.month hmem
    · exact h.notMem_padded 2 d.day hmem

theorem Separates.notMem_clockText {c : Char} (h : Separates c) (hc : c ≠ ':') (t : Instant) :
    c ∉ clockText t := by
  intro hmem
  obtain rfl | ⟨part, hpart, hmem⟩ := Text.mem_intercalate hmem
  · exact hc rfl
  · simp only [List.mem_cons, List.not_mem_nil, or_false] at hpart
    rcases hpart with rfl | rfl | rfl
    · exact h.notMem_padded 2 t.hour hmem
    · exact h.notMem_padded 2 t.minute hmem
    · exact h.notMem_padded 2 t.second hmem

theorem Separates.notMem_text {c : Char} (h : Separates c) (hminus : c ≠ '-') (hcolon : c ≠ ':')
    (hblank : c ≠ ' ') (hzone : c ∉ ['U', 'T', 'C']) (t : Instant) : c ∉ t.text.toList := by
  rw [toList_text]
  intro hmem
  obtain rfl | ⟨part, hpart, hmem⟩ := Text.mem_intercalate hmem
  · exact hblank rfl
  · simp only [List.mem_cons, List.not_mem_nil, or_false] at hpart
    rcases hpart with rfl | rfl | rfl
    · exact h.notMem_dateText hminus t.date hmem
    · exact h.notMem_clockText hcolon t hmem
    · exact hzone hmem

/-- A month and a day have two digits. -/
theorem two_digits_of_date {d : Date} (h : d.IsValid) : d.month < 10 ^ 2 ∧ d.day < 10 ^ 2 := by
  have hmonth := h.month_le
  have hday := h.day_le.trans (Date.monthLength_le d.year d.month)
  omega

/-- So have the parts of a time of day. -/
theorem IsValid.two_digits {t : Instant} (h : t.IsValid) :
    t.hour < 10 ^ 2 ∧ t.minute < 10 ^ 2 ∧ t.second < 10 ^ 2 := by
  have hhour := h.hour_lt
  have hminute := h.minute_lt
  have hsecond := h.second_lt
  omega

theorem date?_dateText {d : Date} (h : d.IsValid) : date? (dateText d) = some d := by
  have hminus : Separates '-' := ⟨rfl, by decide⟩
  have hsplit : (dateText d).splitOn '-' = [yearText d.year, padded 2 d.month, padded 2 d.day] := by
    refine List.splitOn_intercalate '-' ?_ (List.cons_ne_nil _ _)
    simp [hminus.notMem_yearText, hminus.notMem_padded]
  obtain ⟨hmonth, hday⟩ := two_digits_of_date h
  simp only [date?, hsplit, year?_yearText, fixed?_padded two_pos hmonth,
    fixed?_padded two_pos hday]
  rfl

theorem read?_text {t : Instant} (h : t.IsValid) : read? t.text.toList = some t := by
  have hblank : Separates ' ' := ⟨rfl, by decide⟩
  have hcolon : Separates ':' := ⟨rfl, by decide⟩
  have hsplit : t.text.toList.splitOn ' ' = [dateText t.date, clockText t, ['U', 'T', 'C']] := by
    rw [toList_text]
    refine List.splitOn_intercalate ' ' ?_ (List.cons_ne_nil _ _)
    simp [hblank.notMem_dateText, hblank.notMem_clockText]
  have hclock : (clockText t).splitOn ':' =
      [padded 2 t.hour, padded 2 t.minute, padded 2 t.second] := by
    refine List.splitOn_intercalate ':' ?_ (List.cons_ne_nil _ _)
    simp [hcolon.notMem_padded]
  obtain ⟨hhour, hminute, hsecond⟩ := h.two_digits
  simp only [read?, hsplit, hclock, date?_dateText h.date, fixed?_padded two_pos hhour,
    fixed?_padded two_pos hminute, fixed?_padded two_pos hsecond]
  rfl

example : (ofSeconds 951782400).text = "2000-02-29 00:00:00 UTC" := by decide

/-! ## The order of texts -/

theorem padded_cons_lt_iff {w m n : Nat} (hw : 0 < w) (hm : m < 10 ^ w) (hn : n < 10 ^ w) (c : Char)
    {xs ys : List Char} : padded w m ++ c :: xs < padded w n ++ c :: ys ↔ m < n ∨ m = n ∧ xs < ys := by
  rw [Numeral.padded_append_lt_iff hw hm hn, List.cons_lt_cons_iff]
  simp

theorem text_lt_iff {t u : Instant} (ht : t.IsValid) (hu : u.IsValid) (hyear : t.date.year ≤ 9999)
    (hyear' : u.date.year ≤ 9999) : t.text < u.text ↔ t.secondsBefore < u.secondsBefore := by
  have htwo : ∀ {m n : Nat} (c : Char) {xs ys : List Char}, m < 10 ^ 2 → n < 10 ^ 2 →
      (padded 2 m ++ c :: xs < padded 2 n ++ c :: ys ↔ m < n ∨ m = n ∧ xs < ys) :=
    fun c _ _ hm hn => padded_cons_lt_iff two_pos hm hn c
  obtain ⟨hmonth, hday⟩ := two_digits_of_date ht.date
  obtain ⟨hmonth', hday'⟩ := two_digits_of_date hu.date
  obtain ⟨hhour, hminute, hsecond⟩ := ht.two_digits
  obtain ⟨hhour', hminute', hsecond'⟩ := hu.two_digits
  rw [ht.secondsBefore_lt_iff hu, String.lt_iff, text, text, String.toList_ofList,
    String.toList_ofList, yearText, yearText, if_pos hyear, if_pos hyear', Earlier]
  simp only [List.append_assoc, List.cons_append]
  -- All parts have fixed widths, so the separators stand in the same places of both texts.
  rw [padded_cons_lt_iff (by decide) (by omega) (by omega), htwo '-' hmonth hmonth',
    htwo ' ' hday hday', htwo ':' hhour hhour', htwo ':' hminute hminute', htwo ' ' hsecond hsecond']
  simp only [List.lt_irrefl, and_false, or_false]

end PickupGame.Instant
