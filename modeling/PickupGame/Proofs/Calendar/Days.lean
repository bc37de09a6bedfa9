import Mathlib.Tactic.IntervalCases
import PickupGame.Calendar
import PickupGame.Proofs.Numeral.Order

/-!
# Dates and days

The days before a date are counted along the calendar: whole years, whole months, days. The date
some days after the first of January 1970 has as many more before it, and of two dates the earlier
one has fewer.
-/

namespace PickupGame.Date

open Numeral (add_lt_add_iff)

def IsLeap (year : Nat) : Prop :=
  year % 4 = 0 ∧ (year % 100 = 0 → year % 400 = 0)

instance : DecidablePred IsLeap :=
  fun year => inferInstanceAs (Decidable (year % 4 = 0 ∧ (year % 100 = 0 → year % 400 = 0)))

def yearLength (year : Nat) : Nat :=
  if IsLeap year then 366 else 365

def monthLength (year month : Nat) : Nat :=
  match month with
  | 2 => if IsLeap year then 29 else 28
  | 4 | 6 | 9 | 11 => 30
  | _ => 31

theorem monthLength_le (year month : Nat) : monthLength year month ≤ 31 := by
  unfold monthLength
  split
  · split <;> decide
  · decide
  · decide
  · decide
  · decide
  · decide

structure IsValid (d : Date) : Prop where
  one_le_month : 1 ≤ d.month
  month_le : d.month ≤ 12
  one_le_day : 1 ≤ d.day
  day_le : d.day ≤ monthLength d.year d.month

def yearsBefore (year : Nat) : Nat :=
  ((List.range year).map yearLength).sum

def monthsBefore (year month : Nat) : Nat :=
  ((List.range' 1 (month - 1)).map (monthLength year)).sum

/-- The days from the first of January of the year 0 to a date. -/
def daysBefore (d : Date) : Nat :=
  yearsBefore d.year + monthsBefore d.year d.month + (d.day - 1)

/-! ## Years and months -/

theorem yearsBefore_succ (year : Nat) :
    yearsBefore (year + 1) = yearsBefore year + yearLength year := by
  simp [yearsBefore, List.range_succ]

theorem yearsBefore_succ_eq (year : Nat) :
    yearsBefore (year + 1) + year / 100 = 366 + 365 * year + year / 4 + year / 400 := by
  induction year with
  | zero => rfl
  | succ year ih =>
    rw [yearsBefore_succ, yearLength]
    split
    · rename_i h
      rw [IsLeap] at h
      omega
    · rename_i h
      rw [IsLeap] at h
      omega

theorem monthsBefore_succ (year : Nat) {month : Nat} (h : 1 ≤ month) :
    monthsBefore year (month + 1) = monthsBefore year month + monthLength year month := by
  obtain ⟨m, rfl⟩ := Nat.exists_eq_add_of_le h
  rw [monthsBefore, monthsBefore, Nat.add_sub_cancel, Nat.add_comm 1 m, Nat.add_sub_cancel,
    List.range'_concat]
  simp [Nat.add_comm]

/-- The months from March on alternate in length so that their starts lie on a line. -/
theorem monthsBefore_march (year : Nat) {m : Nat} (h : m ≤ 10) :
    monthsBefore year (m + 3) = (153 * m + 2) / 5 + 31 + monthLength year 2 := by
  interval_cases m <;> simp [monthsBefore, monthLength, List.range'] <;> omega

theorem monthsBefore_thirteen (year : Nat) : monthsBefore year 13 = yearLength year := by
  rw [monthsBefore_march year (le_refl 10), monthLength, yearLength]
  split <;> rfl

/-! ## The era -/

/-- A day of an era of 400 years lies in a century, in a group of four years there and in a year of
that group. Only the last year of a group has a day 365, and not in the last group of a century that
is not the last one. -/
theorem exists_dayOfEra {day : Nat} (h : day < 146097) :
    ∃ c q t s, day = 36524 * c + 1461 * q + 365 * t + s ∧ c ≤ 3 ∧ q ≤ 24 ∧ t ≤ 3 ∧
      (s ≤ 364 ∨ s = 365 ∧ t = 3 ∧ (q < 24 ∨ c = 3)) := by
  obtain ⟨c, r, hday, hc⟩ : ∃ c r, day = 36524 * c + r ∧ (c ≤ 2 ∧ r < 36524 ∨ c = 3 ∧ r ≤ 36524) :=
    ⟨min (day / 36524) 3, day - 36524 * min (day / 36524) 3, by omega, by omega⟩
  obtain ⟨q, r', hr, hr'⟩ : ∃ q r', r = 1461 * q + r' ∧ r' < 1461 :=
    ⟨r / 1461, r % 1461, (Nat.div_add_mod r 1461).symm, Nat.mod_lt r (by decide)⟩
  obtain ⟨t, s, hs, ht⟩ : ∃ t s, r' = 365 * t + s ∧ (t ≤ 2 ∧ s ≤ 364 ∨ t = 3 ∧ s ≤ 365) :=
    ⟨min (r' / 365) 3, r' - 365 * min (r' / 365) 3, by omega, by omega⟩
  exact ⟨c, q, t, s, by omega⟩

/-- The year of a day in its era. -/
def yearOfEra (day : Nat) : Nat :=
  (day - day / 1460 + day / 36524 - day / 146096) / 365

section

variable {c q t s : Nat} (hc : c ≤ 3) (hq : q ≤ 24) (ht : t ≤ 3)
  (hs : s ≤ 364 ∨ s = 365 ∧ t = 3 ∧ (q < 24 ∨ c = 3))

include hc hq ht hs

theorem century_eq {day : Nat} (hday : day = 36524 * c + 1461 * q + 365 * t + s) :
    day / 36524 = c + day / 146096 := by
  have hcentury : 36524 * c ≤ day ∧ (day < 36524 * (c + 1) ∨ day = 146096 ∧ c = 3) := by omega
  -- Here and below the cases of `hs` are done with; the divisions are slow with them in sight.
  clear hday hs
  omega

/-- Counted in groups of 1460 days, one more is full at the end of some last years of a group. -/
theorem exists_group {day : Nat} (hday : day = 36524 * c + 1461 * q + 365 * t + s) :
    ∃ e, day / 1460 = 25 * c + q + e ∧ e ≤ s ∧ s < 365 + e := by
  have hsplit : day = 1460 * (25 * c + q) + (24 * c + q + 365 * t + s) := by omega
  have hbound : (24 * c + q + 365 * t + s) / 1460 ≤ s ∧
      s < 365 + (24 * c + q + 365 * t + s) / 1460 := by
    clear hday hsplit
    omega
  refine ⟨(24 * c + q + 365 * t + s) / 1460, ?_, hbound⟩
  rw [hsplit, Nat.mul_add_div (by decide)]

theorem yearOfEra_eq {day : Nat} (hday : day = 36524 * c + 1461 * q + 365 * t + s) :
    yearOfEra day = 100 * c + 4 * q + t := by
  have hcentury := century_eq hc hq ht hs hday
  obtain ⟨e, hgroup, hle, hlt⟩ := exists_group hc hq ht hs hday
  have hrest : day - day / 1460 + day / 36524 - day / 146096 =
      365 * (100 * c + 4 * q + t) + (s - e) := by
    rw [hcentury, hgroup]
    clear hcentury hgroup hlt hs
    omega
  have hlt : s - e < 365 := Nat.sub_lt_left_of_lt_add hle (by rwa [Nat.add_comm])
  rw [yearOfEra, hrest, Nat.mul_add_div (by decide), Nat.div_eq_of_lt hlt, Nat.add_zero]

end

/-! ## From March to March -/

/-- The date some days after the first of March of a year. -/
def ofMarch (year day : Nat) : Date :=
  let month := (5 * day + 2) / 153
  if month < 10 then ⟨year, month + 3, day - (153 * month + 2) / 5 + 1⟩
  else ⟨year + 1, month - 9, day - (153 * month + 2) / 5 + 1⟩

theorem ofMarch_cases (year : Nat) {day : Nat} (h : day ≤ 365) : ∃ m r, day = (153 * m + 2) / 5 + r ∧
    day < (153 * (m + 1) + 2) / 5 ∧
    (m < 10 ∧ ofMarch year day = ⟨year, m + 3, r + 1⟩ ∨
      m = 10 ∧ ofMarch year day = ⟨year + 1, 1, r + 1⟩ ∨
      m = 11 ∧ ofMarch year day = ⟨year + 1, 2, r + 1⟩) := by
  obtain ⟨m, hm⟩ : ∃ m, (5 * day + 2) / 153 = m := ⟨_, rfl⟩
  refine ⟨m, day - (153 * m + 2) / 5, by omega, by omega, ?_⟩
  rw [ofMarch, hm]
  by_cases hten : m < 10
  · exact .inl ⟨hten, if_pos hten⟩
  · right
    rcases (by omega : m = 10 ∨ m = 11) with rfl | rfl
    · exact .inl ⟨rfl, rfl⟩
    · exact .inr ⟨rfl, rfl⟩

theorem isValid_ofMarch {year day : Nat} (h : day ≤ 364 ∨ day = 365 ∧ IsLeap (year + 1)) :
    (ofMarch year day).IsValid := by
  obtain ⟨m, r, hday, hlt, ⟨hm, heq⟩ | ⟨rfl, heq⟩ | ⟨rfl, heq⟩⟩ :=
    ofMarch_cases year (by omega : day ≤ 365)
  · have hlength := monthsBefore_succ year (Nat.le_add_left 1 (m + 2))
    rw [monthsBefore_march year hm.le, show m + 2 + 1 + 1 = m + 1 + 3 from rfl,
      monthsBefore_march year hm] at hlength
    rw [heq]
    constructor
    · exact Nat.le_add_left 1 (m + 2)
    · exact Nat.add_le_add_right (Nat.le_of_lt_succ hm) 3
    · exact Nat.le_add_left 1 r
    · change r + 1 ≤ monthLength year (m + 2 + 1)
      omega
  · rw [heq]
    constructor
    · exact le_refl 1
    · exact Nat.le_add_left 1 11
    · exact Nat.le_add_left 1 r
    · change r + 1 ≤ 31
      omega
  · rw [heq]
    constructor
    · exact Nat.le_succ 1
    · exact Nat.le_add_left 2 10
    · exact Nat.le_add_left 1 r
    · change r + 1 ≤ if IsLeap (year + 1) then 29 else 28
      rcases h with h | ⟨h, hleap⟩
      · split <;> omega
      · rw [if_pos hleap]
        omega

theorem daysBefore_ofMarch (year : Nat) {day : Nat} (h : day ≤ 365) :
    (ofMarch year day).daysBefore + 306 = yearsBefore (year + 1) + day := by
  have hyear : yearLength year = 306 + 31 + monthLength year 2 := by
    rw [← monthsBefore_thirteen, monthsBefore_march year (le_refl 10)]
  obtain ⟨m, r, hday, hlt, ⟨hm, heq⟩ | ⟨rfl, heq⟩ | ⟨rfl, heq⟩⟩ := ofMarch_cases year h
  · rw [heq, daysBefore, monthsBefore_march year hm.le, yearsBefore_succ, hyear]
    simp only [Nat.add_sub_cancel]
    omega
  · rw [heq, daysBefore]
    simp only [Nat.add_sub_cancel]
    have hnone : monthsBefore (year + 1) 1 = 0 := rfl
    omega
  · rw [heq, daysBefore]
    simp only [Nat.add_sub_cancel]
    have hjanuary : monthsBefore (year + 1) 2 = 31 := rfl
    omega

/-! ## Days after the first of January 1970 -/

theorem ofDays_eq (n : Nat) :
    ofDays n = ofMarch (400 * ((n + epoch) / 146097) + yearOfEra ((n + epoch) % 146097))
      ((n + epoch) % 146097 - (365 * yearOfEra ((n + epoch) % 146097) +
        yearOfEra ((n + epoch) % 146097) / 4 - yearOfEra ((n + epoch) % 146097) / 100)) :=
  rfl

theorem exists_ofMarch (n : Nat) : ∃ year day, ofDays n = ofMarch year day ∧
    day + 365 * year + year / 4 + year / 400 = n + epoch + year / 100 ∧
    (day ≤ 364 ∨ day = 365 ∧ IsLeap (year + 1)) := by
  obtain ⟨c, q, t, s, hday, hc, hq, ht, hs⟩ :=
    exists_dayOfEra (Nat.mod_lt (n + epoch) (by decide : 0 < 146097))
  have hyear := yearOfEra_eq hc hq ht hs hday
  have hera := Nat.div_add_mod (n + epoch) 146097
  obtain ⟨era, hdiv⟩ : ∃ era, (n + epoch) / 146097 = era := ⟨_, rfl⟩
  have hrest : 36524 * c + 1461 * q + 365 * t + s - (365 * (100 * c + 4 * q + t) +
      (100 * c + 4 * q + t) / 4 - (100 * c + 4 * q + t) / 100) = s := by
    clear hs hday hera
    omega
  refine ⟨400 * era + (100 * c + 4 * q + t), s, ?_, ?_, ?_⟩
  · rw [ofDays_eq, hyear, hday, hdiv, hrest]
  · rw [hday, hdiv] at hera
    rw [← hera]
    clear hs hday hera hrest
    omega
  · refine hs.imp_right fun ⟨hs, ht, hlast⟩ => ⟨hs, ?_⟩
    rw [IsLeap]
    clear hday hera hrest hyear hs
    omega

theorem isValid_ofDays (n : Nat) : (ofDays n).IsValid := by
  obtain ⟨year, day, heq, -, hday⟩ := exists_ofMarch n
  rw [heq]
  exact isValid_ofMarch hday

theorem daysBefore_ofDays (n : Nat) :
    (ofDays n).daysBefore = daysBefore ⟨1970, 1, 1⟩ + n := by
  obtain ⟨year, day, heq, hcount, hday⟩ := exists_ofMarch n
  have hbefore := daysBefore_ofMarch year (by omega : day ≤ 365)
  have hyears := yearsBefore_succ_eq year
  have hfirst : daysBefore ⟨1970, 1, 1⟩ = yearsBefore 1970 := by simp [daysBefore, monthsBefore]
  have hepoch : yearsBefore 1970 = 719528 := by simpa using yearsBefore_succ_eq 1969
  rw [heq, hfirst]
  rw [epoch] at hcount
  omega

/-- Counting from March on in eras leads back to the day that was counted. -/
theorem toDays_ofMarch (year : Nat) {day : Nat} (h : day ≤ 365) :
    toDays (ofMarch year day) = day + 365 * year + year / 4 + year / 400 - year / 100 - epoch := by
  have hera : 146097 * (year / 400) + (365 * (year % 400) + year % 400 / 4 - year % 400 / 100 + day) =
      day + 365 * year + year / 4 + year / 400 - year / 100 := by omega
  obtain ⟨m, r, hday, -, ⟨hm, heq⟩ | ⟨rfl, heq⟩ | ⟨rfl, heq⟩⟩ := ofMarch_cases year h
  · have hmarch : ¬ m + 3 ≤ 2 := by omega
    rw [heq, ← hera, hday]
    simp [toDays, hmarch]
  · rw [heq, ← hera, hday]
    simp [toDays]
  · rw [heq, ← hera, hday]
    simp [toDays]

theorem toDays_ofDays (n : Nat) : toDays (ofDays n) = n := by
  obtain ⟨year, day, heq, hcount, hday⟩ := exists_ofMarch n
  rw [heq, toDays_ofMarch year (by omega)]
  omega

/-! ## Order -/

theorem monotone_yearsBefore : Monotone yearsBefore :=
  monotone_nat_of_le_succ fun year => (yearsBefore_succ year).symm ▸ Nat.le_add_right _ _

theorem monotone_monthsBefore (year : Nat) : Monotone (monthsBefore year) := by
  refine monotone_nat_of_le_succ fun month => ?_
  cases month with
  | zero => exact le_refl 0
  | succ month => exact (monthsBefore_succ year (Nat.le_add_left 1 month)).symm ▸ Nat.le_add_right _ _

namespace IsValid

variable {d e : Date}

theorem month_lt_succ (h : d.IsValid) :
    monthsBefore d.year d.month + (d.day - 1) < monthsBefore d.year (d.month + 1) := by
  rw [monthsBefore_succ d.year h.one_le_month]
  have hpos := h.one_le_day
  have hle := h.day_le
  omega

theorem year_lt_succ (h : d.IsValid) : d.daysBefore < yearsBefore (d.year + 1) := by
  have hmonth : monthsBefore d.year (d.month + 1) ≤ monthsBefore d.year 13 :=
    monotone_monthsBefore d.year (Nat.succ_le_succ h.month_le)
  rw [monthsBefore_thirteen] at hmonth
  have hlt := h.month_lt_succ
  rw [yearsBefore_succ, daysBefore]
  omega

/-- Fewer days lie before a date exactly if it comes first in the order of years, months, days. -/
theorem daysBefore_lt_iff (hd : d.IsValid) (he : e.IsValid) : d.daysBefore < e.daysBefore ↔
    d.year < e.year ∨ d.year = e.year ∧ (d.month < e.month ∨ d.month = e.month ∧ d.day < e.day) := by
  have hyear := hd.year_lt_succ
  have hyear' := he.year_lt_succ
  rw [daysBefore, Nat.add_assoc] at hyear hyear'
  rw [daysBefore, daysBefore, Nat.add_assoc, Nat.add_assoc,
    add_lt_add_iff monotone_yearsBefore hyear hyear']
  refine or_congr_right (and_congr_right fun heq => ?_)
  have hmonth := hd.month_lt_succ
  have hmonth' := he.month_lt_succ
  rw [← heq] at hmonth' ⊢
  rw [add_lt_add_iff (monotone_monthsBefore d.year) hmonth hmonth']
  have hpos := hd.one_le_day
  have hpos' := he.one_le_day
  omega

/-- As many days lie before two dates exactly if neither comes before the other. -/
theorem daysBefore_eq_iff (hd : d.IsValid) (he : e.IsValid) : d.daysBefore = e.daysBefore ↔
    d.year = e.year ∧ d.month = e.month ∧ d.day = e.day := by
  have hlt := hd.daysBefore_lt_iff he
  have hgt := he.daysBefore_lt_iff hd
  omega

end IsValid

end PickupGame.Date

namespace PickupGame.Instant

open Numeral (add_lt_add_iff)

structure IsValid (t : Instant) : Prop where
  date : t.date.IsValid
  hour_lt : t.hour < 24
  minute_lt : t.minute < 60
  second_lt : t.second < 60

/-- The seconds from the beginning of the year 0 to an instant. -/
def secondsBefore (t : Instant) : Nat :=
  86400 * t.date.daysBefore + (3600 * t.hour + (60 * t.minute + t.second))

/-- The first of January 1970, at midnight. -/
def epoch : Instant :=
  ⟨⟨1970, 1, 1⟩, 0, 0, 0⟩

theorem isValid_ofSeconds (n : Nat) : (ofSeconds n).IsValid where
  date := Date.isValid_ofDays (n / 86400)
  hour_lt := by
    change n % 86400 / 3600 < 24
    omega
  minute_lt := Nat.mod_lt _ (by decide)
  second_lt := Nat.mod_lt _ (by decide)

theorem secondsBefore_ofSeconds (n : Nat) :
    (ofSeconds n).secondsBefore = epoch.secondsBefore + n := by
  have hepoch : epoch.secondsBefore = 86400 * Date.daysBefore ⟨1970, 1, 1⟩ := by
    simp [secondsBefore, epoch]
  have hclock : 3600 * (n % 86400 / 3600) + (60 * (n % 86400 / 60 % 60) + n % 86400 % 60) =
      n % 86400 := by omega
  rw [hepoch]
  simp only [secondsBefore, ofSeconds, hclock]
  rw [Date.daysBefore_ofDays, Nat.mul_add, Nat.add_assoc, Nat.div_add_mod]

theorem toSeconds_ofSeconds (n : Nat) : toSeconds (ofSeconds n) = n := by
  simp only [toSeconds, ofSeconds, Date.toDays_ofDays]
  omega

theorem ofSeconds_injective {m n : Nat} (h : ofSeconds m = ofSeconds n) : m = n := by
  rw [← toSeconds_ofSeconds m, h, toSeconds_ofSeconds]

/-- An instant comes before another in the order of its parts. -/
def Earlier (t u : Instant) : Prop :=
  t.date.year < u.date.year ∨ t.date.year = u.date.year ∧
    (t.date.month < u.date.month ∨ t.date.month = u.date.month ∧
      (t.date.day < u.date.day ∨ t.date.day = u.date.day ∧
        (t.hour < u.hour ∨ t.hour = u.hour ∧
          (t.minute < u.minute ∨ t.minute = u.minute ∧ t.second < u.second))))

namespace IsValid

variable {t u : Instant} (ht : t.IsValid) (hu : u.IsValid)

include ht hu

theorem clock_lt_iff : 3600 * t.hour + (60 * t.minute + t.second) <
      3600 * u.hour + (60 * u.minute + u.second) ↔
    t.hour < u.hour ∨ t.hour = u.hour ∧
      (t.minute < u.minute ∨ t.minute = u.minute ∧ t.second < u.second) := by
  have hminute := ht.minute_lt
  have hsecond := ht.second_lt
  have hminute' := hu.minute_lt
  have hsecond' := hu.second_lt
  omega

theorem secondsBefore_lt_iff : t.secondsBefore < u.secondsBefore ↔ t.Earlier u := by
  have hday : ∀ {v : Instant}, v.IsValid → 86400 * v.date.daysBefore +
      (3600 * v.hour + (60 * v.minute + v.second)) < 86400 * (v.date.daysBefore + 1) := fun h => by
    have hhour := h.hour_lt
    have hminute := h.minute_lt
    have hsecond := h.second_lt
    omega
  have hmono : Monotone (86400 * ·) := fun a b hab => Nat.mul_le_mul_left 86400 hab
  rw [secondsBefore, secondsBefore, add_lt_add_iff hmono (hday ht) (hday hu),
    ht.clock_lt_iff hu, ht.date.daysBefore_lt_iff hu.date, ht.date.daysBefore_eq_iff hu.date, Earlier]
  simp only [and_or_left, or_assoc, and_assoc]

end IsValid

end PickupGame.Instant
