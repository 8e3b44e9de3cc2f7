import Mathlib.Tactic.NormNum
import Mathlib.Tactic.Ring
import TableApi.Calendar.Date

/-!
Dates and the numbers of their days. In a year that begins in March a leap day comes last, so the
days before such a year and before one of its months are counted without a case for leap years. Every
number is that of one date, and later dates have larger numbers.
-/

namespace TableApi.Calendar

/-- The days from the beginning of the year 0 to that of another, both in March. -/
def daysBefore (year : Int) : Int := 365 * year + year / 4 - year / 100 + year / 400

/-- A year from March to March has its leap day in the February at its end. -/
theorem daysBefore_succ (year : Int) :
    daysBefore (year + 1) = daysBefore year + 365 + if isLeap (year + 1) then 1 else 0 := by
  unfold daysBefore isLeap
  split
  · rename_i hleap
    simp only [Bool.and_eq_true, Bool.or_eq_true, bne_iff_ne, decide_eq_true_eq] at hleap
    omega
  · rename_i hcommon
    simp only [Bool.and_eq_true, Bool.or_eq_true, bne_iff_ne, decide_eq_true_eq] at hcommon
    omega

theorem daysBefore_mono {a b : Int} (h : a ≤ b) : daysBefore a ≤ daysBefore b := by
  unfold daysBefore
  omega

/-- The days before a month of a year that begins in March; March is month 0. -/
def daysBeforeMonth (month : Int) : Int := (153 * month + 2) / 5

namespace Date

structure IsDay (d : Date) : Prop where
  month_pos : 1 ≤ d.month
  month_le : d.month ≤ 12
  day_pos : 1 ≤ d.day
  day_le : d.day ≤ daysInMonth d.year d.month

theorem isValid_iff (d : Date) :
    d.isValid = true ↔ d.IsDay ∧ firstYear ≤ d.year ∧ d.year ≤ lastYear := by
  simp only [isValid, Bool.and_eq_true, decide_eq_true_eq]
  constructor
  · rintro ⟨⟨⟨⟨⟨h1, h2⟩, h3⟩, h4⟩, h5⟩, h6⟩
    exact ⟨⟨h3, h4, h5, h6⟩, h1, h2⟩
  · rintro ⟨⟨h3, h4, h5, h6⟩, h1, h2⟩
    exact ⟨⟨⟨⟨⟨h1, h2⟩, h3⟩, h4⟩, h5⟩, h6⟩

/-! ### Years that begin in March -/

/-- The year that began in the March before a date, and the month in it. -/
def marchYear (d : Date) : Int := if d.month ≤ 2 then d.year - 1 else d.year

def marchMonth (d : Date) : Int := if d.month ≤ 2 then d.month + 9 else d.month - 3

def dayOfYear (d : Date) : Int := daysBeforeMonth d.marchMonth + d.day - 1

theorem dayNumber_eq (d : Date) :
    d.dayNumber = daysBefore d.marchYear + d.dayOfYear - 719468 := by
  have hera (year rest : Int) : year / 400 * 146097 + year % 400 * 365 + year % 400 / 4 -
      year % 400 / 100 + rest - 719468 = daysBefore year + rest - 719468 := by
    unfold daysBefore
    omega
  exact hera d.marchYear d.dayOfYear

namespace IsDay

variable {d e : Date}

theorem day_lt (h : d.IsDay) : d.day < 32 := by
  have hle := h.day_le
  unfold daysInMonth at hle
  split_ifs at hle <;> omega

theorem march_spec (h : d.IsDay) :
    12 * d.marchYear + d.marchMonth = 12 * d.year + d.month - 3 ∧
      0 ≤ d.marchMonth ∧ d.marchMonth ≤ 11 := by
  have hpos := h.month_pos
  have hle := h.month_le
  unfold marchYear marchMonth
  split <;> omega

/-- A day of a month other than February comes before the next month begins. -/
theorem lt_next_month (h : d.IsDay) (hmonth : d.month ≠ 2) :
    d.dayOfYear < daysBeforeMonth (d.marchMonth + 1) := by
  obtain ⟨year, month, day⟩ := d
  obtain ⟨hpos, hle, -, hday⟩ := h
  dsimp only at hpos hle hday hmonth
  unfold dayOfYear marchMonth daysBeforeMonth
  dsimp only
  have hmonths : month = 1 ∨ month = 3 ∨ month = 4 ∨ month = 5 ∨ month = 6 ∨ month = 7 ∨
      month = 8 ∨ month = 9 ∨ month = 10 ∨ month = 11 ∨ month = 12 := by omega
  rcases hmonths with rfl | rfl | rfl | rfl | rfl | rfl | rfl | rfl | rfl | rfl | rfl
  all_goals
    simp only [daysInMonth] at hday
    norm_num at hday ⊢
    omega

/-- No date reaches into the next March. -/
theorem lt_next_year (h : d.IsDay) :
    daysBefore d.marchYear + d.dayOfYear < daysBefore (d.marchYear + 1) := by
  rw [daysBefore_succ]
  by_cases hmonth : d.month = 2
  · -- the year ends with the last day of February
    have hday := h.day_le
    have hyear : d.marchYear + 1 = d.year := by
      rw [marchYear, if_pos (by omega)]
      omega
    rw [hmonth, daysInMonth, if_pos rfl] at hday
    rw [hyear, dayOfYear, marchMonth, if_pos (by omega), daysBeforeMonth, hmonth]
    cases hleap : isLeap d.year with
    | true =>
      rw [hleap, if_pos rfl] at hday
      rw [if_pos rfl]
      omega
    | false =>
      rw [hleap] at hday
      simp only [Bool.false_eq_true, if_false] at hday ⊢
      omega
  · have hnext := h.lt_next_month hmonth
    have hle := h.month_le
    have hpos := h.month_pos
    have hbound : daysBeforeMonth (d.marchMonth + 1) ≤ 337 := by
      unfold daysBeforeMonth marchMonth
      split <;> omega
    split <;> omega

theorem dayOfYear_nonneg (h : d.IsDay) : 0 ≤ d.dayOfYear := by
  have hday := h.day_pos
  have hpos := h.month_pos
  unfold dayOfYear marchMonth daysBeforeMonth
  split <;> omega

end IsDay

/-! ### The order of dates -/

def Before (d e : Date) : Prop :=
  d.year < e.year ∨ d.year = e.year ∧ (d.month < e.month ∨ d.month = e.month ∧ d.day < e.day)

theorem before_or_eq_or_before (d e : Date) : d.Before e ∨ d = e ∨ e.Before d := by
  obtain ⟨year, month, day⟩ := d
  obtain ⟨year', month', day'⟩ := e
  simp only [Before, Date.mk.injEq]
  omega

/-- Earlier dates lie in an earlier year that begins in March, or on an earlier day of it. -/
theorem march_lt_of_before {d e : Date} (hd : d.IsDay) (he : e.IsDay) (h : d.Before e) :
    d.marchYear < e.marchYear ∨ d.marchYear = e.marchYear ∧ d.dayOfYear < e.dayOfYear := by
  obtain ⟨hdmonths, hdpos, hdle⟩ := hd.march_spec
  obtain ⟨hemonths, hepos, hele⟩ := he.march_spec
  have hmonths : d.marchYear < e.marchYear ∨ d.marchYear = e.marchYear ∧
      (d.marchMonth < e.marchMonth ∨ d.marchMonth = e.marchMonth ∧ d.day < e.day) := by
    have hdle := hd.month_le
    have hepos := he.month_pos
    unfold Before at h
    omega
  rcases hmonths with hyear | ⟨hyear, hmonth | ⟨hmonth, hday⟩⟩
  · exact .inl hyear
  · -- the month of the later date begins after the one of the earlier date has ended
    have hnext := hd.lt_next_month (by omega)
    have hmono : daysBeforeMonth (d.marchMonth + 1) ≤ daysBeforeMonth e.marchMonth := by
      unfold daysBeforeMonth
      omega
    have hday := he.day_pos
    refine .inr ⟨hyear, ?_⟩
    rw [dayOfYear] at hnext ⊢
    rw [dayOfYear]
    omega
  · refine .inr ⟨hyear, ?_⟩
    rw [dayOfYear, dayOfYear, hmonth]
    omega

/-- Later dates have larger numbers. -/
theorem dayNumber_lt_of_before {d e : Date} (hd : d.IsDay) (he : e.IsDay) (h : d.Before e) :
    d.dayNumber < e.dayNumber := by
  have hdend := hd.lt_next_year
  have hestart := he.dayOfYear_nonneg
  rw [dayNumber_eq, dayNumber_eq]
  rcases march_lt_of_before hd he h with hyear | ⟨hyear, hday⟩
  · have hmono := daysBefore_mono (show d.marchYear + 1 ≤ e.marchYear by omega)
    omega
  · rw [hyear]
    omega

theorem eq_of_dayNumber_eq {d e : Date} (hd : d.IsDay) (he : e.IsDay)
    (h : d.dayNumber = e.dayNumber) : d = e := by
  rcases before_or_eq_or_before d e with hbefore | heq | hbefore
  · have hlt := dayNumber_lt_of_before hd he hbefore
    omega
  · exact heq
  · have hlt := dayNumber_lt_of_before he hd hbefore
    omega

/-! ### The date of a number -/

def ofDayOfYear (year day : Int) : Date :=
  let month := (5 * day + 2) / 153
  let day := day - daysBeforeMonth month + 1
  if month < 10 then { year, month := (month + 3).toNat, day := day.toNat }
  else { year := year + 1, month := (month - 9).toNat, day := day.toNat }

theorem march_ofDayOfYear (year : Int) {day : Int} (hfirst : 0 ≤ day) (hlast : day ≤ 365) :
    (ofDayOfYear year day).marchYear = year ∧ (ofDayOfYear year day).dayOfYear = day := by
  obtain ⟨month, hmonth⟩ : ∃ month, (5 * day + 2) / 153 = month := ⟨_, rfl⟩
  simp only [ofDayOfYear, hmonth, marchYear, dayOfYear, marchMonth, daysBeforeMonth]
  split
  · dsimp only
    rw [if_neg (by omega), if_neg (by omega)]
    omega
  · dsimp only
    rw [if_pos (by omega), if_pos (by omega)]
    omega

theorem dayNumber_ofDayOfYear {year day : Int} (hfirst : 0 ≤ day) (hlast : day ≤ 365) :
    (ofDayOfYear year day).dayNumber = daysBefore year + day - 719468 := by
  obtain ⟨hyear, hday⟩ := march_ofDayOfYear year hfirst hlast
  rw [dayNumber_eq, hyear, hday]

theorem isDay_ofDayOfYear {year day : Int} (hfirst : 0 ≤ day)
    (hlast : daysBefore year + day < daysBefore (year + 1)) : (ofDayOfYear year day).IsDay := by
  rw [daysBefore_succ] at hlast
  obtain ⟨month, hmonth⟩ : ∃ month, (5 * day + 2) / 153 = month := ⟨_, rfl⟩
  have hday : day ≤ 365 := by split at hlast <;> omega
  simp only [ofDayOfYear, hmonth, daysBeforeMonth]
  split
  · rename_i hlt
    have hmonths : month = 0 ∨ month = 1 ∨ month = 2 ∨ month = 3 ∨ month = 4 ∨ month = 5 ∨
        month = 6 ∨ month = 7 ∨ month = 8 ∨ month = 9 := by omega
    rcases hmonths with rfl | rfl | rfl | rfl | rfl | rfl | rfl | rfl | rfl | rfl
    all_goals
      constructor <;> norm_num [daysInMonth] <;> omega
  · rename_i hge
    have hmonths : month = 10 ∨ month = 11 := by omega
    rcases hmonths with rfl | rfl
    · constructor <;> norm_num [daysInMonth] <;> omega
    · -- February, the last month, is as long as the year that begins after it has it
      constructor <;> norm_num [daysInMonth]
      · omega
      · cases hleap : isLeap (year + 1) with
        | true =>
          rw [hleap, if_pos rfl] at hlast
          rw [if_pos rfl]
          omega
        | false =>
          rw [hleap] at hlast
          simp only [Bool.false_eq_true, if_false] at hlast ⊢
          omega

theorem daysBefore_of_century {century four one : Int} (hc : 0 ≤ century ∧ century ≤ 3)
    (hf : 0 ≤ four ∧ four ≤ 24) (ho : 0 ≤ one ∧ one ≤ 3) :
    daysBefore (100 * century + 4 * four + one) = 36524 * century + 1461 * four + 365 * one := by
  have hfours : (100 * century + 4 * four + one) / 4 = 25 * century + four := by omega
  have hhundreds : (100 * century + 4 * four + one) / 100 = century := by omega
  have heras : (100 * century + 4 * four + one) / 400 = 0 := by omega
  rw [daysBefore, hfours, hhundreds, heras]
  ring

/-- In an era of four hundred years, the year in which a day falls. -/
theorem yearOfEra_spec {day year : Int} (hfirst : 0 ≤ day) (hlast : day ≤ 146096)
    (hyear : (day - day / 1460 + day / 36524 - day / 146096) / 365 = year) :
    0 ≤ year ∧ year ≤ 399 ∧ daysBefore year ≤ day ∧ day < daysBefore (year + 1) := by
  by_cases hend : day = 146096
  · subst hend
    obtain rfl : 399 = year := hyear
    decide
  · -- the day of four years of a century, and whether the leap days before it make up a year
    obtain ⟨century, hcentury⟩ : ∃ century, day / 36524 = century := ⟨_, rfl⟩
    obtain ⟨four, hfour⟩ : ∃ four, (day - 36524 * century) / 1461 = four := ⟨_, rfl⟩
    obtain ⟨rest, rfl⟩ : ∃ rest, day = 36524 * century + 1461 * four + rest :=
      ⟨day - 36524 * century - 1461 * four, by omega⟩
    have hc : 0 ≤ century ∧ century ≤ 3 := by omega
    have hf : 0 ≤ four ∧ four ≤ 24 := by omega
    have hr : 0 ≤ rest ∧ rest ≤ 1460 := by omega
    have hcenturyEnd : four = 24 → rest ≤ 1459 := by omega
    obtain ⟨leaps, hleaps⟩ : ∃ leaps, (24 * century + four + rest) / 1460 = leaps := ⟨_, rfl⟩
    have hleaps' : (36524 * century + 1461 * four + rest) / 1460 =
        25 * century + four + leaps := by omega
    have hzero : (36524 * century + 1461 * four + rest) / 146096 = 0 := by omega
    obtain ⟨one, hone⟩ : ∃ one, (rest - leaps) / 365 = one := ⟨_, rfl⟩
    have hyears : year = 100 * century + 4 * four + one := by
      rw [hzero, hcentury, hleaps'] at hyear
      omega
    clear hyear hzero hleaps' hcentury hfour hfirst hlast hend
    have ho : 0 ≤ one ∧ one ≤ 3 := by omega
    have hlastYear : one ≤ 2 → rest < 365 * one + 365 := by omega
    rw [hyears, daysBefore_of_century hc hf ho]
    refine ⟨by omega, by omega, by omega, ?_⟩
    rcases lt_or_eq_of_le ho.2 with hlt | rfl
    · rw [Int.add_assoc _ one 1, daysBefore_of_century hc hf (by omega)]
      omega
    · unfold daysBefore
      omega

/-- A number is that of a day in a year that begins in March. -/
theorem exists_ofDayNumber (n : Int) :
    ∃ year day, 0 ≤ day ∧ daysBefore year + day < daysBefore (year + 1) ∧
      n = daysBefore year + day - 719468 ∧ ofDayNumber n = ofDayOfYear year day := by
  obtain ⟨era, hera⟩ : ∃ era, (n + 719468) / 146097 = era := ⟨_, rfl⟩
  obtain ⟨day, hday⟩ : ∃ day, (n + 719468) % 146097 = day := ⟨_, rfl⟩
  obtain ⟨year, hyear⟩ :
    ∃ year, (day - day / 1460 + day / 36524 - day / 146096) / 365 = year := ⟨_, rfl⟩
  obtain ⟨hpos, hle, hfirst, hlast⟩ := yearOfEra_spec (by omega) (by omega) hyear
  have heras (k : Int) : daysBefore (k + era * 400) = era * 146097 + daysBefore k := by
    unfold daysBefore
    omega
  have hbefore : 365 * year + year / 4 - year / 100 = daysBefore year := by
    unfold daysBefore
    omega
  refine ⟨year + era * 400, day - daysBefore year, by omega, ?_, ?_, ?_⟩
  · rw [show year + era * 400 + 1 = year + 1 + era * 400 by omega, heras, heras]
    omega
  · rw [heras]
    omega
  · simp only [ofDayNumber, hera, hday, hyear, hbefore, ofDayOfYear, daysBeforeMonth]

theorem dayNumber_ofDayNumber (n : Int) : (ofDayNumber n).dayNumber = n := by
  obtain ⟨year, day, hfirst, hlast, hn, hdate⟩ := exists_ofDayNumber n
  rw [daysBefore_succ] at hlast
  have hday : day ≤ 365 := by split at hlast <;> omega
  rw [hdate, dayNumber_ofDayOfYear hfirst hday, hn]

theorem isDay_ofDayNumber (n : Int) : (ofDayNumber n).IsDay := by
  obtain ⟨year, day, hfirst, hlast, -, hdate⟩ := exists_ofDayNumber n
  rw [hdate]
  exact isDay_ofDayOfYear hfirst hlast

theorem ofDayNumber_dayNumber {d : Date} (h : d.IsDay) : ofDayNumber d.dayNumber = d :=
  eq_of_dayNumber_eq (isDay_ofDayNumber _) h (dayNumber_ofDayNumber _)

def firstDay : Date := { year := firstYear, month := 1, day := 1 }
def lastDay : Date := { year := lastYear, month := 12, day := 31 }

/-- The numbers between the first and the last day are those of dates. -/
theorem isValid_ofDayNumber {n : Int} (hfirst : firstDay.dayNumber ≤ n)
    (hlast : n ≤ lastDay.dayNumber) : (ofDayNumber n).isValid = true := by
  have hday := isDay_ofDayNumber n
  have hnumber := dayNumber_ofDayNumber n
  refine (isValid_iff _).2 ⟨hday, ?_, ?_⟩
  · by_contra hyear
    have hlt := dayNumber_lt_of_before hday (by constructor <;> decide : firstDay.IsDay)
      (.inl (Int.not_le.1 hyear))
    omega
  · by_contra hyear
    have hlt := dayNumber_lt_of_before (by constructor <;> decide : lastDay.IsDay) hday
      (.inl (Int.not_le.1 hyear))
    omega

end Date

end TableApi.Calendar
