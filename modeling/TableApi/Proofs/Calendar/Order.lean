import TableApi.Proofs.Calendar.RoundTrip

/-!
The order of instants and that of the texts that are bound for them. After the year a text has parts
of two digits, so within a year the order of texts is that of time. Over years it is the order of the
years' texts, and that is the order of the years as long as they have four digits.
-/

namespace TableApi.Calendar

open Text (byteOrder byteOrder_append_left byteOrder_append_right byteOrder_digits_append
  byteOrder_same byteOrder_self isDigit_of_mem_padded length_padded padded)

/-! ### Years -/

def yearMark (year : Int) : List Char := (yearText year).toList ++ ['-']

theorem ascii_of_isDigit {c : Char} (h : c.isDigit = true) : c.toNat ≤ 127 := by
  have hle := (Text.toNat_of_isDigit h).2
  omega

theorem ascii_yearMark {year : Int} : ∀ c ∈ yearMark year, c.toNat ≤ 127 := by
  intro c hc
  rw [yearMark, List.mem_append, List.mem_singleton] at hc
  rcases hc with hc | rfl
  · by_cases hyear : 0 ≤ year ∧ year ≤ 9999
    · rw [toList_yearText_digits hyear] at hc
      exact ascii_of_isDigit (isDigit_of_mem_padded c hc)
    · rw [toList_yearText_sign hyear, List.mem_cons] at hc
      rcases hc with rfl | hc
      · split <;> decide
      · exact ascii_of_isDigit (isDigit_of_mem_padded c hc)
  · decide

/-- The mark of a year begins no other year's: what is read is the year itself. -/
theorem eq_of_yearMark_prefix {y z : Int} (h : yearMark y <+: yearMark z) : y = z := by
  obtain ⟨rest, hrest⟩ := h
  have hy : (Item.loose .year 4).read? {} (yearMark z) =
      some (({} : Fields).set .year y, '-' :: rest) := by
    rw [← hrest, yearMark, List.append_assoc]
    exact read?_loose_year y
  rw [yearMark, read?_loose_year z] at hy
  exact (congrArg (fun x => x.1.date.year) (Option.some.inj hy)).symm

theorem byteOrder_of_years {y z : Int} (h : y ≠ z) (a b : List Char) :
    byteOrder (yearMark y ++ a) (yearMark z ++ b) = byteOrder (yearMark y) (yearMark z) :=
  byteOrder_append_right ascii_yearMark ascii_yearMark (mt eq_of_yearMark_prefix h)
    (mt eq_of_yearMark_prefix h.symm) a b

/-- Years of four digits are in the order of their texts. -/
theorem byteOrder_yearMark_eq_lt_iff {y z : Int} (hy : 0 ≤ y ∧ y ≤ 9999) (hz : 0 ≤ z ∧ z ≤ 9999) :
    byteOrder (yearMark y) (yearMark z) = .lt ↔ y < z := by
  have hylength := length_padded (n := y.toNat) (show 0 < 4 by decide) (by omega)
  have hzlength := length_padded (n := z.toNat) (show 0 < 4 by decide) (by omega)
  rw [yearMark, yearMark, toList_yearText_digits hy, toList_yearText_digits hz,
    byteOrder_digits_append isDigit_of_mem_padded isDigit_of_mem_padded
      (hylength.trans hzlength.symm),
    Text.digitsValue_padded, Text.digitsValue_padded, byteOrder_self, Ordering.then_eq,
    Nat.compare_eq_lt]
  omega

/-! ### Instants -/

namespace Instant

variable {t u : Instant}

/-- The order of time in whole seconds; a leap second comes after the second it is counted as. -/
def Before (t u : Instant) : Prop :=
  t.seconds < u.seconds ∨
    t.seconds = u.seconds ∧ t.isLeapSecond = false ∧ u.isLeapSecond = true

theorem toList_text_eq (t : Instant) : t.text.toList = yearMark t.date.year ++ t.afterYear := by
  rw [toList_text, yearMark, List.append_assoc, List.singleton_append]

theorem isDay_date (t : Instant) : t.date.IsDay := Date.isDay_ofDayNumber _

/-- Two digits are compared as a number. -/
theorem byteOrder_padded {m n : Nat} (hm : m < 100) (hn : n < 100) (x y : List Char) :
    byteOrder ((padded 2 m).toList ++ x) ((padded 2 n).toList ++ y) =
      (compare m n).then (byteOrder x y) := by
  have hlength := (length_padded (show 0 < 2 by decide) hm).trans
    (length_padded (show 0 < 2 by decide) hn).symm
  rw [byteOrder_digits_append isDigit_of_mem_padded isDigit_of_mem_padded hlength,
    Text.digitsValue_padded, Text.digitsValue_padded]

/-- Parts of two digits compare as their numbers, from the month down to the second. -/
theorem byteOrder_afterYear (t u : Instant) :
    byteOrder t.afterYear u.afterYear =
      (compare t.date.month u.date.month).then ((compare t.date.day u.date.day).then
        ((compare t.parts.hour u.parts.hour).then ((compare t.parts.minute u.parts.minute).then
          (compare t.parts.second u.parts.second)))) := by
  obtain ⟨hhour, hminute, hsecond⟩ := t.parts_bounds
  obtain ⟨hhour', hminute', hsecond'⟩ := u.parts_bounds
  have hmonth := t.isDay_date.month_le
  have hmonth' := u.isDay_date.month_le
  have hday := t.isDay_date.day_lt
  have hday' := u.isDay_date.day_lt
  have hlast := byteOrder_padded (m := t.parts.second) (n := u.parts.second) (by omega) (by omega)
    [] []
  rw [List.append_nil, List.append_nil, byteOrder_self, Ordering.then_eq] at hlast
  rw [afterYear, afterYear, byteOrder_padded (by omega) (by omega), byteOrder_same (by decide),
    byteOrder_padded (by omega) (by omega), byteOrder_same (by decide),
    byteOrder_padded (by omega) (by omega), byteOrder_same (by decide),
    byteOrder_padded (by omega) (by omega), byteOrder_same (by decide), hlast]

theorem seconds_eq (t : Instant) : t.seconds = t.date.dayNumber * 86400 + t.secondOfDay := by
  have hnumber : t.date.dayNumber = t.seconds / 86400 := Date.dayNumber_ofDayNumber _
  rw [hnumber, secondOfDay]
  omega

theorem secondOfDay_lt (t : Instant) : t.secondOfDay < 86400 := by
  rw [secondOfDay]
  omega

/-- Earlier dates have earlier instants. -/
theorem seconds_lt_of_date (h : t.date.Before u.date) : t.seconds < u.seconds := by
  have hnumber := Date.dayNumber_lt_of_before t.isDay_date u.isDay_date h
  have hsecond := t.secondOfDay_lt
  rw [seconds_eq t, seconds_eq u]
  omega

theorem lt_iff_div_mod (m n : Nat) :
    m < n ↔ m / 60 < n / 60 ∨ m / 60 = n / 60 ∧ m % 60 < n % 60 := by
  rcases Nat.lt_trichotomy (m / 60) (n / 60) with h | h | h <;> omega

theorem clock_parts (t : Instant) :
    t.parts.hour = t.secondOfDay / 60 / 60 ∧ t.parts.minute = t.secondOfDay / 60 % 60 :=
  ⟨(Nat.div_div_eq_div_mul t.secondOfDay 60 60).symm, rfl⟩

theorem secondOfDay_of_isLeapSecond (ht : t.IsRead) (h : t.isLeapSecond = true) :
    t.secondOfDay % 60 = 59 := by
  have hlast := ht.leap h
  rw [secondOfDay]
  omega

/-- In one minute the order of time is that of the seconds, of which a leap second is the last. -/
theorem before_iff_second (ht : t.IsRead) (hu : u.IsRead) (hdate : t.date = u.date)
    (hminute : t.secondOfDay / 60 = u.secondOfDay / 60) :
    t.Before u ↔ t.parts.second < u.parts.second := by
  have hleap_t := secondOfDay_of_isLeapSecond ht
  have hleap_u := secondOfDay_of_isLeapSecond hu
  rw [Before, seconds_eq t, seconds_eq u, hdate, second_parts, second_parts]
  cases hleap : t.isLeapSecond <;> cases hleap' : u.isLeapSecond <;>
    simp only [hleap, hleap', if_true, Bool.false_eq_true, if_false, reduceCtorEq, and_true,
      and_false, or_false, true_implies] at hleap_t hleap_u ⊢ <;> omega

/-- On one day the order of time is that of hours, minutes and seconds. -/
theorem before_iff_clock (ht : t.IsRead) (hu : u.IsRead) (hdate : t.date = u.date) :
    t.Before u ↔ t.parts.hour < u.parts.hour ∨ t.parts.hour = u.parts.hour ∧
      (t.parts.minute < u.parts.minute ∨ t.parts.minute = u.parts.minute ∧
        t.parts.second < u.parts.second) := by
  have hminutes := lt_iff_div_mod (t.secondOfDay / 60) (u.secondOfDay / 60)
  have hminutes' := lt_iff_div_mod (u.secondOfDay / 60) (t.secondOfDay / 60)
  rw [(clock_parts t).1, (clock_parts t).2, (clock_parts u).1, (clock_parts u).2]
  rcases Nat.lt_trichotomy (t.secondOfDay / 60) (u.secondOfDay / 60) with hlt | heq | hgt
  · have hbefore : t.Before u := by
      rw [Before, seconds_eq t, seconds_eq u, hdate]
      omega
    exact iff_of_true hbefore (by omega)
  · rw [before_iff_second ht hu hdate heq, heq]
    omega
  · have hafter : ¬t.Before u := by
      rw [Before, seconds_eq t, seconds_eq u, hdate]
      omega
    exact iff_of_false hafter (by omega)

/-- In one year the order of time is that of what follows the year. -/
theorem before_iff_afterYear (ht : t.IsRead) (hu : u.IsRead) (h : t.date.year = u.date.year) :
    t.Before u ↔ byteOrder t.afterYear u.afterYear = .lt := by
  rw [byteOrder_afterYear]
  simp only [Ordering.then_eq_lt, Nat.compare_eq_lt, Nat.compare_eq_eq]
  rcases Date.before_or_eq_or_before t.date u.date with hbefore | hdate | hafter
  · have hseconds := seconds_lt_of_date hbefore
    have hmonth : t.date.month < u.date.month ∨
        t.date.month = u.date.month ∧ t.date.day < u.date.day := by
      unfold Date.Before at hbefore
      omega
    exact iff_of_true (.inl hseconds) (by omega)
  · rw [before_iff_clock ht hu hdate, hdate]
    omega
  · have hseconds := seconds_lt_of_date hafter
    unfold Date.Before at hafter
    unfold Before
    omega

/-- Instants of different years stand in the order of their years. -/
theorem before_iff_year (h : t.date.year ≠ u.date.year) :
    t.Before u ↔ t.date.year < u.date.year := by
  constructor
  · intro hbefore
    by_contra hge
    have hlt := seconds_lt_of_date (t := u) (u := t) (.inl (by omega))
    unfold Before at hbefore
    omega
  · intro hlt
    exact .inl (seconds_lt_of_date (.inl hlt))

/-- The text tells the second, and whether it is a leap second. -/
theorem text_eq_iff (ht : t.IsRead) (hu : u.IsRead) :
    t.text = u.text ↔ t.seconds = u.seconds ∧ t.isLeapSecond = u.isLeapSecond := by
  constructor
  · intro htext
    have hread := read?_text ht
    rw [htext, read?_text hu] at hread
    have hwhole : u.whole = t.whole := Option.some.inj hread
    have hseconds : t.whole.seconds = u.whole.seconds := by rw [hwhole]
    refine ⟨hseconds, ?_⟩
    rw [← isLeapSecond_whole t, ← hwhole, isLeapSecond_whole]
  · rintro ⟨hseconds, hleap⟩
    rw [← text_whole t, ← text_whole u, whole, whole, hseconds, hleap]

/-- Texts and time have the same order exactly when the years and their texts have it. -/
theorem before_iff_text_iff (ht : t.IsRead) (hu : u.IsRead) :
    (t.Before u ↔ byteOrder t.text.toList u.text.toList = .lt) ↔
      (t.date.year < u.date.year ↔
        byteOrder (yearMark t.date.year) (yearMark u.date.year) = .lt) := by
  rw [toList_text_eq, toList_text_eq]
  by_cases hyear : t.date.year = u.date.year
  · rw [hyear, byteOrder_append_left ascii_yearMark, byteOrder_self]
    exact iff_of_true (before_iff_afterYear ht hu hyear) (by simp)
  · rw [byteOrder_of_years hyear, before_iff_year hyear]

/-- The texts bound for two dates are the same just when the dates agree in whole seconds. They are in
the order of time exactly when the years stand in the order of their texts, so in all years that have
four digits. -/
theorem bound_texts_ordered_by_year {v w : String} (hv : read? v = some t) (hw : read? w = some u) :
    (t.text = u.text ↔ t.seconds = u.seconds ∧ t.isLeapSecond = u.isLeapSecond) ∧
      ((t.Before u ↔ byteOrder t.text.toList u.text.toList = .lt) ↔
        (t.date.year < u.date.year ↔
          byteOrder (yearMark t.date.year) (yearMark u.date.year) = .lt)) ∧
      (0 ≤ t.date.year → t.date.year ≤ 9999 → 0 ≤ u.date.year → u.date.year ≤ 9999 →
        (t.Before u ↔ byteOrder t.text.toList u.text.toList = .lt)) := by
  have ht := isRead_of_read? hv
  have hu := isRead_of_read? hw
  refine ⟨text_eq_iff ht hu, before_iff_text_iff ht hu, ?_⟩
  intro htfirst htlast hufirst hulast
  rw [before_iff_text_iff ht hu]
  exact (byteOrder_yearMark_eq_lt_iff ⟨htfirst, htlast⟩ ⟨hufirst, hulast⟩).symm

/-- A leap second and the second after it, which begins another year. -/
theorem leap_second_text_before_new_year :
    read? "2016-12-31T23:59:60Z" = some { seconds := 1483228799, nanos := nanosPerSecond } ∧
      read? "2017-01-01" = some { seconds := 1483228800, nanos := 0 } ∧
      byteOrder "2016-12-31 23:59:60".toList "2017-01-01 00:00:00".toList = .lt := by
  have hleap : read? "2016-12-31T23:59:60Z" =
      some { seconds := 1483228799, nanos := nanosPerSecond } := by rfl
  have hnext : read? "2017-01-01" = some { seconds := 1483228800, nanos := 0 } := by rfl
  refine ⟨hleap, hnext, ?_⟩
  obtain ⟨-, -, hordered⟩ := bound_texts_ordered_by_year hleap hnext
  exact (hordered (by decide) (by decide) (by decide) (by decide)).1 (.inl (by decide))

/-- An hour west of universal time the year 9999 ends in the year 10000, which is written with a sign.
Its text stands before those of all years of four digits. -/
theorem year_10000_text_before_others :
    read? "2024-01-15T10:30:00Z" = some { seconds := 1705314600, nanos := 0 } ∧
      read? "9999-12-31T23:59:59-01:00" = some { seconds := 253402304399, nanos := 0 } ∧
      Before { seconds := 1705314600, nanos := 0 } { seconds := 253402304399, nanos := 0 } ∧
      ¬(Before { seconds := 1705314600, nanos := 0 } { seconds := 253402304399, nanos := 0 } ↔
        byteOrder (text { seconds := 1705314600, nanos := 0 }).toList
          (text { seconds := 253402304399, nanos := 0 }).toList = .lt) := by
  have hbefore : Before { seconds := 1705314600, nanos := 0 } { seconds := 253402304399, nanos := 0 } :=
    .inl (by decide)
  have htexts : byteOrder (text { seconds := 1705314600, nanos := 0 }).toList
      (text { seconds := 253402304399, nanos := 0 }).toList ≠ .lt := by decide
  exact ⟨by rfl, by rfl, hbefore, fun h => htexts (h.1 hbefore)⟩

end Instant

end TableApi.Calendar
