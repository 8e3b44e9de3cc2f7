import TableApi.Proofs.Calendar.Accepted
import TableApi.Proofs.Text.Blanks

/-!
Texts of instants read as instants. No format with an offset fits the text of an instant, and the next
one that is tried reads each part of the text back, so the text of an instant gives the instant again
without its fraction.
-/

namespace TableApi.Calendar

open Text (digitsValue isDigit_of_mem_padded length_padded padded padded_ne_nil)

/-! ### Numbers -/

theorem trimStart_cons {c : Char} (hc : Text.isBlank c = false) (rest : List Char) :
    Text.trimStart (c :: rest) = c :: rest :=
  List.dropWhile_cons_of_neg (by simp [hc])

theorem trimStart_of_digits {a : List Char} (ha : ∀ c ∈ a, c.isDigit = true) (hne : a ≠ [])
    (rest : List Char) : Text.trimStart (a ++ rest) = a ++ rest := by
  obtain ⟨c, a, rfl⟩ := List.exists_cons_of_ne_nil hne
  exact trimStart_cons (Text.isBlank_of_isDigit (ha c List.mem_cons_self)) _

theorem readNumber?_eq_some {most : Nat} {a rest : List Char} (hne : a ≠ [])
    (hdigits : ((a ++ rest).take most).takeWhile Char.isDigit = a) :
    readNumber? most (a ++ rest) = some (digitsValue a, rest) := by
  simp only [readNumber?, hdigits, List.isEmpty_eq_false_iff.2 hne, List.drop_left]
  rfl

theorem readNumber?_whole {a : List Char} (ha : ∀ c ∈ a, c.isDigit = true) (hne : a ≠ [])
    (rest : List Char) : readNumber? a.length (a ++ rest) = some (digitsValue a, rest) := by
  apply readNumber?_eq_some hne
  rw [List.take_left, List.takeWhile_eq_self_iff]
  exact ha

theorem readNumber?_until {most : Nat} {a : List Char} (ha : ∀ c ∈ a, c.isDigit = true)
    (hne : a ≠ []) (hmost : a.length < most) {c : Char} (hc : c.isDigit = false)
    (rest : List Char) :
    readNumber? most (a ++ c :: rest) = some (digitsValue a, c :: rest) := by
  apply readNumber?_eq_some hne
  obtain ⟨k, rfl⟩ : ∃ k, most = a.length + (k + 1) := ⟨most - a.length - 1, by omega⟩
  rw [List.take_length_add_append, List.take_succ_cons, List.takeWhile_append_of_pos ha,
    List.takeWhile_cons_of_neg (by simp [hc]), List.append_nil]

/-! ### Items -/

section

variable {f : Fields} {rest : List Char}

theorem read?_loose_padded {field : Field} (hfield : field ≠ .year) {n : Nat} (hn : n < 100) :
    (Item.loose field 2).read? f ((padded 2 n).toList ++ rest) = some (f.set field n, rest) := by
  have hlength := length_padded (show 0 < 2 by decide) hn
  have hread := readNumber?_whole isDigit_of_mem_padded (padded_ne_nil 2 n) rest
  rw [hlength, Text.digitsValue_padded] at hread
  rw [Item.read?, trimStart_of_digits isDigit_of_mem_padded (padded_ne_nil 2 n), if_neg hfield,
    hread]
  rfl

/-- A field of fixed width is read back whatever digit follows it. -/
theorem read?_exact_padded {field : Field} {width n : Nat} (hwidth : 0 < width)
    (hn : n < 10 ^ width) :
    (Item.exact field width).read? f ((padded width n).toList ++ rest) =
      some (f.set field n, rest) := by
  have hlength := length_padded hwidth hn
  have hdigits : (padded width n).toList.all Char.isDigit = true :=
    List.all_eq_true.2 isDigit_of_mem_padded
  rw [Item.read?, List.take_left' hlength, List.drop_left' hlength, hdigits]
  simp only [hlength, Text.digitsValue_padded]
  rfl

theorem read?_exact_of_not_digit {field : Field} {width : Nat} {c : Char}
    (hc : c.isDigit = false) : (Item.exact field (width + 1)).read? f (c :: rest) = none := by
  rw [Item.read?, List.take_succ_cons, List.all_cons, hc]
  simp

theorem read?_oneOf {c : Char} {choices : List Char} (hc : c ∈ choices) :
    (Item.oneOf choices).read? f (c :: rest) = some (f, rest) :=
  if_pos hc

theorem read?_blanks_padded {width n : Nat} :
    Item.blanks.read? f (' ' :: ((padded width n).toList ++ rest)) =
      some (f, (padded width n).toList ++ rest) := by
  have htrim := trimStart_of_digits isDigit_of_mem_padded (padded_ne_nil width n) rest
  rw [Item.read?, show Text.trimStart (' ' :: ((padded width n).toList ++ rest)) =
    Text.trimStart ((padded width n).toList ++ rest) from List.dropWhile_cons_of_pos rfl, htrim]

theorem readYear?_sign {n : Nat} (width : Nat) (rest : List Char) :
    readYear? width ('-' :: ((padded 4 n).toList ++ '-' :: rest)) = some (-(n : Int), '-' :: rest) ∧
    readYear? width ('+' :: ((padded 4 n).toList ++ '-' :: rest)) = some ((n : Int), '-' :: rest) := by
  have hmost : (padded 4 n).toList.length < ((padded 4 n).toList ++ '-' :: rest).length := by simp
  have hread := readNumber?_until isDigit_of_mem_padded (padded_ne_nil 4 n) hmost (c := '-') rfl rest
  rw [Text.digitsValue_padded] at hread
  rw [readYear?, readYear?, hread]
  exact ⟨rfl, rfl⟩

theorem readYear?_digits {n : Nat} (hn : n < 10 ^ 4) (rest : List Char) :
    readYear? 4 ((padded 4 n).toList ++ rest) = some ((n : Int), rest) := by
  have hdigits : ∀ c ∈ (padded 4 n).toList, c.isDigit = true := isDigit_of_mem_padded
  have hread := readNumber?_whole hdigits (padded_ne_nil 4 n) rest
  rw [length_padded (by decide) hn, Text.digitsValue_padded] at hread
  obtain ⟨c, digits, hcons⟩ := List.exists_cons_of_ne_nil (padded_ne_nil 4 n)
  have hc : c.isDigit = true := hdigits c (hcons ▸ List.mem_cons_self)
  rw [hcons, List.cons_append] at hread ⊢
  rw [readYear?, hread]
  · rfl
  · rintro r h
    rw [(List.cons.inj h).1] at hc
    cases hc
  · rintro r h
    rw [(List.cons.inj h).1] at hc
    cases hc

theorem toList_yearText_digits {year : Int} (h : 0 ≤ year ∧ year ≤ 9999) :
    (yearText year).toList = (padded 4 year.toNat).toList := by
  rw [yearText, if_pos h]

theorem toList_yearText_sign {year : Int} (h : ¬(0 ≤ year ∧ year ≤ 9999)) :
    (yearText year).toList =
      (if year < 0 then '-' else '+') :: (padded 4 year.natAbs).toList := by
  rw [yearText, if_neg h, String.toList_append]
  split <;> rfl

/-- A year is read back with its sign and however many digits it has. -/
theorem read?_loose_year (year : Int) :
    (Item.loose .year 4).read? f ((yearText year).toList ++ '-' :: rest) =
      some (f.set .year year, '-' :: rest) := by
  by_cases hyear : 0 ≤ year ∧ year ≤ 9999
  · obtain ⟨n, rfl⟩ := Int.eq_ofNat_of_zero_le hyear.1
    rw [toList_yearText_digits hyear, Int.toNat_natCast, Item.read?, if_pos rfl,
      trimStart_of_digits isDigit_of_mem_padded (padded_ne_nil 4 n), readYear?_digits (by omega)]
    rfl
  · obtain ⟨hminus, hplus⟩ := readYear?_sign (n := year.natAbs) 4 rest
    rw [toList_yearText_sign hyear, List.cons_append, Item.read?, if_pos rfl]
    split
    · rw [trimStart_cons (by decide), hminus, show -(year.natAbs : Int) = year by omega]
      rfl
    · rw [trimStart_cons (by decide), hplus, show (year.natAbs : Int) = year by omega]
      rfl

theorem readFormat?_cons {g : Fields} {s : List Char} {item : Item}
    (h : item.read? f s = some (g, rest)) (items : List Item) :
    readFormat? f s (item :: items) = readFormat? g rest items := by
  rw [readFormat?, h]

end

/-! ### The text of an instant -/

namespace Instant

def parts (t : Instant) : Fields where
  date := t.date
  hour := t.secondOfDay / 3600
  minute := t.secondOfDay / 60 % 60
  second := t.secondOfDay % 60 + if t.isLeapSecond then 1 else 0

def afterYear (t : Instant) : List Char :=
  (padded 2 t.date.month).toList ++ '-' ::
    ((padded 2 t.date.day).toList ++ ' ' ::
      ((padded 2 t.parts.hour).toList ++ ':' ::
        ((padded 2 t.parts.minute).toList ++ ':' :: (padded 2 t.parts.second).toList)))

theorem toList_text (t : Instant) :
    t.text.toList = (yearText t.date.year).toList ++ '-' :: t.afterYear := by
  simp [text, dateText, clockText, parts, afterYear, String.toList_append]

theorem parts_bounds (t : Instant) :
    t.parts.hour ≤ 23 ∧ t.parts.minute ≤ 59 ∧ t.parts.second ≤ 60 := by
  have hday : t.secondOfDay < 86400 := by
    unfold secondOfDay
    omega
  refine ⟨?_, ?_, ?_⟩
  · change t.secondOfDay / 3600 ≤ 23
    omega
  · change t.secondOfDay / 60 % 60 ≤ 59
    omega
  · change (t.secondOfDay % 60 + if t.isLeapSecond then 1 else 0) ≤ 60
    split <;> omega

/-- No text of an instant has an offset. -/
theorem readFormat?_offset_text {t : Instant} (h : t.date.IsDay) :
    readFormat? {} t.text.toList (strictDate ++ [.oneOf ['T', 't', ' '], .exact .hour 2, .oneOf [':'],
      .exact .minute 2, .oneOf [':'], .exact .second 2, .fraction, .offset]) = none := by
  obtain ⟨hhour, hminute, hsecond⟩ := t.parts_bounds
  have hmonth := h.month_le
  have hday := h.day_lt
  rw [toList_text, afterYear, strictDate, List.cons_append]
  by_cases hyear : 0 ≤ t.date.year ∧ t.date.year ≤ 9999
  · rw [toList_yearText_digits hyear]
    simp only [List.cons_append, List.nil_append]
    rw [readFormat?_cons (read?_exact_padded (by decide) (by omega)),
      readFormat?_cons (read?_oneOf (by decide)),
      readFormat?_cons (read?_exact_padded (by decide) (by omega)),
      readFormat?_cons (read?_oneOf (by decide)),
      readFormat?_cons (read?_exact_padded (by decide) (by omega)),
      readFormat?_cons (read?_oneOf (by decide)),
      readFormat?_cons (read?_exact_padded (by decide) (by omega)),
      readFormat?_cons (read?_oneOf (by decide)),
      readFormat?_cons (read?_exact_padded (by decide) (by omega)),
      readFormat?_cons (read?_oneOf (by decide)), ← List.append_nil (padded 2 t.parts.second).toList,
      readFormat?_cons (read?_exact_padded (by decide) (by omega))]
    rfl
  · have hsign : (if t.date.year < 0 then '-' else '+').isDigit = false := by
      split <;> rfl
    rw [toList_yearText_sign hyear]
    simp only [List.cons_append, List.nil_append]
    rw [readFormat?, read?_exact_of_not_digit hsign]

/-- The format of a date and a time reads all parts of the text. -/
theorem readFormat?_text {t : Instant} (h : t.date.IsDay) :
    readFormat? {} t.text.toList (looseDate ++ .blanks :: looseSecond) = some t.parts := by
  obtain ⟨hhour, hminute, hsecond⟩ := t.parts_bounds
  have hmonth := h.month_le
  have hday := h.day_lt
  rw [toList_text, afterYear, looseDate, looseSecond, looseMinute]
  simp only [List.cons_append, List.nil_append]
  rw [readFormat?_cons (read?_loose_year _),
    readFormat?_cons (read?_oneOf (by decide)),
    readFormat?_cons (read?_loose_padded (by decide) (by omega)),
    readFormat?_cons (read?_oneOf (by decide)),
    readFormat?_cons (read?_loose_padded (by decide) (by omega)),
    readFormat?_cons (read?_blanks_padded),
    readFormat?_cons (read?_loose_padded (by decide) (by omega)),
    readFormat?_cons (read?_oneOf (by decide)),
    readFormat?_cons (read?_loose_padded (by decide) (by omega)),
    readFormat?_cons (read?_oneOf (by decide)), ← List.append_nil (padded 2 t.parts.second).toList,
    readFormat?_cons (read?_loose_padded (by decide) (by omega))]
  rfl

theorem isBlank_head?_yearText (year : Int) (rest : List Char) :
    ((yearText year).toList ++ rest).head?.any Text.isBlank = false := by
  by_cases hyear : 0 ≤ year ∧ year ≤ 9999
  · rw [toList_yearText_digits hyear]
    obtain ⟨c, digits, hcons⟩ := List.exists_cons_of_ne_nil (padded_ne_nil 4 year.toNat)
    have hc : c.isDigit = true := isDigit_of_mem_padded c (hcons ▸ List.mem_cons_self)
    rw [hcons]
    exact Text.isBlank_of_isDigit hc
  · rw [toList_yearText_sign hyear]
    split <;> rfl

theorem trimChars_text (t : Instant) : Text.trimChars t.text.toList = t.text.toList := by
  apply Text.trimChars_of_ends
  · rw [toList_text]
    exact isBlank_head?_yearText _ _
  · obtain ⟨front, hfront⟩ :
        ∃ front, t.text.toList = front ++ (padded 2 t.parts.second).toList := by
      rw [text, clockText, String.toList_append, String.toList_append (t := padded 2 _),
        ← List.append_assoc]
      exact ⟨_, rfl⟩
    obtain ⟨c, hlast⟩ := Option.ne_none_iff_exists'.1
      (mt List.getLast?_eq_none_iff.1 (padded_ne_nil 2 t.parts.second))
    have hc := isDigit_of_mem_padded c (List.mem_of_getLast? hlast)
    rw [hfront, List.getLast?_append, hlast]
    exact Text.isBlank_of_isDigit hc

def whole (t : Instant) : Instant where
  seconds := t.seconds
  nanos := if t.isLeapSecond then nanosPerSecond else 0

theorem isLeapSecond_whole (t : Instant) : t.whole.isLeapSecond = t.isLeapSecond := by
  unfold whole
  cases ht : t.isLeapSecond <;> rfl

theorem text_whole (t : Instant) : t.whole.text = t.text := by
  rw [text, text, dateText, dateText, clockText, clockText, isLeapSecond_whole]
  rfl

theorem second_parts (t : Instant) :
    t.parts.second = t.secondOfDay % 60 + if t.isLeapSecond then 1 else 0 :=
  rfl

/-- A leap second comes after a second 59, so it is written as second 60. -/
theorem second_eq_sixty_iff {t : Instant} (h : t.IsRead) :
    t.parts.second = 60 ↔ t.isLeapSecond = true := by
  have hleap := h.leap
  rw [second_parts, secondOfDay]
  split <;> rename_i ht
  · have hlast := hleap ht
    exact iff_of_true (by omega) ht
  · exact iff_of_false (by omega) ht

theorem counted_parts {t : Instant} (h : t.IsRead) : t.parts.counted = t.secondOfDay % 60 := by
  rw [Fields.counted]
  split <;> rename_i hsixty
  · have hlast := h.leap ((second_eq_sixty_iff h).1 hsixty)
    rw [secondOfDay]
    omega
  · rw [second_parts, if_neg (mt (second_eq_sixty_iff h).2 hsixty), Nat.add_zero]

/-- The parts that were read give the instant, less the fraction. -/
theorem instant?_parts {t : Instant} (h : t.IsRead) : t.parts.instant? = some t.whole := by
  rw [Fields.instant?_eq_some_iff]
  refine ⟨⟨h.date, t.parts_bounds⟩, ?_⟩
  have hnumber : t.parts.date.dayNumber = t.seconds / 86400 := Date.dayNumber_ofDayNumber _
  have hhour : t.parts.hour = t.secondOfDay / 3600 := rfl
  have hminute : t.parts.minute = t.secondOfDay / 60 % 60 := rfl
  have hnanos : t.parts.nanos = 0 := rfl
  have hoffset : t.parts.offset = 0 := rfl
  have hseconds : t.seconds = t.seconds / 86400 * 86400 + (t.secondOfDay / 3600 : Nat) * 3600 +
      (t.secondOfDay / 60 % 60 : Nat) * 60 + (t.secondOfDay % 60 : Nat) - 0 := by
    rw [secondOfDay]
    omega
  rw [counted_parts h, hnumber, hhour, hminute, hnanos, hoffset, ← hseconds, whole]
  simp only [second_eq_sixty_iff h, Nat.zero_add]

/-- What a text gives without the fraction of its second is what its bound text gives. -/
theorem read?_text {t : Instant} (h : t.IsRead) : read? t.text = some t.whole := by
  have hday := ((Date.isValid_iff _).1 h.date).1
  rw [read?, trimChars_text, formats, List.findSome?_cons, readFormat?_offset_text hday, Option.bind_none,
    List.findSome?_cons, readFormat?_text hday, Option.bind_some, instant?_parts h]

end Instant

end TableApi.Calendar
