import TableApi.Calendar.Reader
import TableApi.Proofs.Calendar.Days
import TableApi.Proofs.Text.Numerals

namespace TableApi.Calendar

open Text (digitsValue digitsValue_lt)

structure Instant.IsRead (t : Instant) : Prop where
  date : t.date.isValid = true
  leap : t.isLeapSecond = true → t.seconds % 60 = 59

namespace Fields

@[simp] theorem nanos_set (f : Fields) (field : Field) (n : Int) : (f.set field n).nanos = f.nanos := by
  cases field <;> rfl

@[simp] theorem offset_set (f : Fields) (field : Field) (n : Int) :
    (f.set field n).offset = f.offset := by
  cases field <;> rfl

theorem year_set_of_ne (f : Fields) {field : Field} (h : field ≠ .year) (n : Int) :
    (f.set field n).date.year = f.date.year := by
  cases field <;> first | rfl | exact absurd rfl h

end Fields

theorem readFraction?_lt {s rest : List Char} {n : Nat} (h : readFraction? s = some (n, rest)) :
    n < nanosPerSecond := by
  simp only [readFraction?] at h
  split at h
  · cases h
  · obtain ⟨rfl, -⟩ := Prod.mk.inj (Option.some.inj h)
    have hdigits : ∀ c ∈ (s.takeWhile Char.isDigit).take 9, c.isDigit = true :=
      fun c hc => List.mem_takeWhile_imp (List.mem_of_mem_take hc)
    have hlt := digitsValue_lt hdigits
    have hlength : ((s.takeWhile Char.isDigit).take 9).length ≤ 9 := List.length_take_le _ _
    generalize (s.takeWhile Char.isDigit).take 9 = kept at *
    calc digitsValue kept * Nat.pow 10 (9 - kept.length)
      _ < 10 ^ kept.length * 10 ^ (9 - kept.length) :=
          Nat.mul_lt_mul_of_pos_right hlt (Nat.pow_pos (by decide))
      _ = nanosPerSecond := by
          rw [← pow_add, show kept.length + (9 - kept.length) = 9 by omega]
          rfl

/-- An offset is less than a day and has whole minutes. -/
theorem readOffset?_bounds {s rest : List Char} {n : Int} (h : readOffset? s = some (n, rest)) :
    -86400 < n ∧ n < 86400 ∧ n % 60 = 0 := by
  unfold readOffset? at h
  split at h
  · obtain ⟨rfl, -⟩ := Prod.mk.inj (Option.some.inj h)
    decide
  · obtain ⟨rfl, -⟩ := Prod.mk.inj (Option.some.inj h)
    decide
  · split at h
    · dsimp only at h
      split at h
      · rename_i hbounds
        simp only [Bool.and_eq_true, decide_eq_true_eq] at hbounds
        obtain ⟨rfl, -⟩ := Prod.mk.inj (Option.some.inj h)
        split <;> omega
      · cases h
    · cases h
  · cases h

inductive Item.Reads (f : Fields) : Item → Fields → Prop
  | exact {field : Field} {width : Nat} (n : Nat) (hn : n < 10 ^ width) :
    Reads f (.exact field width) (f.set field n)
  | loose {field : Field} {width : Nat} (n : Int) : Reads f (.loose field width) (f.set field n)
  | fraction (n : Nat) (hn : n < nanosPerSecond) : Reads f .fraction { f with nanos := n }
  | offset (n : Int) (hn : -86400 < n ∧ n < 86400 ∧ n % 60 = 0) :
    Reads f .offset { f with offset := n }
  | skip (item : Item) : Reads f item f

theorem Item.reads_of_read? {item : Item} {f g : Fields} {s rest : List Char}
    (h : item.read? f s = some (g, rest)) : item.Reads f g := by
  cases item with
  | exact field width =>
    simp only [Item.read?] at h
    split at h
    · rename_i hdigits
      simp only [Bool.and_eq_true, decide_eq_true_eq] at hdigits
      obtain ⟨hlength, hdigits⟩ := hdigits
      obtain ⟨rfl, -⟩ := Prod.mk.inj (Option.some.inj h)
      have hlt := digitsValue_lt (List.all_eq_true.1 hdigits)
      rw [hlength] at hlt
      exact .exact _ hlt
    · cases h
  | loose field width =>
    simp only [Item.read?] at h
    split at h
    · obtain ⟨⟨n, r⟩, -, hx⟩ := Option.map_eq_some_iff.1 h
      obtain ⟨rfl, -⟩ := Prod.mk.inj hx
      exact .loose n
    · obtain ⟨⟨n, r⟩, -, hx⟩ := Option.map_eq_some_iff.1 h
      obtain ⟨rfl, -⟩ := Prod.mk.inj hx
      exact .loose n
  | fraction =>
    simp only [Item.read?] at h
    split at h
    · obtain ⟨⟨n, r⟩, hn, hx⟩ := Option.map_eq_some_iff.1 h
      obtain ⟨rfl, -⟩ := Prod.mk.inj hx
      exact .fraction n (readFraction?_lt hn)
    · obtain ⟨rfl, -⟩ := Prod.mk.inj (Option.some.inj h)
      exact .skip _
  | blanks =>
    obtain ⟨rfl, -⟩ := Prod.mk.inj (Option.some.inj h)
    exact .skip _
  | oneOf choices =>
    simp only [Item.read?] at h
    split at h
    · split at h
      · obtain ⟨rfl, -⟩ := Prod.mk.inj (Option.some.inj h)
        exact .skip _
      · cases h
    · cases h
  | offset =>
    obtain ⟨⟨n, r⟩, hn, hx⟩ := Option.map_eq_some_iff.1 h
    obtain ⟨rfl, -⟩ := Prod.mk.inj hx
    exact .offset n (readOffset?_bounds hn)

/-- What every item of a format keeps holds of the parts when the whole text is read. -/
theorem readFormat?_induction {P : Fields → Prop} {items : List Item}
    (hstep : ∀ item ∈ items, ∀ f g, P f → item.Reads f g → P g) {f g : Fields} {s : List Char}
    (h : readFormat? f s items = some g) (hf : P f) : P g := by
  induction items generalizing f s with
  | nil =>
    rw [readFormat?] at h
    split at h
    · rwa [← Option.some.inj h]
    · cases h
  | cons item items ih =>
    obtain ⟨hitem, hitems⟩ := List.forall_mem_cons.1 hstep
    rw [readFormat?] at h
    split at h
    · rename_i f' s' hread
      exact ih hitems h (hitem f f' hf (Item.reads_of_read? hread))
    · cases h

/-- The parts of a text, once a format has been read: an offset comes with a year of four digits. -/
structure Fields.IsRead (f : Fields) : Prop where
  nanos : f.nanos < nanosPerSecond
  offset : -86400 < f.offset ∧ f.offset < 86400 ∧ f.offset % 60 = 0
  year : f.offset = 0 ∨ 0 ≤ f.date.year ∧ f.date.year ≤ 9999

def Item.keepsYear : Item → Bool
  | .exact .year width => width = 4
  | .loose .year _ => false
  | _ => true

/-- No item after the year takes a year out of four digits. -/
theorem year_of_keepsYear {item : Item} {f g : Fields} (hitem : item.keepsYear = true)
    (h : item.Reads f g) (hf : 0 ≤ f.date.year ∧ f.date.year ≤ 9999) :
    0 ≤ g.date.year ∧ g.date.year ≤ 9999 := by
  cases h with
  | @exact field width n hn =>
    by_cases hfield : field = .year
    · subst hfield
      obtain rfl : width = 4 := by simpa [Item.keepsYear] using hitem
      change 0 ≤ (n : Int) ∧ (n : Int) ≤ 9999
      omega
    · rwa [Fields.year_set_of_ne f hfield]
  | @loose field width n =>
    have hfield : field ≠ .year := by
      rintro rfl
      cases hitem
    rwa [Fields.year_set_of_ne f hfield]
  | fraction | offset | skip => exact hf

theorem Fields.isRead_of_readFormat? {items : List Item} {s : List Char} {g : Fields}
    (hitems : items ∈ formats) (h : readFormat? {} s items = some g) : g.IsRead := by
  have hnanos : g.nanos < nanosPerSecond := by
    refine readFormat?_induction (P := fun f => f.nanos < nanosPerSecond) ?_ h (by decide)
    intro item _ f g hf hread
    cases hread with
    | exact | loose => rwa [nanos_set]
    | fraction n hn => exact hn
    | offset | skip => exact hf
  have hoffset : -86400 < g.offset ∧ g.offset < 86400 ∧ g.offset % 60 = 0 := by
    refine readFormat?_induction
      (P := fun f => -86400 < f.offset ∧ f.offset < 86400 ∧ f.offset % 60 = 0) ?_ h (by decide)
    intro item _ f g hf hread
    cases hread with
    | exact | loose => rwa [offset_set]
    | offset n hn => exact hn
    | fraction | skip => exact hf
  -- only the first format has an offset, and it has years of four digits
  have hformats : ∀ items ∈ formats, .offset ∉ items ∨ ∀ item ∈ items, item.keepsYear = true := by
    decide
  refine ⟨hnanos, hoffset, ?_⟩
  rcases hformats items hitems with hlocal | hyears
  · refine .inl (readFormat?_induction (P := fun f => f.offset = 0) ?_ h rfl)
    intro item hitem f g hf hread
    cases hread with
    | exact | loose => rwa [offset_set]
    | offset => exact absurd hitem hlocal
    | fraction | skip => exact hf
  · refine .inr (readFormat?_induction
      (P := fun f => 0 ≤ f.date.year ∧ f.date.year ≤ 9999) ?_ h (by decide))
    intro item hitem f g hf hread
    exact year_of_keepsYear (hyears item hitem) hread hf

/-- A date in years of four digits is days away from the ends of the calendar. -/
theorem Date.dayNumber_bounds {d : Date} (h : d.IsDay) (hyear : 0 ≤ d.year ∧ d.year ≤ 9999) :
    firstDay.dayNumber < d.dayNumber ∧ d.dayNumber < lastDay.dayNumber := by
  have hfirst : firstDay.dayNumber < daysBefore (-1) - 719468 := by decide
  have hlast : daysBefore 10000 - 719468 < lastDay.dayNumber := by decide
  have hmarch : -1 ≤ d.marchYear ∧ d.marchYear + 1 ≤ 10000 := by
    unfold marchYear
    split <;> omega
  have hbefore := daysBefore_mono hmarch.1
  have hafter := daysBefore_mono hmarch.2
  have hnonneg := h.dayOfYear_nonneg
  have hnext := h.lt_next_year
  rw [dayNumber_eq d]
  omega

/-- The second that is counted for a second of the clock: a leap second counts as the one before. -/
def Fields.counted (f : Fields) : Nat := if f.second = 60 then 59 else f.second

theorem Fields.instant?_eq_some_iff {f : Fields} {t : Instant} :
    f.instant? = some t ↔
      (f.date.isValid = true ∧ f.hour ≤ 23 ∧ f.minute ≤ 59 ∧ f.second ≤ 60) ∧
      t = {
        seconds := f.date.dayNumber * 86400 + f.hour * 3600 + f.minute * 60 + f.counted - f.offset
        nanos := f.nanos + if f.second = 60 then nanosPerSecond else 0 } := by
  simp only [instant?, counted]
  split
  · rename_i hvalid
    simp only [Bool.and_eq_true, decide_eq_true_eq, and_assoc] at hvalid
    rw [Option.some.injEq, eq_comm, and_iff_right hvalid]
  · rename_i hvalid
    simp only [Bool.and_eq_true, decide_eq_true_eq, and_assoc] at hvalid
    simp [hvalid]

/-- Taking an offset off can leave the years with four digits, but not those that have dates. -/
theorem Instant.isRead_of_fields {f : Fields} {t : Instant} (hf : f.IsRead)
    (h : f.instant? = some t) : t.IsRead := by
  obtain ⟨⟨hdate, hhour, hminute, hsecond⟩, rfl⟩ := Fields.instant?_eq_some_iff.1 h
  obtain ⟨hlow, hhigh, hminutes⟩ := hf.offset
  have hday := ((Date.isValid_iff _).1 hdate).1
  have hcounted : f.counted ≤ 59 := by
    unfold Fields.counted
    split <;> omega
  constructor
  · rw [Instant.date]
    dsimp only
    rcases hf.year with hzero | hyear
    · rw [hzero, show (f.date.dayNumber * 86400 + f.hour * 3600 + f.minute * 60 + f.counted - 0) /
        86400 = f.date.dayNumber by omega, Date.ofDayNumber_dayNumber hday]
      exact hdate
    · -- an offset takes the instant at most to the next day
      obtain ⟨hfirst, hlast⟩ := Date.dayNumber_bounds hday hyear
      exact Date.isValid_ofDayNumber (by omega) (by omega)
  · intro hleap
    have hsixty : f.second = 60 := by
      by_contra hne
      have hnanos := hf.nanos
      simp only [Instant.isLeapSecond, hne, if_false, decide_eq_true_eq] at hleap
      omega
    rw [Fields.counted, if_pos hsixty]
    dsimp only
    omega

theorem Instant.isRead_of_read? {s : String} {t : Instant} (h : read? s = some t) : t.IsRead := by
  obtain ⟨items, hitems, hread⟩ := List.exists_of_findSome?_eq_some h
  obtain ⟨f, hf, ht⟩ := Option.bind_eq_some_iff.1 hread
  exact isRead_of_fields (Fields.isRead_of_readFormat? hitems hf) ht

end TableApi.Calendar
