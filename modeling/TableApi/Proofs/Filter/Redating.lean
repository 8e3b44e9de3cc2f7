import TableApi.Proofs.Calendar.RoundTrip
import TableApi.Proofs.Filter.Dates
import TableApi.Proofs.Sql.Runs

/-!
Dates and the texts that are bound for them. Of a date only its text comes into a query, and that text
is read as the same second again. So the value of a date filter can be replaced by the text that is
bound for it: the query and its values stay the same.
-/

namespace TableApi.Filter

open Calendar (Instant)
open Sql (Query)

/-! ### Texts in place of dates -/

def Predicate.textual : Predicate → Predicate
  | .compare op value => .compare op (.text value.bound)
  | .isNull => .isNull
  | .member values => .member (.texts values.bound)
  | .notMember values => .notMember (.texts values.bound)

def Clause.textual (c : Clause) : Clause := { c with predicate := c.predicate.textual }

def Effect.textual : Effect → Effect
  | .clause c => .clause c.textual
  | f => f

section

variable (c : Clause)

@[simp] theorem Clause.joining_textual : c.textual.joining = c.joining := by
  obtain ⟨field, conjunction, predicate⟩ := c
  cases predicate <;> rfl

@[simp] theorem Clause.condition_textual : c.textual.condition = c.condition := by
  obtain ⟨field, conjunction, predicate⟩ := c
  cases predicate <;> rfl

@[simp] theorem Clause.bound_textual : c.textual.bound = c.bound := by
  obtain ⟨field, conjunction, predicate⟩ := c
  cases predicate <;> rfl

end

namespace Effect

variable (f : Effect)

@[simp] theorem clause?_textual : f.textual.clause? = f.clause?.map Clause.textual := by
  cases f <;> rfl

@[simp] theorem sort?_textual : f.textual.sort? = f.sort? := by
  cases f <;> rfl

@[simp] theorem limit?_textual : f.textual.limit? = f.limit? := by
  cases f <;> rfl

@[simp] theorem warning?_textual : f.textual.warning? = f.warning? := by
  cases f <;> rfl

end Effect

/-- A query does not tell dates from their texts. -/
theorem ofTranslation_textual (fs : List Effect) :
    Query.ofTranslation (.ofEffects (fs.map Effect.textual)) =
      Query.ofTranslation (.ofEffects fs) := by
  have hclauses : (fs.map Effect.textual).filterMap Effect.clause? =
      (fs.filterMap Effect.clause?).map Clause.textual := by
    simp [List.filterMap_map, List.map_filterMap]
  rw [ofTranslation_eq, ofTranslation_eq, Translation.ofEffects, Translation.ofEffects, hclauses]
  simp [Clause.conditions, List.flatMap_map, List.findSome?_map, Function.comp_def]

theorem warnings_textual (fs : List Effect) :
    (fs.map Effect.textual).filterMap Effect.warning? = fs.filterMap Effect.warning? := by
  simp [List.filterMap_map]

/-! ### Values with the same texts -/

section

variable {fields : Fields} {dates : DateReader}

/-- Values of a field that are read as dates of the same text, or are refused with the same error. -/
def SameText (dates : DateReader) (field v w : String) : Prop :=
  (dates field v).map Instant.text = (dates field w).map Instant.text

/-- Of a date only its text is left, whichever spelling it had. -/
theorem scalarPredicate_textual {name : Name} {v w : String} (hdate : name.field ∈ fields.dates)
    (h : SameText dates name.field v w) :
    (scalarPredicate fields dates name v).map Predicate.textual =
      (scalarPredicate fields dates name w).map Predicate.textual := by
  have hdate : fields.isDate name.field = true := List.contains_iff_mem.2 hdate
  unfold scalarPredicate
  simp only [hdate, if_true]
  obtain ⟨e, hv, hw⟩ | ⟨t, u, hv, hw, htext⟩ := map_eq_map_iff.1 h
  · rw [hv, hw]
  · rw [hv, hw]
    refine congrArg Except.ok ?_
    cases name.operator with
    | none => exact congrArg (fun s => Predicate.compare .eq (.text s)) htext
    | some op =>
      cases hmatch : op.isTextMatch
      · simp [Predicate.textual, ClauseValue.bound, htext, hmatch]
      · simp only [hmatch, if_true, ClauseValue.bound, htext]

theorem listValue_bound {field : String} {vs ws : List String} (hdate : field ∈ fields.dates)
    (h : List.Forall₂ (SameText dates field) vs ws) :
    (listValue fields dates field vs).map ListValue.bound =
      (listValue fields dates field ws).map ListValue.bound := by
  have hdate : fields.isDate field = true := List.contains_iff_mem.2 hdate
  have htexts : (vs.mapM (dates field)).map (List.map Instant.text) =
      (ws.mapM (dates field)).map (List.map Instant.text) := map_mapM_congr h
  unfold listValue
  simp only [hdate, if_true]
  obtain ⟨e, hv, hw⟩ | ⟨ts, us, hv, hw, htext⟩ := map_eq_map_iff.1 htexts
  · rw [hv, hw]
  · rw [hv, hw]
    exact congrArg Except.ok htext

/-- Parameter values of one shape whose values have the same texts. -/
inductive ParamValue.SameTexts (dates : DateReader) (field : String) : ParamValue → ParamValue → Prop
  | single {v w : String} (h : SameText dates field v w) : SameTexts dates field (.single v) (.single w)
  | many {vs ws : List String} (h : List.Forall₂ (SameText dates field) vs ws) :
    SameTexts dates field (.many vs) (.many ws)

/-- Values with the same texts have the same effect, but for the instants themselves. -/
theorem effect_textual {name : String} {v w : ParamValue} (hfilter : fields.IsDateFilter name)
    (h : ParamValue.SameTexts dates (Name.read name).field v w) :
    (effect fields dates name v).map Effect.textual =
      (effect fields dates name w).map Effect.textual := by
  have hallows : fields.allows (Name.read name).field = true :=
    List.contains_iff_mem.2 hfilter.allowed
  rw [effect_filter hfilter.notSort hfilter.notLimit,
    effect_filter hfilter.notSort hfilter.notLimit]
  unfold filterEffect
  simp only [hallows, Bool.not_true, Bool.false_eq_true, if_false]
  cases h with
  | single h =>
    dsimp only
    obtain ⟨e, hv, hw⟩ | ⟨p, q, hv, hw, hpq⟩ :=
      map_eq_map_iff.1 (scalarPredicate_textual hfilter.date h)
    · rw [hv, hw]
    · rw [hv, hw]
      simp [Except.map, Effect.textual, Clause.textual, hpq]
  | many h =>
    dsimp only
    obtain ⟨e, hv, hw⟩ | ⟨p, q, hv, hw, hpq⟩ :=
      map_eq_map_iff.1 (listValue_bound hfilter.date h)
    · rw [hv, hw]
    · rw [hv, hw]
      refine congrArg Except.ok ?_
      split <;> simp [Effect.textual, Clause.textual, Predicate.textual, hpq]

theorem effects_textual {params params' : Parameters}
    (h : List.Forall₂ (fun x y => (effect fields dates x.1 x.2).map Effect.textual =
      (effect fields dates y.1 y.2).map Effect.textual) params params') :
    (effects fields dates params).1.map Effect.textual =
        (effects fields dates params').1.map Effect.textual ∧
      (effects fields dates params).2 = (effects fields dates params').2 := by
  induction h with
  | nil => exact ⟨rfl, rfl⟩
  | @cons x y params params' hxy _ ih =>
    obtain ⟨name, value⟩ := x
    obtain ⟨name', value'⟩ := y
    obtain ⟨e, hx, hy⟩ | ⟨f, g, hx, hy, hfg⟩ := map_eq_map_iff.1 hxy
    · simp only [effects, hx, hy, and_self]
    · simp only [effects, hx, hy]
      exact ⟨List.cons_eq_cons.2 ⟨hfg, ih.1⟩, ih.2⟩

/-- Effects that agree but for texts in place of dates leave the same query and warnings. -/
theorem translate_textual {params params' : Parameters}
    (h : List.Forall₂ (fun x y => (effect fields dates x.1 x.2).map Effect.textual =
      (effect fields dates y.1 y.2).map Effect.textual) params params') :
    (translate fields dates params).result.map Query.ofTranslation =
        (translate fields dates params').result.map Query.ofTranslation ∧
      (translate fields dates params).warnings = (translate fields dates params').warnings := by
  obtain ⟨hfs, hstopped⟩ := effects_textual h
  constructor
  · simp only [translate, hstopped]
    split
    · rfl
    · refine congrArg Except.ok ?_
      rw [← ofTranslation_textual, hfs, ofTranslation_textual]
  · simp only [translate]
    rw [← warnings_textual, hfs, warnings_textual]

end

/-! ### Bound texts in place of values -/

/-- A value, and the same value or the text that is bound for its date. -/
inductive Rebinds : String → String → Prop
  | same (v : String) : Rebinds v v
  | date {v : String} {t : Instant} (h : Instant.read? v = some t) : Rebinds v t.text

theorem sameText_of_rebinds {v w : String} (h : Rebinds v w) (field : String) :
    SameText calendarReader field v w := by
  cases h with
  | same => rfl
  | @date t ht =>
    have hback := Instant.read?_text (Instant.isRead_of_read? ht)
    simp only [SameText, calendarReader, ht, hback]
    exact congrArg Except.ok (Instant.text_whole t).symm

/-- The value of a parameter, single or a list, and one with bound texts in place of dates. -/
inductive ParamValue.Rebinds : ParamValue → ParamValue → Prop
  | single {v w : String} (h : Filter.Rebinds v w) : Rebinds (.single v) (.single w)
  | many {vs ws : List String} (h : List.Forall₂ Filter.Rebinds vs ws) :
    Rebinds (.many vs) (.many ws)

theorem ParamValue.sameTexts_of_rebinds {v w : ParamValue} (h : v.Rebinds w) (field : String) :
    SameTexts calendarReader field v w := by
  cases h with
  | single h => exact .single (sameText_of_rebinds h field)
  | many h => exact .many (h.imp fun _ _ h => sameText_of_rebinds h field)

/-- A parameter, and the same one or, for a date filter, one with bound texts in place of dates. -/
inductive Fields.Rebinds (fields : Fields) : String × ParamValue → String × ParamValue → Prop
  | same (x : String × ParamValue) : Rebinds fields x x
  | date {name : String} {v w : ParamValue} (hfilter : fields.IsDateFilter name) (h : v.Rebinds w) :
    Rebinds fields (name, v) (name, w)

theorem Fields.effect_of_rebinds {fields : Fields} {x y : String × ParamValue}
    (h : fields.Rebinds x y) :
    (effect fields calendarReader x.1 x.2).map Effect.textual =
      (effect fields calendarReader y.1 y.2).map Effect.textual := by
  cases h with
  | same => rfl
  | date hfilter h => exact effect_textual hfilter (ParamValue.sameTexts_of_rebinds h _)

/-- The text that is bound for a date is read as that date without the fraction of its second, a leap
second too, and has the same text again. With it in place of the values of date filters the query
stays the same: its conditions, the values that it binds, its sort and its limit. -/
theorem bound_dates_read_back {v : String} {t : Instant} (h : Instant.read? v = some t)
    {fields : Fields} {params params' : Parameters}
    (hparams : List.Forall₂ fields.Rebinds params params') :
    (Instant.read? t.text = some t.whole ∧ t.whole.seconds = t.seconds ∧
        t.whole.nanos = (if t.isLeapSecond then Calendar.nanosPerSecond else 0) ∧
        t.whole.text = t.text) ∧
      (translate fields calendarReader params).result.map Query.ofTranslation =
        (translate fields calendarReader params').result.map Query.ofTranslation ∧
      (translate fields calendarReader params).warnings =
        (translate fields calendarReader params').warnings := by
  have hback := Instant.read?_text (Instant.isRead_of_read? h)
  exact ⟨⟨hback, rfl, rfl, Instant.text_whole t⟩,
    translate_textual (hparams.imp fun _ _ h => Fields.effect_of_rebinds h)⟩

/-- A leap second with an offset that takes it past the year 9999, in a text match and in a list. -/
theorem leap_second_reads_back :
    Instant.read? "+10000-01-01 00:59:60" =
        some { seconds := 253402304399, nanos := Calendar.nanosPerSecond } ∧
      (translate { allowed := ["created_at"], dates := ["created_at"] } calendarReader
          [("created_at_contains", .single "9999-12-31T23:59:60.5-01:00"),
            ("created_at_not_in", .many ["2024-01-15", "9999-12-31T23:59:60.5-01:00"])]).result.map
          Query.ofTranslation =
        (translate { allowed := ["created_at"], dates := ["created_at"] } calendarReader
          [("created_at_contains", .single "+10000-01-01 00:59:60"),
            ("created_at_not_in", .many ["2024-01-15 00:00:00", "+10000-01-01 00:59:60"])]).result.map
          Query.ofTranslation := by
  have hleap : Instant.read? "9999-12-31T23:59:60.5-01:00" =
      some { seconds := 253402304399, nanos := 1500000000 } := by rfl
  have hday : Instant.read? "2024-01-15" = some { seconds := 1705276800, nanos := 0 } := by rfl
  have hleapText : Rebinds "9999-12-31T23:59:60.5-01:00" "+10000-01-01 00:59:60" := .date hleap
  have hdayText : Rebinds "2024-01-15" "2024-01-15 00:00:00" := .date hday
  have hparams : List.Forall₂
      (Fields.Rebinds { allowed := ["created_at"], dates := ["created_at"] })
      [("created_at_contains", .single "9999-12-31T23:59:60.5-01:00"),
        ("created_at_not_in", .many ["2024-01-15", "9999-12-31T23:59:60.5-01:00"])]
      [("created_at_contains", .single "+10000-01-01 00:59:60"),
        ("created_at_not_in", .many ["2024-01-15 00:00:00", "+10000-01-01 00:59:60"])] := by
    refine .cons (.date ⟨by decide, by decide, by decide, by decide⟩ (.single hleapText))
      (.cons (.date ⟨by decide, by decide, by decide, by decide⟩ (.many ?_)) .nil)
    exact .cons hdayText (.cons hleapText .nil)
  obtain ⟨⟨hback, -⟩, hquery, -⟩ := bound_dates_read_back hleap hparams
  exact ⟨hback, hquery⟩

end TableApi.Filter
