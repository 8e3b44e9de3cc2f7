import TableApi.Proofs.Filter.Effects

/-!
Dates that cannot be read. A translation fails only for a value that the reader refuses, under a
name that leads to an allowed date field, and the first such value decides the error. Otherwise each
parameter that is selected leaves the clause that it would leave alone.
-/

namespace TableApi.Filter

section

variable (fields : Fields) (dates : DateReader)

structure Fields.IsDateFilter (name : String) : Prop where
  notSort : name ≠ sortName
  notLimit : name ≠ limitName
  allowed : (Name.read name).field ∈ fields.allowed
  date : (Name.read name).field ∈ fields.dates

def Fields.HasBadDate (x : String × ParamValue) : Prop :=
  fields.IsDateFilter x.1 ∧ ∃ v ∈ x.2.values, ∃ e, dates (Name.read x.1).field v = .error e

/-- A date filter whose first value that the reader refuses gives the error `e`. -/
def Fields.FailsWith (x : String × ParamValue) (e : InvalidDate) : Prop :=
  fields.IsDateFilter x.1 ∧ ∃ good v rest, x.2.values = good ++ v :: rest ∧
    (∀ u ∈ good, ∃ d, dates (Name.read x.1).field u = .ok d) ∧
    dates (Name.read x.1).field v = .error e

/-- A parameter that is to leave a clause: its field is allowed, and it has a single value or a list
under an operator for lists. -/
def Fields.selects (x : String × ParamValue) : Bool :=
  x.1 != sortName && x.1 != limitName && fields.allows (Name.read x.1).field &&
    x.2.fits (Name.read x.1).operator

end

section

variable {fields : Fields} {dates : DateReader}

/-! ### Failing -/

/-- One parameter fails just when its first refused value is that of the error. -/
theorem effect_eq_error_iff {x : String × ParamValue} {e : InvalidDate} :
    effect fields dates x.1 x.2 = .error e ↔ fields.FailsWith dates x e := by
  obtain ⟨name, value⟩ := x
  by_cases hsort : name = sortName
  · subst hsort
    refine iff_of_false ?_ (fun h => h.1.notSort rfl)
    simp [effect_sort]
  · by_cases hlimit : name = limitName
    · subst hlimit
      refine iff_of_false ?_ (fun h => h.1.notLimit rfl)
      simp [effect_limit]
    · rw [effect_filter hsort hlimit, filterEffect_eq_error_iff, mapM_eq_error_iff]
      constructor
      · rintro ⟨hallowed, hdate, hfirst⟩
        exact ⟨⟨hsort, hlimit, hallowed, hdate⟩, hfirst⟩
      · rintro ⟨hfilter, hfirst⟩
        exact ⟨hfilter.allowed, hfilter.date, hfirst⟩

theorem Fields.exists_failsWith_iff (x : String × ParamValue) :
    (∃ e, fields.FailsWith dates x e) ↔ fields.HasBadDate dates x := by
  constructor
  · rintro ⟨e, hfilter, good, v, rest, hvalues, -, hv⟩
    refine ⟨hfilter, v, ?_, e, hv⟩
    rw [hvalues]
    exact List.mem_append_right _ List.mem_cons_self
  · rintro ⟨hfilter, v, hv, e, he⟩
    rcases forall_ok_or_first_error (dates (Name.read x.1).field) x.2.values with
      hall | ⟨good, u, rest, e', hvalues, hgood, hu⟩
    · obtain ⟨d, hd⟩ := hall v hv
      rw [hd] at he
      cases he
    · exact ⟨e', hfilter, good, u, rest, hvalues, hgood, hu⟩

theorem exists_effect_iff (x : String × ParamValue) :
    (∃ f, effect fields dates x.1 x.2 = .ok f) ↔ ¬fields.HasBadDate dates x := by
  rw [← Fields.exists_failsWith_iff]
  cases heffect : effect fields dates x.1 x.2 with
  | error e =>
    have hfails := effect_eq_error_iff.1 heffect
    exact iff_of_false (by simp) (fun h => h ⟨e, hfails⟩)
  | ok f =>
    refine iff_of_true ⟨f, rfl⟩ ?_
    rintro ⟨e, hfails⟩
    rw [effect_eq_error_iff.2 hfails] at heffect
    cases heffect

/-- The first date filter with a bad value decides the error. -/
theorem result_eq_first_error_iff {params : Parameters} {e : InvalidDate} :
    (translate fields dates params).result = .error e ↔
      ∃ before x after, params = before ++ x :: after ∧
        (∀ y ∈ before, ¬fields.HasBadDate dates y) ∧ fields.FailsWith dates x e := by
  simp only [result_eq_error_iff, exists_effect_iff, effect_eq_error_iff]

/-- A translation fails just when some parameter has a date that cannot be read. -/
theorem exists_error_iff {params : Parameters} :
    (∃ e, (translate fields dates params).result = .error e) ↔
      ∃ x ∈ params, fields.HasBadDate dates x := by
  constructor
  · rintro ⟨e, h⟩
    obtain ⟨before, x, after, rfl, -, hfails⟩ := result_eq_first_error_iff.1 h
    refine ⟨x, List.mem_append_right _ List.mem_cons_self, ?_⟩
    exact (Fields.exists_failsWith_iff x).1 ⟨e, hfails⟩
  · rintro ⟨x, hx, hbad⟩
    cases h : (translate fields dates params).result with
    | error e => exact ⟨e, rfl⟩
    | ok t =>
      -- a translation has an effect for every parameter, and this one has none
      obtain ⟨fs, heffects, -⟩ := effects_of_result h
      obtain ⟨f, -, hf⟩ := exists_of_mem_forall₂ heffects.flip hx
      exact absurd hbad ((exists_effect_iff x).1 ⟨f, hf⟩)

/-! ### Clauses -/

/-- A selected parameter leaves a clause on its field. -/
theorem clause_of_selects {x : String × ParamValue} {f : Effect}
    (h : effect fields dates x.1 x.2 = .ok f) (hselects : fields.selects x = true) :
    ∃ predicate, f = .clause {
      field := (Name.read x.1).field
      conjunction := (Name.read x.1).conjunction
      predicate } := by
  simp only [Fields.selects, Bool.and_eq_true, bne_iff_ne, ne_eq] at hselects
  obtain ⟨⟨⟨hsort, hlimit⟩, hallows⟩, hfits⟩ := hselects
  rw [effect_filter hsort hlimit] at h
  cases filterGives_of_filterEffect h with
  | unlisted hfield => simp [hfield] at hallows
  | list _ hvalue => simp [hvalue] at hfits
  | clause predicate => exact ⟨predicate, rfl⟩

theorem clause?_of_not_selects {x : String × ParamValue} {f : Effect}
    (h : effect fields dates x.1 x.2 = .ok f) (hselects : fields.selects x = false) :
    f.clause? = none := by
  obtain ⟨name, value⟩ := x
  by_cases hsort : name = sortName
  · subst hsort
    obtain rfl := Except.ok.inj (effect_sort.symm.trans h)
    unfold sortEffect
    split
    · rfl
    · dsimp only
      split_ifs
      · rfl
      · rfl
      · split <;> rfl
  · by_cases hlimit : name = limitName
    · subst hlimit
      obtain rfl := Except.ok.inj (effect_limit.symm.trans h)
      unfold limitEffect
      split
      · rfl
      · split <;> rfl
    · rw [effect_filter hsort hlimit] at h
      cases filterGives_of_filterEffect h with
      | unlisted => rfl
      | list => rfl
      | clause predicate hfield hvalue =>
        simp [Fields.selects, hsort, hlimit, hfield, hvalue] at hselects

theorem result_singleton {x : String × ParamValue} {f : Effect}
    (h : effect fields dates x.1 x.2 = .ok f) :
    (translate fields dates [x]).result = .ok (.ofEffects [f]) := by
  rw [result_eq_mapM, mapM_singleton, h]
  rfl

/-- A clause that a parameter leaves, and would leave if it were the only one. -/
def LeavesAlone (fields : Fields) (dates : DateReader) (x : String × ParamValue) (c : Clause) :
    Prop :=
  c.field = (Name.read x.1).field ∧ c.conjunction = (Name.read x.1).conjunction ∧
    (translate fields dates [x]).result = .ok { clauses := [c] }

theorem forall₂_clauses {params : Parameters} {fs : List Effect}
    (h : List.Forall₂ (fun x f => effect fields dates x.1 x.2 = .ok f) params fs) :
    List.Forall₂ (LeavesAlone fields dates) (params.filter fields.selects)
      (fs.filterMap Effect.clause?) := by
  induction h with
  | nil => exact .nil
  | @cons x f params fs hx _ ih =>
    rw [List.filter_cons, List.filterMap_cons]
    cases hselects : fields.selects x with
    | false =>
      rw [clause?_of_not_selects hx hselects]
      exact ih
    | true =>
      obtain ⟨predicate, rfl⟩ := clause_of_selects hx hselects
      exact .cons ⟨rfl, rfl, result_singleton hx⟩ ih

variable (fields dates) in
/-- A translation fails just when a date filter has a value that the reader refuses, with the error
of the first such value of the first such filter. If it does not fail, its clauses are those of the
selected parameters, in order, and each depends on its own parameter alone. -/
theorem translation_fails_at_first_bad_date (pairs : List (String × String)) :
    ((∃ e, (translate fields dates (.ofPairs pairs)).result = .error e) ↔
      ∃ x ∈ Parameters.ofPairs pairs, fields.HasBadDate dates x) ∧
    (∀ e, (translate fields dates (.ofPairs pairs)).result = .error e ↔
      ∃ before x after, Parameters.ofPairs pairs = before ++ x :: after ∧
        (∀ y ∈ before, ¬fields.HasBadDate dates y) ∧ fields.FailsWith dates x e) ∧
    ∀ t, (translate fields dates (.ofPairs pairs)).result = .ok t →
      List.Forall₂ (LeavesAlone fields dates)
        ((Parameters.ofPairs pairs).filter fields.selects) t.clauses := by
  refine ⟨exists_error_iff, fun e => result_eq_first_error_iff, ?_⟩
  intro t h
  obtain ⟨fs, heffects, rfl, -⟩ := effects_of_result h
  exact forall₂_clauses heffects

/-- A list that no operator asks for fails on its second date, before a later filter does; without
it the filter on another field leaves its clause. -/
theorem second_date_of_dropped_list_fails :
    (translate { allowed := ["day", "title"], dates := ["day", "born"] } calendarReader
      (.ofPairs [("born", "x"), ("title", "x"), ("day[]", "2024-01-01"), ("day_gt", "z"),
        ("day[]", "y")])).result = .error { field := "day", value := "y" } ∧
    List.Forall₂ (LeavesAlone { allowed := ["title"], dates := ["day"] } calendarReader)
      [("title", .single "x"), ("or_title_in", .many ["a", "b"])]
      [⟨"title", .and, .compare .eq (.text "x")⟩, ⟨"title", .or, .member (.texts ["a", "b"])⟩] := by
  constructor
  · obtain ⟨-, herror, -⟩ := translation_fails_at_first_bad_date
      { allowed := ["day", "title"], dates := ["day", "born"] } calendarReader
      [("born", "x"), ("title", "x"), ("day[]", "2024-01-01"), ("day_gt", "z"), ("day[]", "y")]
    refine (herror _).2 ⟨[("born", .single "x"), ("title", .single "x")],
      ("day", .many ["2024-01-01", "y"]), [("day_gt", .single "z")], by decide +kernel, ?_, ?_⟩
    · intro y hy
      rw [← exists_effect_iff]
      rcases List.mem_cons.1 hy with rfl | hy
      · exact ⟨.warning (.filterNotAllowed "born" "born"), by rfl⟩
      · obtain rfl := List.mem_singleton.1 hy
        exact ⟨.clause ⟨"title", .and, .compare .eq (.text "x")⟩, by rfl⟩
    · refine ⟨⟨by decide, by decide, by decide +kernel, by decide +kernel⟩,
        ["2024-01-01"], "y", [], rfl, ?_, by rfl⟩
      intro u hu
      obtain rfl := List.mem_singleton.1 hu
      exact ⟨_, by rfl⟩
  · obtain ⟨-, -, hclauses⟩ := translation_fails_at_first_bad_date
      { allowed := ["title"], dates := ["day"] } calendarReader
      [("title", "x"), ("day", "z"), ("or_title_in", "a,b"), ("title_gt[]", "c")]
    exact hclauses { clauses := [⟨"title", .and, .compare .eq (.text "x")⟩,
      ⟨"title", .or, .member (.texts ["a", "b"])⟩] } (by rfl)

end

end TableApi.Filter
