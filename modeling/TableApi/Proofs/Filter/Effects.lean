import TableApi.Proofs.Filter.Allowed

namespace TableApi.Filter

section

variable {fields : Fields} {dates : DateReader} {params : Parameters}

theorem effects_of_mapM {fs : List Effect}
    (h : params.mapM (fun x => effect fields dates x.1 x.2) = .ok fs) :
    effects fields dates params = (fs, none) := by
  induction params generalizing fs with
  | nil =>
    obtain rfl : [] = fs := Except.ok.inj h
    rfl
  | cons x params ih =>
    rw [List.mapM_cons] at h
    obtain ⟨f, hf, h⟩ := eq_ok_of_bind h
    obtain ⟨rest, hrest, h⟩ := eq_ok_of_bind h
    obtain rfl : f :: rest = fs := Except.ok.inj h
    simp only [effects, hf, ih hrest]

theorem translate_of_mapM {fs : List Effect}
    (h : params.mapM (fun x => effect fields dates x.1 x.2) = .ok fs) :
    translate fields dates params =
      { result := .ok (.ofEffects fs), warnings := fs.filterMap Effect.warning? } := by
  rw [translate, effects_of_mapM h]

variable (fields dates params) in
/-- A translation is what its effects add up to, if every one of them can be had. -/
theorem result_eq_mapM :
    (translate fields dates params).result =
      (params.mapM fun x => effect fields dates x.1 x.2).map Translation.ofEffects := by
  induction params with
  | nil => rfl
  | cons x params ih =>
    rw [result_cons, ih, List.mapM_cons]
    cases effect fields dates x.1 x.2 with
    | error e => rfl
    | ok f =>
      cases params.mapM fun x => effect fields dates x.1 x.2 with
      | error e => rfl
      | ok fs => exact congrArg Except.ok (ofEffects_cons f fs).symm

/-- A translation comes from one effect for each parameter, in their order. -/
theorem effects_of_result {t : Translation}
    (h : (translate fields dates params).result = .ok t) :
    ∃ fs, List.Forall₂ (fun x f => effect fields dates x.1 x.2 = .ok f) params fs ∧
      t = .ofEffects fs ∧
      (translate fields dates params).warnings = fs.filterMap Effect.warning? := by
  rw [result_eq_mapM] at h
  obtain ⟨fs, hfs, rfl⟩ := eq_ok_of_map h
  refine ⟨fs, forall₂_of_mapM hfs, rfl, ?_⟩
  rw [translate_of_mapM hfs]

/-- The first parameter that fails decides the error. -/
theorem result_eq_error_iff {e : InvalidDate} :
    (translate fields dates params).result = .error e ↔
      ∃ before x after, params = before ++ x :: after ∧
        (∀ y ∈ before, ∃ f, effect fields dates y.1 y.2 = .ok f) ∧
        effect fields dates x.1 x.2 = .error e := by
  rw [result_eq_mapM, map_eq_error_iff, mapM_eq_error_iff]

end

def Operator.isMembership : Option Operator → Bool
  | some member | some notMember => true
  | _ => false

/-- A value that a filter takes: any single one, a list only under an operator for lists. -/
def ParamValue.fits (value : ParamValue) (operator : Option Operator) : Bool :=
  value.single?.isSome || Operator.isMembership operator

inductive FilterGives (fields : Fields) (parameter : String) (value : ParamValue) : Effect → Prop
  | unlisted (hfield : fields.allows (Name.read parameter).field = false) :
    FilterGives fields parameter value
      (.warning (.filterNotAllowed parameter (Name.read parameter).field))
  | list (hfield : fields.allows (Name.read parameter).field = true)
    (hvalue : value.fits (Name.read parameter).operator = false) :
    FilterGives fields parameter value (.warning (.listNotMembership parameter))
  | clause (predicate : Predicate) (hfield : fields.allows (Name.read parameter).field = true)
    (hvalue : value.fits (Name.read parameter).operator = true) :
    FilterGives fields parameter value (.clause {
      field := (Name.read parameter).field
      conjunction := (Name.read parameter).conjunction
      predicate })

section

variable {fields : Fields} {dates : DateReader} {parameter : String} {value : ParamValue}

theorem filterGives_of_filterEffect {f : Effect}
    (h : filterEffect fields dates parameter value = .ok f) :
    FilterGives fields parameter value f := by
  unfold filterEffect at h
  cases hallows : fields.allows (Name.read parameter).field with
  | false =>
    simp only [hallows, Bool.not_false, if_true] at h
    obtain rfl := Except.ok.inj h
    exact .unlisted hallows
  | true =>
    simp only [hallows, Bool.not_true, Bool.false_eq_true, if_false] at h
    cases value with
    | single raw =>
      obtain ⟨predicate, -, rfl⟩ := eq_ok_of_map h
      exact .clause predicate hallows rfl
    | many raw =>
      obtain ⟨values, -, rfl⟩ := eq_ok_of_map h
      -- only the two operators for lists leave a clause
      split
      · rename_i hoperator
        refine .clause _ hallows ?_
        rw [hoperator]
        rfl
      · rename_i hoperator
        refine .clause _ hallows ?_
        rw [hoperator]
        rfl
      · rename_i hmember hnotMember
        refine .list hallows ?_
        simp only [ParamValue.fits, ParamValue.single?, Option.isSome_none, Bool.false_or]
        unfold Operator.isMembership
        split
        · rename_i hoperator
          exact absurd hoperator hmember
        · rename_i hoperator
          exact absurd hoperator hnotMember
        · rfl

theorem scalarPredicate_eq_error_iff {name : Name} {raw : String} {e : InvalidDate} :
    scalarPredicate fields dates name raw = .error e ↔
      name.field ∈ fields.dates ∧ dates name.field raw = .error e := by
  unfold scalarPredicate
  by_cases hdate : fields.isDate name.field
  · have hmem : name.field ∈ fields.dates := List.contains_iff_mem.1 hdate
    simp only [hdate, if_true, map_eq_error_iff, hmem, true_and]
  · have hmem : name.field ∉ fields.dates := by
      intro hmem
      exact hdate (List.contains_iff_mem.2 hmem)
    simp [hdate, hmem]

theorem listValue_eq_error_iff {field : String} {raw : List String} {e : InvalidDate} :
    listValue fields dates field raw = .error e ↔
      field ∈ fields.dates ∧ raw.mapM (dates field) = .error e := by
  unfold listValue
  by_cases hdate : fields.isDate field
  · have hmem : field ∈ fields.dates := List.contains_iff_mem.1 hdate
    simp only [hdate, if_true, map_eq_error_iff, hmem, true_and]
  · have hmem : field ∉ fields.dates := by
      intro hmem
      exact hdate (List.contains_iff_mem.2 hmem)
    simp [hdate, hmem]

/-- A filter on an allowed date field fails with the error of the first value that is no date. -/
theorem filterEffect_eq_error_iff {e : InvalidDate} :
    filterEffect fields dates parameter value = .error e ↔
      (Name.read parameter).field ∈ fields.allowed ∧ (Name.read parameter).field ∈ fields.dates ∧
        value.values.mapM (dates (Name.read parameter).field) = .error e := by
  unfold filterEffect
  by_cases hallows : fields.allows (Name.read parameter).field
  · have hmem : (Name.read parameter).field ∈ fields.allowed := List.contains_iff_mem.1 hallows
    simp only [hallows, Bool.not_true, Bool.false_eq_true, if_false, hmem, true_and]
    cases value with
    | single raw =>
      simp only [map_eq_error_iff, scalarPredicate_eq_error_iff, ParamValue.values,
        mapM_singleton]
    | many raw =>
      simp only [map_eq_error_iff, listValue_eq_error_iff, ParamValue.values]
  · have hmem : (Name.read parameter).field ∉ fields.allowed := by
      intro hmem
      exact hallows (List.contains_iff_mem.2 hmem)
    simp [hallows, hmem]

theorem effect_sort : effect fields dates sortName value = .ok (sortEffect fields value) := by
  simp [effect]

theorem effect_limit : effect fields dates limitName value = .ok (limitEffect value) := by
  simp [effect, sortName, limitName]

theorem effect_filter (hsort : parameter ≠ sortName) (hlimit : parameter ≠ limitName) :
    effect fields dates parameter value = filterEffect fields dates parameter value := by
  simp [effect, hsort, hlimit]

end

end TableApi.Filter
