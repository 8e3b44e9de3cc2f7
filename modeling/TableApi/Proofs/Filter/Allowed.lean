import TableApi.Api.Resource
import TableApi.Proofs.Entries
import TableApi.Proofs.Steps

namespace TableApi

namespace Filter

namespace Parameters

def nameOf (pair : String × String) : String := (splitBrackets pair.1).1

theorem retain_push (params : Parameters) (keep : String → Bool) (pair : String × String) :
    Entries.retain (push params pair.1 pair.2) keep =
      if keep (nameOf pair) then push (Entries.retain params keep) pair.1 pair.2
      else Entries.retain params keep := by
  unfold push nameOf
  exact Entries.retain_alter params keep _ _

theorem retain_foldl_push (pairs : List (String × String)) (params : Parameters)
    (keep : String → Bool) :
    Entries.retain (pairs.foldl (fun params p => push params p.1 p.2) params) keep =
      (pairs.filter fun p => keep (nameOf p)).foldl (fun params p => push params p.1 p.2)
        (Entries.retain params keep) := by
  induction pairs generalizing params with
  | nil => rfl
  | cons pair pairs ih =>
    rw [List.foldl_cons, ih, retain_push]
    by_cases hkeep : keep (nameOf pair) <;> simp [hkeep]

/-- Leaving names out of what is collected is collecting the other pairs. -/
theorem retain_ofPairs (pairs : List (String × String)) (keep : String → Bool) :
    Entries.retain (ofPairs pairs) keep = ofPairs (pairs.filter fun p => keep (nameOf p)) :=
  retain_foldl_push pairs [] keep

end Parameters

def Effect.onto (f : Effect) (t : Translation) : Translation :=
  { clauses := f.clause?.toList ++ t.clauses, sort := f.sort?.or t.sort,
    limit := f.limit?.or t.limit }

theorem ofEffects_cons (f : Effect) (fs : List Effect) :
    Translation.ofEffects (f :: fs) = f.onto (.ofEffects fs) := by
  cases f <;> rfl

section Translate

variable (fields : Fields) (dates : DateReader)

/-- The first parameter is translated on its own, and what it comes to is put before the others. -/
theorem result_cons (x : String × ParamValue) (params : Parameters) :
    (translate fields dates (x :: params)).result =
      effect fields dates x.1 x.2 >>= fun f =>
        (translate fields dates params).result.map f.onto := by
  obtain ⟨parameter, value⟩ := x
  simp only [translate, effects]
  cases effect fields dates parameter value with
  | error e => rfl
  | ok f =>
    cases hrest : effects fields dates params with
    | mk fs stopped =>
      cases stopped with
      | none => exact congrArg Except.ok (ofEffects_cons f fs)
      | some e => rfl

/-- Parameters that only warn can be left out. -/
theorem result_retain (keep : String → Bool) (params : Parameters)
    (hwarn : ∀ x ∈ params, keep x.1 = false →
      ∃ w, effect fields dates x.1 x.2 = .ok (.warning w)) :
    (translate fields dates (Entries.retain params keep)).result =
      (translate fields dates params).result := by
  induction params with
  | nil => rfl
  | cons x params ih =>
    obtain ⟨hx, hparams⟩ := List.forall_mem_cons.1 hwarn
    have hrest := ih hparams
    rw [Entries.retain_cons]
    by_cases hkeep : keep x.1
    · rw [if_pos hkeep, result_cons, result_cons, hrest]
    · rw [if_neg hkeep, hrest, result_cons]
      obtain ⟨w, hw⟩ := hx (eq_false_of_ne_true hkeep)
      rw [hw]
      -- a warning adds nothing to a translation and hides no error
      cases (translate fields dates params).result <;> rfl

def Fields.Covers (t : Translation) : Prop :=
  (∀ c ∈ t.clauses, c.field ∈ fields.allowed) ∧ ∀ s, t.sort = some s → s.field ∈ fields.allowed

def Fields.Permits : Effect → Prop
  | .clause c => c.field ∈ fields.allowed
  | .sort s => s.field ∈ fields.allowed
  | _ => True

theorem covers_onto {f : Effect} {t : Translation} (hf : fields.Permits f)
    (ht : fields.Covers t) : fields.Covers (f.onto t) := by
  obtain ⟨hclauses, hsort⟩ := ht
  cases f with
  | clause c =>
    refine ⟨?_, hsort⟩
    intro c' hc'
    rcases List.mem_cons.1 hc' with rfl | hc'
    · exact hf
    · exact hclauses c' hc'
  | sort s =>
    refine ⟨hclauses, ?_⟩
    intro s' hs'
    obtain rfl : s = s' := Option.some.inj hs'
    exact hf
  | limit n => exact ⟨hclauses, hsort⟩
  | warning w => exact ⟨hclauses, hsort⟩
  | nothing => exact ⟨hclauses, hsort⟩

theorem permits_sortEffect (value : ParamValue) : fields.Permits (sortEffect fields value) := by
  unfold sortEffect
  split
  · trivial
  · dsimp only
    split
    · trivial
    · -- the field has been looked up, whatever its direction turns out to be
      rename_i hallows
      rw [Bool.not_eq_true', Bool.not_eq_false] at hallows
      have hfield := List.contains_iff_mem.1 hallows
      split
      · exact hfield
      · split
        · exact hfield
        · trivial

theorem permits_limitEffect (value : ParamValue) : fields.Permits (limitEffect value) := by
  unfold limitEffect
  split
  · trivial
  · split <;> trivial

theorem permits_of_filterEffect {parameter : String} {value : ParamValue} {f : Effect}
    (h : filterEffect fields dates parameter value = .ok f) : fields.Permits f := by
  simp only [filterEffect] at h
  split at h
  · obtain rfl := Except.ok.inj h
    trivial
  · rename_i hallows
    rw [Bool.not_eq_true', Bool.not_eq_false] at hallows
    have hfield := List.contains_iff_mem.1 hallows
    split at h
    · obtain ⟨predicate, -, rfl⟩ := eq_ok_of_map h
      exact hfield
    · obtain ⟨values, -, rfl⟩ := eq_ok_of_map h
      split <;> first | exact hfield | trivial

theorem permits_of_effect {parameter : String} {value : ParamValue} {f : Effect}
    (h : effect fields dates parameter value = .ok f) : fields.Permits f := by
  unfold effect at h
  split at h
  · exact Except.ok.inj h ▸ permits_sortEffect fields value
  · split at h
    · exact Except.ok.inj h ▸ permits_limitEffect fields value
    · exact permits_of_filterEffect fields dates h

/-- A translation names allowed fields only. -/
theorem covers_of_translate {params : Parameters} {t : Translation}
    (h : (translate fields dates params).result = .ok t) : fields.Covers t := by
  induction params generalizing t with
  | nil =>
    obtain rfl : Translation.ofEffects [] = t := Except.ok.inj h
    constructor
    · intro c hc
      simp [Translation.ofEffects] at hc
    · intro s hs
      simp [Translation.ofEffects] at hs
  | cons x params ih =>
    rw [result_cons] at h
    obtain ⟨f, hf, h⟩ := eq_ok_of_bind h
    obtain ⟨rest, hrest, rfl⟩ := eq_ok_of_map h
    exact covers_onto fields (permits_of_effect fields dates hf) (ih hrest)

/-- A pair whose name is no keyword and leads to no allowed field. -/
def Fields.Ignores (pair : String × String) : Prop :=
  Parameters.nameOf pair ≠ sortName ∧ Parameters.nameOf pair ≠ limitName ∧
    (Name.read (Parameters.nameOf pair)).field ∉ fields.allowed

theorem effect_of_ignored {pair : String × String} (h : fields.Ignores pair)
    (value : ParamValue) :
    ∃ w, effect fields dates (Parameters.nameOf pair) value = .ok (.warning w) := by
  obtain ⟨hsort, hlimit, hfield⟩ := h
  have hallows : fields.allows (Name.read (Parameters.nameOf pair)).field = false := by
    simpa [Fields.allows] using hfield
  refine ⟨.filterNotAllowed (Parameters.nameOf pair) (Name.read (Parameters.nameOf pair)).field, ?_⟩
  simp [effect, hsort, hlimit, filterEffect, hallows]

/-- An ignored pair changes no result, wherever it is put in. -/
theorem result_insert_ignored {pair : String × String} (h : fields.Ignores pair)
    (before after : List (String × String)) :
    (translate fields dates (.ofPairs (before ++ pair :: after))).result =
      (translate fields dates (.ofPairs (before ++ after))).result := by
  -- both sides come to what the other names have collected
  let others : String → Bool := fun name => name != Parameters.nameOf pair
  have hothers (pairs : List (String × String)) :
      (translate fields dates (.ofPairs pairs)).result =
        (translate fields dates (.ofPairs (pairs.filter fun p =>
          others (Parameters.nameOf p)))).result := by
    rw [← Parameters.retain_ofPairs]
    refine (result_retain fields dates others _ ?_).symm
    intro x _ hx
    have hname : x.1 = Parameters.nameOf pair := by simpa [others] using hx
    rw [hname]
    exact effect_of_ignored fields dates h x.2
  rw [hothers, hothers (before ++ after)]
  simp [others]

end Translate

end Filter

namespace Api

open TableApi.Filter (DateReader Fields Name Parameters limitName sortName)

theorem Resource.translate_ofPairs (r : Resource) (pairs : List (String × String)) :
    r.translate (.ofPairs pairs) =
      Filter.translate r.fields Filter.calendarReader
        (.ofPairs (pairs.filter fun p => !pagingNames.contains (Parameters.nameOf p))) := by
  rw [translate, Parameters.without, Parameters.retain_ofPairs]

/-- An ignored pair changes no listing either, and a pair of paging not even its warnings. -/
theorem Resource.translate_insert (r : Resource) (pair : String × String)
    (before after : List (String × String)) :
    (Parameters.nameOf pair ∈ pagingNames →
      r.translate (.ofPairs (before ++ pair :: after)) = r.translate (.ofPairs (before ++ after))) ∧
    (r.fields.Ignores pair →
      (r.translate (.ofPairs (before ++ pair :: after))).result =
        (r.translate (.ofPairs (before ++ after))).result) := by
  rw [r.translate_ofPairs, r.translate_ofPairs, List.filter_append, List.filter_append,
    List.filter_cons]
  by_cases hpaging : Parameters.nameOf pair ∈ pagingNames
  · have hdropped : (!pagingNames.contains (Parameters.nameOf pair)) = false := by
      simpa using hpaging
    rw [hdropped]
    exact ⟨fun _ => rfl, fun _ => rfl⟩
  · have hkept : (!pagingNames.contains (Parameters.nameOf pair)) = true := by
      simpa using hpaging
    rw [if_pos hkept]
    refine ⟨fun h => absurd h hpaging, ?_⟩
    intro hignored
    exact Filter.result_insert_ignored r.fields Filter.calendarReader hignored _ _

/-- Translations name allowed fields only, and a pair whose name leads to no allowed field is
without effect wherever it stands. In a listing the pairs of paging are so too. -/
theorem unlisted_pairs_without_effect (fields : Fields) (dates : DateReader) :
    (∀ pairs t, (Filter.translate fields dates (.ofPairs pairs)).result = .ok t →
      (∀ c ∈ t.clauses, c.field ∈ fields.allowed) ∧
        ∀ s, t.sort = some s → s.field ∈ fields.allowed) ∧
    ∀ (before after : List (String × String)) (pair : String × String),
      (Parameters.nameOf pair ≠ sortName → Parameters.nameOf pair ≠ limitName →
        (Name.read (Parameters.nameOf pair)).field ∉ fields.allowed →
        (Filter.translate fields dates (.ofPairs (before ++ pair :: after))).result =
          (Filter.translate fields dates (.ofPairs (before ++ after))).result) ∧
      ∀ r : Resource,
        (Parameters.nameOf pair ∈ ["page", "per_page", "include"] →
          r.translate (.ofPairs (before ++ pair :: after)) =
            r.translate (.ofPairs (before ++ after))) ∧
        (r.fields.Ignores pair →
          (r.translate (.ofPairs (before ++ pair :: after))).result =
            (r.translate (.ofPairs (before ++ after))).result) := by
  refine ⟨fun pairs t h => Filter.covers_of_translate fields dates h, ?_⟩
  intro before after pair
  refine ⟨?_, fun r => r.translate_insert pair before after⟩
  intro hsort hlimit hfield
  exact Filter.result_insert_ignored fields dates ⟨hsort, hlimit, hfield⟩ before after

/-- A list under a prefix and a suffix, on a field that is not allowed, between a filter and a
sort that are; and a page number in brackets. -/
theorem disguised_pairs_without_effect :
    (Filter.translate { allowed := ["title"] } Filter.calendarReader
      (.ofPairs [("title", "a"), ("or_secret_not_in[]", "x"), ("sort", "title,desc")])).result =
        .ok { clauses := [⟨"title", .and, .compare .eq (.text "a")⟩],
              sort := some ⟨"title", .descending⟩ } ∧
    ({ table := ⟨"posts", "id"⟩, fields := { allowed := ["page"] } } : Resource).translate
        (.ofPairs [("page[]", "x"), ("sort", "page")]) =
      ({ table := ⟨"posts", "id"⟩, fields := { allowed := ["page"] } } : Resource).translate
        (.ofPairs [("sort", "page")]) := by
  obtain ⟨-, hinsert⟩ :=
    unlisted_pairs_without_effect { allowed := ["title"] } Filter.calendarReader
  constructor
  · have hfilter := (hinsert [("title", "a")] [("sort", "title,desc")]
      ("or_secret_not_in[]", "x")).1 (by decide +kernel) (by decide +kernel) (by decide +kernel)
    exact hfilter.trans (by rfl)
  · exact ((hinsert [] [("sort", "page")] ("page[]", "x")).2 _).1 (by decide +kernel)

end Api

end TableApi
