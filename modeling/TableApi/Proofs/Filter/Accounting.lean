import TableApi.Proofs.Filter.Effects

/-!
Accounting for the parameters of a query. Pairs collect under distinct names and never leave a name
without a value. So each parameter comes to one clause, the one sort, the one limit, or one warning
that names what is dropped: nothing is lost without a word.
-/

namespace TableApi

namespace Filter

/-! ### Collected pairs -/

namespace Parameters

structure Collected (params : Parameters) : Prop where
  nodup : (Entries.names params).Nodup
  filled : ∀ x ∈ params, x.2.values ≠ []

theorem pieces_ne_nil (name value : String) : pieces name value ≠ [] := by
  unfold pieces
  split
  · intro h
    exact List.splitOn_ne_nil _ _ (List.map_eq_nil_iff.1 h)
  · exact List.cons_ne_nil _ _

/-- A further pair keeps the names distinct and leaves no name without a value. -/
theorem Collected.push {params : Parameters} (h : params.Collected) (key value : String) :
    (params.push key value).Collected := by
  have hpieces := pieces_ne_nil (splitBrackets key).1 value
  constructor
  · exact Entries.nodup_names_alter h.nodup _ _
  · have hnew : (if (splitBrackets key).2 || isSplit (splitBrackets key).1 value then
        ParamValue.many (pieces (splitBrackets key).1 value) else .single value).values ≠ [] := by
      split
      · exact hpieces
      · exact List.cons_ne_nil _ _
    refine Entries.forall_alter (P := fun v : ParamValue => v.values ≠ []) h.filled hnew ?_ _
    intro old hold
    exact List.append_ne_nil_of_left_ne_nil hold _

theorem Collected.foldl_push {params : Parameters} (h : params.Collected)
    (pairs : List (String × String)) :
    (pairs.foldl (fun params p => params.push p.1 p.2) params).Collected := by
  induction pairs generalizing params with
  | nil => exact h
  | cons p pairs ih => exact ih (h.push p.1 p.2)

theorem collected_ofPairs (pairs : List (String × String)) : (ofPairs pairs).Collected := by
  have hempty : Collected [] := ⟨List.nodup_nil, by simp⟩
  exact hempty.foldl_push pairs

end Parameters

theorem ParamValue.exists_last? {value : ParamValue} (h : value.values ≠ []) :
    ∃ raw, value.last? = some raw := ⟨_, List.getLast?_eq_some_getLast h⟩

/-! ### What one parameter comes to -/

/-- The field that a sort names: what stands before the first comma. -/
def sortField (raw : String) : String :=
  String.ofList (Text.trimChars (raw.toList.takeWhile (· != ',')))

theorem head?_splitOn (c : Char) (s : List Char) :
    (s.splitOn c).head? = some (s.takeWhile (· != c)) := by
  induction s with
  | nil => rfl
  | cons d s ih =>
    rw [List.splitOn, List.splitOnP_cons_eq_if_modifyHead, List.takeWhile_cons]
    rw [List.splitOn] at ih
    by_cases h : d = c
    · simp [h]
    · rw [if_neg (by simpa using h), if_pos (by simpa using h), List.head?_modifyHead, ih]
      rfl

theorem sortField_eq (raw : String) :
    ((raw.toList.splitOn ',').map fun part => String.ofList (Text.trimChars part)).getD 0 "" =
      sortField raw := by
  rw [List.getD_eq_getElem?_getD, ← List.head?_eq_getElem?, List.head?_map, head?_splitOn]
  rfl

/-- What each parameter comes to, and when. Every warning names the parameter, the field of the sort
or the limit that it drops. -/
inductive Yields (fields : Fields) : String × ParamValue → Effect → Prop
  | filter {name : String} {value : ParamValue} {f : Effect} (hsort : name ≠ sortName)
    (hlimit : name ≠ limitName) (hgives : FilterGives fields name value f) :
    Yields fields (name, value) f
  | sort {value : ParamValue} {raw : String} (direction : Direction)
    (hlast : value.last? = some raw) (hfield : fields.allows (sortField raw) = true) :
    Yields fields (sortName, value) (.sort { field := sortField raw, direction })
  | sortUnlisted {value : ParamValue} {raw : String} (hlast : value.last? = some raw)
    (hfield : fields.allows (sortField raw) = false) :
    Yields fields (sortName, value) (.warning (.sortNotAllowed (sortField raw)))
  | sortUndirected {value : ParamValue} {raw direction : String} (hlast : value.last? = some raw)
    (hfield : fields.allows (sortField raw) = true) (hread : Direction.read? direction = none) :
    Yields fields (sortName, value) (.warning (.unknownDirection (sortField raw) direction))
  | limit {value : ParamValue} {raw : String} {n : Nat} (hlast : value.last? = some raw)
    (hread : Text.readUnsigned64 (Text.trim raw) = .ok n) :
    Yields fields (limitName, value) (.limit n)
  | limitUnread {value : ParamValue} {raw : String} (hlast : value.last? = some raw)
    (hread : ∀ n, Text.readUnsigned64 (Text.trim raw) ≠ .ok n) :
    Yields fields (limitName, value) (.warning (.limitNotNumeric raw))

section

variable {fields : Fields} {dates : DateReader}

theorem yields_sortEffect {value : ParamValue} (h : value.values ≠ []) :
    Yields fields (sortName, value) (sortEffect fields value) := by
  obtain ⟨raw, hlast⟩ := ParamValue.exists_last? h
  simp only [sortEffect, hlast, sortField_eq]
  cases hfield : fields.allows (sortField raw) with
  | false => exact .sortUnlisted hlast hfield
  | true =>
    simp only [Bool.not_true, Bool.false_eq_true, if_false]
    split
    · exact .sort _ hlast hfield
    · split
      · exact .sort _ hlast hfield
      · rename_i hread
        exact .sortUndirected hlast hfield hread

theorem yields_limitEffect {value : ParamValue} (h : value.values ≠ []) :
    Yields fields (limitName, value) (limitEffect value) := by
  obtain ⟨raw, hlast⟩ := ParamValue.exists_last? h
  simp only [limitEffect, hlast]
  cases hread : Text.readUnsigned64 (Text.trim raw) with
  | ok n => exact .limit hlast hread
  | error e =>
    refine .limitUnread hlast ?_
    intro n hn
    rw [hread] at hn
    cases hn

/-- Each parameter comes to one thing, which its name and value decide. -/
theorem yields_of_effect {x : String × ParamValue} {f : Effect} (hvalues : x.2.values ≠ [])
    (h : effect fields dates x.1 x.2 = .ok f) : Yields fields x f := by
  obtain ⟨name, value⟩ := x
  by_cases hsort : name = sortName
  · subst hsort
    obtain rfl := Except.ok.inj (effect_sort.symm.trans h)
    exact yields_sortEffect hvalues
  · by_cases hlimit : name = limitName
    · subst hlimit
      obtain rfl := Except.ok.inj (effect_limit.symm.trans h)
      exact yields_limitEffect hvalues
    · rw [effect_filter hsort hlimit] at h
      exact .filter hsort hlimit (filterGives_of_filterEffect h)

/-! ### The count -/

theorem Yields.sort_of_isSome {x : String × ParamValue} {f : Effect} (h : Yields fields x f)
    (hsome : f.sort?.isSome) : x.1 = sortName := by
  cases h with
  | filter _ _ hgives => cases hgives <;> cases hsome
  | sort => rfl
  | sortUnlisted => rfl
  | sortUndirected => rfl
  | limit => cases hsome
  | limitUnread => cases hsome

theorem Yields.limit_of_isSome {x : String × ParamValue} {f : Effect} (h : Yields fields x f)
    (hsome : f.limit?.isSome) : x.1 = limitName := by
  cases h with
  | filter _ _ hgives => cases hgives <;> cases hsome
  | sort => cases hsome
  | sortUnlisted => cases hsome
  | sortUndirected => cases hsome
  | limit => rfl
  | limitUnread => rfl

theorem Yields.ne_nothing {x : String × ParamValue} {f : Effect} (h : Yields fields x f) :
    f ≠ .nothing := by
  rintro rfl
  cases h with
  | filter _ _ hgives => cases hgives

/-- Where only one name gives a kind of effect, there is at most one effect of that kind. -/
theorem toList_findSome? {β : Type} {kind : Effect → Option β} {name : String}
    {params : Parameters} {fs : List Effect} (hyields : List.Forall₂ (Yields fields) params fs)
    (hkind : ∀ x f, Yields fields x f → (kind f).isSome → x.1 = name)
    (hnames : (Entries.names params).Nodup) :
    (fs.findSome? kind).toList = fs.filterMap kind := by
  induction hyields with
  | nil => rfl
  | @cons x f params fs hx hrest ih =>
    obtain ⟨hfresh, hnames⟩ := List.nodup_cons.1 hnames
    rw [List.findSome?_cons, List.filterMap_cons]
    cases hf : kind f with
    | none => exact ih hnames
    | some b =>
      have hname : x.1 = name := hkind x f hx (by rw [hf]; rfl)
      -- a second effect of the kind would come from a second parameter of the name
      have hnone : fs.filterMap kind = [] := by
        rw [List.filterMap_eq_nil_iff]
        intro g hg
        obtain ⟨y, hy, hyg⟩ := exists_of_mem_forall₂ hrest hg
        by_contra hsome
        have hsame := hkind y g hyg (Option.isSome_iff_ne_none.2 hsome)
        apply hfresh
        rw [hname, ← hsame]
        exact List.mem_map_of_mem hy
      rw [hnone]
      rfl

theorem length_kinds {f : Effect} (h : f ≠ .nothing) :
    f.clause?.toList.length + f.sort?.toList.length + f.limit?.toList.length +
      f.warning?.toList.length = 1 := by
  cases f with
  | clause c => rfl
  | sort s => rfl
  | limit n => rfl
  | warning w => rfl
  | nothing => exact absurd rfl h

/-- Effects that do something are counted by what they do. -/
theorem length_eq_of_kinds {fs : List Effect} (h : ∀ f ∈ fs, f ≠ .nothing) :
    fs.length = (fs.filterMap Effect.clause?).length + (fs.filterMap Effect.sort?).length +
      (fs.filterMap Effect.limit?).length + (fs.filterMap Effect.warning?).length := by
  induction fs with
  | nil => rfl
  | cons f fs ih =>
    obtain ⟨hf, hfs⟩ := List.forall_mem_cons.1 h
    have hcons {β : Type} (kind : Effect → Option β) : ((f :: fs).filterMap kind).length =
        (kind f).toList.length + (fs.filterMap kind).length := by
      rw [List.filterMap_cons]
      cases kind f with
      | none => exact (Nat.zero_add _).symm
      | some b => exact Nat.add_comm _ _
    have hone := length_kinds hf
    have hrest := ih hfs
    rw [hcons, hcons, hcons, hcons, List.length_cons]
    omega

/-- Of the parameters that pairs collect into, each comes to one clause, the sort, the limit or one
warning that names what is dropped; clauses and warnings stand in the order of their parameters. -/
theorem every_parameter_accounted_for {pairs : List (String × String)} {t : Translation}
    (h : (translate fields dates (.ofPairs pairs)).result = .ok t) :
    (Parameters.ofPairs pairs).length =
      t.clauses.length + (if t.sort.isSome then 1 else 0) + (if t.limit.isSome then 1 else 0) +
        (translate fields dates (.ofPairs pairs)).warnings.length ∧
    ∃ fs : List Effect,
      List.Forall₂ (fun x f => effect fields dates x.1 x.2 = .ok f ∧ Yields fields x f)
        (Parameters.ofPairs pairs) fs ∧
      t.clauses = fs.filterMap Effect.clause? ∧
      t.sort.toList = fs.filterMap Effect.sort? ∧
      t.limit.toList = fs.filterMap Effect.limit? ∧
      (translate fields dates (.ofPairs pairs)).warnings = fs.filterMap Effect.warning? := by
  have hcollected := Parameters.collected_ofPairs pairs
  obtain ⟨fs, heffects, rfl, hwarnings⟩ := effects_of_result h
  have hboth : List.Forall₂ (fun x f => effect fields dates x.1 x.2 = .ok f ∧ Yields fields x f)
      (Parameters.ofPairs pairs) fs := by
    have hfilled := (List.forall₂_and_left _ _).2 ⟨hcollected.filled, heffects⟩
    refine hfilled.imp ?_
    intro x f hx
    exact ⟨hx.2, yields_of_effect hx.1 hx.2⟩
  have hyields : List.Forall₂ (Yields fields) (Parameters.ofPairs pairs) fs :=
    hboth.imp fun _ _ hx => hx.2
  have hsort : (Translation.ofEffects fs).sort.toList = fs.filterMap Effect.sort? :=
    toList_findSome? hyields (fun _ _ => Yields.sort_of_isSome) hcollected.nodup
  have hlimit : (Translation.ofEffects fs).limit.toList = fs.filterMap Effect.limit? :=
    toList_findSome? hyields (fun _ _ => Yields.limit_of_isSome) hcollected.nodup
  have hkinds : ∀ f ∈ fs, f ≠ .nothing := by
    intro f hf
    obtain ⟨x, -, hx⟩ := exists_of_mem_forall₂ hyields hf
    exact hx.ne_nothing
  have hset {β : Type} (o : Option β) : (if o.isSome then 1 else 0) = o.toList.length := by
    cases o <;> rfl
  refine ⟨?_, fs, hboth, rfl, hsort, hlimit, hwarnings⟩
  calc (Parameters.ofPairs pairs).length
    _ = fs.length := heffects.length_eq
    _ = _ := length_eq_of_kinds hkinds
    _ = _ := by rw [hset, hset, hsort, hlimit, hwarnings]; rfl

/-- A query with two filters and a sort, and three parameters that are dropped: a filter on a field
that is not allowed, a limit that is no number, and a list that no operator asks for. -/
def mixedPairs : List (String × String) :=
  [("title", "a"), ("secret_gt", "1"), ("limit", "ten"), ("title_gt[]", "5"),
    ("sort", "title,desc"), ("or_title_contains", "b")]

def mixedTranslation : Translation :=
  { clauses := [⟨"title", .and, .compare .eq (.text "a")⟩,
      ⟨"title", .or, .compare .like (.text "%b%")⟩],
    sort := some ⟨"title", .descending⟩ }

theorem mixed_query_accounted_for :
    (translate { allowed := ["title"] } calendarReader (.ofPairs mixedPairs)).result =
      .ok mixedTranslation ∧
    (translate { allowed := ["title"] } calendarReader (.ofPairs mixedPairs)).warnings =
      [.filterNotAllowed "secret_gt" "secret", .limitNotNumeric "ten",
        .listNotMembership "title_gt"] ∧
    (Parameters.ofPairs mixedPairs).length = 2 + 1 + 0 + 3 := by
  have hresult : (translate { allowed := ["title"] } calendarReader (.ofPairs mixedPairs)).result =
      .ok mixedTranslation := by
    rfl
  have hwarnings : (translate { allowed := ["title"] } calendarReader
      (.ofPairs mixedPairs)).warnings =
        [.filterNotAllowed "secret_gt" "secret", .limitNotNumeric "ten",
          .listNotMembership "title_gt"] := by
    rfl
  obtain ⟨hlength, -⟩ := every_parameter_accounted_for hresult
  rw [hwarnings] at hlength
  exact ⟨hresult, hwarnings, hlength⟩

end

end Filter

end TableApi
