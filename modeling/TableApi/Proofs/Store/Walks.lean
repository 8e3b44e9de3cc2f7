import Mathlib.Data.List.Sort
import TableApi.Proofs.Sql.Fields
import TableApi.Store.Listing

namespace TableApi

namespace Store

open TableApi.Filter (Conjunction)
open Sql (Condition Conditions Query conditionsFields)

theorem rowsAlong_perm (place : Place) (rows : List Row) : (rowsAlong place rows).Perm rows := by
  cases place with
  | rowId => exact List.Perm.refl rows
  | column i => exact List.mergeSort_perm rows _

mutual

/-- A walk visits every row once. -/
theorem visit_perm (t : Table) : ∀ (walk : Walk) (rows : List Row),
    (walk.visit t rows).Perm rows
  | .along place backwards, rows => by
    have hfound := rowsAlong_perm place rows
    rw [Walk.visit]
    cases backwards with
    | false => exact hfound
    | true => exact (List.reverse_perm _).trans hfound
  | .alternatives branches, rows => by
    rw [Walk.visit]
    exact visitBranches_perm t branches rows

theorem visitBranches_perm (t : Table) : ∀ (branches : List (Conditions × Walk))
    (rows : List Row), (visitBranches t branches rows).Perm rows
  | [], rows => by rw [visitBranches]
  | (run, walk) :: rest, rows => by
    have hfound := visit_perm t walk (rows.filter fun r => conditionsTruth t r run = some true)
    have hrest := visitBranches_perm t rest
      (rows.filter fun r => !decide (conditionsTruth t r run = some true))
    rw [visitBranches]
    exact (hfound.append hrest).trans (List.filter_append_perm _ rows)

end

/-- Terms that speak of the places of some names only, in runs of conditions on those names. -/
inductive Term.Names (t : Table) (names : List String) : Term → Prop
  | use {place : Place} {u : Use} (h : ∃ name ∈ names, t.place? name = some place) :
    Names t names (.use place u)
  | either {alternatives : List (Conditions × List Term)}
    (hruns : ∀ x ∈ alternatives, conditionsFields x.1 ⊆ names)
    (hterms : ∀ x ∈ alternatives, ∀ term ∈ x.2, Names t names term) :
    Names t names (.either alternatives)
  | constant : Names t names .constant
  | other : Names t names .other

/-- Walks by row id, along the places of some names and by conditions on those names. -/
inductive Walk.Names (t : Table) (names : List String) : Walk → Prop
  | byRowId (backwards : Bool) : Names t names (.along .rowId backwards)
  | along {place : Place} (h : ∃ name ∈ names, t.place? name = some place) (backwards : Bool) :
    Names t names (.along place backwards)
  | alternatives {branches : List (Conditions × Walk)}
    (hruns : ∀ x ∈ branches, conditionsFields x.1 ⊆ names)
    (hwalks : ∀ x ∈ branches, Names t names x.2) : Names t names (.alternatives branches)

namespace Table

variable {t : Table} {names : List String}

theorem names_term {field : String} {termAt : Place → Term}
    (h : ∀ place, t.place? field = some place → (termAt place).Names t names) :
    (t.term field termAt).Names t names := by
  unfold term
  cases hplace : t.place? field with
  | none => exact .constant
  | some place => exact h place hplace

def NamesRun (t : Table) (names : List String) (x : Conditions × List Term) : Prop :=
  conditionsFields x.1 ⊆ names ∧ ∀ term ∈ x.2, term.Names t names

theorem names_alternative {run : Conditions} {terms : List Term}
    (h : t.NamesRun names (run, terms)) : ∀ x ∈ alternative run terms, t.NamesRun names x := by
  unfold alternative
  split
  · rename_i alternatives
    intro x hx
    cases h.2 _ List.mem_cons_self with
    | either hruns hterms => exact ⟨hruns x hx, hterms x hx⟩
  · exact List.forall_mem_singleton.2 h

mutual

/-- The terms of a condition speak of the fields that it names. -/
theorem names_termsOf : ∀ {condition : Condition}, condition.fields ⊆ names →
    ∀ term ∈ t.termsOf condition, term.Names t names
  | .compare field op value, h => by
    rw [termsOf, List.forall_mem_singleton]
    refine names_term fun place hplace => ?_
    split
    · exact .use ⟨field, h (by simp [Condition.fields]), hplace⟩
    · exact .other
  | .isNull field, h => by
    rw [termsOf, List.forall_mem_singleton]
    refine names_term fun place hplace => ?_
    split
    · exact .use ⟨field, h (by simp [Condition.fields]), hplace⟩
    · exact .constant
  | .member field negated [], h => by
    rw [termsOf, List.forall_mem_singleton]
    exact .constant
  | .member field true (value :: values), h => by
    rw [termsOf, List.forall_mem_singleton]
    · exact names_term fun _ _ => .other
    · simp
  | .member field false [value], h => by
    rw [termsOf, List.forall_mem_singleton]
    exact names_term fun place hplace => .use ⟨field, h (by simp [Condition.fields]), hplace⟩
  | .member field false (value :: value' :: values), h => by
    rw [termsOf, List.forall_mem_singleton]
    · exact names_term fun place hplace => .use ⟨field, h (by simp [Condition.fields]), hplace⟩
    · simp
    · simp
  | .group conditions, h => by
    rw [termsOf]
    rw [Condition.fields] at h
    exact names_joinedTerms h

theorem names_joinedTerms : ∀ {conditions : Conditions}, conditionsFields conditions ⊆ names →
    ∀ term ∈ t.joinedTerms conditions, term.Names t names
  | [], _ => by simp [joinedTerms]
  | (conjunction, first) :: rest, h => by
    rw [conditionsFields, List.append_subset] at h
    have hfirst : t.NamesRun names ([(conjunction, first)], t.termsOf first) :=
      ⟨by simpa [conditionsFields] using h.1, names_termsOf h.1⟩
    have hall := names_alternativesFrom hfirst h.2
    rw [joinedTerms]
    split
    · rename_i heq
      rw [heq, List.forall_mem_singleton] at hall
      exact hall.2
    · exact List.forall_mem_singleton.2
        (.either (fun x hx => (hall x hx).1) fun x hx => (hall x hx).2)

theorem names_alternativesFrom : ∀ {conditions : Conditions} {run : Conditions}
    {terms : List Term}, t.NamesRun names (run, terms) → conditionsFields conditions ⊆ names →
    ∀ x ∈ t.alternativesFrom run terms conditions, t.NamesRun names x
  | [], _, _, hrun, _ => by
    rw [alternativesFrom]
    exact names_alternative hrun
  | (.and, condition) :: rest, run, terms, hrun, h => by
    rw [conditionsFields, List.append_subset] at h
    rw [alternativesFrom]
    refine names_alternativesFrom ⟨?_, ?_⟩ h.2
    · rw [Sql.conditionsFields_append, List.append_subset]
      exact ⟨hrun.1, by simpa [conditionsFields] using h.1⟩
    · exact List.forall_mem_append.2 ⟨hrun.2, names_termsOf h.1⟩
  | (.or, condition) :: rest, run, terms, hrun, h => by
    rw [conditionsFields, List.append_subset] at h
    have hnext : t.NamesRun names ([(.or, condition)], t.termsOf condition) :=
      ⟨by simpa [conditionsFields] using h.1, names_termsOf h.1⟩
    rw [alternativesFrom]
    exact List.forall_mem_append.2 ⟨names_alternative hrun, names_alternativesFrom hnext h.2⟩

end

theorem mem_of_equalPlace? {alternatives : List (Conditions × List Term)} {place : Place}
    (h : equalPlace? alternatives = some place) :
    ∃ x ∈ alternatives, x.2 = [.use place .equal] := by
  unfold equalPlace? at h
  split at h
  · cases h
  · obtain rfl := Option.some.inj h
    exact ⟨_, List.mem_cons_self, rfl⟩
  · split at h
    · obtain rfl := Option.some.inj h
      exact ⟨_, List.mem_cons_self, rfl⟩
    · cases h
  · cases h

/-- What a term says of a place, it says of the place of one of the names. -/
theorem names_use {term : Term} (hterm : term.Names t names) {place : Place} {u : Use}
    (h : term.use? = some (place, u)) : ∃ name ∈ names, t.place? name = some place := by
  cases hterm with
  | use hplace =>
    cases h
    exact hplace
  | either hruns hterms =>
    obtain ⟨p, hp, heq⟩ := Option.map_eq_some_iff.1 h
    cases heq
    obtain ⟨x, hx, hx2⟩ := mem_of_equalPlace? hp
    have hequal := hterms x hx (.use place .equal) (by simp [hx2])
    cases hequal with
    | use hplace => exact hplace
  | constant | other => cases h

/-- A search for the values at a place has something to go by, and finds rows in the order of the
place or of the row ids. -/
theorem mem_seeks {uses : List (Place × Use)} {place : Place} {s : Search}
    (h : s ∈ t.seeks uses place) :
    (∃ x ∈ uses, x.1 = place) ∧ (s.order = .inl .rowId ∨ s.order = .inl place) := by
  have hhere : ∀ u ∈ uses.filterMap (fun x => if x.1 = place then some x.2 else none),
      ∃ x ∈ uses, x.1 = place := by
    intro u hu
    obtain ⟨x, hx, hxu⟩ := List.mem_filterMap.1 hu
    exact ⟨x, hx, by_contra fun hne => by simp [hne] at hxu⟩
  unfold seeks at h
  generalize uses.filterMap (fun x => if x.1 = place then some x.2 else none) = here at h hhere
  rcases List.mem_append.1 h with h | h
  · obtain ⟨u, hu, hseek⟩ := List.mem_filterMap.1 h
    refine ⟨hhere u hu, ?_⟩
    cases u with
    | equal | null =>
      obtain rfl := Option.some.inj hseek
      exact .inl rfl
    | among count =>
      obtain rfl := Option.some.inj hseek
      exact .inr rfl
    | below | above | opening => cases hseek
  · have hrange := Option.mem_toList.1 h
    unfold range? at hrange
    dsimp only at hrange
    split at hrange
    · rename_i hbound
      obtain rfl := Option.some.inj hrange
      refine ⟨?_, .inr rfl⟩
      cases here with
      | nil => simp at hbound
      | cons u here => exact hhere u List.mem_cons_self
    · cases hrange

/-- Searches in the order of the row ids or of the place of a name, or through alternatives. -/
def NamesSearch (t : Table) (names : List String) (s : Search) : Prop :=
  match s.order with
  | .inl place => place = .rowId ∨ ∃ name ∈ names, t.place? name = some place
  | .inr (alternatives, others) =>
    (Term.either alternatives).Names t names ∧ ∀ term ∈ others, term.Names t names

theorem unions_cons {term : Term} (h : ∀ alternatives, term ≠ .either alternatives)
    (uses : List (Place × Use)) (passed rest : List Term) :
    t.unions uses passed (term :: rest) = t.unions uses (passed ++ [term]) rest := by
  rw [unions]
  exact h

theorem names_unions (uses : List (Place × Use)) {terms passed : List Term}
    (hpassed : ∀ term ∈ passed, term.Names t names) (hterms : ∀ term ∈ terms, term.Names t names) :
    ∀ s ∈ t.unions uses passed terms, t.NamesSearch names s := by
  induction terms generalizing passed with
  | nil => simp [unions]
  | cons term terms ih =>
    obtain ⟨hterm, hrest⟩ := List.forall_mem_cons.1 hterms
    have hlater := ih (List.forall_mem_append.2 ⟨hpassed, List.forall_mem_singleton.2 hterm⟩) hrest
    cases term with
    | either alternatives =>
      rw [unions]
      split
      · refine List.forall_mem_cons.2 ⟨?_, hlater⟩
        exact ⟨hterm, List.forall_mem_append.2 ⟨hpassed, hrest⟩⟩
      · exact hlater
    | use | constant | other =>
      rw [unions_cons (by simp)]
      exact hlater

theorem names_searches {terms : List Term} (hterms : ∀ term ∈ terms, term.Names t names) :
    ∀ s ∈ t.searches terms, t.NamesSearch names s := by
  refine List.forall_mem_append.2 ⟨?_, names_unions _ (by simp) hterms⟩
  intro s hs
  obtain ⟨place, -, hs⟩ := List.mem_flatMap.1 hs
  obtain ⟨⟨⟨p, u⟩, huse, rfl⟩, horder⟩ := mem_seeks hs
  obtain ⟨term, hterm, hu⟩ := List.mem_filterMap.1 huse
  unfold NamesSearch
  rcases horder with h | h <;> rw [h]
  · exact .inl rfl
  · exact .inr (names_use (hterms term hterm) hu)

theorem mem_of_best? {s : Search} {searches : List Search} (h : Search.best? searches = some s) :
    s ∈ searches := by
  induction searches with
  | nil => cases h
  | cons r rest ih =>
    unfold Search.best? at h
    split at h
    · rename_i q hq
      split at h
      · obtain rfl := Option.some.inj h
        exact List.mem_cons_of_mem r (ih hq)
      · obtain rfl := Option.some.inj h
        exact List.mem_cons_self
    · obtain rfl := Option.some.inj h
      exact List.mem_cons_self

theorem names_best? {searches : List Search} {s : Search}
    (h : ∀ s ∈ searches, t.NamesSearch names s) (hs : t.NamesSearch names s) :
    t.NamesSearch names ((Search.best? searches).getD s) := by
  cases hbest : Search.best? searches with
  | none => exact hs
  | some r => exact h r (mem_of_best? hbest)

/-- The search that is chosen goes by the row ids, by the names of the terms or by that of the
sort. -/
theorem names_chosen {terms : List Term} {sort : Option Filter.Order}
    (hterms : ∀ term ∈ terms, term.Names t names)
    (hsort : ∀ order, sort = some order → order.field ∈ names) :
    t.NamesSearch names (t.chosen terms sort).1 := by
  have hscan : ∀ n, t.NamesSearch names (t.scan n .rowId) := fun _ => .inl rfl
  have hnarrow := names_searches hterms
  unfold chosen
  generalize (terms.filter (!·.isConstant)).length = n
  have hfirst : t.NamesSearch names
      ((Search.best? (t.scan n .rowId :: t.searches terms)).getD (t.scan n .rowId)) :=
    names_best? (List.forall_mem_cons.2 ⟨hscan n, hnarrow⟩) (hscan n)
  cases sort with
  | none => exact hfirst
  | some order =>
    refine names_best? ?_ hfirst
    intro s hs
    obtain ⟨r, hr, rfl⟩ := List.mem_map.1 hs
    -- the cost of sorting does not change what is searched
    have hr' : t.NamesSearch names r := by
      rcases List.mem_append.1 hr with hr | hr
      · split at hr
        · cases hr
        · rcases List.mem_cons.1 hr with rfl | hr
          · exact hscan n
          · obtain ⟨place, hplace, rfl⟩ := List.mem_map.1 hr
            have hplace' := Option.mem_toList.1 (List.mem_filter.1 hplace).1
            exact .inr ⟨order.field, hsort order rfl, hplace'⟩
      · exact hnarrow r hr
    split
    · exact hr'
    · exact hr'

/-- So the walk of a query goes along the places that its fields name, or by row id. -/
theorem names_walkWithin (steps : Nat) : ∀ {terms : List Term} {sort : Option Filter.Order},
    (∀ term ∈ terms, term.Names t names) → (∀ order, sort = some order → order.field ∈ names) →
    (t.walkWithin steps terms sort).Names t names := by
  induction steps with
  | zero => exact fun _ _ => .byRowId false
  | succ steps ih =>
    intro terms sort hterms hsort
    have hchosen := names_chosen hterms hsort
    unfold NamesSearch at hchosen
    rw [walkWithin]
    generalize t.chosen terms sort = choice at hchosen ⊢
    obtain ⟨s, backwards⟩ := choice
    dsimp only at hchosen ⊢
    generalize s.order = order at hchosen ⊢
    cases order with
    | inl place =>
      rcases hchosen with rfl | hplace
      · exact .byRowId backwards
      · exact .along hplace backwards
    | inr x =>
      obtain ⟨alternatives, others⟩ := x
      obtain ⟨heither, hothers⟩ := hchosen
      cases heither with
      | either hruns hown =>
        refine .alternatives ?_ ?_
        · intro y hy
          obtain ⟨x, hx, rfl⟩ := List.mem_map.1 hy
          exact hruns x hx
        · intro y hy
          obtain ⟨x, hx, rfl⟩ := List.mem_map.1 hy
          exact ih (List.forall_mem_append.2 ⟨hown x hx, hothers⟩) (by simp)

/-- The rows of a table do not matter to what its walks name. -/
theorem names_of_declared {walk : Walk} (h : walk.Names t.declared names) :
    walk.Names t names := by
  induction h with
  | byRowId backwards => exact .byRowId backwards
  | along hplace backwards => exact .along (t := t) hplace backwards
  | alternatives hruns _ ih => exact .alternatives hruns ih

/-- A query visits rows by row id, along the places of the fields that it names, and by conditions
on those fields. -/
theorem names_walk (t : Table) (q : Query) : (t.walk q).Names t q.fields :=
  names_of_declared (names_walkWithin _ (names_joinedTerms (List.subset_append_left _ _))
    fun _ => Query.field_mem_of_order)

/-- Whether a query names the row id or a column with an index. -/
def MentionsKey (t : Table) (q : Query) : Prop :=
  ∃ name ∈ q.fields, ∃ place ∈ t.keys, t.place? name = some place

def AvoidsKeys (t : Table) (name : String) : Prop := ∀ place ∈ t.keys, t.place? name ≠ some place

variable (hnames : ∀ name ∈ names, t.AvoidsKeys name)

theorem seeks_eq_nil {uses : List (Place × Use)} (huses : ∀ x ∈ uses, x.1 ∉ t.keys) :
    t.keys.flatMap (t.seeks uses) = [] := by
  rw [List.flatMap_eq_nil_iff]
  intro place hplace
  rw [List.eq_nil_iff_forall_not_mem]
  intro s hs
  obtain ⟨⟨x, hx, rfl⟩, -⟩ := mem_seeks hs
  exact huses x hx hplace

/-- A term whose alternatives cannot all be searched, as long as no key is used beside them. -/
def HasNoUnion (t : Table) : Term → Prop
  | .either alternatives => ∀ uses : List (Place × Use), (∀ x ∈ uses, x.1 ∉ t.keys) →
    t.unionCost? uses none alternatives = none
  | _ => True

theorem unions_eq_nil {uses : List (Place × Use)} (huses : ∀ x ∈ uses, x.1 ∉ t.keys)
    {terms passed : List Term} (hterms : ∀ term ∈ terms, t.HasNoUnion term) :
    t.unions uses passed terms = [] := by
  induction terms generalizing passed with
  | nil => rw [unions]
  | cons term terms ih =>
    obtain ⟨hterm, hrest⟩ := List.forall_mem_cons.1 hterms
    cases term with
    | either alternatives => rw [unions, hterm uses huses, ih hrest]
    | use | constant | other =>
      rw [unions_cons (by simp)]
      exact ih hrest

include hnames in
theorem use_avoids_keys {terms : List Term} (hterms : ∀ term ∈ terms, term.Names t names) :
    ∀ x ∈ terms.filterMap Term.use?, x.1 ∉ t.keys := by
  intro x hx hkey
  obtain ⟨term, hterm, huse⟩ := List.mem_filterMap.1 hx
  obtain ⟨name, hname, hplace⟩ := names_use (hterms term hterm) huse
  exact hnames name hname x.1 hkey hplace

include hnames in
theorem hasNoUnion {term : Term} (hterm : term.Names t names) : t.HasNoUnion term := by
  induction hterm with
  | use | constant | other => trivial
  | @either alternatives _ hterms ih =>
    intro uses huses
    cases alternatives with
    | nil => rw [unionCost?]
    | cons x rest =>
      obtain ⟨run, terms⟩ := x
      -- the first alternative cannot be searched, and then the union cannot
      have hown := use_avoids_keys hnames (hterms _ List.mem_cons_self)
      have hall : ∀ x ∈ terms.filterMap Term.use? ++ uses, x.1 ∉ t.keys :=
        List.forall_mem_append.2 ⟨hown, huses⟩
      rw [unionCost?, seeks_eq_nil hall, unions_eq_nil hall (ih _ List.mem_cons_self)]
      split
      · rfl
      · rfl

include hnames in
theorem searches_eq_nil {terms : List Term} (hterms : ∀ term ∈ terms, term.Names t names) :
    t.searches terms = [] := by
  have huses := use_avoids_keys hnames hterms
  have hnone : ∀ term ∈ terms, t.HasNoUnion term :=
    fun term hterm => hasNoUnion hnames (hterms term hterm)
  rw [searches, seeks_eq_nil huses, unions_eq_nil huses hnone, List.append_nil]

/-- Rows by row id do not come in the order of another place. -/
theorem any_delivers {place? : Option Place} (h : place? ≠ some .rowId) {s : Search}
    (hrows : s.rows ≠ 0) (horder : s.order = .inl .rowId) : place?.any (delivers s) = false := by
  cases place? with
  | none => rfl
  | some p =>
    have hne : Place.rowId ≠ p := fun heq => h (heq ▸ rfl)
    simp [delivers, hrows, horder, hne]

theorem rows_scan_ne_zero (t : Table) (n : Nat) (place : Place) : (t.scan n place).rows ≠ 0 :=
  Nat.ne_of_gt (Nat.le_max_left 1 _)

include hnames in
/-- Where no key is named, reading all rows by row id is the only search there is. -/
theorem chosen_of_avoids {terms : List Term} {sort : Option Filter.Order}
    (hterms : ∀ term ∈ terms, term.Names t names)
    (hsort : ∀ order, sort = some order → order.field ∈ names) :
    ∃ s : Search, t.chosen terms sort = (s, false) ∧ s.order = .inl .rowId := by
  have hsearches := searches_eq_nil hnames hterms
  unfold chosen
  generalize (terms.filter (!·.isConstant)).length = n
  have hfirst : (Search.best? [t.scan n .rowId]).getD (t.scan n .rowId) = t.scan n .rowId := rfl
  cases sort with
  | none => exact ⟨t.scan n .rowId, by simp only [hsearches, hfirst], rfl⟩
  | some order =>
    have havoids := hnames _ (hsort order rfl)
    have hrowId : t.place? order.field ≠ some .rowId := havoids _ List.mem_cons_self
    have hwhole : (t.place? order.field).toList.filter
        (fun p => p != .rowId && t.keys.contains p) = [] := by
      rw [List.filter_eq_nil_iff]
      intro p hp hkey
      obtain ⟨-, hkey⟩ := Bool.and_eq_true_iff.1 hkey
      exact havoids p (List.contains_iff_mem.1 hkey) (Option.mem_toList.1 hp)
    have hpinned : (t.scan n .rowId).isPinned = false := rfl
    have hrows := t.rows_scan_ne_zero n .rowId
    have hscan := any_delivers hrowId hrows rfl
    simp only [hsearches, hfirst, hwhole, hpinned, Bool.false_eq_true, if_false, List.map_nil,
      List.append_nil, List.map_cons, hscan, Bool.or_false]
    split
    · refine ⟨t.scan n .rowId, ?_, rfl⟩
      simp [Search.best?, hscan]
    · refine ⟨{ t.scan n .rowId with sorting := t.sortCost ((t.scan n .rowId).rows + 1) }, ?_, rfl⟩
      refine Prod.ext rfl ?_
      simp only [Search.best?, Option.getD_some]
      rw [any_delivers hrowId ?_ rfl, Bool.and_false, Bool.false_and]
      exact hrows

include hnames in
theorem walkWithin_of_avoids {terms : List Term} {sort : Option Filter.Order} (steps : Nat)
    (hterms : ∀ term ∈ terms, term.Names t names)
    (hsort : ∀ order, sort = some order → order.field ∈ names) :
    t.walkWithin steps terms sort = .along .rowId false := by
  cases steps with
  | zero => rw [walkWithin]
  | succ steps =>
    obtain ⟨s, hchosen, horder⟩ := chosen_of_avoids hnames hterms hsort
    simp only [walkWithin, hchosen, horder]

/-- A query that names neither the row id nor a column with distinct values visits the rows by row
id. -/
theorem visited_of_not_mentionsKey {q : Query} (h : ¬ t.MentionsKey q) : t.visited q = t.rows := by
  have hnames : ∀ name ∈ q.fields, t.declared.AvoidsKeys name :=
    fun name hname place hplace heq => h ⟨name, hname, place, hplace, heq⟩
  have hwalk : t.walk q = .along .rowId false :=
    walkWithin_of_avoids hnames _ (names_joinedTerms (List.subset_append_left _ _))
      fun _ => Query.field_mem_of_order
  rw [visited, hwalk]
  rfl

theorem visited_perm (t : Table) (q : Query) : (t.visited q).Perm t.rows := visit_perm t _ _

end Table

end Store

end TableApi
