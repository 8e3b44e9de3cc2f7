import Mathlib.Data.List.Forall2
import Mathlib.Data.List.Sort
import TableApi.Proofs.Store.Paging

namespace TableApi

namespace Store

open Sql (Condition Conditions Query conditionsFields)

/-- A sort by what related elements have in common keeps lists related. -/
theorem forall₂_mergeSort {α : Type} {R : α → α → Prop} {le le' : α → α → Bool} {l l' : List α}
    (hle : ∀ a b a' b', R a a' → R b b' → le a b = le' a' b') (h : List.Forall₂ R l l') :
    List.Forall₂ R (l.mergeSort le) (l'.mergeSort le') := by
  obtain ⟨hlength, hpairs⟩ := List.forall₂_iff_zip.1 h
  have hfst : (l.zip l').map Prod.fst = l := List.map_fst_zip hlength.le
  have hsnd : (l.zip l').map Prod.snd = l' := List.map_snd_zip hlength.ge
  let lePair (p q : α × α) : Bool := le p.1 q.1
  -- the pairs are sorted once, and both lists are read off them
  have hleft : ((l.zip l').mergeSort lePair).map Prod.fst = l.mergeSort le := by
    have hmap := List.map_mergeSort (r := lePair) (s := le) (f := Prod.fst) (l := l.zip l')
      fun _ _ _ _ => rfl
    rw [hmap, hfst]
  have hright : ((l.zip l').mergeSort lePair).map Prod.snd = l'.mergeSort le' := by
    have hmap := List.map_mergeSort (r := lePair) (s := le') (f := Prod.snd) (l := l.zip l')
      fun p hp q hq => hle p.1 q.1 p.2 q.2 (hpairs hp) (hpairs hq)
    rw [hmap, hsnd]
  rw [← hleft, ← hright, List.forall₂_map_left_iff, List.forall₂_map_right_iff, List.forall₂_same]
  intro p hp
  exact hpairs (List.mem_mergeSort.1 hp)

theorem map_eq_of_forall₂ {α β : Type} {R : α → α → Prop} {f : α → β} {l l' : List α}
    (hf : ∀ a a', R a a' → f a' = f a) (h : List.Forall₂ R l l') : l'.map f = l.map f := by
  induction h with
  | nil => rfl
  | cons hr _ ih => rw [List.map_cons, List.map_cons, hf _ _ hr, ih]

namespace Table

variable (t : Table) (hidden : List String)

/-- Whether the row id is hidden: some column holds it, and no column shows it. -/
def HidesRowId : Prop :=
  (∃ c ∈ t.columns, c.holdsRowId = true) ∧ ∀ c ∈ t.columns, c.holdsRowId = true → c.name ∈ hidden

/-- Whether two rows have the same values in all columns that are not hidden. -/
structure SameOutside (r r' : Row) : Prop where
  cells : ∀ (i : Nat) (c : Column), t.columns[i]? = some c → c.name ∉ hidden →
    r'.cells[i]? = r.cells[i]?
  id : ¬ t.HidesRowId hidden → r'.id = r.id

/-- Whether two tables have the same rows in the same order, but for the values of hidden
columns. -/
structure AgreesOutside (t' : Table) : Prop where
  table : t' = { t with rows := t'.rows, lastId := t'.lastId }
  rows : List.Forall₂ (t.SameOutside hidden) t.rows t'.rows

/-- Whether a name leads to nothing hidden: it is not a hidden name, in whatever case, and where
the row id is hidden it does not stand for the row id by itself. -/
structure IsOpen (name : String) : Prop where
  column : ∀ h ∈ hidden, Text.sameIgnoringCase h name = false
  rowId : t.HidesRowId hidden → t.columnIndex? name = none → Text.lower name ∉ rowIdNames

variable {t hidden} {name : String} {place : Place} {r r' : Row} {t' : Table}

/-- Behind an open name both rows hold the same. -/
theorem SameOutside.at_eq (h : t.SameOutside hidden r r') (hname : t.IsOpen hidden name)
    (hplace : t.place? name = some place) : r'.at place = r.at place := by
  unfold place? at hplace
  cases hindex : t.columnIndex? name with
  | none =>
    simp only [hindex] at hplace
    split at hplace
    · rename_i hrowId
      obtain rfl := Option.some.inj hplace
      have hshown : ¬ t.HidesRowId hidden := fun hhides =>
        hname.rowId hhides hindex (List.contains_iff_mem.1 hrowId)
      rw [Row.at, Row.at, h.id hshown]
    · cases hplace
  | some i =>
    obtain ⟨hi, hsame, -⟩ := List.findIdx?_eq_some_iff_getElem.1 hindex
    -- the column that the name finds has a name that is not hidden
    have hvisible : t.columns[i].name ∉ hidden := fun hmem => by
      rw [hname.column _ hmem] at hsame
      cases hsame
    simp only [hindex, List.getElem?_eq_getElem hi, Option.any_some] at hplace
    split at hplace
    · rename_i hrowId
      obtain rfl := Option.some.inj hplace
      have hshown : ¬ t.HidesRowId hidden := fun hhides =>
        hvisible (hhides.2 _ (List.getElem_mem hi) hrowId)
      rw [Row.at, Row.at, h.id hshown]
    · obtain rfl := Option.some.inj hplace
      rw [Row.at, Row.at, h.cells i _ (List.getElem?_eq_getElem hi) hvisible]

theorem SameOutside.operand_eq (h : t.SameOutside hidden r r') (hname : t.IsOpen hidden name) :
    t.operand r' name = t.operand r name := by
  unfold operand
  cases hplace : t.place? name with
  | none => rfl
  | some place =>
    dsimp only
    rw [h.at_eq hname hplace]

theorem SameOutside.hasKey_eq (h : t.SameOutside hidden r r') (hname : t.IsOpen hidden name)
    (value : String) : t.hasKey name value r' = t.hasKey name value r := by
  rw [hasKey, hasKey, h.operand_eq hname]

mutual

/-- A condition on open names has the same truth for both rows. -/
theorem SameOutside.conditionTruth_eq (h : t.SameOutside hidden r r') {rows : List Row}
    {lastId : Int} : ∀ {condition : Condition}, (∀ name ∈ condition.fields, t.IsOpen hidden name) →
    conditionTruth { t with rows, lastId } r' condition = conditionTruth t r condition
  | .compare field op value, hopen => by
    have hoperand := h.operand_eq (hopen field List.mem_cons_self)
    rw [conditionTruth, conditionTruth, ← hoperand]
    rfl
  | .isNull field, hopen => by
    have hoperand := h.operand_eq (hopen field List.mem_cons_self)
    rw [conditionTruth, conditionTruth, ← hoperand]
    rfl
  | .member field negated values, hopen => by
    have hoperand := h.operand_eq (hopen field List.mem_cons_self)
    rw [conditionTruth, conditionTruth, ← hoperand]
    rfl
  | .group conditions, hopen => by
    rw [conditionTruth, conditionTruth, h.conditionsTruth_eq hopen]

/-- Conditions on open names are as true of the one row as of the other, whatever else the two
tables hold. -/
theorem SameOutside.conditionsTruth_eq (h : t.SameOutside hidden r r') {rows : List Row}
    {lastId : Int} : ∀ {conditions : Conditions},
    (∀ name ∈ conditionsFields conditions, t.IsOpen hidden name) →
    conditionsTruth { t with rows, lastId } r' conditions = conditionsTruth t r conditions
  | [], _ => by rw [conditionsTruth, conditionsTruth]
  | (conjunction, first) :: rest, hopen => by
    rw [conditionsFields, List.forall_mem_append] at hopen
    rw [conditionsTruth, conditionsTruth, h.conditionTruth_eq hopen.1, h.joinedTruth_eq hopen.2]

theorem SameOutside.joinedTruth_eq (h : t.SameOutside hidden r r') {rows : List Row}
    {lastId : Int} {run : Truth} : ∀ {conditions : Conditions},
    (∀ name ∈ conditionsFields conditions, t.IsOpen hidden name) →
    joinedTruth { t with rows, lastId } r' run conditions = joinedTruth t r run conditions
  | [], _ => by rw [joinedTruth, joinedTruth]
  | (.and, condition) :: rest, hopen => by
    rw [conditionsFields, List.forall_mem_append] at hopen
    rw [joinedTruth, joinedTruth, h.conditionTruth_eq hopen.1, h.joinedTruth_eq hopen.2]
  | (.or, condition) :: rest, hopen => by
    rw [conditionsFields, List.forall_mem_append] at hopen
    rw [joinedTruth, joinedTruth, h.conditionTruth_eq hopen.1, h.joinedTruth_eq hopen.2]

end

theorem SameOutside.precedes_eq {s s' : Row} {sort : Filter.Order} (h : t.SameOutside hidden r r')
    (h' : t.SameOutside hidden s s') (hsort : t.IsOpen hidden sort.field) :
    t.precedes sort r s = t.precedes sort r' s' := by
  unfold precedes
  cases hplace : t.place? sort.field with
  | none => rfl
  | some place =>
    dsimp only
    rw [h.at_eq hsort hplace, h'.at_eq hsort hplace]

/-- Rows sorted by an open name stay related. -/
theorem forall₂_sorted {order : Option Filter.Order} {rows rows' : List Row}
    (horder : ∀ sort, order = some sort → t.IsOpen hidden sort.field)
    (h : List.Forall₂ (t.SameOutside hidden) rows rows') :
    List.Forall₂ (t.SameOutside hidden) (t.sorted order rows) (t.sorted order rows') := by
  cases order with
  | none => exact h
  | some sort =>
    refine forall₂_mergeSort ?_ h
    intro a b a' b' ha hb
    exact ha.precedes_eq hb (horder sort rfl)

theorem forall₂_bounded {rows rows' : List Row} (n : Int)
    (h : List.Forall₂ (t.SameOutside hidden) rows rows') :
    List.Forall₂ (t.SameOutside hidden) (bounded n rows) (bounded n rows') := by
  unfold bounded
  split
  · exact h
  · exact List.forall₂_take _ h

def Asks (t : Table) (hidden : List String) (q : Query) : Prop :=
  ∀ name ∈ q.fields, t.IsOpen hidden name

theorem forall₂_rowsAlong {rows rows' : List Row}
    (hplace : ∀ r r', t.SameOutside hidden r r' → r'.at place = r.at place)
    (h : List.Forall₂ (t.SameOutside hidden) rows rows') :
    List.Forall₂ (t.SameOutside hidden) (rowsAlong place rows) (rowsAlong place rows') := by
  cases place with
  | rowId => exact h
  | column i =>
    refine forall₂_mergeSort ?_ h
    intro a b a' b' ha hb
    rw [hplace a a' ha, hplace b b' hb]

theorem forall₂_backwards (backwards : Bool) {rows rows' : List Row}
    (h : List.Forall₂ (t.SameOutside hidden) rows rows') :
    List.Forall₂ (t.SameOutside hidden) (if backwards then rows.reverse else rows)
      (if backwards then rows'.reverse else rows') := by
  cases backwards with
  | false => exact h
  | true => exact List.rel_reverse h

/-- Branches of a walk visit related rows at the same positions if the walks in them do. -/
theorem forall₂_visitBranches {names : List String} (hopen : ∀ name ∈ names, t.IsOpen hidden name)
    {held : List Row} {lastId : Int} {branches : List (Conditions × Walk)}
    (hruns : ∀ x ∈ branches, conditionsFields x.1 ⊆ names)
    (hwalks : ∀ x ∈ branches, ∀ {rows rows' : List Row},
      List.Forall₂ (t.SameOutside hidden) rows rows' →
      List.Forall₂ (t.SameOutside hidden) (x.2.visit t rows)
        (x.2.visit { t with rows := held, lastId } rows'))
    {rows rows' : List Row} (h : List.Forall₂ (t.SameOutside hidden) rows rows') :
    List.Forall₂ (t.SameOutside hidden) (visitBranches t branches rows)
      (visitBranches { t with rows := held, lastId } branches rows') := by
  induction branches generalizing rows rows' with
  | nil =>
    rw [visitBranches, visitBranches]
    exact h
  | cons x branches ih =>
    obtain ⟨run, walk⟩ := x
    obtain ⟨hrun, hruns⟩ := List.forall_mem_cons.1 hruns
    obtain ⟨hwalk, hwalks⟩ := List.forall_mem_cons.1 hwalks
    have htruth : ∀ {r r' : Row}, t.SameOutside hidden r r' →
        conditionsTruth { t with rows := held, lastId } r' run = conditionsTruth t r run :=
      fun hr => hr.conditionsTruth_eq fun name hname => hopen name (hrun hname)
    rw [visitBranches, visitBranches]
    refine List.rel_append (hwalk (List.rel_filter ?_ h)) (ih hruns hwalks (List.rel_filter ?_ h))
    · intro r r' hr
      dsimp only
      rw [htruth hr]
    · intro r r' hr
      dsimp only
      rw [htruth hr]

/-- A walk by open names visits related rows at the same positions. -/
theorem forall₂_visit {names : List String} (hopen : ∀ name ∈ names, t.IsOpen hidden name)
    {held : List Row} {lastId : Int} {walk : Walk} (hwalk : walk.Names t names) :
    ∀ {rows rows' : List Row},
    List.Forall₂ (t.SameOutside hidden) rows rows' →
    List.Forall₂ (t.SameOutside hidden) (walk.visit t rows)
      (walk.visit { t with rows := held, lastId } rows') := by
  induction hwalk with
  | byRowId backwards =>
    intro rows rows' h
    rw [Walk.visit, Walk.visit]
    exact forall₂_backwards backwards h
  | along hplace backwards =>
    intro rows rows' h
    obtain ⟨name, hname, hplace⟩ := hplace
    rw [Walk.visit, Walk.visit]
    exact forall₂_backwards backwards
      (forall₂_rowsAlong (fun _ _ hr => hr.at_eq (hopen name hname) hplace) h)
  | alternatives hruns _ ih =>
    intro rows rows' h
    rw [Walk.visit, Walk.visit]
    exact forall₂_visitBranches hopen hruns ih h

theorem forall₂_visited {q : Query} (hq : t.Asks hidden q) (ht : t.AgreesOutside hidden t') :
    List.Forall₂ (t.SameOutside hidden) (t.visited q) (t'.visited q) := by
  rw [ht.table]
  exact forall₂_visit hq (t.names_walk q) ht.rows

theorem forall₂_sorted_query {q : Query} (hq : t.Asks hidden q) (ht : t.AgreesOutside hidden t')
    {rows rows' : List Row} (h : List.Forall₂ (t.SameOutside hidden) rows rows') :
    List.Forall₂ (t.SameOutside hidden) (t.sorted q.order rows) (t'.sorted q.order rows') := by
  have hsame : t'.sorted q.order = t.sorted q.order := by
    rw [ht.table]
    rfl
  rw [hsame]
  exact forall₂_sorted (fun sort horder => hq _ (Query.field_mem_of_order horder)) h

/-- The rows that a query selects stand at the same positions. -/
theorem forall₂_matching {q : Query} (hq : t.Asks hidden q) (ht : t.AgreesOutside hidden t') :
    List.Forall₂ (t.SameOutside hidden) (t.matching q) (t'.matching q) := by
  have hselects : ∀ {r r' : Row}, t.SameOutside hidden r r' →
      t'.selects q r' = t.selects q r := by
    intro r r' hr
    have htruth : conditionsTruth { t with rows := t'.rows, lastId := t'.lastId } r' q.conditions =
        conditionsTruth t r q.conditions :=
      hr.conditionsTruth_eq fun name hname => hq name (List.mem_append_left _ hname)
    rw [ht.table, selects, selects, htruth]
  have hfilter : List.Forall₂ (t.SameOutside hidden) ((t.visited q).filter (t.selects q))
      ((t'.visited q).filter (t'.selects q)) := by
    refine List.rel_filter ?_ (forall₂_visited hq ht)
    intro r r' hr
    dsimp only
    rw [hselects hr]
  have hsorted := forall₂_sorted_query hq ht hfilter
  unfold matching
  cases q.limit with
  | none => exact hsorted
  | some n => exact forall₂_bounded _ hsorted

theorem forall₂_page {q : Query} (hq : t.Asks hidden q) (ht : t.AgreesOutside hidden t')
    (limit offset : Nat) :
    List.Forall₂ (t.SameOutside hidden) (t.page q limit offset) (t'.page q limit offset) := by
  have hmatching := forall₂_matching hq ht
  unfold page
  refine forall₂_bounded _ (List.forall₂_drop _ ?_)
  split
  · exact forall₂_sorted_query hq ht hmatching
  · exact hmatching

theorem forall₂_hasKey (hname : t.IsOpen hidden name) (ht : t.AgreesOutside hidden t')
    (value : String) :
    List.Forall₂ (t.SameOutside hidden) (t.rows.filter (t.hasKey name value))
      (t'.rows.filter (t'.hasKey name value)) := by
  have hsame : t'.hasKey name value = t.hasKey name value := by
    rw [ht.table]
    rfl
  rw [hsame]
  refine List.rel_filter ?_ ht.rows
  intro r r' hr
  dsimp only
  rw [hr.hasKey_eq hname]

end Table

end Store

end TableApi
