import Mathlib.Data.List.Basic
import TableApi.Proofs.Steps
import TableApi.Proofs.Store.Order
import TableApi.Store.Write

namespace TableApi.Store

namespace Table

theorem firstGiven?_eq_none_iff {values : Assignments} {place : Place} :
    firstGiven? values place = none ↔ ∀ c, (place, c) ∉ values := by
  simp only [firstGiven?, Option.map_eq_none_iff, List.find?_eq_none, decide_eq_true_eq]
  constructor
  · exact fun h c hc => h _ hc rfl
  · rintro h ⟨_, c⟩ hc rfl
    exact h c hc

theorem mem_of_firstGiven? {values : Assignments} {place : Place} {c : Cell}
    (h : firstGiven? values place = some c) : (place, c) ∈ values := by
  obtain ⟨x, hfind, rfl⟩ := Option.map_eq_some_iff.1 h
  have hplace : x.1 = place := by simpa using List.find?_some hfind
  exact hplace ▸ List.mem_of_find?_eq_some hfind

theorem lastGiven?_eq_none_iff {values : Assignments} {place : Place} :
    lastGiven? values place = none ↔ ∀ c, (place, c) ∉ values := by
  simp only [lastGiven?, firstGiven?_eq_none_iff, List.mem_reverse]

theorem mem_of_lastGiven? {values : Assignments} {place : Place} {c : Cell}
    (h : lastGiven? values place = some c) : (place, c) ∈ values :=
  List.mem_reverse.1 (mem_of_firstGiven? h)

/-- The assignments of a write are its values in order, each with the place of its name. -/
theorem map_some_assignments {t : Table} {unknown : String → DatabaseError}
    {values : Entries Sql.Value} {assigned : Assignments}
    (h : t.assignments unknown values = .ok assigned) :
    assigned.map some =
      values.map fun x => (t.place? x.1).map fun place => (place, Cell.ofValue x.2) := by
  induction values generalizing assigned with
  | nil =>
    obtain rfl : [] = assigned := by simpa [assignments, pure, Except.pure] using h
    rfl
  | cons x values ih =>
    obtain ⟨name, value⟩ := x
    rw [assignments, List.mapM_cons] at h
    obtain ⟨a, ha, h⟩ := eq_ok_of_bind h
    obtain ⟨rest, hrest, h⟩ := eq_ok_of_bind h
    obtain rfl : a :: rest = assigned := Except.ok.inj h
    rw [List.map_cons, List.map_cons, ih hrest]
    cases hplace : t.place? name with
    | none => simp [hplace] at ha
    | some place =>
      obtain rfl : (place, Cell.ofValue value) = a := by simpa [hplace] using ha
      rfl

/-- A place is given a value just when some name stands for it. -/
theorem mem_assignments {t : Table} {unknown : String → DatabaseError}
    {values : Entries Sql.Value} {assigned : Assignments}
    (h : t.assignments unknown values = .ok assigned) (place : Place) (c : Cell) :
    (place, c) ∈ assigned ↔ ∃ x ∈ values, t.place? x.1 = some place ∧ Cell.ofValue x.2 = c := by
  have hmem : (place, c) ∈ assigned ↔ some (place, c) ∈ assigned.map some := by simp
  rw [hmem, map_some_assignments h, List.mem_map]
  simp only [Option.map_eq_some_iff, Prod.mk.injEq, ↓existsAndEq, true_and]

/-- Whether a name can have resolved to the place: a column has to be there and must not hold the
row id. -/
def HasPlace (t : Table) : Place → Prop
  | .rowId => True
  | .column i => ∃ c, t.columns[i]? = some c ∧ c.holdsRowId = false

theorem hasPlace_of_place? {t : Table} {name : String} {place : Place}
    (h : t.place? name = some place) : t.HasPlace place := by
  unfold place? at h
  cases hindex : t.columnIndex? name with
  | none =>
    simp only [hindex] at h
    split at h
    · obtain rfl : Place.rowId = place := by simpa using h
      trivial
    · simp at h
  | some i =>
    obtain ⟨hi, -⟩ := List.findIdx?_eq_some_iff_getElem.1 hindex
    simp only [hindex, List.getElem?_eq_getElem hi, Option.any_some] at h
    split at h
    · obtain rfl : Place.rowId = place := by simpa using h
      trivial
    · obtain rfl : Place.column i = place := by simpa using h
      exact ⟨_, List.getElem?_eq_getElem hi, eq_false_of_ne_true ‹_›⟩

theorem at_cellsWith {t : Table} {i : Nat} {c : Column} (hc : t.columns[i]? = some c)
    (hrowId : c.holdsRowId = false) (id : Int) (cellAt : Nat → Column → Cell) :
    Row.at { id, cells := t.cellsWith id cellAt } (.column i) = cellAt i c := by
  simp [Row.at, cellsWith, List.getElem?_mapIdx, hc, hrowId]

end Table

theorem insertRow_perm (r : Row) (rows : List Row) :
    (Table.insertRow r rows).Perm (r :: rows) := by
  induction rows with
  | nil => exact .refl _
  | cons s rows ih =>
    rw [Table.insertRow]
    split
    · exact .refl _
    · exact (ih.cons s).trans (.swap r s rows)

/-- A row with an id of its own finds its place among rows in order. -/
theorem pairwise_insertRow {r : Row} {rows : List Row}
    (hrows : rows.Pairwise fun a b => a.id < b.id) (hid : ∀ s ∈ rows, s.id ≠ r.id) :
    (Table.insertRow r rows).Pairwise fun a b => a.id < b.id := by
  induction rows with
  | nil => exact List.pairwise_singleton _ _
  | cons s rows ih =>
    obtain ⟨hs, hrest⟩ := List.pairwise_cons.1 hrows
    obtain ⟨hne, hne'⟩ := List.forall_mem_cons.1 hid
    rw [Table.insertRow]
    split
    · rename_i hlt
      refine List.pairwise_cons.2 ⟨fun a ha => ?_, hrows⟩
      rcases List.mem_cons.1 ha with rfl | ha
      · exact hlt
      · exact hlt.trans (hs a ha)
    · refine List.pairwise_cons.2 ⟨fun a ha => ?_, ih hrest hne'⟩
      rcases List.mem_cons.1 ((insertRow_perm r rows).mem_iff.1 ha) with rfl | ha
      · omega
      · exact hs a ha

namespace Table

/-- A row that passes the check has an id that no other row has. -/
theorem id_ne_of_check {t : Table} {r : Row} {others : List Row}
    (h : t.check r others = .ok ()) : ∀ s ∈ others, s.id ≠ r.id := by
  intro s hs hid
  have hany : (others.any fun s => s.id = r.id) = true :=
    List.any_eq_true.2 ⟨s, hs, by simpa using hid⟩
  simp only [check, repeatBreach?, hany, if_true] at h
  split at h <;> simp at h

/-- Whether a new row may get a row id: the next one, or any that no row has if there is no next. -/
def MayAssign (t : Table) (id : Int) : Prop :=
  if t.isWrapped then ∀ r ∈ t.rows, r.id ≠ id else id = t.nextId

/-- Whether a place of a new row may hold a value when it is given nothing. -/
def Assigns (t : Table) : Place → Cell → Prop
  | .rowId, cell => ∃ id, cell = .integer id ∧ t.MayAssign id
  | .column i, cell =>
    cell = (t.affinityAt (.column i)).store ((t.columns[i]?.map Column.default).getD .null)

theorem mayAssign_nextId {t : Table} (hfree : ∀ r ∈ t.rows, r.id ≠ t.nextId) :
    t.MayAssign t.nextId := by
  unfold MayAssign
  split
  · exact hfree
  · rfl

/-- What an insertion gives to a place: the last value for the row id, the first for a column. -/
def insertGiven? (values : Assignments) : Place → Option Cell
  | .rowId => lastGiven? values .rowId
  | .column i => firstGiven? values (.column i)

theorem store_of_rowIdOf? {c : Cell} {id : Int} (h : rowIdOf? c = some id) :
    Affinity.integer.store c = .integer id := by
  unfold rowIdOf? at h
  split at h
  · rename_i i hstore
    rw [hstore, Option.some.inj h]
  · simp at h

theorem eq_nextId_of_newId {t : Table} {id : Int}
    (h : (if t.nextId ≤ (Text.maxSigned64 : Int) then Except.ok t.nextId
      else .error DatabaseError.full) = .ok id) :
    id = t.nextId ∧ id ≤ (Text.maxSigned64 : Int) := by
  split at h
  · rename_i hfits
    obtain rfl := Except.ok.inj h
    exact ⟨rfl, hfits⟩
  · cases h

/-- The id of a new row is an integer that it was given, or the one that the table assigns. -/
theorem newId_cases {t : Table} {values : Assignments} {id : Int}
    (h : t.newId values = .ok id) :
    match lastGiven? values .rowId with
    | none => id = t.nextId
    | some c => Affinity.integer.store c = .integer id ∨ c = .null ∧ id = t.nextId := by
  unfold newId at h
  split at h
  · rename_i hgiven
    rw [hgiven]
    exact (eq_nextId_of_newId h).1
  · rename_i hgiven
    rw [hgiven]
    exact .inr ⟨rfl, (eq_nextId_of_newId h).1⟩
  · -- what is given and not null has to be an integer
    rename_i c hnull hgiven
    rw [hgiven]
    split at h
    · rename_i i hi
      exact .inl (Except.ok.inj h ▸ store_of_rowIdOf? hi)
    · simp at h

theorem insertGiven?_eq_none_iff {values : Assignments} {place : Place} :
    insertGiven? values place = none ↔ ∀ c, (place, c) ∉ values := by
  cases place with
  | rowId => exact lastGiven?_eq_none_iff
  | column i => exact firstGiven?_eq_none_iff

theorem mem_of_insertGiven? {values : Assignments} {place : Place} {c : Cell}
    (h : insertGiven? values place = some c) : (place, c) ∈ values := by
  cases place with
  | rowId => exact mem_of_lastGiven? h
  | column i => exact mem_of_firstGiven? h

/-- What an insertion does: it adds one row that passes the check, and nothing else changes. -/
theorem insert_cases {t t' : Table} {values : Assignments} {row : Row}
    (h : t.insert values = .ok (t', row)) :
    ∃ id, t.newId values = .ok id ∧ t.check row t.rows = .ok () ∧
      row = { id, cells := t.cellsWith id fun i c =>
        c.affinity.store ((firstGiven? values (.column i)).getD c.default) } ∧
      t' = { t with rows := insertRow row t.rows, lastId := t.lastIdWith id } := by
  obtain ⟨id, hid, h⟩ := eq_ok_of_bind h
  obtain ⟨_, hcheck, h⟩ := eq_ok_of_bind h
  obtain ⟨rfl, rfl⟩ := Prod.mk.inj (Except.ok.inj h)
  exact ⟨id, hid, hcheck, rfl, rfl⟩

/-- What an insertion puts at a place. A null in place of a row id counts as none given. -/
theorem at_of_insert {t t' : Table} {values : Assignments} {row : Row} {place : Place}
    (h : t.insert values = .ok (t', row)) (hplace : t.HasPlace place) :
    match insertGiven? values place with
    | none => t.Assigns place (row.at place)
    | some c => row.at place = (t.affinityAt place).store c ∨
        c = .null ∧ t.Assigns place (row.at place) := by
  obtain ⟨id, hid, hcheck, rfl, -⟩ := insert_cases h
  cases place with
  | rowId =>
    have hcases := newId_cases hid
    have hassigns : id = t.nextId → t.Assigns .rowId (.integer id) := by
      rintro rfl
      exact ⟨_, rfl, mayAssign_nextId (id_ne_of_check hcheck)⟩
    rw [insertGiven?]
    cases hgiven : lastGiven? values .rowId with
    | none =>
      rw [hgiven] at hcases
      exact hassigns hcases
    | some c =>
      rw [hgiven] at hcases
      rcases hcases with hstore | ⟨hnull, hid⟩
      · exact .inl hstore.symm
      · exact .inr ⟨hnull, hassigns hid⟩
  | column i =>
    obtain ⟨c, hc, hrowId⟩ := hplace
    rw [at_cellsWith hc hrowId, insertGiven?]
    cases hgiven : firstGiven? values (.column i) with
    | none => simp [Assigns, affinityAt, hc]
    | some cell => simp [affinityAt, hc]

theorem rows_of_insert {t t' : Table} {values : Assignments} {row : Row}
    (ht : t.InIdOrder) (h : t.insert values = .ok (t', row)) :
    t' = { t with rows := t'.rows, lastId := t'.lastId } ∧ t'.InIdOrder ∧
      t'.rows.Perm (row :: t.rows) := by
  obtain ⟨id, -, hcheck, -, rfl⟩ := insert_cases h
  exact ⟨rfl, pairwise_insertRow ht (id_ne_of_check hcheck), insertRow_perm row t.rows⟩

/-- A changed row holds at a place the last value that it was given there, or what it held. -/
theorem at_of_changed {t : Table} {values : Assignments} {r row : Row} {place : Place}
    (h : t.changed values r = .ok row) (hplace : t.HasPlace place) :
    row.at place =
      match lastGiven? values place with
      | none => r.at place
      | some c => (t.affinityAt place).store c := by
  obtain ⟨id, hid, h⟩ := eq_ok_of_bind h
  obtain rfl := Except.ok.inj h
  cases place with
  | column i =>
    obtain ⟨c, hc, hrowId⟩ := hplace
    rw [at_cellsWith hc hrowId, affinityAt, hc]
    cases lastGiven? values (.column i) <;> rfl
  | rowId =>
    unfold changedId at hid
    cases hgiven : lastGiven? values .rowId with
    | none =>
      rw [hgiven] at hid
      exact congrArg Cell.integer (Except.ok.inj hid).symm
    | some c =>
      simp only [hgiven] at hid
      split at hid
      · rename_i i hi
        exact (Except.ok.inj hid ▸ store_of_rowIdOf? hi).symm
      · simp at hid

theorem updateRow_cases {t t' : Table} {values : Assignments} {r row : Row}
    (h : t.updateRow values r = .ok (t', row)) :
    t.changed values r = .ok row ∧ (∀ s ∈ t.rows, s.id ≠ r.id → s.id ≠ row.id) ∧
      t' = { t with rows := insertRow row (t.rows.filter fun s => s.id != r.id) } := by
  obtain ⟨row', hrow, h⟩ := eq_ok_of_bind h
  obtain ⟨_, hcheck, h⟩ := eq_ok_of_bind h
  obtain ⟨rfl, rfl⟩ := Prod.mk.inj (Except.ok.inj h)
  refine ⟨hrow, fun s hs hid => id_ne_of_check hcheck s ?_, rfl⟩
  simpa using ⟨hs, hid⟩

def replacing (r row s : Row) : Row := if s.id = r.id then row else s

/-- Replacing a row where it stands, or taking it out and adding the new one, leaves the same rows.
-/
theorem map_replacing_perm {r row : Row} {rows : List Row}
    (hrows : rows.Pairwise fun a b => a.id < b.id) (hr : r ∈ rows) :
    (rows.map (replacing r row)).Perm (row :: rows.filter fun s => s.id != r.id) := by
  induction rows with
  | nil => simp at hr
  | cons s rows ih =>
    obtain ⟨hs, hrest⟩ := List.pairwise_cons.1 hrows
    by_cases hid : s.id = r.id
    · -- the ids rise, so no row behind this one has the id again
      have hother : ∀ a ∈ rows, a.id ≠ r.id := fun a ha => by
        have := hs a ha
        omega
      have hmap : rows.map (replacing r row) = rows :=
        (List.map_congr_left fun a ha => if_neg (hother a ha)).trans (List.map_id rows)
      have hfilter : (rows.filter fun s => s.id != r.id) = rows :=
        List.filter_eq_self.2 fun a ha => by simpa using hother a ha
      simp [replacing, hid, hmap, hfilter]
    · have hr' : r ∈ rows := (List.mem_cons.1 hr).resolve_left fun h => hid (h ▸ rfl)
      have hmap : replacing r row s = s := if_neg hid
      rw [List.map_cons, hmap, List.filter_cons_of_pos (by simpa using hid)]
      exact ((ih hrest hr').cons s).trans (.swap row s _)

/-- What an update of some rows does: each of them is changed and given back, all others stay as they
are, and the rows stay in order. -/
theorem rows_of_updateRows {t t' : Table} {values : Assignments} {rows rows' : List Row}
    (ht : t.InIdOrder) (hrows : rows.Pairwise fun a b => a.id < b.id) (hsub : rows ⊆ t.rows)
    (h : t.updateRows values rows = .ok (t', rows')) :
    t' = { t with rows := t'.rows, lastId := t'.lastId } ∧ t'.InIdOrder ∧
      ∃ change : Row → Row, t'.rows.Perm (t.rows.map change) ∧ rows' = rows.map change ∧
        (∀ s ∈ t.rows, s ∉ rows → change s = s) ∧
        ∀ s ∈ rows, t.changed values s = .ok (change s) := by
  induction rows generalizing t rows' with
  | nil =>
    obtain ⟨rfl, rfl⟩ := Prod.mk.inj (Except.ok.inj h)
    exact ⟨rfl, ht, id, by simp, rfl, fun _ _ _ => rfl, by simp⟩
  | cons r rest ih =>
    obtain ⟨⟨t₁, row⟩, hrow, h⟩ := eq_ok_of_bind h
    obtain ⟨⟨t₂, rows₂⟩, hrest, h⟩ := eq_ok_of_bind h
    obtain ⟨rfl, rfl⟩ := Prod.mk.inj (Except.ok.inj h)
    obtain ⟨hchanged, hids, rfl⟩ := updateRow_cases hrow
    obtain ⟨hfirst, hpairwise⟩ := List.pairwise_cons.1 hrows
    obtain ⟨hr, hsub'⟩ := List.cons_subset.1 hsub
    -- The other rows still stand in the table after the first one was changed.
    have hstays : ∀ s ∈ rest, replacing r row s = s := fun s hs => by
      have := hfirst s hs
      exact if_neg (by omega)
    have hperm : (insertRow row (t.rows.filter fun s => s.id != r.id)).Perm
        (t.rows.map (replacing r row)) :=
      (insertRow_perm row _).trans (map_replacing_perm ht hr).symm
    have hsub₁ : rest ⊆ insertRow row (t.rows.filter fun s => s.id != r.id) := fun s hs =>
      hperm.mem_iff.2 (List.mem_map.2 ⟨s, hsub' hs, hstays s hs⟩)
    have ht₁ : Table.InIdOrder
        { t with rows := insertRow row (t.rows.filter fun s => s.id != r.id) } := by
      refine pairwise_insertRow (List.Pairwise.filter _ ht) fun s hs => ?_
      obtain ⟨hs, hid⟩ := List.mem_filter.1 hs
      exact hids s hs (by simpa using hid)
    obtain ⟨hsame, ht₂, change, hchange, rfl, hothers, hrest'⟩ := ih ht₁ hpairwise hsub₁ hrest
    -- The changed row is none of those that follow: they have other ids.
    have hrow_not_mem : row ∉ rest := fun hmem => by
      have hlt := hfirst row hmem
      exact hids row (hsub' hmem) (by omega) rfl
    have hrow_mem : row ∈ insertRow row (t.rows.filter fun s => s.id != r.id) :=
      (insertRow_perm row _).mem_iff.2 List.mem_cons_self
    have hnew : replacing r row r = row := if_pos rfl
    refine ⟨hsame, ht₂, change ∘ replacing r row, ?_, ?_, ?_, ?_⟩
    · rw [← List.map_map]
      exact hchange.trans (hperm.map change)
    · rw [List.map_cons, Function.comp_apply, hnew, hothers row hrow_mem hrow_not_mem]
      exact List.cons_eq_cons.2 ⟨rfl, List.map_congr_left fun s hs => by
        rw [Function.comp_apply, hstays s hs]⟩
    · intro s hs hnot
      rw [List.mem_cons, not_or] at hnot
      have hid : s.id ≠ r.id := fun hid => hnot.1 (eq_of_id_eq ht hs hr hid)
      have hstay : replacing r row s = s := if_neg hid
      have hmem : s ∈ insertRow row (t.rows.filter fun s => s.id != r.id) :=
        hperm.mem_iff.2 (List.mem_map.2 ⟨s, hs, hstay⟩)
      rw [Function.comp_apply, hstay]
      exact hothers s hmem hnot.2
    · intro s hs
      rcases List.mem_cons.1 hs with rfl | hs
      · rw [Function.comp_apply, hnew, hothers row hrow_mem hrow_not_mem]
        exact hchanged
      · rw [Function.comp_apply, hstays s hs]
        exact hrest' s hs

end Table

end TableApi.Store
