import TableApi.Proofs.Store.KeyMap
import TableApi.Proofs.Store.Reordering
import TableApi.Proofs.Store.WellFormed

/-!
Which of the values that a write names a column takes, and where a record shows it. A column of a new
row takes the first one; the row id, and a column of a row that is changed, take the last one.
-/

namespace TableApi.Store

/-- The column of the row id prefers integers. -/
theorem Column.affinity_of_holdsRowId {c : Column} (h : c.holdsRowId = true) :
    c.affinity = .integer := by
  obtain ⟨-, htype⟩ := Bool.and_eq_true_iff.1 h
  have hlower : Text.lower c.type = Text.lower "integer" := by
    simpa [Text.sameIgnoringCase] using htype
  have hmentions : Affinity.mentions c.type "int" = true := by
    rw [Affinity.mentions, hlower]
    decide
  rw [affinity, Affinity.ofType, if_pos hmentions]

namespace Table

variable {t t' : Table} {row : Row} {i : Nat} {c : Column} {assigned : Assignments}

theorem affinityAt_place (hc : t.columns[i]? = some c) :
    t.affinityAt (c.place i) = c.affinity := by
  rw [Column.place]
  split
  · exact (Column.affinity_of_holdsRowId ‹_›).symm
  · simp [affinityAt, hc]

/-! ### Names of one place -/

section Named

variable {α : Type}

def firstNamed? (t : Table) (place : Place) (record : Entries α) : Option (String × α) :=
  record.find? fun x => t.place? x.1 = some place

def lastNamed? (t : Table) (place : Place) (record : Entries α) : Option (String × α) :=
  t.firstNamed? place record.reverse

/-- An entry that alone names a place is the first to name it. -/
theorem firstNamed?_of_unique {place : Place} {record : Entries α} {x : String × α}
    (hx : x ∈ record) (hplace : t.place? x.1 = some place)
    (hunique : ∀ y ∈ record, t.place? y.1 = some place → y = x) :
    t.firstNamed? place record = some x := by
  rw [firstNamed?]
  cases hfind : record.find? fun x => t.place? x.1 = some place with
  | none => exact absurd hplace (by simpa using List.find?_eq_none.1 hfind x hx)
  | some y =>
    have hy : t.place? y.1 = some place := by simpa using List.find?_some hfind
    rw [hunique y (List.mem_of_find?_eq_some hfind) hy]

end Named

variable {unknown : String → DatabaseError} {record : Record}

theorem firstGiven?_assignments
    (h : t.assignments unknown (boundValues record) = .ok assigned) (place : Place) :
    firstGiven? assigned place =
      (t.firstNamed? place record).map fun x => Cell.ofValue (.ofJson x.2) := by
  rw [firstGiven?, firstNamed?, ← List.head?_filter, filter_assignments h, boundValues,
    List.filter_map, ← List.head?_filter]
  simp only [List.head?_map, Option.map_map]
  rfl

theorem lastGiven?_assignments
    (h : t.assignments unknown (boundValues record) = .ok assigned) (place : Place) :
    lastGiven? assigned place =
      (t.lastNamed? place record).map fun x => Cell.ofValue (.ofJson x.2) := by
  rw [lastGiven?, firstGiven?, lastNamed?, firstNamed?, ← List.head?_filter, ← List.head?_filter,
    List.filter_reverse, List.filter_reverse, filter_assignments h, boundValues, List.filter_map]
  simp only [List.head?_reverse, List.getLast?_map, Option.map_map]
  rfl

/-! ### What is taken -/

/-- A column of a new row holds what it is given; for a null the row id is one that the table
assigns. -/
theorem at_place_of_insert (h : t.insert assigned = .ok (t', row)) (hc : t.columns[i]? = some c)
    {cell : Cell} (hgiven : insertGiven? assigned (c.place i) = some cell) :
    if c.holdsRowId ∧ cell = .null then ∃ id, row.at (c.place i) = .integer id ∧ t.MayAssign id
    else row.at (c.place i) = c.affinity.store cell := by
  obtain ⟨id, hid, hcheck, rfl, -⟩ := insert_cases h
  by_cases hrowId : c.holdsRowId = true
  · rw [Column.place, if_pos hrowId] at hgiven ⊢
    have hcases := newId_cases hid
    rw [show lastGiven? assigned .rowId = some cell from hgiven] at hcases
    by_cases hnull : cell = .null
    · rw [if_pos ⟨hrowId, hnull⟩]
      rcases hcases with hstore | ⟨-, hnext⟩
      · -- a null is no row id
        rw [hnull] at hstore
        cases hstore
      · obtain rfl := hnext
        exact ⟨_, rfl, mayAssign_nextId (id_ne_of_check hcheck)⟩
    · rw [if_neg fun h => hnull h.2, Column.affinity_of_holdsRowId hrowId]
      rcases hcases with hstore | ⟨hnull', -⟩
      · exact hstore.symm
      · exact absurd hnull' hnull
  · have hcolumn : c.holdsRowId = false := eq_false_of_ne_true hrowId
    rw [Column.place, if_neg hrowId] at hgiven ⊢
    rw [at_cellsWith hc hcolumn, show firstGiven? assigned (.column i) = some cell from hgiven,
      if_neg fun h => hrowId h.1]
    rfl

/-- A column of a changed row holds what it is given. -/
theorem at_place_of_changed {r : Row} (h : t.changed assigned r = .ok row)
    (hc : t.columns[i]? = some c) {cell : Cell}
    (hgiven : lastGiven? assigned (c.place i) = some cell) :
    row.at (c.place i) = c.affinity.store cell := by
  rw [at_of_changed h (hasPlace_place hc), hgiven, ← affinityAt_place hc]

/-! ### What is shown -/

/-- A record shows under the name of a column what the row holds in it. -/
theorem get?_record (ht : t.WellFormed) (hrow : t.IsRow row) (hc : t.columns[i]? = some c) :
    (t.record row).get? c.name = some (row.at (c.place i)).json := by
  have hnames : (t.columns.map Column.name).Nodup := by
    have hlower := ht.names
    rw [← Function.comp_def Text.lower Column.name, ← List.map_map] at hlower
    exact hlower.of_map
  apply Entries.get?_ofPairs_of_mem
  · exact hnames.sublist (names_pairs_sublist t.columns row.cells)
  · refine List.mem_of_getElem? (i := i) ?_
    simp [List.getElem?_zipWith, hc, hrow.cell hc]

end Table

end TableApi.Store
