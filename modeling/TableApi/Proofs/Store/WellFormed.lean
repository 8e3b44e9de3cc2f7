import TableApi.Proofs.Store.Calls
import TableApi.Proofs.Store.Places

namespace TableApi.Store

def Column.place (c : Column) (i : Nat) : Place := if c.holdsRowId then .rowId else .column i

namespace Table

/-- A row with one cell for each column, that of the row id where a column holds it. -/
structure IsRow (t : Table) (r : Row) : Prop where
  length : r.cells.length = t.columns.length
  holder : ∀ x ∈ t.columns.zip r.cells, x.1.holdsRowId = true → x.2 = .integer r.id

structure WellFormed (t : Table) : Prop where
  names : (t.columns.map fun c => Text.lower c.name).Nodup
  holder : ∀ c ∈ t.columns, ∀ c' ∈ t.columns, c.holdsRowId = true → c'.holdsRowId = true → c = c'
  inIdOrder : t.InIdOrder
  rows : ∀ r ∈ t.rows, t.IsRow r

instance (t : Table) (r : Row) : Decidable (t.IsRow r) :=
  decidable_of_iff (r.cells.length = t.columns.length ∧
    ∀ x ∈ t.columns.zip r.cells, x.1.holdsRowId = true → x.2 = .integer r.id)
    ⟨fun h => ⟨h.1, h.2⟩, fun h => ⟨h.length, h.holder⟩⟩

theorem wellFormed_iff (t : Table) :
    t.WellFormed ↔ (t.columns.map fun c => Text.lower c.name).Nodup ∧
      (∀ c ∈ t.columns, ∀ c' ∈ t.columns,
        c.holdsRowId = true → c'.holdsRowId = true → c = c') ∧
      t.rows.Pairwise (fun r s => r.id < s.id) ∧ ∀ r ∈ t.rows, t.IsRow r :=
  ⟨fun h => ⟨h.names, h.holder, h.inIdOrder, h.rows⟩,
    fun ⟨hnames, hholder, hids, hrows⟩ => ⟨hnames, hholder, hids, hrows⟩⟩

instance (t : Table) : Decidable t.WellFormed := decidable_of_iff' _ t.wellFormed_iff

variable {t t' : Table} {r row : Row} {i : Nat} {c : Column} {values : Assignments}

theorem hasPlace_place (hc : t.columns[i]? = some c) : t.HasPlace (c.place i) := by
  rw [Column.place]
  split
  · trivial
  · exact ⟨c, hc, eq_false_of_ne_true ‹_›⟩

/-- A row holds in a column what stands at its place. -/
theorem IsRow.cell (h : t.IsRow r) (hc : t.columns[i]? = some c) :
    r.cells[i]? = some (r.at (c.place i)) := by
  obtain ⟨hi, -⟩ := List.getElem?_eq_some_iff.1 hc
  obtain ⟨cell, hcell⟩ : ∃ cell, r.cells[i]? = some cell :=
    ⟨_, List.getElem?_eq_getElem (h.length ▸ hi)⟩
  rw [Column.place]
  split
  · rename_i hrowId
    have hmem : (c, cell) ∈ t.columns.zip r.cells :=
      List.mem_of_getElem? (List.getElem?_zip_eq_some.2 ⟨hc, hcell⟩)
    have hid : cell = .integer r.id := h.holder _ hmem hrowId
    rw [hcell, hid]
    rfl
  · rw [Row.at, hcell]
    rfl

theorem isRow_cellsWith (t : Table) (id : Int) (cellAt : Nat → Column → Cell) :
    t.IsRow { id, cells := t.cellsWith id cellAt } := by
  refine ⟨by simp [cellsWith], ?_⟩
  intro x hx hrowId
  obtain ⟨i, hi⟩ := List.mem_iff_getElem?.1 hx
  obtain ⟨hc, hcell⟩ := List.getElem?_zip_eq_some.1 hi
  simp only [cellsWith, List.getElem?_mapIdx, hc, Option.map_some, hrowId, if_true] at hcell
  exact (Option.some.inj hcell).symm

/-- Whether a name stands for a column: its own in any case, and for the one that holds the row id
also a name of the row id that no column has. -/
def Names (t : Table) (c : Column) (name : String) : Prop :=
  Text.lower name = Text.lower c.name ∨
    c.holdsRowId = true ∧ t.columnIndex? name = none ∧ Text.lower name ∈ rowIdNames

/-- Only the names of a column lead to its place. -/
theorem names_of_place? (ht : t.WellFormed) (hc : t.columns[i]? = some c) {name : String}
    (h : t.place? name = some (c.place i)) : t.Names c name := by
  by_cases hrowId : c.holdsRowId = true
  · rw [Column.place, if_pos hrowId] at h
    unfold place? at h
    cases hindex : t.columnIndex? name with
    | none =>
      simp only [hindex] at h
      split at h
      · rename_i hname
        exact .inr ⟨hrowId, hindex, List.contains_iff_mem.1 hname⟩
      · cases h
    | some j =>
      -- the column of the name holds the row id, and there is but one that does
      obtain ⟨c', hc', hname⟩ := column_of_columnIndex? hindex
      simp only [hindex, hc', Option.any_some] at h
      split at h
      · rename_i hrowId'
        obtain rfl := ht.holder c (List.mem_of_getElem? hc) c' (List.mem_of_getElem? hc') hrowId
          hrowId'
        exact .inl hname.symm
      · cases h
  · rw [Column.place, if_neg hrowId] at h
    obtain ⟨c', hc', hname, -⟩ := column_of_place? h
    obtain rfl := Option.some.inj (hc.symm.trans hc')
    exact .inl hname.symm

theorem isRow_of_insert (h : t.insert values = .ok (t', row)) : t.IsRow row := by
  obtain ⟨id, -, -, rfl, -⟩ := insert_cases h
  exact isRow_cellsWith t id _

theorem isRow_of_changed (h : t.changed values r = .ok row) : t.IsRow row := by
  obtain ⟨id, -, h⟩ := eq_ok_of_bind h
  obtain rfl := Except.ok.inj h
  exact isRow_cellsWith t id _

/-- What a column holds in a new row that is given nothing for it: the default, or a row id. -/
def Unwritten (t : Table) (c : Column) (cell : Cell) : Prop :=
  if c.holdsRowId then ∃ id, cell = .integer id ∧ t.MayAssign id
  else cell = c.affinity.store c.default

/-- A column that is given nothing holds its default, or the row id. -/
theorem cell_of_insert (h : t.insert values = .ok (t', row)) (hc : t.columns[i]? = some c)
    (hnone : ∀ x, (c.place i, x) ∉ values) :
    ∃ cell, row.cells[i]? = some cell ∧ t.Unwritten c cell := by
  have hat := at_of_insert h (hasPlace_place hc)
  rw [insertGiven?_eq_none_iff.2 hnone] at hat
  refine ⟨_, (isRow_of_insert h).cell hc, ?_⟩
  unfold Unwritten
  rw [Column.place] at hat ⊢
  split
  · rename_i hrowId
    rw [if_pos hrowId] at hat
    exact hat
  · rename_i hcolumn
    rw [if_neg hcolumn] at hat
    simpa [Assigns, affinityAt, hc] using hat

/-- A column of a changed row that is given nothing holds what it held. -/
theorem cell_of_changed (h : t.changed values r = .ok row) (hr : t.IsRow r)
    (hc : t.columns[i]? = some c) (hnone : ∀ x, (c.place i, x) ∉ values) :
    row.cells[i]? = r.cells[i]? := by
  have hat := at_of_changed h (hasPlace_place hc)
  rw [lastGiven?_eq_none_iff.2 hnone] at hat
  rw [(isRow_of_changed h).cell hc, hr.cell hc, hat]

theorem WellFormed.of_succeeds (ht : t.WellFormed) (h : t'.Succeeds t)
    (hrows : ∀ r ∈ t'.rows, t.IsRow r) : t'.WellFormed := by
  refine ⟨h.columns ▸ ht.names, h.columns ▸ ht.holder, h.inIdOrder, fun r hr => ?_⟩
  have hrows := hrows r hr
  exact ⟨h.columns ▸ hrows.length, h.columns ▸ hrows.holder⟩

end Table

namespace Database

/-- A database whose tables are well-formed and have names of their own. -/
structure WellFormed (d : Database) : Prop where
  named : d.IsNamed
  tables : ∀ t ∈ d, t.WellFormed

variable {d d' : Database}

theorem WellFormed.withTable (hd : d.WellFormed) {t : Table} (ht : t.WellFormed) :
    (d.withTable t).WellFormed := by
  refine ⟨isNamed_withTable hd.named t, fun u hu => ?_⟩
  obtain ⟨v, hv, rfl⟩ := List.mem_map.1 hu
  split
  · exact ht
  · exact hd.tables v hv

/-- Statements keep a database well-formed. -/
theorem wellFormed_of_execute (hd : d.WellFormed) {s : Sql.Statement} {answer : Answer}
    (h : d.execute s = .ok (d', answer)) : d'.WellFormed := by
  cases s with
  | count table q =>
    obtain ⟨_, -, h⟩ := eq_ok_of_map h
    exact (Prod.mk.inj h).1 ▸ hd
  | page table q limit offset =>
    obtain ⟨_, -, h⟩ := eq_ok_of_map h
    exact (Prod.mk.inj h).1 ▸ hd
  | find table key value =>
    obtain ⟨_, -, h⟩ := eq_ok_of_map h
    exact (Prod.mk.inj h).1 ▸ hd
  | insert table values =>
    obtain ⟨t, -, -, -, ht, -⟩ := insert_of_ok h
    have hformed := hd.tables t (mem_of_table? ht)
    obtain ⟨t', assigned, row, rfl, -, hsucceeds, hperm, -, hinsert, -⟩ :=
      insert_of_execute ht hformed.inIdOrder h
    refine hd.withTable (hformed.of_succeeds hsucceeds fun r hr => ?_)
    rcases List.mem_cons.1 (hperm.mem_iff.1 hr) with rfl | hr
    · exact Table.isRow_of_insert hinsert
    · exact hformed.rows r hr
  | update table values key value =>
    obtain ⟨t, -, -, -, ht, -⟩ := update_of_ok h
    have hformed := hd.tables t (mem_of_table? ht)
    obtain ⟨t', assigned, change, rfl, -, hsucceeds, hperm, -, -, hchange⟩ :=
      update_of_execute ht hformed.inIdOrder h
    refine hd.withTable (hformed.of_succeeds hsucceeds fun r hr => ?_)
    obtain ⟨s, hs, rfl⟩ := List.mem_map.1 (hperm.mem_iff.1 hr)
    have hs' := hchange s hs
    split at hs'
    · exact Table.isRow_of_changed hs'
    · rw [hs']
      exact hformed.rows s hs
  | delete table key value =>
    obtain ⟨t, kept, ht, rfl, rfl, -⟩ := delete_of_ok h
    have hformed := hd.tables t (mem_of_table? ht)
    have hsucceeds : Table.Succeeds
        { t with rows := t.rows.filter fun r => !t.hasKey key value r } t :=
      ⟨rfl, rfl, List.Pairwise.filter _ hformed.inIdOrder⟩
    exact hd.withTable (hformed.of_succeeds hsucceeds fun r hr =>
      hformed.rows r (List.mem_filter.1 hr).1)

theorem wellFormed_after (hd : d.WellFormed) (s : Sql.Statement) : (d.after s).WellFormed := by
  cases h : d.execute s with
  | error e =>
    rw [after_of_error h]
    exact hd
  | ok result =>
    rw [after_of_ok h]
    exact wellFormed_of_execute hd h

end Database

end TableApi.Store
