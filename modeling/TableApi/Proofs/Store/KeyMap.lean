import Mathlib.Logic.Function.Basic
import TableApi.Proofs.Entries
import TableApi.Proofs.Store.Calls
import TableApi.Proofs.Store.KeyText

namespace TableApi

namespace Store

abbrev KeyMap := Int → Option Row

namespace KeyMap

def selected (m : KeyMap) (text : String) : Option Row := (keyOf? text).bind m

def without (m : KeyMap) (text : String) : KeyMap :=
  match keyOf? text with
  | some id => Function.update m id none
  | none => m

def HasSize (m : KeyMap) (n : Nat) : Prop :=
  ∃ keys : List Int, keys.Nodup ∧ keys.length = n ∧ ∀ id, id ∈ keys ↔ (m id).isSome

def ofRows (rows : List Row) : KeyMap := fun id => rows.find? fun s => s.id = id

variable {m : KeyMap} {text : String} {rows : List Row} {row r : Row} {id : Int}

theorem selected_eq_some_iff :
    m.selected text = some r ↔ ∃ id, keyOf? text = some id ∧ m id = some r :=
  Option.bind_eq_some_iff

theorem selected_without (m : KeyMap) (text : String) : (m.without text).selected text = none := by
  unfold selected without
  cases keyOf? text with
  | none => rfl
  | some id => exact Function.update_self id none m

theorem id_of_ofRows (h : ofRows rows id = some r) : r.id = id := by
  simpa using List.find?_some h

theorem mem_of_ofRows (h : ofRows rows id = some r) : r ∈ rows := List.mem_of_find?_eq_some h

theorem ofRows_eq_none_iff : ofRows rows id = none ↔ ∀ s ∈ rows, s.id ≠ id := by
  simp [ofRows]

/-- A row with an id of its own is added to the map. -/
theorem ofRows_insertRow (hid : ∀ s ∈ rows, s.id ≠ row.id) :
    ofRows (Table.insertRow row rows) = Function.update (ofRows rows) row.id (some row) := by
  have hcons : ofRows (row :: rows) = Function.update (ofRows rows) row.id (some row) := by
    funext id
    by_cases h : id = row.id
    · subst h
      rw [Function.update_self, ofRows, List.find?_cons_of_pos (by simp)]
    · rw [Function.update_of_ne h, ofRows, List.find?_cons_of_neg (by simpa using Ne.symm h)]
      rfl
  rw [← hcons]
  clear hcons
  induction rows with
  | nil => rfl
  | cons s rows ih =>
    obtain ⟨hs, hrest⟩ := List.forall_mem_cons.1 hid
    rw [Table.insertRow]
    split
    · rfl
    · funext id
      have hrest := congrFun (ih hrest) id
      simp only [ofRows, List.find?_cons] at hrest ⊢
      rw [hrest]
      -- only one of the two rows can have the id
      by_cases hsid : s.id = id
      · have hrow : row.id ≠ id := fun h => hs (hsid.trans h.symm)
        simp [hsid, hrow]
      · simp [hsid]

/-- Leaving out the row with an id takes its key out of the map. -/
theorem ofRows_filter_ne (rows : List Row) (id : Int) :
    ofRows (rows.filter fun s => s.id != id) = Function.update (ofRows rows) id none := by
  funext key
  by_cases h : key = id
  · subst h
    rw [Function.update_self, ofRows_eq_none_iff]
    intro s hs
    simpa using (List.mem_filter.1 hs).2
  · rw [Function.update_of_ne h, ofRows, ofRows, List.find?_filter]
    congr 1
    funext s
    by_cases hs : s.id = key
    · simp [hs, h]
    · simp [hs]

/-- Rows in order have one key each. -/
theorem hasSize_ofRows (hrows : rows.Pairwise fun a b => a.id < b.id) :
    (ofRows rows).HasSize rows.length := by
  refine ⟨rows.map Row.id, ?_, List.length_map _, ?_⟩
  · exact List.pairwise_map.2 (hrows.imp fun {a b} (h : a.id < b.id) => by omega)
  · intro id
    rw [List.mem_map, ofRows, List.find?_isSome]
    simp

/-- Of rows in rising order at most one has an id. -/
theorem filter_id_eq (hrows : rows.Pairwise fun a b => a.id < b.id) (id : Int) :
    rows.filter (fun s => s.id = id) = (ofRows rows id).toList := by
  induction rows with
  | nil => rfl
  | cons s rows ih =>
    obtain ⟨hs, hrest⟩ := List.pairwise_cons.1 hrows
    by_cases hid : s.id = id
    · have hnone : rows.filter (fun s => s.id = id) = [] := by
        rw [List.filter_eq_nil_iff]
        intro a ha
        -- the rows behind one with the id have greater ids
        have hlt := hs a ha
        simp only [decide_eq_true_eq]
        omega
      rw [List.filter_cons_of_pos (by simpa using hid), hnone, ofRows,
        List.find?_cons_of_pos (by simpa using hid)]
      rfl
    · rw [List.filter_cons_of_neg (by simpa using hid), ih hrest, ofRows, ofRows,
        List.find?_cons_of_neg (by simpa using hid)]

end KeyMap

namespace Table

/-- A row that a table may have: its id fits 64 bits, and the column that holds it shows it. -/
structure Fits (t : Table) (r : Row) : Prop where
  signed : Affinity.isSigned64 r.id = true
  shown : ∀ (i : Nat) (c : Column), t.columns[i]? = some c → c.holdsRowId = true →
    r.cells[i]? = some (.integer r.id)

/-- A table with an integer primary key: the column of the key holds the row id. -/
structure KeyedBy (t : Table) (key : String) : Prop where
  column : ∃ i c, t.columnIndex? key = some i ∧ t.columns[i]? = some c ∧ c.holdsRowId = true
  names : (t.columns.map Column.name).Nodup
  inIdOrder : t.InIdOrder
  rows : ∀ r ∈ t.rows, t.Fits r

def ShowsKey (t : Table) (key : String) (record : Record) (id : Int) : Prop :=
  ∃ i c, t.columnIndex? key = some i ∧ t.columns[i]? = some c ∧
    record.get? c.name = some (.int id)

variable {t t' : Table} {key text : String} {r row : Row}

theorem KeyedBy.place (h : t.KeyedBy key) : t.place? key = some .rowId := by
  obtain ⟨i, c, hindex, hc, hrowId⟩ := h.column
  simp [place?, hindex, hc, hrowId]

theorem names_pairs_sublist (columns : List Column) (cells : List Cell) :
    ((columns.zipWith (fun c cell => (c.name, cell.json)) cells).map Prod.fst).Sublist
      (columns.map Column.name) := by
  induction columns generalizing cells with
  | nil => exact .slnil
  | cons c columns ih =>
    cases cells with
    | nil => exact List.nil_sublist _
    | cons cell cells => exact (ih cells).cons_cons c.name

theorem KeyedBy.shows (h : t.KeyedBy key) (hr : t.Fits r) :
    t.ShowsKey key (t.record r) r.id := by
  obtain ⟨i, c, hindex, hc, hrowId⟩ := h.column
  refine ⟨i, c, hindex, hc, Entries.get?_ofPairs_of_mem ?_ ?_⟩
  · exact h.names.sublist (names_pairs_sublist t.columns r.cells)
  · refine List.mem_of_getElem? (i := i) ?_
    simp [List.getElem?_zipWith, hc, hr.shown i c hc hrowId, Cell.json]

theorem hasKey_iff (hplace : t.place? key = some .rowId) :
    t.hasKey key text r = true ↔ keyOf? text = some r.id := by
  have hoperand : t.operand r key = { cell := .integer r.id, affinity := .integer } := by
    simp [operand, hplace, Row.at, affinityAt]
  simp only [hasKey, hoperand, Operand.compare, holds]
  rw [← compare_operand_eq_iff]
  simp

/-- The rows with a key are the one that the text of the key selects. -/
theorem filter_hasKey (h : t.KeyedBy key) (text : String) :
    t.rows.filter (t.hasKey key text) = ((KeyMap.ofRows t.rows).selected text).toList := by
  unfold KeyMap.selected
  cases hkey : keyOf? text with
  | none =>
    rw [Option.bind_none, Option.toList_none, List.filter_eq_nil_iff]
    intro r _ hr
    rw [hasKey_iff h.place, hkey] at hr
    cases hr
  | some id =>
    rw [Option.bind_some, ← KeyMap.filter_id_eq h.inIdOrder]
    apply List.filter_congr
    intro r _
    rw [Bool.eq_iff_iff, hasKey_iff h.place, hkey, decide_eq_true_eq, Option.some_inj, eq_comm]

/-- Removing the rows with a key takes the key out of the map. -/
theorem ofRows_filter_not_hasKey (h : t.KeyedBy key) (text : String) :
    KeyMap.ofRows (t.rows.filter fun r => !t.hasKey key text r) =
      (KeyMap.ofRows t.rows).without text := by
  unfold KeyMap.without
  cases hkey : keyOf? text with
  | none =>
    have hall : (t.rows.filter fun r => !t.hasKey key text r) = t.rows := by
      rw [List.filter_eq_self]
      intro r _
      rw [Bool.not_eq_true', ← Bool.not_eq_true, hasKey_iff h.place, hkey]
      intro hr
      cases hr
    rw [hall]
  | some id =>
    dsimp only
    rw [← KeyMap.ofRows_filter_ne]
    congr 1
    apply List.filter_congr
    intro r _
    have hiff : t.hasKey key text r = true ↔ r.id = id := by
      rw [hasKey_iff h.place, hkey, Option.some_inj, eq_comm]
    by_cases hid : r.id = id
    · simp [hiff.2 hid, hid]
    · simp [Bool.eq_false_iff.2 fun hr => hid (hiff.1 hr), hid]

theorem signed_of_wholeOf? {x : Binary64} {i : Int} (h : Affinity.wholeOf? x = some i) :
    Affinity.isSigned64 i = true := by
  unfold Affinity.wholeOf? at h
  split at h
  · split at h
    · rename_i hrange
      obtain rfl := Option.some.inj h
      rw [Bool.and_eq_true, decide_eq_true_eq, decide_eq_true_eq] at hrange
      rw [Affinity.isSigned64, Bool.and_eq_true, decide_eq_true_eq, decide_eq_true_eq]
      exact ⟨hrange.1.le, hrange.2.le⟩
    · cases h
  · cases h

/-- An id that a value is stored as fits 64 bits, provided that the value does if it is an
integer. -/
theorem signed_of_store {c : Cell} {id : Int}
    (hc : ∀ i, c = .integer i → Affinity.isSigned64 i = true)
    (h : Affinity.integer.store c = .integer id) : Affinity.isSigned64 id = true := by
  have hprefer : ∀ x, Affinity.preferInteger (.real x) = .integer id →
      Affinity.isSigned64 id = true := by
    intro x hx
    unfold Affinity.preferInteger at hx
    dsimp only at hx
    split at hx
    · rename_i i hi
      exact Cell.integer.inj hx ▸ signed_of_wholeOf? hi
    · cases hx
  cases c with
  | null => cases h
  | blob bytes => cases h
  | integer i => exact Cell.integer.inj h ▸ hc i rfl
  | real x => exact hprefer x h
  | text s =>
    have hstore : Affinity.preferInteger ((Affinity.numberOf? s).getD (.text s)) = .integer id := h
    cases hnumber : Affinity.numberOf? s with
    | none =>
      rw [hnumber] at hstore
      cases hstore
    | some c =>
      rw [hnumber, Option.getD_some] at hstore
      rcases numberOf?_isNumber hnumber with ⟨i, rfl, hi⟩ | ⟨x, rfl⟩
      · exact Cell.integer.inj hstore ▸ hi
      · exact hprefer x hstore

def SignedValues (values : Assignments) : Prop :=
  ∀ place i, (place, Cell.integer i) ∈ values → Affinity.isSigned64 i = true

theorem signedValues_of_assignments {unknown : String → DatabaseError}
    {values : Entries Sql.Value} {assigned : Assignments}
    (hvalues : ∀ x ∈ values, ∀ i, x.2 = .integer i → Affinity.isSigned64 i = true)
    (h : t.assignments unknown values = .ok assigned) : SignedValues assigned := by
  intro place i hmem
  obtain ⟨x, hx, -, hcell⟩ := (mem_assignments h place _).1 hmem
  refine hvalues x hx i ?_
  generalize x.2 = v at hcell
  cases v <;> cases hcell
  rfl

theorem signed_boundValues {record : Record}
    (hrecord : ∀ x ∈ record, ∀ i, x.2 = .int i → Text.minSigned64 ≤ i) :
    ∀ x ∈ boundValues record, ∀ i, x.2 = .integer i → Affinity.isSigned64 i = true := by
  intro x hx i hi
  obtain ⟨y, hy, rfl⟩ := List.mem_map.1 hx
  have hleast := hrecord y hy
  obtain ⟨name, v⟩ := y
  dsimp only at hi hleast
  cases v with
  | bool b =>
    obtain rfl := Sql.Value.integer.inj hi
    cases b <;> decide
  | int j =>
    rw [Sql.Value.ofJson] at hi
    split at hi
    · rename_i hle
      obtain rfl := Sql.Value.integer.inj hi
      rw [Affinity.isSigned64, Bool.and_eq_true, decide_eq_true_eq, decide_eq_true_eq]
      exact ⟨hleast j rfl, hle⟩
    · cases hi
  | _ => cases hi

theorem least_le_freeId (t : Table) : 1 ≤ t.freeId := by
  unfold freeId
  cases hfind : ((List.range t.rows.length).map fun (n : Nat) => (n : Int) + 1).find?
      (!t.hasId ·) with
  | none =>
    rw [Option.getD_none]
    omega
  | some id =>
    obtain ⟨n, -, rfl⟩ := List.mem_map.1 (List.mem_of_find?_eq_some hfind)
    rw [Option.getD_some]
    omega

theorem least_le_largestId (hrows : ∀ r ∈ t.rows, t.Fits r) :
    Text.minSigned64 ≤ t.largestId := by
  unfold largestId
  cases hlast : t.rows.getLast? with
  | none => decide
  | some r =>
    have hfits := (hrows r (List.mem_of_getLast? hlast)).signed
    simp only [Affinity.isSigned64, Bool.and_eq_true, decide_eq_true_eq] at hfits
    exact hfits.1

theorem least_le_nextId (hrows : ∀ r ∈ t.rows, t.Fits r) : Text.minSigned64 ≤ t.nextId := by
  have hlargest := t.least_le_largestId hrows
  have hleast : Text.minSigned64 ≤ 1 := by decide
  unfold nextId
  split
  · exact hleast.trans t.least_le_freeId
  · split
    · omega
    · omega

theorem signed_of_newId {values : Assignments} {id : Int} (hrows : ∀ r ∈ t.rows, t.Fits r)
    (hvalues : SignedValues values) (h : t.newId values = .ok id) :
    Affinity.isSigned64 id = true := by
  have hnext : ∀ {id : Int}, (if t.nextId ≤ (Text.maxSigned64 : Int) then Except.ok t.nextId
      else .error DatabaseError.full) = .ok id → Affinity.isSigned64 id = true := by
    intro id hid
    obtain ⟨rfl, hle⟩ := eq_nextId_of_newId hid
    simp only [Affinity.isSigned64, Bool.and_eq_true, decide_eq_true_eq]
    exact ⟨least_le_nextId hrows, hle⟩
  unfold newId at h
  split at h
  · exact hnext h
  · exact hnext h
  · rename_i c _ hgiven
    split at h
    · rename_i i hi
      obtain rfl := Except.ok.inj h
      refine signed_of_store ?_ (store_of_rowIdOf? hi)
      rintro j rfl
      exact hvalues _ j (mem_of_lastGiven? hgiven)
    · cases h

theorem signed_of_changedId {values : Assignments} {id : Int} (hr : t.Fits r)
    (hvalues : SignedValues values) (h : changedId values r = .ok id) :
    Affinity.isSigned64 id = true := by
  unfold changedId at h
  split at h
  · exact Except.ok.inj h ▸ hr.signed
  · rename_i c hgiven
    split at h
    · rename_i i hi
      obtain rfl := Except.ok.inj h
      refine signed_of_store ?_ (store_of_rowIdOf? hi)
      rintro j rfl
      exact hvalues _ j (mem_of_lastGiven? hgiven)
    · cases h

theorem fits_cellsWith {id : Int} (hid : Affinity.isSigned64 id = true)
    (cellAt : Nat → Column → Cell) : t.Fits { id, cells := t.cellsWith id cellAt } where
  signed := hid
  shown i c hc hrowId := by simp [cellsWith, List.getElem?_mapIdx, hc, hrowId]

theorem KeyedBy.withRows (h : t.KeyedBy key) {rows : List Row} {lastId : Int}
    (hrows : rows.Pairwise fun a b => a.id < b.id) (hfits : ∀ r ∈ rows, t.Fits r) :
    KeyedBy { t with rows, lastId } key :=
  ⟨h.column, h.names, hrows, fun r hr => ⟨(hfits r hr).signed, (hfits r hr).shown⟩⟩

/-- An insertion adds a key to the map that it did not have. -/
theorem KeyedBy.insert (h : t.KeyedBy key) {values : Assignments} (hvalues : SignedValues values)
    (hinsert : t.insert values = .ok (t', row)) :
    t'.KeyedBy key ∧ t' = { t with rows := t'.rows, lastId := t'.lastId } ∧
      KeyMap.ofRows t.rows row.id = none ∧
      KeyMap.ofRows t'.rows = Function.update (KeyMap.ofRows t.rows) row.id (some row) := by
  obtain ⟨id, hid, hcheck, hrow, rfl⟩ := insert_cases hinsert
  have hne := id_ne_of_check hcheck
  have hfits : t.Fits row := hrow ▸ fits_cellsWith (signed_of_newId h.rows hvalues hid) _
  refine ⟨h.withRows (pairwise_insertRow h.inIdOrder hne) ?_, rfl, ?_, KeyMap.ofRows_insertRow hne⟩
  · intro r hr
    rcases List.mem_cons.1 ((insertRow_perm row t.rows).mem_iff.1 hr) with rfl | hr
    · exact hfits
    · exact h.rows r hr
  · exact KeyMap.ofRows_eq_none_iff.2 hne

/-- A change moves a row to its new key in the map, which no other row has. -/
theorem KeyedBy.updateRow (h : t.KeyedBy key) {values : Assignments}
    (hvalues : SignedValues values) (hr : r ∈ t.rows)
    (hupdate : t.updateRow values r = .ok (t', row)) :
    t'.KeyedBy key ∧ t' = { t with rows := t'.rows, lastId := t'.lastId } ∧
      (row.id = r.id ∨ KeyMap.ofRows t.rows row.id = none) ∧
      KeyMap.ofRows t'.rows = Function.update
        (Function.update (KeyMap.ofRows t.rows) r.id none) row.id (some row) := by
  obtain ⟨hchanged, hids, rfl⟩ := updateRow_cases hupdate
  -- the old row is taken out before the new one is put in its place
  have hne : ∀ s ∈ t.rows.filter fun s => s.id != r.id, s.id ≠ row.id := by
    intro s hs
    obtain ⟨hs, hid⟩ := List.mem_filter.1 hs
    exact hids s hs (by simpa using hid)
  have hfits : t.Fits row := by
    obtain ⟨id, hid, hrow⟩ := eq_ok_of_bind hchanged
    obtain rfl := Except.ok.inj hrow
    exact fits_cellsWith (signed_of_changedId (h.rows r hr) hvalues hid) _
  refine ⟨h.withRows (pairwise_insertRow (List.Pairwise.filter _ h.inIdOrder) hne) ?_, rfl, ?_, ?_⟩
  · intro s hs
    rcases List.mem_cons.1 ((insertRow_perm row _).mem_iff.1 hs) with rfl | hs
    · exact hfits
    · exact h.rows s (List.mem_filter.1 hs).1
  · by_cases hid : row.id = r.id
    · exact .inl hid
    · right
      rw [KeyMap.ofRows_eq_none_iff]
      intro s hs hsid
      have hsr : s.id ≠ r.id := fun hsr => hid (hsid.symm.trans hsr)
      exact hids s hs hsr hsid
  · rw [KeyMap.ofRows_insertRow hne, KeyMap.ofRows_filter_ne]

end Table

end Store

end TableApi
