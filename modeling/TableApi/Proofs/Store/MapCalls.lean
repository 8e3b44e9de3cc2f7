import TableApi.Proofs.Store.KeyMap
import TableApi.Proofs.Store.Paging

namespace TableApi.Store

inductive Call
  | list (query : Sql.Query) (page : Page)
  | find (key : String)
  | insert (record : Record)
  | update (key : String) (record : Record)
  | delete (key : String)

inductive Outcome
  | listed (records : List Record) (total : Nat)
  | found (record : Option Record)
  | inserted (record : Record)
  | updated (record : Option Record)
  | deleted (present : Bool)

namespace Call

def perform (ref : TableRef) : Call → StateM Database (Except StoreError Outcome)
  | list q p => do return (← databaseStore.list ref q p).map fun x => .listed x.1 x.2
  | find key => do return (← databaseStore.find ref key).map .found
  | insert record => do return (← databaseStore.insert ref record).map .inserted
  | update key record => do return (← databaseStore.update ref key record).map .updated
  | delete key => do return (← databaseStore.delete ref key).map .deleted

def record : Call → Record
  | insert record | update _ record => record
  | _ => []

/-- No integer of the record is below the least of 64 bits. In JSON values none is. -/
def IsSigned (call : Call) : Prop :=
  ∀ x ∈ call.record, ∀ i, x.2 = .int i → Text.minSigned64 ≤ i

/-- Whether a call that succeeds has written the row with a key: changed it, or removed it. -/
def Writes (id : Int) : Call × Except StoreError Outcome → Prop
  | (update key record, .ok _) => keyOf? key = some id ∧ record ≠ []
  | (delete key, .ok _) => keyOf? key = some id
  | _ => False

end Call

/-- Where a record names nothing, one row holds what the other does. -/
def Table.Keeps (t : Table) (record : Record) (row row' : Row) : Prop :=
  ∀ place, t.HasPlace place → (∀ x ∈ record, t.place? x.1 ≠ some place) →
    row'.at place = row.at place

/-- Whether a record names the key, by the name of its column or by one that stands for the row
id. -/
def Table.NamesKey (t : Table) (record : Record) : Prop :=
  ∃ x ∈ record, t.place? x.1 = some .rowId

/-- Whether what a call answers agrees with the map before it and the map after it. -/
def Agrees (t : Table) (m m' : KeyMap) : Call → Outcome → Prop
  | .list q _, .listed _ total =>
    m' = m ∧ (q.conditions = [] → q.limit = none → m.HasSize total)
  | .find key, .found record => m' = m ∧ record = (m.selected key).map t.record
  | .insert _, .inserted record =>
    ∃ row, m row.id = none ∧ m' = Function.update m row.id (some row) ∧
      record = t.record row ∧ m'.selected (toString row.id) = some row
  | .update key record, .updated answer =>
    (m.selected key = none → m' = m ∧ answer = none) ∧ (record = [] → m' = m) ∧
    ∀ row, m.selected key = some row → ∃ row', answer = some (t.record row') ∧
      (row'.id = row.id ∨ m row'.id = none) ∧
      m' = Function.update (Function.update m row.id none) row'.id (some row') ∧
      t.Keeps record row row' ∧ (¬ t.NamesKey record → m'.selected key = some row')
  | .delete key, .deleted present =>
    m' = m.without key ∧ present = (m.selected key).isSome ∧ m'.selected key = none
  | _, _ => False

namespace Database

variable {d d' : Database} {t : Table} {name key text : String} {answer : Answer}

/-- An insertion adds one row, under a key that no row had. -/
theorem insert_keyed (ht : d.table? name = some t) (hkeyed : t.KeyedBy key)
    {values : Entries Sql.Value}
    (hvalues : ∀ x ∈ values, ∀ i, x.2 = .integer i → Affinity.isSigned64 i = true)
    (h : d.execute (.insert name values) = .ok (d', answer)) :
    ∃ t' row, d' = d.withTable t' ∧ t' = { t with rows := t'.rows, lastId := t'.lastId } ∧
      t'.KeyedBy key ∧ KeyMap.ofRows t.rows row.id = none ∧
      KeyMap.ofRows t'.rows = Function.update (KeyMap.ofRows t.rows) row.id (some row) ∧
      answer = .records [t'.record row] := by
  obtain ⟨t₀, assigned, t', row, ht₀, hassigned, hinsert, rfl, rfl⟩ := insert_of_ok h
  obtain rfl := Option.some.inj (ht.symm.trans ht₀)
  have hsigned := Table.signedValues_of_assignments hvalues hassigned
  obtain ⟨hkeyed', hsame, hnew, hmap⟩ := hkeyed.insert hsigned hinsert
  exact ⟨t', row, rfl, hsame, hkeyed', hnew, hmap, rfl⟩

/-- An update finds one row to change, or none. -/
theorem update_keyed (ht : d.table? name = some t) (hkeyed : t.KeyedBy key)
    {values : Entries Sql.Value}
    (h : d.execute (.update name values key text) = .ok (d', answer)) :
    match (KeyMap.ofRows t.rows).selected text with
    | none => d' = d.withTable t ∧ answer = .records []
    | some r => ∃ assigned t' row, t.assignments .noSuchColumn values = .ok assigned ∧
        t.updateRow assigned r = .ok (t', row) ∧ d' = d.withTable t' ∧
        answer = .records [t'.record row] := by
  obtain ⟨t₀, assigned, t', rows, ht₀, hassigned, hupdate, rfl, rfl⟩ := update_of_ok h
  obtain rfl := Option.some.inj (ht.symm.trans ht₀)
  rw [Table.filter_hasKey hkeyed] at hupdate
  split
  · rename_i hnone
    rw [hnone] at hupdate
    obtain ⟨rfl, rfl⟩ := Prod.mk.inj (Except.ok.inj hupdate)
    exact ⟨rfl, rfl⟩
  · rename_i r hsome
    rw [hsome] at hupdate
    obtain ⟨⟨t₁, row⟩, hrow, hupdate⟩ := eq_ok_of_bind hupdate
    obtain ⟨⟨t₂, rest⟩, hrest, hupdate⟩ := eq_ok_of_bind hupdate
    obtain ⟨rfl, rfl⟩ := Prod.mk.inj (Except.ok.inj hrest)
    obtain ⟨rfl, rfl⟩ := Prod.mk.inj (Except.ok.inj hupdate)
    exact ⟨assigned, t₁, row, hassigned, hrow, rfl, rfl⟩

theorem delete_keyed (ht : d.table? name = some t) (hkeyed : t.KeyedBy key)
    (h : d.execute (.delete name key text) = .ok (d', answer)) :
    d' = d.withTable { t with rows := t.rows.filter fun r => !t.hasKey key text r } ∧
      answer.changes = ((KeyMap.ofRows t.rows).selected text).toList.length := by
  obtain ⟨t₀, kept, ht₀, rfl, rfl, rfl⟩ := delete_of_ok h
  obtain rfl := Option.some.inj (ht.symm.trans ht₀)
  refine ⟨rfl, ?_⟩
  have hparts := List.length_eq_length_filter_add (l := t.rows) (t.hasKey key text)
  rw [← Table.filter_hasKey hkeyed, Answer.changes]
  omega

/-- Tables of other names are not touched. -/
theorem others_withTable (d : Database) (t : Table) :
    (d.withTable t).filter (fun u => u.name ≠ t.name) = d.filter fun u => u.name ≠ t.name := by
  rw [withTable, List.filter_map]
  have hname : ∀ u : Table, (if u.name = t.name then t else u).name = u.name := by
    intro u
    split
    · rename_i hu
      exact hu.symm
    · rfl
  have hsame : ((fun u : Table => decide (u.name ≠ t.name)) ∘
      fun u => if u.name = t.name then t else u) = fun u => decide (u.name ≠ t.name) := by
    funext u
    rw [Function.comp_apply, hname]
  rw [hsame]
  have hkept : ∀ u ∈ d.filter fun u => u.name ≠ t.name, (if u.name = t.name then t else u) = u := by
    intro u hu
    have hother : u.name ≠ t.name := by simpa using (List.mem_filter.1 hu).2
    rw [if_neg hother]
  calc (d.filter fun u => u.name ≠ t.name).map (fun u => if u.name = t.name then t else u)
    _ = (d.filter fun u => u.name ≠ t.name).map id := List.map_congr_left hkept
    _ = d.filter fun u => u.name ≠ t.name := List.map_id _

end Database

/-- What a call on a keyed table leaves: the table, keyed as before, with rows that agree with the
answer, and the same rows if the call fails. -/
structure Steps (ref : TableRef) (t : Table) (d : Database) (call : Call)
    (answer : Except StoreError Outcome) (d' : Database) (t' : Table) : Prop where
  database : d' = d.withTable t'
  table : t' = { t with rows := t'.rows, lastId := t'.lastId }
  keyed : t'.KeyedBy ref.primaryKey
  failed : ∀ e, answer = .error e → t' = t
  agrees : ∀ outcome, answer = .ok outcome →
    Agrees t (KeyMap.ofRows t.rows) (KeyMap.ofRows t'.rows) call outcome

section Calls

variable {d d' : Database} {ref : TableRef} {t : Table}

/-- The runs of a call are those of what it asks of the store, with its answer wrapped. -/
theorem run_map {α β : Type} (x : StateM Database (Except StoreError α)) (f : α → β)
    (d : Database) :
    (do return (← x).map f : StateM Database (Except StoreError β)).run d =
      ((x.run d).1.map f, (x.run d).2) := rfl

/-- A call that fails changes nothing. -/
theorem eq_of_call_error {call : Call} {e : StoreError}
    (h : (call.perform ref).run d = (.error e, d')) : d' = d := by
  cases call with
  | list q p =>
    have hstate := run_list d ref q p
    rwa [run_of_map_error h] at hstate
  | find text =>
    have hstate := run_find d ref text
    rwa [run_of_map_error h] at hstate
  | insert record => exact eq_of_insert_error (run_of_map_error h)
  | update text record => exact eq_of_update_error (run_of_map_error h)
  | delete text => exact eq_of_delete_error (run_of_map_error h)

/-- A call that answers from the map, or fails, leaves the table as it is. -/
theorem steps_self (hd : d.IsNamed) (ht : d.table? ref.name = some t)
    (hkeyed : t.KeyedBy ref.primaryKey) {call : Call} {answer : Except StoreError Outcome}
    (hanswer : ∀ outcome, answer = .ok outcome →
      Agrees t (KeyMap.ofRows t.rows) (KeyMap.ofRows t.rows) call outcome) :
    Steps ref t d call answer d t where
  database := (Database.withTable_self hd (Database.mem_of_table? ht)).symm
  table := rfl
  keyed := hkeyed
  failed _ _ := rfl
  agrees := hanswer

theorem steps_ok {t' : Table} {call : Call} {outcome : Outcome} (hd' : d' = d.withTable t')
    (hsame : t' = { t with rows := t'.rows, lastId := t'.lastId })
    (hkeyed : t'.KeyedBy ref.primaryKey)
    (hagrees : Agrees t (KeyMap.ofRows t.rows) (KeyMap.ofRows t'.rows) call outcome) :
    Steps ref t d call (.ok outcome) d' t' where
  database := hd'
  table := hsame
  keyed := hkeyed
  failed _ h := by cases h
  agrees _ h := Except.ok.inj h ▸ hagrees

/-- Only what a call does when it succeeds is left to show. -/
theorem steps_of_ok (hd : d.IsNamed) (ht : d.table? ref.name = some t)
    (hkeyed : t.KeyedBy ref.primaryKey) {call : Call}
    (h : ∀ outcome d', (call.perform ref).run d = (.ok outcome, d') →
      ∃ t', Steps ref t d call (.ok outcome) d' t') :
    ∃ t', Steps ref t d call ((call.perform ref).run d).1 ((call.perform ref).run d).2 t' := by
  generalize hrun : (call.perform ref).run d = answered at h
  obtain ⟨answer, d'⟩ := answered
  cases answer with
  | error e =>
    rw [eq_of_call_error hrun]
    exact ⟨t, steps_self hd ht hkeyed fun _ h => by cases h⟩
  | ok outcome => exact h outcome d' rfl

/-- A listing answers with records of the map, and changes nothing. -/
theorem steps_list (hd : d.IsNamed) (ht : d.table? ref.name = some t)
    (hkeyed : t.KeyedBy ref.primaryKey) (q : Sql.Query) (p : Page) :
    Steps ref t d (.list q p) (((Call.list q p).perform ref).run d).1
      (((Call.list q p).perform ref).run d).2 t := by
  rw [Call.perform, run_map, list_databaseStore q p ht]
  apply steps_self hd ht hkeyed
  intro outcome h
  obtain rfl := Except.ok.inj h
  refine ⟨rfl, ?_⟩
  intro hconditions hlimit
  -- without conditions and a limit every row is counted
  have hselects : (t.visited q).filter (t.selects q) = t.visited q := by
    rw [List.filter_eq_self]
    intro r _
    rw [Table.selects, hconditions]
    rfl
  have hlength : (t.matching q).length = t.rows.length := by
    rw [Table.matching, hlimit, hselects]
    exact ((t.sorted_perm q.order _).trans (t.visited_perm q)).length_eq
  rw [hlength]
  exact KeyMap.hasSize_ofRows hkeyed.inIdOrder

theorem find_keyed (ht : d.table? ref.name = some t) (hkeyed : t.KeyedBy ref.primaryKey)
    (text : String) :
    (databaseStore.find ref text).run d =
      (.ok (((KeyMap.ofRows t.rows).selected text).map t.record), d) := by
  rw [find_of_table ht, Table.filter_hasKey hkeyed]
  cases (KeyMap.ofRows t.rows).selected text <;> rfl

theorem steps_find (hd : d.IsNamed) (ht : d.table? ref.name = some t)
    (hkeyed : t.KeyedBy ref.primaryKey) (text : String) :
    Steps ref t d (.find text) (((Call.find text).perform ref).run d).1
      (((Call.find text).perform ref).run d).2 t := by
  rw [Call.perform, run_map, find_keyed ht hkeyed]
  apply steps_self hd ht hkeyed
  intro outcome h
  obtain rfl := Except.ok.inj h
  exact ⟨rfl, rfl⟩

/-- The map gains the new record under its key. -/
theorem steps_insert (hd : d.IsNamed) (ht : d.table? ref.name = some t)
    (hkeyed : t.KeyedBy ref.primaryKey) {record : Record}
    (hrecord : (Call.insert record).IsSigned) :
    ∃ t', Steps ref t d (.insert record) (((Call.insert record).perform ref).run d).1
      (((Call.insert record).perform ref).run d).2 t' := by
  apply steps_of_ok hd ht hkeyed
  intro outcome d' hrun
  obtain ⟨stored, hstored, rfl⟩ := run_of_map hrun
  obtain ⟨answer, hanswer, rfl⟩ := run_of_map hstored
  obtain ⟨t', row, hd', hsame, hkeyed', hnew, hmap, rfl⟩ := Database.insert_keyed ht hkeyed
    (Table.signed_boundValues hrecord) (execute_of_send hanswer)
  have hrow : KeyMap.ofRows t'.rows row.id = some row := by rw [hmap, Function.update_self]
  have hsigned := (hkeyed'.rows row (KeyMap.mem_of_ofRows hrow)).signed
  have hselected : (KeyMap.ofRows t'.rows).selected (toString row.id) = some row :=
    KeyMap.selected_eq_some_iff.2 ⟨row.id, keyOf?_toString hsigned, hrow⟩
  have hrecord : t'.record row = t.record row := by
    rw [hsame]
    rfl
  exact ⟨t', steps_ok hd' hsame hkeyed' ⟨row, hnew, hmap, hrecord, hselected⟩⟩

theorem keeps_of_changed {values : Entries Sql.Value} {assigned : Assignments} {record : Record}
    {row row' : Row} (hvalues : values = boundValues record)
    (hassigned : t.assignments .noSuchColumn values = .ok assigned)
    (hchanged : t.changed assigned row = .ok row') : t.Keeps record row row' := by
  intro place hplace hnone
  have hgiven : Table.lastGiven? assigned place = none := by
    rw [Table.lastGiven?_eq_none_iff]
    intro c hc
    obtain ⟨x, hx, hxplace, -⟩ := (Table.mem_assignments hassigned place c).1 hc
    rw [hvalues] at hx
    obtain ⟨y, hy, rfl⟩ := List.mem_map.1 hx
    exact hnone y hy hxplace
  have hat := Table.at_of_changed hchanged hplace
  rw [hgiven] at hat
  exact hat

/-- A record that does not name the key leaves it to the row. -/
theorem id_of_keeps {record : Record} {row row' : Row} (hkeeps : t.Keeps record row row')
    (hnames : ¬ t.NamesKey record) : row'.id = row.id := by
  have hat : row'.at .rowId = row.at .rowId :=
    hkeeps .rowId trivial fun x hx hplace => hnames ⟨x, hx, hplace⟩
  exact Cell.integer.inj hat

/-- Changing nothing is a search. -/
theorem steps_update_nil (hd : d.IsNamed) (ht : d.table? ref.name = some t)
    (hkeyed : t.KeyedBy ref.primaryKey) (text : String) :
    Steps ref t d (.update text []) (((Call.update text []).perform ref).run d).1
      (((Call.update text []).perform ref).run d).2 t := by
  have hfind : databaseStore.update ref text [] = databaseStore.find ref text := rfl
  rw [Call.perform, run_map, hfind, find_keyed ht hkeyed]
  apply steps_self hd ht hkeyed
  intro outcome h
  obtain rfl := Except.ok.inj h
  refine ⟨?_, fun _ => rfl, ?_⟩
  · intro hnone
    exact ⟨rfl, by rw [hnone]; rfl⟩
  · intro row hrow
    obtain ⟨id, -, hid⟩ := KeyMap.selected_eq_some_iff.1 hrow
    have hself : KeyMap.ofRows t.rows row.id = some row := KeyMap.id_of_ofRows hid ▸ hid
    refine ⟨row, by rw [hrow]; rfl, .inl rfl, ?_, fun _ _ _ => rfl, fun _ => hrow⟩
    rw [Function.update_idem, ← hself, Function.update_eq_self]

/-- A row that is changed moves in the map as the answer says. -/
theorem agrees_updateRow {key text : String} {record : Record} {t' : Table} {row row' : Row}
    {assigned : Assignments} (hkeyed : t.KeyedBy key) (hrecord : record ≠ [])
    (hselected : (KeyMap.ofRows t.rows).selected text = some row)
    (hassigned : t.assignments .noSuchColumn (boundValues record) = .ok assigned)
    (hsigned : Table.SignedValues assigned) (hupdate : t.updateRow assigned row = .ok (t', row')) :
    Agrees t (KeyMap.ofRows t.rows) (KeyMap.ofRows t'.rows) (.update text record)
      (.updated (some (t'.record row'))) := by
  obtain ⟨id, hkey, hid⟩ := KeyMap.selected_eq_some_iff.1 hselected
  obtain ⟨-, hsame, hnew, hmap⟩ := hkeyed.updateRow hsigned (KeyMap.mem_of_ofRows hid) hupdate
  have hkeeps := keeps_of_changed rfl hassigned (Table.updateRow_cases hupdate).1
  refine ⟨?_, fun h => absurd h hrecord, ?_⟩
  · intro hnone
    rw [hselected] at hnone
    cases hnone
  · intro r hr
    rw [hselected] at hr
    obtain rfl := Option.some.inj hr
    refine ⟨row', ?_, hnew, hmap, hkeeps, ?_⟩
    · rw [hsame]
      rfl
    · intro hnames
      have hsameId : row'.id = id := (id_of_keeps hkeeps hnames).trans (KeyMap.id_of_ofRows hid)
      refine KeyMap.selected_eq_some_iff.2 ⟨id, hkey, ?_⟩
      rw [hmap, hsameId, Function.update_self]

/-- The map changes at the key that the text spells, which may move. -/
theorem steps_update (hd : d.IsNamed) (ht : d.table? ref.name = some t)
    (hkeyed : t.KeyedBy ref.primaryKey) {text : String} {record : Record}
    (hrecord : (Call.update text record).IsSigned) :
    ∃ t', Steps ref t d (.update text record) (((Call.update text record).perform ref).run d).1
      (((Call.update text record).perform ref).run d).2 t' := by
  by_cases hempty : record = []
  · subst hempty
    exact ⟨t, steps_update_nil hd ht hkeyed text⟩
  apply steps_of_ok hd ht hkeyed
  intro outcome d' hrun
  obtain ⟨updated, hupdated, rfl⟩ := run_of_map hrun
  obtain ⟨answer, hanswer, rfl⟩ := run_of_map hupdated
  rw [if_neg (by simpa using hempty)] at hanswer
  have hcases := Database.update_keyed ht hkeyed (execute_of_send hanswer)
  cases hselected : (KeyMap.ofRows t.rows).selected text with
  | none =>
    rw [hselected] at hcases
    obtain ⟨hd', rfl⟩ := hcases
    refine ⟨t, steps_ok hd' rfl hkeyed ⟨fun _ => ⟨rfl, rfl⟩, fun _ => rfl, ?_⟩⟩
    intro row hrow
    rw [hselected] at hrow
    cases hrow
  | some row =>
    rw [hselected] at hcases
    obtain ⟨assigned, t', row', hassigned, hupdate, hd', rfl⟩ := hcases
    obtain ⟨id, -, hid⟩ := KeyMap.selected_eq_some_iff.1 hselected
    have hsigned := Table.signedValues_of_assignments (Table.signed_boundValues hrecord) hassigned
    obtain ⟨hkeyed', hsame, -⟩ := hkeyed.updateRow hsigned (KeyMap.mem_of_ofRows hid) hupdate
    exact ⟨t', steps_ok hd' hsame hkeyed'
      (agrees_updateRow hkeyed hempty hselected hassigned hsigned hupdate)⟩

/-- The map loses the key that the text spells. -/
theorem steps_delete (hd : d.IsNamed) (ht : d.table? ref.name = some t)
    (hkeyed : t.KeyedBy ref.primaryKey) (text : String) :
    ∃ t', Steps ref t d (.delete text) (((Call.delete text).perform ref).run d).1
      (((Call.delete text).perform ref).run d).2 t' := by
  apply steps_of_ok hd ht hkeyed
  intro outcome d' hrun
  obtain ⟨present, hpresent, rfl⟩ := run_of_map hrun
  obtain ⟨answer, hanswer, rfl⟩ := run_of_map hpresent
  obtain ⟨hd', hchanges⟩ := Database.delete_keyed ht hkeyed (execute_of_send hanswer)
  have hmap := Table.ofRows_filter_not_hasKey hkeyed text
  have hkept : ∀ r ∈ t.rows.filter fun r => !t.hasKey ref.primaryKey text r, t.Fits r := by
    intro r hr
    exact hkeyed.rows r (List.mem_filter.1 hr).1
  refine ⟨_, steps_ok hd' rfl (hkeyed.withRows (List.Pairwise.filter _ hkeyed.inIdOrder) hkept)
    ⟨hmap, ?_, ?_⟩⟩
  · rw [hchanges]
    cases (KeyMap.ofRows t.rows).selected text <;> rfl
  · dsimp only
    rw [hmap]
    exact KeyMap.selected_without _ _

/-- Every call on a keyed table is a step of its map. -/
theorem steps_call (hd : d.IsNamed) (ht : d.table? ref.name = some t)
    (hkeyed : t.KeyedBy ref.primaryKey) {call : Call} (hcall : call.IsSigned) :
    ∃ t', Steps ref t d call ((call.perform ref).run d).1 ((call.perform ref).run d).2 t' := by
  cases call with
  | list q p => exact ⟨t, steps_list hd ht hkeyed q p⟩
  | find text => exact ⟨t, steps_find hd ht hkeyed text⟩
  | insert record => exact steps_insert hd ht hkeyed hcall
  | update text record => exact steps_update hd ht hkeyed hcall
  | delete text => exact steps_delete hd ht hkeyed text

end Calls

end TableApi.Store
