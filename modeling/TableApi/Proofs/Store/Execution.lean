import TableApi.Proofs.Store.Writing
import TableApi.Store.Basic

namespace TableApi.Store

open Sql (Statement)

/-- A table that may take the place of another: the same but for its rows, which are in order. -/
structure Table.Succeeds (t' t : Table) : Prop where
  name : t'.name = t.name
  columns : t'.columns = t.columns
  inIdOrder : t'.InIdOrder

namespace Database

def after (d : Database) (s : Statement) : Database := ((send s).run d).2

variable {d : Database} {name : String} {t : Table}

theorem after_of_ok {s : Statement} {d' : Database} {answer : Answer}
    (h : d.execute s = .ok (d', answer)) : d.after s = d' := by
  simp [after, StateT.run, send, h]

theorem after_of_error {s : Statement} {e : DatabaseError} (h : d.execute s = .error e) :
    d.after s = d := by
  simp [after, StateT.run, send, h]

/-- A count, a page and a search change nothing. -/
theorem after_count (d : Database) (table : String) (q : Sql.Query) :
    d.after (.count table q) = d := by
  cases h : d.find table <;> simp [after, StateT.run, send, execute, h, Except.map]

theorem after_page (d : Database) (table : String) (q : Sql.Query) (limit offset : Nat) :
    d.after (.page table q limit offset) = d := by
  cases h : d.find table <;> simp [after, StateT.run, send, execute, h, Except.map]

theorem after_find (d : Database) (table key value : String) :
    d.after (.find table key value) = d := by
  cases h : d.find table <;> simp [after, StateT.run, send, execute, h, Except.map]

theorem table?_withTable {t' : Table} (hd : d.table? name = some t) (hname : t'.name = t.name) :
    (d.withTable t').table? name = some t' := by
  -- the table that is put in has the name of the one that is found, so the search stops at it
  have hsame : ((fun u : Table => Text.sameIgnoringCase u.name name) ∘
      fun u => if u.name = t'.name then t' else u) =
      fun u => Text.sameIgnoringCase u.name name := by
    funext u
    rw [Function.comp_apply]
    split
    · rename_i hu
      rw [hu]
    · rfl
  rw [table?, withTable, List.find?_map, hsame]
  rw [table?] at hd
  simp [hd, hname]

theorem eq_of_commit {d' : Database} {t' : Table} (h : d.commit t' = .ok d') :
    d' = d.withTable t' := by
  simp only [commit] at h
  split at h
  · exact (Except.ok.inj h).symm
  · simp at h

theorem mem_of_table? (hd : d.table? name = some t) : t ∈ d := List.mem_of_find?_eq_some hd

theorem table?_of_find (h : d.find name = .ok t) : d.table? name = some t := by
  unfold find at h
  split at h
  · obtain rfl := Except.ok.inj h
    assumption
  · cases h

section Writes

variable {values : Entries Sql.Value} {key value : String} {d' : Database} {answer : Answer}

theorem insert_of_ok (h : d.execute (.insert name values) = .ok (d', answer)) :
    ∃ t assigned t' row, d.table? name = some t ∧
      t.assignments (.noColumnNamed name) values = .ok assigned ∧
      t.insert assigned = .ok (t', row) ∧ d' = d.withTable t' ∧
      answer = .records [t'.record row] := by
  obtain ⟨t, hfind, h⟩ := eq_ok_of_bind h
  obtain ⟨assigned, hassigned, h⟩ := eq_ok_of_bind h
  obtain ⟨⟨t', row⟩, hinsert, h⟩ := eq_ok_of_bind h
  obtain ⟨d'', hcommit, h⟩ := eq_ok_of_bind h
  obtain ⟨rfl, rfl⟩ := Prod.mk.inj (Except.ok.inj h)
  exact ⟨t, assigned, t', row, table?_of_find hfind, hassigned, hinsert, eq_of_commit hcommit, rfl⟩

theorem update_of_ok (h : d.execute (.update name values key value) = .ok (d', answer)) :
    ∃ t assigned t' rows, d.table? name = some t ∧
      t.assignments .noSuchColumn values = .ok assigned ∧
      t.updateRows assigned (t.rows.filter (t.hasKey key value)) = .ok (t', rows) ∧
      d' = d.withTable t' ∧ answer = .records (rows.map t'.record) := by
  obtain ⟨t, hfind, h⟩ := eq_ok_of_bind h
  obtain ⟨assigned, hassigned, h⟩ := eq_ok_of_bind h
  obtain ⟨⟨t', rows⟩, hupdate, h⟩ := eq_ok_of_bind h
  obtain ⟨d'', hcommit, h⟩ := eq_ok_of_bind h
  obtain ⟨rfl, rfl⟩ := Prod.mk.inj (Except.ok.inj h)
  exact ⟨t, assigned, t', rows, table?_of_find hfind, hassigned, hupdate, eq_of_commit hcommit, rfl⟩

theorem delete_of_ok (h : d.execute (.delete name key value) = .ok (d', answer)) :
    ∃ t kept, d.table? name = some t ∧ kept = t.rows.filter (fun r => !t.hasKey key value r) ∧
      d' = d.withTable { t with rows := kept } ∧
      answer = .changed (t.rows.length - kept.length) := by
  obtain ⟨t, hfind, h⟩ := eq_ok_of_bind h
  obtain ⟨d'', hcommit, h⟩ := eq_ok_of_bind h
  obtain ⟨rfl, rfl⟩ := Prod.mk.inj (Except.ok.inj h)
  exact ⟨t, _, table?_of_find hfind, rfl, eq_of_commit hcommit, rfl⟩

end Writes

/-- A statement that succeeds has put one table in its place, or changed nothing. -/
theorem eq_or_withTable_of_ok {s : Statement} {d' : Database} {answer : Answer}
    (h : d.execute s = .ok (d', answer)) : d' = d ∨ ∃ t, d' = d.withTable t := by
  cases s with
  | count table q =>
    obtain ⟨t, -, h⟩ := eq_ok_of_map h
    exact .inl (Prod.mk.inj h).1.symm
  | page table q limit offset =>
    obtain ⟨t, -, h⟩ := eq_ok_of_map h
    exact .inl (Prod.mk.inj h).1.symm
  | find table key value =>
    obtain ⟨t, -, h⟩ := eq_ok_of_map h
    exact .inl (Prod.mk.inj h).1.symm
  | insert table values =>
    obtain ⟨-, -, t', -, -, -, -, hd', -⟩ := insert_of_ok h
    exact .inr ⟨t', hd'⟩
  | update table values key value =>
    obtain ⟨-, -, t', -, -, -, -, hd', -⟩ := update_of_ok h
    exact .inr ⟨t', hd'⟩
  | delete table key value =>
    obtain ⟨t, kept, -, -, hd', -⟩ := delete_of_ok h
    exact .inr ⟨_, hd'⟩

/-- An insertion adds the row that the table makes of the values, and answers with it. -/
theorem insert_of_execute (hd : d.table? name = some t) (ht : t.InIdOrder)
    {values : Entries Sql.Value} {d' : Database} {answer : Answer}
    (h : d.execute (.insert name values) = .ok (d', answer)) :
    ∃ t' assigned row, d' = d.withTable t' ∧ d'.table? name = some t' ∧ t'.Succeeds t ∧
      t'.rows.Perm (row :: t.rows) ∧ t.assignments (.noColumnNamed name) values = .ok assigned ∧
      t.insert assigned = .ok (t', row) ∧ answer = .records [t'.record row] := by
  obtain ⟨t₀, assigned, t', row, ht₀, hassigned, hinsert, rfl, rfl⟩ := insert_of_ok h
  obtain rfl := Option.some.inj (hd.symm.trans ht₀)
  obtain ⟨hsame, hids, hperm⟩ := Table.rows_of_insert ht hinsert
  have hname : t'.name = t.name := by rw [hsame]
  exact ⟨t', assigned, row, rfl, table?_withTable hd hname, ⟨hname, by rw [hsame], hids⟩, hperm,
    hassigned, hinsert, rfl⟩

/-- An insertion does nothing, or adds the row that the table makes of the values. -/
theorem after_insert (hd : d.table? name = some t) (ht : t.InIdOrder)
    (values : Entries Sql.Value) :
    ∃ t', (d.after (.insert name values)).table? name = some t' ∧ t'.Succeeds t ∧
      (t'.rows = t.rows ∨ ∃ assigned row, t'.rows.Perm (row :: t.rows) ∧
        t.assignments (.noColumnNamed name) values = .ok assigned ∧
        t.insert assigned = .ok (t', row)) := by
  cases h : d.execute (.insert name values) with
  | error e => exact ⟨t, (after_of_error h).symm ▸ hd, ⟨rfl, rfl, ht⟩, .inl rfl⟩
  | ok result =>
    obtain ⟨d', answer⟩ := result
    rw [after_of_ok h]
    obtain ⟨t', assigned, row, -, ht', hsucceeds, hperm, hassigned, hinsert, -⟩ :=
      insert_of_execute hd ht h
    exact ⟨t', ht', hsucceeds, .inr ⟨assigned, row, hperm, hassigned, hinsert⟩⟩

/-- An update changes each row with the key, and answers with the changed rows. -/
theorem update_of_execute (hd : d.table? name = some t) (ht : t.InIdOrder)
    {values : Entries Sql.Value} {key value : String} {d' : Database} {answer : Answer}
    (h : d.execute (.update name values key value) = .ok (d', answer)) :
    ∃ t' assigned, ∃ change : Row → Row, d' = d.withTable t' ∧ d'.table? name = some t' ∧
      t'.Succeeds t ∧ t'.rows.Perm (t.rows.map change) ∧
      t.assignments .noSuchColumn values = .ok assigned ∧
      answer = .records (((t.rows.filter (t.hasKey key value)).map change).map t'.record) ∧
      ∀ s ∈ t.rows, if t.hasKey key value s then t.changed assigned s = .ok (change s)
        else change s = s := by
  obtain ⟨t₀, assigned, t', rows, ht₀, hassigned, hupdate, rfl, rfl⟩ := update_of_ok h
  obtain rfl := Option.some.inj (hd.symm.trans ht₀)
  obtain ⟨hsame, hids, change, hperm, rfl, hothers, hchanged⟩ :=
    Table.rows_of_updateRows ht (List.Pairwise.filter _ ht) (List.filter_subset_self _) hupdate
  have hname : t'.name = t.name := by rw [hsame]
  refine ⟨t', assigned, change, rfl, table?_withTable hd hname, ⟨hname, by rw [hsame], hids⟩,
    hperm, hassigned, rfl, ?_⟩
  intro s hs
  split
  · rename_i hkey
    exact hchanged s (List.mem_filter.2 ⟨hs, hkey⟩)
  · rename_i hkey
    exact hothers s hs fun hmem => hkey (List.mem_filter.1 hmem).2

/-- An update does nothing, or changes each row with the key. -/
theorem after_update (hd : d.table? name = some t) (ht : t.InIdOrder)
    (values : Entries Sql.Value) (key value : String) :
    ∃ t', (d.after (.update name values key value)).table? name = some t' ∧ t'.Succeeds t ∧
      (t'.rows = t.rows ∨ ∃ assigned, ∃ change : Row → Row, t'.rows.Perm (t.rows.map change) ∧
        t.assignments .noSuchColumn values = .ok assigned ∧
        ∀ s ∈ t.rows, if t.hasKey key value s then t.changed assigned s = .ok (change s)
          else change s = s) := by
  cases h : d.execute (.update name values key value) with
  | error e => exact ⟨t, (after_of_error h).symm ▸ hd, ⟨rfl, rfl, ht⟩, .inl rfl⟩
  | ok result =>
    obtain ⟨d', answer⟩ := result
    rw [after_of_ok h]
    obtain ⟨t', assigned, change, -, ht', hsucceeds, hperm, hassigned, -, hchange⟩ :=
      update_of_execute hd ht h
    exact ⟨t', ht', hsucceeds, .inr ⟨assigned, change, hperm, hassigned, hchange⟩⟩

theorem after_delete (hd : d.table? name = some t) (ht : t.InIdOrder) (key value : String) :
    ∃ t', (d.after (.delete name key value)).table? name = some t' ∧ t'.Succeeds t := by
  cases h : d.execute (.delete name key value) with
  | error e => exact ⟨t, (after_of_error h).symm ▸ hd, rfl, rfl, ht⟩
  | ok result =>
    obtain ⟨d', answer⟩ := result
    rw [after_of_ok h]
    obtain ⟨t₀, kept, ht₀, rfl, rfl, -⟩ := delete_of_ok h
    obtain rfl := Option.some.inj (hd.symm.trans ht₀)
    exact ⟨_, table?_withTable hd rfl, rfl, rfl, List.Pairwise.filter _ ht⟩

end Database

section Steps

variable {d d' : Database}

theorem run_bind {σ α β : Type} {c : σ} (x : StateM σ α) (f : α → StateM σ β) :
    (x >>= f).run c = (f (x.run c).1).run (x.run c).2 := rfl

theorem execute_of_send {s : Sql.Statement} {answer : Answer}
    (h : (send s).run d = (.ok answer, d')) : d.execute s = .ok (d', answer) := by
  simp only [send, StateT.run] at h
  split at h
  · rename_i hexecute
    obtain ⟨hanswer, rfl⟩ := Prod.mk.inj h
    rw [hexecute, Except.ok.inj hanswer]
  · cases (Prod.mk.inj h).1

theorem run_of_map {ε α β : Type} {x : StateM Database (Except ε α)} {f : α → β} {b : β}
    (h : (do return (← x).map f : StateM Database (Except ε β)).run d = (.ok b, d')) :
    ∃ a, x.run d = (.ok a, d') ∧ f a = b := by
  rw [run_bind] at h
  generalize x.run d = answered at h
  obtain ⟨result, d₁⟩ := answered
  obtain ⟨hresult, rfl⟩ := Prod.mk.inj h
  obtain ⟨a, rfl, hb⟩ := eq_ok_of_map hresult
  exact ⟨a, rfl, hb⟩

end Steps

/-- Steps that only answer leave the state of those before them. -/
theorem snd_run_bind {α β : Type} {x : StateM Database α} {f : α → StateM Database β}
    {d : Database} (hf : ∀ a s, ((f a).run s).2 = s) : ((x >>= f).run d).2 = (x.run d).2 := by
  rw [run_bind]
  exact hf _ _

theorem run_list (d : Database) (ref : TableRef) (q : Sql.Query) (p : Page) :
    ((databaseStore.list ref q p).run d).2 = d := by
  have hcount := d.after_count ref.name q
  have hpage := d.after_page ref.name q p.perPage p.offset
  unfold Database.after at hcount hpage
  simp only [databaseStore, RecordStore.sending]
  rw [run_bind]
  generalize (send (.count ref.name q)).run d = x at hcount ⊢
  obtain ⟨_ | counted, d'⟩ := x
  · exact hcount
  · obtain rfl : d' = d := hcount
    refine (snd_run_bind fun a s => ?_).trans hpage
    cases a <;> rfl

theorem run_find (d : Database) (ref : TableRef) (key : String) :
    ((databaseStore.find ref key).run d).2 = d := d.after_find ref.name ref.primaryKey key

theorem run_insert (d : Database) (ref : TableRef) (record : Record) :
    ((databaseStore.insert ref record).run d).2 =
      d.after (.insert ref.name (boundValues record)) := rfl

theorem run_update (d : Database) (ref : TableRef) (key : String) (record : Record) :
    ((databaseStore.update ref key record).run d).2 =
      if record.isEmpty then d
      else d.after (.update ref.name (boundValues record) ref.primaryKey key) := by
  split
  · rename_i hempty
    have hfind : ((databaseStore.update ref key record).run d).2 =
        d.after (.find ref.name ref.primaryKey key) := by
      simp only [databaseStore, RecordStore.sending, hempty, if_true]
      rfl
    rw [hfind, d.after_find]
  · rename_i hempty
    simp only [databaseStore, RecordStore.sending, hempty]
    rfl

theorem run_delete (d : Database) (ref : TableRef) (key : String) :
    ((databaseStore.delete ref key).run d).2 = d.after (.delete ref.name ref.primaryKey key) := rfl

end TableApi.Store
