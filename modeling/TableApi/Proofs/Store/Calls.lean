import TableApi.Proofs.Store.Execution
import TableApi.Store.Schema

namespace TableApi.Store

namespace Table

theorem length_of_updateRows {t t' : Table} {values : Assignments} {rows rows' : List Row}
    (h : t.updateRows values rows = .ok (t', rows')) : rows'.length = rows.length := by
  induction rows generalizing t t' rows' with
  | nil =>
    obtain ⟨-, rfl⟩ := Prod.mk.inj (Except.ok.inj h)
    rfl
  | cons r rest ih =>
    obtain ⟨⟨t₁, row⟩, -, h⟩ := eq_ok_of_bind h
    obtain ⟨⟨t₂, rows₂⟩, hrest, h⟩ := eq_ok_of_bind h
    obtain ⟨-, rfl⟩ := Prod.mk.inj (Except.ok.inj h)
    rw [List.length_cons, List.length_cons, ih hrest]

end Table

namespace Database

def IsNamed (d : Database) : Prop := (d.map Table.name).Nodup

theorem names_withTable (d : Database) (t : Table) :
    (d.withTable t).map Table.name = d.map Table.name := by
  rw [withTable, List.map_map]
  apply List.map_congr_left
  intro u _
  rw [Function.comp_apply]
  split
  · rename_i hname
    exact hname.symm
  · rfl

/-- Putting a table in its own place changes nothing. -/
theorem withTable_self {d : Database} {t : Table} (hd : d.IsNamed) (ht : t ∈ d) :
    d.withTable t = d := by
  have hsame : ∀ u ∈ d, (if u.name = t.name then t else u) = u := by
    intro u hu
    split
    · -- of two tables with one name there is only one
      rename_i hname
      exact (List.inj_on_of_nodup_map hd hu ht hname).symm
    · rfl
  calc d.withTable t
    _ = d.map id := List.map_congr_left hsame
    _ = d := List.map_id d

theorem isNamed_withTable {d : Database} (hd : d.IsNamed) (t : Table) :
    (d.withTable t).IsNamed := by
  rw [IsNamed, names_withTable]
  exact hd

variable {d d' : Database} {name key value : String}

/-- An update that has no row to answer with has changed none. -/
theorem eq_of_update_nil (hd : d.IsNamed) {values : Entries Sql.Value} {answer : Answer}
    (h : d.execute (.update name values key value) = .ok (d', answer))
    (hnone : answer.rows = []) : d' = d := by
  obtain ⟨t, assigned, t', rows, ht, -, hupdate, rfl, rfl⟩ := update_of_ok h
  have hrows : rows = [] := List.map_eq_nil_iff.1 hnone
  have hlength := Table.length_of_updateRows hupdate
  have hkept : t.rows.filter (t.hasKey key value) = [] := by
    rw [hrows, List.length_nil] at hlength
    exact List.length_eq_zero_iff.1 hlength.symm
  rw [hkept] at hupdate
  have hsame : t' = t := (Prod.mk.inj (Except.ok.inj hupdate)).1.symm
  rw [hsame]
  exact withTable_self hd (mem_of_table? ht)

/-- A removal that counts no row has removed none. -/
theorem eq_of_delete_zero (hd : d.IsNamed) {answer : Answer}
    (h : d.execute (.delete name key value) = .ok (d', answer)) (hnone : answer.changes = 0) :
    d' = d := by
  obtain ⟨t, kept, ht, hkept, rfl, rfl⟩ := delete_of_ok h
  have hzero : t.rows.length - kept.length = 0 := hnone
  have hsub : kept.Sublist t.rows := hkept ▸ List.filter_sublist
  have hall : kept = t.rows := by
    apply hsub.eq_of_length
    have hle := hsub.length_le
    omega
  rw [hall]
  exact withTable_self hd (mem_of_table? ht)

/-- Statements keep the names of tables apart. -/
theorem isNamed_after (hd : d.IsNamed) (s : Sql.Statement) : (d.after s).IsNamed := by
  cases hexecute : d.execute s with
  | error e =>
    rw [after_of_error hexecute]
    exact hd
  | ok result =>
    rw [after_of_ok hexecute]
    rcases eq_or_withTable_of_ok hexecute with hsame | ⟨t, hput⟩
    · exact hsame ▸ hd
    · exact hput ▸ isNamed_withTable hd t

end Database

namespace Schema

variable {d d' : Database}

theorem isNamed_createTable {t : Table} (hd : d.IsNamed) (h : createTable d t = .ok d') :
    d'.IsNamed := by
  unfold createTable at h
  split at h
  · cases h
  · split at h
    · cases h
    · rename_i hfree
      obtain rfl := Except.ok.inj h
      have hnone : d.table? t.name = none := by simpa using hfree
      have hnew : ∀ u ∈ d, u.name ≠ t.name := by
        intro u hu hname
        have hdiffers := List.find?_eq_none.1 hnone u hu
        simp [Text.sameIgnoringCase, hname] at hdiffers
      rw [Database.IsNamed, List.map_append, List.map_singleton, List.nodup_append]
      refine ⟨hd, List.nodup_singleton _, ?_⟩
      intro name hname other hother
      obtain ⟨u, hu, rfl⟩ := List.mem_map.1 hname
      obtain rfl := List.mem_singleton.1 hother
      exact hnew u hu

theorem isNamed_runStatement {tokens : List Token} (hd : d.IsNamed)
    (h : runStatement d tokens = .ok d') : d'.IsNamed := by
  unfold runStatement at h
  -- only the last branch of the reader makes a table
  repeat' split at h
  all_goals first
    | exact Except.ok.inj h ▸ hd
    | cases h
    | (obtain ⟨columns, -, h⟩ := eq_ok_of_bind h
       exact isNamed_createTable hd h)

/-- The tables of a database that a schema makes have names of their own. -/
theorem isNamed_run {text : String} (hd : d.IsNamed) (h : run d text = .ok d') :
    d'.IsNamed := by
  unfold run at h
  generalize splitAt ';' 0 [] (tokens text) = statements at h
  induction statements generalizing d with
  | nil => exact Except.ok.inj h ▸ hd
  | cons statement statements ih =>
    obtain ⟨d₁, hd₁, h⟩ := eq_ok_of_bind h
    exact ih (isNamed_runStatement hd hd₁) h

end Schema

section Calls

variable {d d' : Database} {ref : TableRef} {e : StoreError}

theorem eq_of_send_error {s : Sql.Statement} (h : (send s).run d = (.error e, d')) : d' = d := by
  simp only [send, StateT.run] at h
  split at h
  · cases (Prod.mk.inj h).1
  · exact (Prod.mk.inj h).2.symm

theorem run_of_map_error {ε α β : Type} {x : StateM Database (Except ε α)} {f : α → β} {e : ε}
    (h : (do return (← x).map f : StateM Database (Except ε β)).run d = (.error e, d')) :
    x.run d = (.error e, d') := by
  rw [run_bind] at h
  generalize x.run d = answered at h
  obtain ⟨result, d₁⟩ := answered
  obtain ⟨hresult, rfl⟩ := Prod.mk.inj h
  cases result with
  | error e' =>
    obtain rfl : e' = e := by simpa [Except.map] using hresult
    rfl
  | ok a => simp [Except.map] at hresult

/-- A search answers with the first record that has the key, if the table is there. -/
theorem find_of_table {t : Table} (ht : d.table? ref.name = some t) (text : String) :
    (databaseStore.find ref text).run d =
      (.ok ((t.rows.filter (t.hasKey ref.primaryKey text)).map t.record).head?, d) := by
  have hsend : (send (.find ref.name ref.primaryKey text)).run d =
      (.ok (.records ((t.rows.filter (t.hasKey ref.primaryKey text)).map t.record)), d) := by
    simp [StateT.run, send, Database.execute, Database.find, ht, Except.map]
  simp only [databaseStore, RecordStore.sending]
  rw [run_bind, hsend]
  rfl

theorem find_of_no_table (ht : d.table? ref.name = none) (text : String) :
    (databaseStore.find ref text).run d = (.error (.database (.noSuchTable ref.name)), d) := by
  have hsend : (send (.find ref.name ref.primaryKey text)).run d =
      (.error (.database (.noSuchTable ref.name)), d) := by
    simp [StateT.run, send, Database.execute, Database.find, ht, Except.map]
  simp only [databaseStore, RecordStore.sending]
  rw [run_bind, hsend]
  rfl

theorem list_of_no_table (ht : d.table? ref.name = none) (q : Sql.Query) (p : Page) :
    (databaseStore.list ref q p).run d = (.error (.database (.noSuchTable ref.name)), d) := by
  have hsend : (send (.count ref.name q)).run d =
      (.error (.database (.noSuchTable ref.name)), d) := by
    simp [StateT.run, send, Database.execute, Database.find, ht, Except.map]
  simp only [databaseStore, RecordStore.sending]
  rw [run_bind, hsend]
  rfl

/-- A write that fails leaves the database as it is. -/
theorem eq_of_insert_error {record : Record}
    (h : (databaseStore.insert ref record).run d = (.error e, d')) : d' = d :=
  eq_of_send_error (run_of_map_error h)

theorem eq_of_update_error {key : String} {record : Record}
    (h : (databaseStore.update ref key record).run d = (.error e, d')) : d' = d :=
  eq_of_send_error (run_of_map_error h)

theorem eq_of_delete_error {key : String}
    (h : (databaseStore.delete ref key).run d = (.error e, d')) : d' = d :=
  eq_of_send_error (run_of_map_error h)

/-- A write that finds no row leaves the database as it is. -/
theorem eq_of_update_none (hd : d.IsNamed) {key : String} {record : Record}
    (h : (databaseStore.update ref key record).run d = (.ok none, d')) : d' = d := by
  by_cases hempty : record.isEmpty
  · have hstate := run_update d ref key record
    rw [if_pos hempty, h] at hstate
    exact hstate
  · obtain ⟨answer, hanswer, hnone⟩ := run_of_map h
    rw [if_neg hempty] at hanswer
    exact Database.eq_of_update_nil hd (execute_of_send hanswer) (List.head?_eq_none_iff.1 hnone)

theorem eq_of_delete_false (hd : d.IsNamed) {key : String}
    (h : (databaseStore.delete ref key).run d = (.ok false, d')) : d' = d := by
  obtain ⟨answer, hanswer, hfalse⟩ := run_of_map h
  refine Database.eq_of_delete_zero hd (execute_of_send hanswer) ?_
  simpa using hfalse

end Calls

end TableApi.Store
