import TableApi.Proofs.Api.Refusals
import TableApi.Proofs.Store.WellFormed

/-!
What writes leave alone where a resource names the columns that bodies may write. No body reaches
another column, and no request rows that it does not name; the row id alone has further names, and a
new row gets one however it is named.
-/

namespace TableApi.Api

open Store (Answer Cell Column Database Row Table boundValues databaseStore)

namespace Resource

variable (r : Resource)

/-- Whether bodies may write a column: some name that they may use stands for it. -/
def Allows (t : Table) (c : Column) : Prop := ∃ name ∈ r.writable, t.Names c name

/-- What a request does to the table of its resource when it is done. A creation adds one row; a
change and a removal reach the rows with the key alone; and neither a creation nor a change gives a
value to a column that bodies may not write. -/
def Confined (route : Route) (action : Action) (t t' : Table) : Prop :=
  match route, action with
  | .collection, .create =>
    ∃ row, t'.rows.Perm (row :: t.rows) ∧
      ∀ (i : Nat) (c : Column), t.columns[i]? = some c → ¬r.Allows t c →
        ∃ cell, row.cells[i]? = some cell ∧ t.Unwritten c cell
  | .member segment, .update =>
    ∃ key, ∃ change : Row → Row, readKey segment = .ok key ∧ t'.rows.Perm (t.rows.map change) ∧
      ∀ s ∈ t.rows, (t.hasKey r.table.primaryKey key s = false → change s = s) ∧
        ∀ (i : Nat) (c : Column), t.columns[i]? = some c → ¬r.Allows t c →
          (change s).cells[i]? = s.cells[i]?
  | .member segment, .delete =>
    ∃ key, readKey segment = .ok key ∧
      t'.rows = t.rows.filter fun s => !t.hasKey r.table.primaryKey key s
  | _, _ => t' = t

variable {limit : Nat} {d d' : Database} {req : Request} {response : Response} {t : Table}

/-- What is kept of a body stands under names that bodies may use. -/
theorem names_written (hallowed : r.writable ≠ [])
    (hprepare : ∀ req record, (r.policy.prepare req record).names ⊆ record.names) {route : Route}
    {body : Record} (hbody : req.readRecord limit = .ok body) :
    ∀ x ∈ r.written route req body, x.1 ∈ r.writable := by
  intro x hx
  have hname : x.1 ∈ (r.fillable body).names := by
    have hwritten : x.1 ∈ (r.written route req body).names := List.mem_map_of_mem hx
    cases route with
    | collection => exact hprepare req _ hwritten
    | member segment => exact hwritten
  obtain ⟨y, hy, hyname⟩ := List.mem_map.1 hname
  obtain ⟨-, hkept, -⟩ := (r.mem_fillable (nodup_names_of_readRecord hbody) y).1 hy
  exact hyname ▸ hkept.resolve_left hallowed

/-- A column that bodies may not write is given nothing. -/
theorem not_mem_assigned (ht : t.WellFormed) {record : Record}
    (hnames : ∀ x ∈ record, x.1 ∈ r.writable) {unknown : String → Store.DatabaseError}
    {assigned : Store.Assignments}
    (hassigned : t.assignments unknown (boundValues record) = .ok assigned) {i : Nat} {c : Column}
    (hc : t.columns[i]? = some c) (hnot : ¬r.Allows t c) (x : Cell) :
    (c.place i, x) ∉ assigned := by
  intro hx
  obtain ⟨y, hy, hplace, -⟩ := (mem_assigned hassigned _ x).1 hx
  exact hnot ⟨y.1, hnames y hy, Table.names_of_place? ht hc hplace⟩

/-! ### One request -/

/-- A database is another but for the table of the resource, with which a request has done what it
may do. -/
def ConfinedTo (route : Route) (action : Action) (d d' : Database) : Prop :=
  ∃ t t', d.table? r.table.name = some t ∧ d' = d.withTable t' ∧ t'.Succeeds t ∧
    r.Confined route action t t'

/-- The new row takes defaults for what the record does not name. -/
theorem confined_of_insert (hd : d.WellFormed) {record : Record}
    (hnames : ∀ x ∈ record, x.1 ∈ r.writable) {answer : Answer}
    (h : d.execute (.insert r.table.name (boundValues record)) = .ok (d', answer)) :
    r.ConfinedTo .collection .create d d' := by
  obtain ⟨t, -, -, -, ht, -⟩ := Database.insert_of_ok h
  have hformed := hd.tables t (Database.mem_of_table? ht)
  obtain ⟨t', assigned, row, hd', -, hsucceeds, hperm, hassigned, hinsert, -⟩ :=
    Database.insert_of_execute ht hformed.inIdOrder h
  refine ⟨t, t', ht, hd', hsucceeds, row, hperm, fun i c hc hnot => ?_⟩
  exact Table.cell_of_insert hinsert hc (r.not_mem_assigned hformed hnames hassigned hc hnot)

/-- Rows without the key are not rewritten, and the others keep what the record does not name. -/
theorem confined_of_update (hd : d.WellFormed) {record : Record}
    (hnames : ∀ x ∈ record, x.1 ∈ r.writable) {segment key : String}
    (hkey : readKey segment = .ok key) {answer : Answer}
    (h : d.execute (.update r.table.name (boundValues record) r.table.primaryKey key) =
      .ok (d', answer)) :
    r.ConfinedTo (.member segment) .update d d' := by
  obtain ⟨t, -, -, -, ht, -⟩ := Database.update_of_ok h
  have hformed := hd.tables t (Database.mem_of_table? ht)
  obtain ⟨t', assigned, change, hd', -, hsucceeds, hperm, hassigned, -, hchange⟩ :=
    Database.update_of_execute ht hformed.inIdOrder h
  refine ⟨t, t', ht, hd', hsucceeds, key, change, hkey, hperm, fun s hs => ?_⟩
  have hchanged := hchange s hs
  by_cases hhas : t.hasKey r.table.primaryKey key s = true
  · rw [if_pos hhas] at hchanged
    refine ⟨fun hno => absurd hhas (by simp [hno]), fun i c hc hnot => ?_⟩
    exact Table.cell_of_changed hchanged (hformed.rows s hs) hc
      (r.not_mem_assigned hformed hnames hassigned hc hnot)
  · rw [if_neg hhas] at hchanged
    exact ⟨fun _ => hchanged, fun _ _ _ _ => by rw [hchanged]⟩

theorem confined_of_delete (hd : d.WellFormed) {segment key : String}
    (hkey : readKey segment = .ok key) {answer : Answer}
    (h : d.execute (.delete r.table.name r.table.primaryKey key) = .ok (d', answer)) :
    r.ConfinedTo (.member segment) .delete d d' := by
  obtain ⟨t, kept, ht, rfl, hd', -⟩ := Database.delete_of_ok h
  have hformed := hd.tables t (Database.mem_of_table? ht)
  exact ⟨t, _, ht, hd', ⟨rfl, rfl, List.Pairwise.filter _ hformed.inIdOrder⟩, key, hkey, rfl⟩

theorem delete_of_ok {key : String}
    (h : (r.delete databaseStore req key).run d = (.ok response, d')) :
    ∃ answer, d.execute (.delete r.table.name r.table.primaryKey key) = .ok (d', answer) := by
  unfold delete at h
  split at h
  · cases (Prod.mk.inj h).1
  · rw [Store.run_bind] at h
    generalize hdelete : (databaseStore.delete r.table key).run d = removed at h
    obtain ⟨result, d₁⟩ := removed
    dsimp only at h
    split at h
    · obtain ⟨-, rfl⟩ := Prod.mk.inj h
      obtain ⟨answer, hanswer, -⟩ := Store.run_of_map hdelete
      exact ⟨answer, Store.execute_of_send hanswer⟩
    · cases (Prod.mk.inj h).1
    · cases (Prod.mk.inj h).1

/-- A change that keeps nothing of its body only looks the row up. -/
theorem update_of_empty {key : String} (hempty : ∀ body, req.readRecord limit = .ok body →
      r.fillable body = [])
    (h : (r.update databaseStore limit req key).run d = (.ok response, d')) :
    d' = d ∧ ∃ t row, d.table? r.table.name = some t ∧
      t.rows.find? (t.hasKey r.table.primaryKey key) = some row ∧
      response = r.item 200 (t.record row) := by
  obtain ⟨body, answer, hbody, -, hexecute, record, hrecord, rfl⟩ := r.update_of_ok h
  rw [if_pos (by simp [hempty body hbody])] at hexecute
  obtain ⟨t, hfind, hanswer⟩ := eq_ok_of_map hexecute
  obtain ⟨rfl, rfl⟩ := Prod.mk.inj hanswer
  rw [Answer.rows, List.head?_map, List.head?_filter, Option.map_eq_some_iff] at hrecord
  obtain ⟨row, hrow, rfl⟩ := hrecord
  exact ⟨rfl, t, row, Database.table?_of_find hfind, hrow, rfl⟩

/-- Each of the three writes comes down to its one statement. -/
theorem confined_of_success (hd : d.WellFormed) (hallowed : r.writable ≠ [])
    (hprepare : ∀ req record, (r.policy.prepare req record).names ⊆ record.names) {route : Route}
    {action : Action} (haction : route.action? req.method = some action)
    (hwrites : action = .create ∨ action = .update ∨ action = .delete)
    (hsuccess : ((r.respond databaseStore limit route req).run d).1.IsSuccess) :
    r.ConfinedTo route action d (r.after limit d (route, req)) := by
  rcases hwrites with rfl | rfl | rfl
  · obtain ⟨rfl, hrun⟩ := r.create_of_success haction hsuccess
    obtain ⟨body, answer, hbody, -, hexecute, -⟩ := r.create_of_ok hrun
    exact r.confined_of_insert hd (r.names_written hallowed hprepare hbody) hexecute
  · obtain ⟨segment, key, rfl, hkey, hrun⟩ := r.update_of_success haction hsuccess
    obtain ⟨body, answer, hbody, -, hexecute, -⟩ := r.update_of_ok hrun
    split at hexecute
    · obtain ⟨t, hfind, hanswer⟩ := eq_ok_of_map hexecute
      obtain ⟨hstate, -⟩ := Prod.mk.inj hanswer
      have ht := Database.table?_of_find hfind
      have hmem := Database.mem_of_table? ht
      refine ⟨t, t, ht, ?_, ⟨rfl, rfl, (hd.tables t hmem).inIdOrder⟩, key, id, hkey, by simp,
        fun _ _ => ⟨fun _ => rfl, fun _ _ _ _ => rfl⟩⟩
      exact hstate.symm.trans (Database.withTable_self hd.named hmem).symm
    · have hnames : ∀ x ∈ r.written (.member segment) req body, x.1 ∈ r.writable :=
        r.names_written hallowed hprepare hbody
      exact r.confined_of_update hd hnames hkey hexecute
  · obtain ⟨segment, key, rfl, hkey, hrun⟩ := r.delete_of_success haction hsuccess
    obtain ⟨answer, hexecute⟩ := r.delete_of_ok hrun
    exact r.confined_of_delete hd hkey hexecute

/-! ### Sequences of requests -/

theorem wellFormed_after (hd : d.WellFormed) (sent : Route × Request) :
    (r.after limit d sent).WellFormed := by
  obtain ⟨route, req⟩ := sent
  rcases r.reaches_after limit d route req with h | ⟨s, -, h⟩ <;> rw [h]
  · exact hd
  · exact Database.wellFormed_after hd s

theorem wellFormed_afterAll (hd : d.WellFormed) (sent : List (Route × Request)) :
    (r.afterAll limit d sent).WellFormed := by
  induction sent generalizing d with
  | nil => exact hd
  | cons x sent ih => exact ih (r.wellFormed_after hd x)

/-- Along any requests, each that is done changes the table of the resource alone, and that within its
bounds. A change that keeps nothing of its body leaves everything and shows the row as it is. -/
theorem writes_confined (limit : Nat) (hd : d.WellFormed) (hallowed : r.writable ≠ [])
    (hprepare : ∀ req record, (r.policy.prepare req record).names ⊆ record.names)
    (before : List (Route × Request)) (route : Route) (req : Request) {action : Action}
    (haction : route.action? req.method = some action)
    (hwrites : action = .create ∨ action = .update ∨ action = .delete)
    (hsuccess : ((r.respond databaseStore limit route req).run
      (r.afterAll limit d before)).1.IsSuccess) :
    r.ConfinedTo route action (r.afterAll limit d before)
        (r.afterAll limit d (before ++ [(route, req)])) ∧
      (action = .update → (∀ body, req.readRecord limit = .ok body → r.fillable body = []) →
        r.afterAll limit d (before ++ [(route, req)]) = r.afterAll limit d before ∧
        ∃ segment key t row, route = .member segment ∧ readKey segment = .ok key ∧
          (r.afterAll limit d before).table? r.table.name = some t ∧
          t.rows.find? (t.hasKey r.table.primaryKey key) = some row ∧
          ((r.respond databaseStore limit route req).run (r.afterAll limit d before)).1.response =
            r.item 200 (t.record row)) := by
  have hlast : r.afterAll limit d (before ++ [(route, req)]) =
      r.after limit (r.afterAll limit d before) (route, req) := by
    simp [afterAll, List.foldl_append]
  rw [hlast]
  have hformed : (r.afterAll limit d before).WellFormed := r.wellFormed_afterAll hd before
  generalize r.afterAll limit d before = d₁ at hformed hsuccess ⊢
  refine ⟨r.confined_of_success hformed hallowed hprepare haction hwrites hsuccess, ?_⟩
  rintro rfl hempty
  obtain ⟨segment, key, rfl, hkey, hrun⟩ := r.update_of_success haction hsuccess
  obtain ⟨hsame, t, row, ht, hrow, hresponse⟩ := r.update_of_empty hempty hrun
  exact ⟨hsame, segment, key, t, row, rfl, hkey, ht, hrow, hresponse⟩

/-- In capitals the name of the key is none that bodies may use: no row gets another key. -/
theorem capitals_out_of_bounds :
    Resource.ConfinedTo { postsResource with writable := ["title"] } (.member "1") .update
      (Resource.afterAll { postsResource with writable := ["title"] } standardLimit [posts]
        [postPost "\x7b\"title\":\"c\"\x7d"])
      (Resource.afterAll { postsResource with writable := ["title"] } standardLimit [posts]
        [postPost "\x7b\"title\":\"c\"\x7d", putPost "\x7b\"ID\":5,\"title\":\"b\"\x7d"]) := by
  have hd : Database.WellFormed [posts] := ⟨List.nodup_singleton _, by decide⟩
  exact (Resource.writes_confined { postsResource with writable := ["title"] } standardLimit hd
    (List.cons_ne_nil _ _) (fun _ _ => List.Subset.refl _)
    [postPost "\x7b\"title\":\"c\"\x7d"] (.member "1")
    (putPost "\x7b\"ID\":5,\"title\":\"b\"\x7d").2 rfl (.inr (.inl rfl))
    (by decide +kernel)).1

def sluggedPosts : Table :=
  { name := "posts",
    columns := [{ name := "id", type := "INTEGER", primaryKey := true },
      { name := "slug", type := "TEXT" }, { name := "title", type := "TEXT" }],
    rows := [{ id := 1, cells := [.integer 1, .text "a", .null] }] }

def sluggedResource (writable : List String) : Resource :=
  { table := { name := "posts", primaryKey := "slug" }, writable }

/-- The column of the row id, neither the key nor a name that bodies may use, is changed under another
name of the row id; and in a new row it does not hold its default. -/
theorem row_id_out_of_bounds :
    "id" ∉ ["rowid"].map Text.lower ∧ "id" ∉ ["title"].map Text.lower ∧
    (((sluggedResource ["rowid"]).respond databaseStore standardLimit (.member "a")
      (putPost "\x7b\"rowid\":5\x7d").2).run [sluggedPosts]).1.IsSuccess ∧
    (sluggedResource ["rowid"]).after standardLimit [sluggedPosts]
      (.member "a", (putPost "\x7b\"rowid\":5\x7d").2) =
        [{ sluggedPosts with rows := [{ id := 5, cells := [.integer 5, .text "a", .null] }] }] ∧
    (((sluggedResource ["title"]).respond databaseStore standardLimit .collection
      (postPost "\x7b\"title\":\"b\"\x7d").2).run [{ sluggedPosts with rows := [] }]).1.IsSuccess ∧
    (sluggedResource ["title"]).after standardLimit [{ sluggedPosts with rows := [] }]
      (postPost "\x7b\"title\":\"b\"\x7d") =
        [{ sluggedPosts with rows := [{ id := 1, cells := [.integer 1, .null, .text "b"] }] }] := by
  refine ⟨by decide, by decide, ?_, ?_, ?_, ?_⟩
  all_goals decide +kernel

end Resource

end TableApi.Api
