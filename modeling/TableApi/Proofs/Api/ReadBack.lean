import TableApi.Proofs.Api.Confinement
import TableApi.Proofs.Json.RoundTrip
import TableApi.Proofs.Store.Taken

/-!
Written values read back. The answer to a write and every answer that shows the row later have the same
record, and in it each column has the value that the body gave it: an integer of 63 bits, a text and a
null as they are, a truth value as a number, arrays and objects as texts that can be read again.
-/

namespace TableApi.Api

open Store (Answer Cell Column Database Place Row Table boundValues databaseStore)

namespace Resource

variable (r : Resource)

/-! ### Values -/

/-- The entry of a record that a write takes for a place: of several that name it the last one, but
the first one for a column of a new row. -/
def Takes (action : Action) (t : Table) (place : Place) (record : Record) (x : String × Json) :
    Prop :=
  match action, place with
  | .create, .column _ => t.firstNamed? place record = some x
  | _, _ => t.lastNamed? place record = some x

/-- An entry that is the only one for its place is the one that is taken. -/
theorem takes_of_unique {action : Action} {t : Table} {place : Place} {record : Record}
    {x : String × Json} (hx : x ∈ record) (hplace : t.place? x.1 = some place)
    (hunique : ∀ y ∈ record, t.place? y.1 = some place → y = x) :
    Takes action t place record x := by
  have hfirst := Table.firstNamed?_of_unique hx hplace hunique
  have hlast : t.lastNamed? place record = some x :=
    Table.firstNamed?_of_unique (List.mem_reverse.2 hx) hplace fun y hy =>
      hunique y (List.mem_reverse.1 hy)
  unfold Takes
  split
  · exact hfirst
  · exact hlast

/-- Whether a column holds a cell for a value that a write takes. -/
def Holds (action : Action) (t : Table) (c : Column) (v : Json) (cell : Cell) : Prop :=
  if action = .create ∧ c.holdsRowId ∧ Cell.ofValue (.ofJson v) = .null then
    ∃ id, cell = .integer id ∧ t.MayAssign id
  else cell = c.affinity.store (Cell.ofValue (.ofJson v))

/-- What answers show for a value that was written to a column. A null that was given for the row id
of a new row is no value of its own. -/
structure ReadsBack (action : Action) (t : Table) (c : Column) (v shown : Json) : Prop where
  integer : ∀ i : Int, v = .int i → i ≤ (Text.maxSigned64 : Int) → c.affinity = .integer →
    shown = .int i
  string : ∀ s, v = .str s → c.affinity = .text → shown = .str s
  null : v = .null → ¬(action = .create ∧ c.holdsRowId = true) → shown = .null
  rowId : v = .null → action = .create → c.holdsRowId = true →
    ∃ id, shown = .int id ∧ t.MayAssign id
  bool : ∀ b, v = .bool b → c.affinity = .integer → shown = .int (if b then 1 else 0)
  container : (∃ items, v = .arr items) ∨ (∃ members, v = .obj members) → c.affinity = .text →
    ∃ text, shown = .str text ∧
      ((∀ x, .real x ∈ v.tokens → (Json.Token.real x).Returns) → Json.read? text = some v)

variable {action : Action} {t : Table} {c : Column} {v : Json}

/-- What a column holds for a value is shown as that value, or as what the affinity made of it. -/
theorem readsBack_of_holds {cell : Cell} (hv : v.Within Json.maxDepth)
    (hholds : Holds action t c v cell) : ReadsBack action t c v cell.json := by
  unfold Holds at hholds
  constructor
  case integer =>
    rintro i rfl hi hc
    simp only [Sql.Value.ofJson, hi, if_true, Cell.ofValue, hc, reduceCtorEq, and_false,
      if_false] at hholds
    rw [hholds]
    rfl
  case string =>
    rintro s rfl hc
    simp only [Sql.Value.ofJson, Cell.ofValue, hc, reduceCtorEq, and_false, if_false] at hholds
    rw [hholds]
    rfl
  case null =>
    rintro rfl hrowId
    have hnot : ¬(action = .create ∧ c.holdsRowId = true ∧
        Cell.ofValue (.ofJson .null) = .null) := fun h => hrowId ⟨h.1, h.2.1⟩
    rw [if_neg hnot] at hholds
    rw [hholds]
    cases c.affinity <;> rfl
  case rowId =>
    rintro rfl haction hrowId
    rw [if_pos ⟨haction, hrowId, rfl⟩] at hholds
    obtain ⟨id, rfl, hid⟩ := hholds
    exact ⟨id, rfl, hid⟩
  case bool =>
    rintro b rfl hc
    simp only [Sql.Value.ofJson, Cell.ofValue, hc, reduceCtorEq, and_false, if_false] at hholds
    rw [hholds]
    rfl
  case container =>
    intro hcontainer hc
    have hvalue : Cell.ofValue (.ofJson v) = .text v.render := by
      rcases hcontainer with ⟨items, rfl⟩ | ⟨members, rfl⟩ <;> rfl
    refine ⟨v.render, ?_, Json.read?_render hv⟩
    simp only [hvalue, hc, reduceCtorEq, and_false, if_false] at hholds
    rw [hholds]
    rfl

example : Store.Affinity.ofType "INTEGER" = .integer ∧ Store.Affinity.ofType "TEXT" = .text := by
  decide

/-! ### Rows -/

variable {limit : Nat} {d d' : Database} {req : Request} {response : Response} {t' : Table}
  {row : Row} {i : Nat} {record : Record} {x : String × Json}

/-- An insertion puts the taken value, converted, in the new row. -/
theorem holds_of_insert {unknown : String → Store.DatabaseError} {assigned : Store.Assignments}
    (hassigned : t.assignments unknown (boundValues record) = .ok assigned)
    (hinsert : t.insert assigned = .ok (t', row)) (hc : t.columns[i]? = some c)
    (hx : Takes .create t (c.place i) record x) :
    Holds .create t c x.2 (row.at (c.place i)) := by
  have hgiven : Table.insertGiven? assigned (c.place i) =
      some (Cell.ofValue (.ofJson x.2)) := by
    generalize c.place i = place at hx ⊢
    cases place with
    | rowId =>
      rw [Table.insertGiven?, Table.lastGiven?_assignments hassigned, show _ = some x from hx]
      rfl
    | column =>
      rw [Table.insertGiven?, Table.firstGiven?_assignments hassigned, show _ = some x from hx]
      rfl
  have hat := Table.at_place_of_insert hinsert hc hgiven
  simpa only [Holds, true_and] using hat

/-- A change puts the taken value, converted, in each row that it reaches. -/
theorem holds_of_changed {unknown : String → Store.DatabaseError} {assigned : Store.Assignments}
    (hassigned : t.assignments unknown (boundValues record) = .ok assigned) {s : Row}
    (hchanged : t.changed assigned s = .ok row) (hc : t.columns[i]? = some c)
    (hx : Takes .update t (c.place i) record x) :
    Holds .update t c x.2 (row.at (c.place i)) := by
  have hgiven : Table.lastGiven? assigned (c.place i) = some (Cell.ofValue (.ofJson x.2)) := by
    rw [Table.lastGiven?_assignments hassigned, show _ = some x from hx]
    rfl
  rw [Holds, if_neg (by simp)]
  exact Table.at_place_of_changed hchanged hc hgiven

/-- What a write has done that succeeds: its answer shows a row that the table now has, with the
values that the record gives it. -/
structure Written (action : Action) (record : Record) (t t' : Table) (row : Row)
    (response : Response) : Prop where
  succeeds : t'.Succeeds t
  mem : row ∈ t'.rows
  shown : response = r.item (if action = .create then 201 else 200) (t'.record row)
  holds : ∀ (i : Nat) (c : Column) (x : String × Json), t.columns[i]? = some c →
    Takes action t (c.place i) record x → Holds action t c x.2 (row.at (c.place i))

/-- The answer to a creation is the new row of the table. -/
theorem written_of_create (hd : d.WellFormed)
    (h : (r.create databaseStore limit req).run d = (.ok response, d')) :
    ∃ body t t' row, req.readRecord limit = .ok body ∧ d.table? r.table.name = some t ∧
      d'.table? r.table.name = some t' ∧
      r.Written .create (r.written .collection req body) t t' row response := by
  obtain ⟨body, answer, hbody, -, hexecute, rfl⟩ := r.create_of_ok h
  obtain ⟨t, -, -, -, ht, -⟩ := Database.insert_of_ok hexecute
  have hids := (hd.tables t (Database.mem_of_table? ht)).inIdOrder
  obtain ⟨t', assigned, row, -, ht', hsucceeds, hperm, hassigned, hinsert, rfl⟩ :=
    Database.insert_of_execute ht hids hexecute
  refine ⟨body, t, t', row, hbody, ht, ht', hsucceeds, ?_, rfl, ?_⟩
  · exact hperm.mem_iff.2 List.mem_cons_self
  · intro i c x hc hx
    exact holds_of_insert hassigned hinsert hc hx

/-- The answer to a change is a row that the table has after it. -/
theorem written_of_update (hd : d.WellFormed) (segment : String) {key : String}
    (h : (r.update databaseStore limit req key).run d = (.ok response, d')) :
    ∃ body t t' row, req.readRecord limit = .ok body ∧ d.table? r.table.name = some t ∧
      d'.table? r.table.name = some t' ∧
      r.Written .update (r.written (.member segment) req body) t t' row response := by
  obtain ⟨body, answer, hbody, -, hexecute, record, hrecord, rfl⟩ := r.update_of_ok h
  split at hexecute
  · -- nothing is given: the row is looked up and shown
    rename_i hempty
    obtain ⟨t, hfind, hanswer⟩ := eq_ok_of_map hexecute
    obtain ⟨rfl, rfl⟩ := Prod.mk.inj hanswer
    have ht := Database.table?_of_find hfind
    rw [Answer.rows, List.head?_map, List.head?_filter, Option.map_eq_some_iff] at hrecord
    obtain ⟨row, hrow, rfl⟩ := hrecord
    refine ⟨body, t, t, row, hbody, ht, ht, ⟨rfl, rfl, ?_⟩, List.mem_of_find?_eq_some hrow, rfl, ?_⟩
    · exact (hd.tables t (Database.mem_of_table? ht)).inIdOrder
    · intro i c x _ hx
      rw [written, List.isEmpty_iff.1 hempty] at hx
      cases hx
  · obtain ⟨t, -, -, -, ht, -⟩ := Database.update_of_ok hexecute
    have hids := (hd.tables t (Database.mem_of_table? ht)).inIdOrder
    obtain ⟨t', assigned, change, -, ht', hsucceeds, hperm, hassigned, rfl, hchange⟩ :=
      Database.update_of_execute ht hids hexecute
    rw [Answer.rows, List.head?_map, List.head?_map, Option.map_map, Option.map_eq_some_iff]
      at hrecord
    obtain ⟨s, hs, rfl⟩ := hrecord
    obtain ⟨hmem, hkey⟩ := List.mem_filter.1 (List.mem_of_head? hs)
    have hchanged := hchange s hmem
    rw [if_pos hkey] at hchanged
    refine ⟨body, t, t', change s, hbody, ht, ht', hsucceeds, ?_, rfl, ?_⟩
    · exact hperm.mem_iff.2 (List.mem_map_of_mem hmem)
    · intro i c x hc hx
      exact holds_of_changed hassigned hchanged hc hx

/-- The same for requests: only a creation and a change write a record. -/
theorem written_of_success (hd : d.WellFormed) {route : Route}
    (haction : route.action? req.method = some action)
    (hwrites : action = .create ∨ action = .update)
    (hsuccess : ((r.respond databaseStore limit route req).run d).1.IsSuccess) :
    ∃ body t t' row, req.readRecord limit = .ok body ∧ d.table? r.table.name = some t ∧
      (r.after limit d (route, req)).table? r.table.name = some t' ∧
      r.Written action (r.written route req body) t t' row
        ((r.respond databaseStore limit route req).run d).1.response := by
  rcases hwrites with rfl | rfl
  · obtain ⟨rfl, hrun⟩ := r.create_of_success haction hsuccess
    exact r.written_of_create hd hrun
  · obtain ⟨segment, key, rfl, -, hrun⟩ := r.update_of_success haction hsuccess
    exact r.written_of_update hd segment hrun

/-! ### Showing a row again -/

/-- Requests that leave a database as it is: each asks for no write, or is refused. -/
def IsQuiet (limit : Nat) (d : Database) (sent : List (Route × Request)) : Prop :=
  ∀ y ∈ sent,
    (∀ action ∈ [Action.create, .update, .delete], y.1.action? y.2.method ≠ some action) ∨
      ¬((r.respond databaseStore limit y.1 y.2).run d).1.IsSuccess

theorem afterAll_of_isQuiet (hd : d.IsNamed) {sent : List (Route × Request)}
    (h : r.IsQuiet limit d sent) : r.afterAll limit d sent = d := by
  induction sent with
  | nil => rfl
  | cons y sent ih =>
    obtain ⟨hy, hrest⟩ := List.forall_mem_cons.1 h
    have hsame : r.after limit d y = d := by
      rcases hy with hreads | hrefused
      · exact r.after_of_reading hreads
      · exact ((r.settles_respond limit hd y.1 y.2).resolve_left hrefused).2
    rw [afterAll_cons, hsame]
    exact ih hrest

/-- Whoever may view rows and asks for one by its key is shown its record, after any such requests. -/
def ShowsAgain (limit : Nat) (d : Database) (t : Table) (row : Row) : Prop :=
  ∀ (between : List (Route × Request)) (segment key : String) (req : Request),
    r.IsQuiet limit d between → Route.action? (.member segment) req.method = some .view →
    r.policy.authorizes .view req = true → readKey segment = .ok key →
    t.rows.find? (t.hasKey r.table.primaryKey key) = some row →
    ((r.respond databaseStore limit (.member segment) req).run
      (r.afterAll limit d between)).1.response = r.item 200 (t.record row)

theorem run_atKey {segment key : String} (hkey : readKey segment = .ok key)
    (answer : String → StateM Database (Except Failure Response)) (d : Database) :
    (atKey segment answer).run d = (.ofResult ((answer key).run d).1, ((answer key).run d).2) := by
  unfold atKey
  rw [hkey]
  rfl

theorem run_display {key : String} (hauthorized : r.policy.authorizes .view req = true)
    (ht : d.table? r.table.name = some t)
    (hrow : t.rows.find? (t.hasKey r.table.primaryKey key) = some row) :
    ((r.display databaseStore req key).run d).1 = .ok (r.item 200 (t.record row)) := by
  have hauthorize : r.authorize .view req = .ok () := if_pos hauthorized
  have hfirst : ((t.rows.filter (t.hasKey r.table.primaryKey key)).map t.record).head? =
      some (t.record row) := by
    rw [List.head?_map, List.head?_filter, hrow]
    rfl
  unfold display
  rw [hauthorize]
  dsimp only
  rw [Store.run_bind, Store.find_of_table ht, hfirst]
  rfl

theorem showsAgain (limit : Nat) (hd : d.IsNamed) (ht : d.table? r.table.name = some t) (row : Row) :
    r.ShowsAgain limit d t row := by
  intro between segment key req hquiet haction hauthorized hkey hrow
  rw [r.afterAll_of_isQuiet hd hquiet, respond_eq_perform, haction, perform,
    congrArg Prod.fst (run_atKey hkey (r.display databaseStore req) d),
    r.run_display hauthorized ht hrow]
  rfl

/-! ### Written values -/

/-- The answer to a write that succeeds has the record of a row, which later answers show again; and
the record has under every column that is not hidden what the write took for it from the body. -/
theorem written_values_read_back (limit : Nat) (hd : d.WellFormed) (route : Route) (req : Request)
    (haction : route.action? req.method = some action)
    (hwrites : action = .create ∨ action = .update)
    (hsuccess : ((r.respond databaseStore limit route req).run d).1.IsSuccess) :
    ∃ body t t' row, req.readRecord limit = .ok body ∧ d.table? r.table.name = some t ∧
      (r.after limit d (route, req)).table? r.table.name = some t' ∧ row ∈ t'.rows ∧
      ((r.respond databaseStore limit route req).run d).1.response =
        r.item (if action = .create then 201 else 200) (t'.record row) ∧
      r.ShowsAgain limit (r.after limit d (route, req)) t' row ∧
      ∀ (i : Nat) (c : Column), t.columns[i]? = some c → c.name ∉ r.hidden →
        ∀ x ∈ body, Takes action t (c.place i) (r.written route req body) x →
          ∃ shown, Entries.get? (visible r.hidden (t'.record row)) c.name = some shown ∧
            ReadsBack action t c x.2 shown := by
  obtain ⟨body, t, t', row, hbody, ht, ht', hwritten⟩ :=
    r.written_of_success hd haction hwrites hsuccess
  have hformed : (r.after limit d (route, req)).WellFormed := r.wellFormed_after hd (route, req)
  have htable := hformed.tables t' (Database.mem_of_table? ht')
  refine ⟨body, t, t', row, hbody, ht, ht', hwritten.mem, hwritten.shown,
    r.showsAgain limit hformed.named ht' row, ?_⟩
  intro i c hc hvisible x hx htaken
  have hc' : t'.columns[i]? = some c := hwritten.succeeds.columns ▸ hc
  refine ⟨(row.at (c.place i)).json, ?_, ?_⟩
  · rw [visible, Entries.get?_retain _ (by simpa using hvisible)]
    exact Table.get?_record htable (htable.rows row hwritten.mem) hc'
  · have hwithin := (Json.within_of_read? (read?_of_readRecord hbody)).of_mem hx
    exact readsBack_of_holds (hwithin.mono (by decide)) (hwritten.holds i c x hc htaken)

def taggedPosts : Table :=
  { name := "posts",
    columns := [{ name := "id", type := "INTEGER", primaryKey := true },
      { name := "n", type := "INTEGER" }, { name := "tags", type := "TEXT" }] }

def numberedPosts : Resource :=
  { table := { name := "posts", primaryKey := "id" },
    policy := KeyGuard.policy { createRules := [("n", [.integer])] } }

/-- A list with a fraction is shown as a text that is read as the list. -/
theorem tags_read_back :
    ∃ t' row text, (numberedPosts.after standardLimit [taggedPosts]
        (postPost "\x7b\"tags\":[1.5,null]\x7d")).table? "posts" = some t' ∧
      ((numberedPosts.respond databaseStore standardLimit .collection
        (postPost "\x7b\"tags\":[1.5,null]\x7d").2).run [taggedPosts]).1.response =
          numberedPosts.item 201 (t'.record row) ∧
      (visible [] (t'.record row)).get? "tags" = some (.str text) ∧
      Json.read? text = some (.arr [.real (.finite false 6755399441055744 1022), .null]) := by
  have hd : Database.WellFormed [taggedPosts] := ⟨List.nodup_singleton _, by decide⟩
  obtain ⟨body, t, t', row, hbody, ht, ht', -, hshown, -, hcolumns⟩ :=
    numberedPosts.written_values_read_back standardLimit hd .collection
      (postPost "\x7b\"tags\":[1.5,null]\x7d").2 rfl (.inl rfl) (by decide +kernel)
  obtain rfl : t = taggedPosts := by
    have hposts : Database.table? [taggedPosts] numberedPosts.table.name = some taggedPosts := by
      decide
    exact Option.some.inj (ht.symm.trans hposts)
  generalize hx : Binary64.finite false 6755399441055744 1022 = x
  have hread : Json.read? "\x7b\"tags\":[1.5,null]\x7d" =
      some (.obj [("tags", .arr [.real x, .null])]) := by
    have hscan : Json.scan "\x7b\"tags\":[1.5,null]\x7d".toList =
        some [.token .openBrace, .token (.str "tags"), .token .colon, .token .openBracket,
          .token (.real x), .token .comma, .token .null, .token .closeBracket,
          .token .closeBrace] := by
      rw [← hx]
      decide +kernel
    exact Json.read?_of_scan hscan rfl rfl
  obtain rfl : body = [("tags", .arr [.real x, .null])] :=
    Json.obj.inj (Option.some.inj ((read?_of_readRecord hbody).symm.trans hread))
  have hplace : taggedPosts.place? "tags" = some (.column 2) := by decide
  have htaken : Takes .create taggedPosts (.column 2) [("tags", Json.arr [.real x, .null])]
      ("tags", .arr [.real x, .null]) :=
    takes_of_unique List.mem_cons_self hplace fun y hy _ => List.mem_singleton.1 hy
  obtain ⟨_, htags, hreads⟩ := hcolumns 2 { name := "tags", type := "TEXT" } rfl (by decide) _
    List.mem_cons_self htaken
  obtain ⟨text, rfl, hagain⟩ := hreads.container (.inl ⟨_, rfl⟩) (by decide)
  refine ⟨t', row, text, ht', hshown, htags, hagain ?_⟩
  intro y hy
  obtain rfl : y = x := by simpa [Json.tokens, Json.itemTokens] using hy
  rw [Json.Token.Returns, ← hx]
  decide +kernel

/-- An integer of 64 bits becomes another number, a null in the column of the row id becomes the next
row id, and a list with a number whose text is read as its neighbour becomes another list. -/
theorem written_values_lost :
    Json.read? "\x7b\"n\":18446744073709551615\x7d" =
      some (.obj [("n", .int 18446744073709551615)]) ∧
    ((numberedPosts.respond databaseStore standardLimit .collection
      (postPost "\x7b\"n\":18446744073709551615\x7d").2).run [taggedPosts]).1.response =
        { status := 201, headers := [("content-type", jsonType)],
          body := "\x7b\"data\":\x7b\"id\":1,\"n\":1.8446744073709552e+19,\"tags\":null\x7d\x7d" } ∧
    (((sluggedResource []).respond databaseStore standardLimit .collection
      (postPost "\x7b\"id\":null,\"title\":\"b\"\x7d").2).run
        [{ sluggedPosts with rows := [] }]).1.response =
        { status := 201, headers := [("content-type", jsonType)],
          body := "\x7b\"data\":\x7b\"id\":1,\"slug\":null,\"title\":\"b\"\x7d\x7d" } ∧
    ((numberedPosts.respond databaseStore standardLimit .collection
      (postPost "\x7b\"tags\":[19e29]\x7d").2).run [taggedPosts]).1.response =
        { status := 201, headers := [("content-type", jsonType)],
          body := "\x7b\"data\":\x7b\"id\":1,\"n\":null,\"tags\":\"[1.8999999999999998e+30]\"\x7d\x7d" } ∧
    ∃ x y, x ≠ y ∧ Json.read? "[19e29]" = some (.arr [.real x]) ∧
      Json.read? "[1.8999999999999998e+30]" = some (.arr [.real y]) := by
  refine ⟨?_, by decide +kernel, by decide +kernel, by decide +kernel,
    .finite false 6750155989720951 1122, .finite false 6750155989720952 1122, by decide, ?_, ?_⟩
  · have hscan : Json.scan "\x7b\"n\":18446744073709551615\x7d".toList =
        some [.token .openBrace, .token (.str "n"), .token .colon,
          .token (.int 18446744073709551615), .token .closeBrace] := by decide +kernel
    exact Json.read?_of_scan hscan rfl rfl
  · have hscan : Json.scan "[19e29]".toList = some [.token .openBracket,
        .token (.real (.finite false 6750155989720951 1122)), .token .closeBracket] := by
      decide +kernel
    exact Json.read?_of_scan hscan rfl rfl
  · have hscan : Json.scan "[1.8999999999999998e+30]".toList = some [.token .openBracket,
        .token (.real (.finite false 6750155989720952 1122)), .token .closeBracket] := by
      decide +kernel
    exact Json.read?_of_scan hscan rfl rfl

end Resource

end TableApi.Api
