import Mathlib.Tactic.FinCases
import TableApi.Proofs.Api.Effects

/-!
Who chooses the key of a row. The name of the key is left out of a body as it is spelled, while the
database compares names without case and knows the row id by further names: a body chooses a key
just when it names it in another way.
-/

namespace TableApi.Api

open Store (Assignments Cell Database DatabaseError Place Row Table boundValues databaseStore)

def held (t : Table) (place : Place) (v : Json) : Cell :=
  (t.affinityAt place).store (Cell.ofValue (.ofJson v))

/-- A request on the collection adds nothing, or one row with the key that the table assigns; one
on a member leaves every row with the key that it had. -/
def KeepsKeys (route : Route) (place : Place) (t t' : Table) : Prop :=
  match route with
  | .collection =>
    t'.rows = t.rows ∨ ∃ row, t'.rows.Perm (row :: t.rows) ∧ t.Assigns place (row.at place)
  | .member _ =>
    ∃ change : Row → Row, t'.rows.Perm (t.rows.map change) ∧
      ∀ s ∈ t.rows, (change s).at place = s.at place

namespace Resource

variable (r : Resource)

/-- A request puts a value of the record that it writes at the place of the key: in the row that it
adds, unless the value is null, or in the rows that it changes. -/
def TakesKey (route : Route) (place : Place) (record : Record) (t t' : Table) : Prop :=
  ∃ x ∈ record, t.place? x.1 = some place ∧
    match route with
    | .collection =>
      ∃ row, t'.rows.Perm (row :: t.rows) ∧
        (row.at place = held t place x.2 ∨ x.2 = .null ∧ t.Assigns place (row.at place))
    | .member segment =>
      ∃ key, ∃ change : Row → Row, readKey segment = .ok key ∧
        t'.rows.Perm (t.rows.map change) ∧
        ∀ s ∈ t.rows, (change s).at place =
          if t.hasKey r.table.primaryKey key s then held t place x.2 else s.at place

/-- Whether a body names the key by a name that bodies may write and that is not the name of the
key as it is spelled. -/
def NamesKeyOtherwise (t : Table) (body : Record) : Prop :=
  ∃ name ∈ body.names, (r.writable = [] ∨ name ∈ r.writable) ∧ name ≠ r.table.primaryKey ∧
    t.place? name = t.place? r.table.primaryKey

def afterAll (limit : Nat) (d : Database) (sent : List (Route × Request)) : Database :=
  sent.foldl (r.after limit) d

theorem null_of_ofJson {v : Json} (h : Cell.ofValue (.ofJson v) = .null) : v = .null := by
  cases v with
  | null => rfl
  | int i =>
    rw [Sql.Value.ofJson] at h
    split at h <;> simp [Cell.ofValue] at h
  | _ => simp [Sql.Value.ofJson, Cell.ofValue] at h

/-- A place is given a value just when some name of the record stands for it. -/
theorem mem_assigned {t : Table} {unknown : String → DatabaseError} {record : Record}
    {assigned : Assignments} (h : t.assignments unknown (boundValues record) = .ok assigned)
    (place : Place) (c : Cell) :
    (place, c) ∈ assigned ↔
      ∃ x ∈ record, t.place? x.1 = some place ∧ Cell.ofValue (.ofJson x.2) = c := by
  rw [Table.mem_assignments h]
  simp [boundValues]

/-- The key of a new row is one that the record gives, or the one that the table assigns. -/
theorem key_of_insert {t t' : Table} {row : Row} {unknown : String → DatabaseError}
    {record : Record} {assigned : Assignments} {place : Place}
    (hassigned : t.assignments unknown (boundValues record) = .ok assigned)
    (hinsert : t.insert assigned = .ok (t', row)) (hplace : t.HasPlace place) :
    ((∀ x ∈ record, t.place? x.1 ≠ some place) → t.Assigns place (row.at place)) ∧
      ((∃ x ∈ record, t.place? x.1 = some place) →
        ∃ x ∈ record, t.place? x.1 = some place ∧
          (row.at place = held t place x.2 ∨ x.2 = .null ∧ t.Assigns place (row.at place))) := by
  have hkey := Table.at_of_insert hinsert hplace
  constructor
  · intro hnone
    have hgiven : Table.insertGiven? assigned place = none := by
      rw [Table.insertGiven?_eq_none_iff]
      intro c hc
      obtain ⟨x, hx, hxplace, -⟩ := (mem_assigned hassigned place c).1 hc
      exact hnone x hx hxplace
    rwa [hgiven] at hkey
  · rintro ⟨x, hx, hxplace⟩
    have hmem : (place, Cell.ofValue (.ofJson x.2)) ∈ assigned :=
      (mem_assigned hassigned place _).2 ⟨x, hx, hxplace, rfl⟩
    cases hgiven : Table.insertGiven? assigned place with
    | none => exact absurd hmem (Table.insertGiven?_eq_none_iff.1 hgiven _)
    | some c =>
      rw [hgiven] at hkey
      obtain ⟨y, hy, hyplace, rfl⟩ :=
        (mem_assigned hassigned place c).1 (Table.mem_of_insertGiven? hgiven)
      exact ⟨y, hy, hyplace, hkey.imp id fun h => ⟨null_of_ofJson h.1, h.2⟩⟩

/-- All changed rows hold the same value of the record at a place, or each what it held. -/
theorem key_of_changed {t : Table} {unknown : String → DatabaseError} {record : Record}
    {assigned : Assignments} {place : Place}
    (hassigned : t.assignments unknown (boundValues record) = .ok assigned)
    (hplace : t.HasPlace place) :
    ((∀ x ∈ record, t.place? x.1 ≠ some place) →
        ∀ s row, t.changed assigned s = .ok row → row.at place = s.at place) ∧
      ((∃ x ∈ record, t.place? x.1 = some place) →
        ∃ x ∈ record, t.place? x.1 = some place ∧
          ∀ s row, t.changed assigned s = .ok row → row.at place = held t place x.2) := by
  constructor
  · intro hnone s row hrow
    have hgiven : Table.lastGiven? assigned place = none := by
      rw [Table.lastGiven?_eq_none_iff]
      intro c hc
      obtain ⟨x, hx, hxplace, -⟩ := (mem_assigned hassigned place c).1 hc
      exact hnone x hx hxplace
    rw [Table.at_of_changed hrow hplace, hgiven]
  · rintro ⟨x, hx, hxplace⟩
    have hmem : (place, Cell.ofValue (.ofJson x.2)) ∈ assigned :=
      (mem_assigned hassigned place _).2 ⟨x, hx, hxplace, rfl⟩
    cases hgiven : Table.lastGiven? assigned place with
    | none => exact absurd hmem (Table.lastGiven?_eq_none_iff.1 hgiven _)
    | some c =>
      obtain ⟨y, hy, hyplace, rfl⟩ :=
        (mem_assigned hassigned place c).1 (Table.mem_of_lastGiven? hgiven)
      refine ⟨y, hy, hyplace, fun s row hrow => ?_⟩
      rw [Table.at_of_changed hrow hplace, hgiven]
      rfl

theorem keepsKeys_of_rows_eq {t t' : Table} (route : Route) (place : Place)
    (h : t'.rows = t.rows) : KeepsKeys route place t t' := by
  cases route with
  | collection => exact .inl h
  | member segment => exact ⟨id, by simp [h], fun _ _ => rfl⟩

/-- What a request does to the table of its resource. The keys stay when what it writes does not
give one; else it takes one of those that are given. -/
theorem keys_of_reaches {limit : Nat} {route : Route} {req : Request} {d d' : Database}
    {t : Table} {place : Place} (hd : d.table? r.table.name = some t) (ht : t.InIdOrder)
    (hplace : t.HasPlace place) (hmethod : req.method ≠ "DELETE")
    (h : r.Reaches limit route req d d') :
    ∃ t', d'.table? r.table.name = some t' ∧
      (t'.rows = t.rows ∨ ∃ body, req.readRecord limit = .ok body ∧
        ((∀ x ∈ r.written route req body, t.place? x.1 ≠ some place) →
          KeepsKeys route place t t') ∧
        ((∃ x ∈ r.written route req body, t.place? x.1 = some place) →
          r.TakesKey route place (r.written route req body) t t')) := by
  rcases h with rfl | ⟨s, hwrites, rfl⟩
  · exact ⟨t, hd, .inl rfl⟩
  · cases hwrites with
    | delete hdelete key => exact absurd hdelete hmethod
    | @insert body hbody =>
      obtain ⟨t', ht', -, hrows⟩ :=
        Database.after_insert hd ht (boundValues (r.written .collection req body))
      refine ⟨t', ht', hrows.imp id ?_⟩
      rintro ⟨assigned, row, hperm, hassigned, hinsert⟩
      obtain ⟨hkeeps, htakes⟩ := key_of_insert hassigned hinsert hplace
      refine ⟨body, hbody, fun hnone => .inr ⟨row, hperm, hkeeps hnone⟩, fun hsome => ?_⟩
      obtain ⟨x, hx, hxplace, hkey⟩ := htakes hsome
      exact ⟨x, hx, hxplace, row, hperm, hkey⟩
    | @update segment key body _ hkey hbody =>
      obtain ⟨t', ht', -, hrows⟩ := Database.after_update hd ht
        (boundValues (r.written (.member segment) req body)) r.table.primaryKey key
      refine ⟨t', ht', hrows.imp id ?_⟩
      rintro ⟨assigned, change, hperm, hassigned, hchange⟩
      obtain ⟨hkeeps, htakes⟩ := key_of_changed hassigned hplace
      refine ⟨body, hbody, fun hnone => ⟨change, hperm, fun s hs => ?_⟩, fun hsome => ?_⟩
      · have hs := hchange s hs
        split at hs
        · exact hkeeps hnone s _ hs
        · rw [hs]
      · obtain ⟨x, hx, hxplace, hheld⟩ := htakes hsome
        refine ⟨x, hx, hxplace, key, change, hkey, hperm, fun s hs => ?_⟩
        have hs := hchange s hs
        split at hs
        · rw [if_pos ‹_›]
          exact hheld s _ hs
        · rw [if_neg ‹_›, hs]

/-- A request leaves the columns of the table as they are and its rows in order. -/
theorem succeeds_of_reaches {limit : Nat} {route : Route} {req : Request} {d d' : Database}
    {t : Table} (hd : d.table? r.table.name = some t) (ht : t.InIdOrder)
    (h : r.Reaches limit route req d d') :
    ∃ t', d'.table? r.table.name = some t' ∧ t'.Succeeds t := by
  rcases h with rfl | ⟨s, hwrites, rfl⟩
  · exact ⟨t, hd, rfl, rfl, ht⟩
  · cases hwrites with
    | insert hbody =>
      obtain ⟨t', ht', hsucceeds, -⟩ := Database.after_insert hd ht _
      exact ⟨t', ht', hsucceeds⟩
    | update _ _ hbody =>
      obtain ⟨t', ht', hsucceeds, -⟩ := Database.after_update hd ht _ _ _
      exact ⟨t', ht', hsucceeds⟩
    | delete _ key => exact Database.after_delete hd ht r.table.primaryKey key

/-- Requests never drop the table or change its columns. -/
theorem succeeds_afterAll (limit : Nat) {d : Database} {t : Table}
    (hd : d.table? r.table.name = some t) (ht : t.InIdOrder) (sent : List (Route × Request)) :
    ∃ t', (r.afterAll limit d sent).table? r.table.name = some t' ∧ t'.Succeeds t := by
  induction sent generalizing d t with
  | nil => exact ⟨t, hd, rfl, rfl, ht⟩
  | cons x sent ih =>
    obtain ⟨t₁, ht₁, hfirst⟩ := r.succeeds_of_reaches hd ht (r.reaches_after limit d x.1 x.2)
    obtain ⟨t₂, ht₂, hrest⟩ := ih ht₁ hfirst.inIdOrder
    exact ⟨t₂, ht₂, hrest.name.trans hfirst.name, hrest.columns.trans hfirst.columns,
      hrest.inIdOrder⟩

theorem place?_of_succeeds {t t' : Table} (h : t'.Succeeds t) (name : String) :
    t'.place? name = t.place? name := by
  simp only [Table.place?, Table.columnIndex?, h.columns]

/-- What a request writes gives the key no value when its body does not name the key otherwise. -/
theorem place?_ne_of_written {t : Table} {place : Place} {limit : Nat} {route : Route}
    {req : Request} {body : Record} (hplace : t.place? r.table.primaryKey = some place)
    (hprepare : ∀ req record, (r.policy.prepare req record).names ⊆ record.names)
    (hbody : req.readRecord limit = .ok body) (hnot : ¬ r.NamesKeyOtherwise t body) :
    ∀ x ∈ r.written route req body, t.place? x.1 ≠ some place := by
  intro x hx hxplace
  have hname : x.1 ∈ (r.fillable body).names := by
    have hwritten : x.1 ∈ (r.written route req body).names := List.mem_map_of_mem hx
    cases route with
    | collection => exact hprepare req _ hwritten
    | member segment => exact hwritten
  -- the exact name was left out, so what is left must be another spelling
  obtain ⟨y, hy, hyname⟩ := List.mem_map.1 hname
  obtain ⟨hybody, hkept, hother⟩ := (r.mem_fillable (nodup_names_of_readRecord hbody) y).1 hy
  rw [← hyname] at hxplace
  exact hnot ⟨y.1, List.mem_map_of_mem hybody, hkept, hother, hxplace.trans hplace.symm⟩

/-- Along any requests, one that removes nothing leaves the keys as they are unless its body names
the key otherwise; a body that does so has no effect or chooses the key. -/
theorem keys_kept_unless_named_otherwise (limit : Nat) (d : Database) {t : Table} {place : Place}
    (hd : d.table? r.table.name = some t) (hids : t.InIdOrder)
    (hplace : t.place? r.table.primaryKey = some place)
    (hprepare : ∀ req record, (r.policy.prepare req record).names ⊆ record.names)
    (before : List (Route × Request)) (route : Route) (req : Request)
    (hmethod : req.method ≠ "DELETE") :
    ∃ t₁ t₂ : Table, (r.afterAll limit d before).table? r.table.name = some t₁ ∧
      (r.afterAll limit d (before ++ [(route, req)])).table? r.table.name = some t₂ ∧
      ((∀ body, req.readRecord limit = .ok body → ¬ r.NamesKeyOtherwise t body) →
        KeepsKeys route place t₁ t₂) ∧
      ∀ body, req.readRecord limit = .ok body → r.written route req body = r.fillable body →
        r.NamesKeyOtherwise t body →
        t₂.rows = t₁.rows ∨ r.TakesKey route place (r.fillable body) t₁ t₂ := by
  obtain ⟨t₁, ht₁, hsucceeds⟩ := r.succeeds_afterAll limit hd hids before
  have hsame := place?_of_succeeds hsucceeds
  have hlast : r.afterAll limit d (before ++ [(route, req)]) =
      r.after limit (r.afterAll limit d before) (route, req) := by
    simp [afterAll, List.foldl_append]
  have hplace₁ : t₁.place? r.table.primaryKey = some place := (hsame _).trans hplace
  obtain ⟨t₂, ht₂, hkeys⟩ := r.keys_of_reaches ht₁ hsucceeds.inIdOrder
    (Table.hasPlace_of_place? hplace₁) hmethod (r.reaches_after limit _ route req)
  refine ⟨t₁, t₂, ht₁, hlast ▸ ht₂, fun hnot => ?_, fun body hbody hwritten hnames => ?_⟩
  · -- no name in what is written stands for the key
    rcases hkeys with hrows | ⟨body, hbody, hkeeps, -⟩
    · exact keepsKeys_of_rows_eq route place hrows
    · apply hkeeps
      intro x hx
      rw [hsame]
      exact r.place?_ne_of_written hplace hprepare hbody (hnot body hbody) x hx
  · -- the name that stands for the key passes both filters of the body
    rcases hkeys with hrows | ⟨body', hbody', -, htakes⟩
    · exact .inl hrows
    · obtain rfl : body = body' := Except.ok.inj (hbody.symm.trans hbody')
      obtain ⟨name, hname, hkept, hother, hsamePlace⟩ := hnames
      obtain ⟨x, hx, rfl⟩ := List.mem_map.1 hname
      rw [hwritten] at htakes
      refine .inr (htakes ⟨x, ?_, ?_⟩)
      · exact (r.mem_fillable (nodup_names_of_readRecord hbody) x).2 ⟨hx, hkept, hother⟩
      · rw [hsame, hsamePlace, hplace]

/-! ### A resource whose key has another spelling -/

def posts : Table :=
  { name := "posts",
    columns := [{ name := "id", type := "INTEGER", primaryKey := true },
      { name := "title", type := "TEXT" }],
    rows := [{ id := 1, cells := [.integer 1, .text "a"] }] }

def postsResource : Resource := { table := { name := "posts", primaryKey := "id" } }

def putPost (body : String) : Route × Request :=
  (.member "1",
    { method := "PUT", uri := { path := "/posts/1", query := none },
      headers := [("content-type", "application/json")], body })

/-- The name of the key itself is left out: the row keeps its key. -/
theorem keys_kept_of_exact_name :
    ∃ t₁ t₂ : Table, (postsResource.afterAll standardLimit [posts] []).table? "posts" = some t₁ ∧
      (postsResource.afterAll standardLimit [posts]
        [putPost "\x7b\"id\":5,\"title\":\"b\"\x7d"]).table? "posts" = some t₂ ∧
      KeepsKeys (.member "1") .rowId t₁ t₂ := by
  have hd : Database.table? [posts] postsResource.table.name = some posts := by decide
  have hids : posts.InIdOrder := List.pairwise_singleton _ _
  have hplace : posts.place? postsResource.table.primaryKey = some .rowId := by decide
  obtain ⟨t₁, t₂, ht₁, ht₂, hkeeps, -⟩ := postsResource.keys_kept_unless_named_otherwise
    standardLimit [posts] hd hids hplace (fun _ _ => List.Subset.refl _) [] (.member "1")
    (putPost "\x7b\"id\":5,\"title\":\"b\"\x7d").2 (by decide)
  refine ⟨t₁, t₂, ht₁, ht₂, hkeeps fun body hbody => ?_⟩
  have hread : ((putPost "\x7b\"id\":5,\"title\":\"b\"\x7d").2.readRecord
      standardLimit).toOption.map Entries.names = some ["id", "title"] := by decide +kernel
  have hnames : body.names = ["id", "title"] := by simpa [hbody, Except.toOption] using hread
  rintro ⟨name, hname, -, hother, hsame⟩
  rw [hnames] at hname
  fin_cases hname
  · exact hother rfl
  · exact absurd hsame (by decide)

/-- In capitals the name of the key is written like any other: the row gets another key. -/
theorem key_changed_by_capitals :
    postsResource.writable = [] ∧
    ∃ t₁ t₂ : Table, (postsResource.afterAll standardLimit [posts] []).table? "posts" = some t₁ ∧
      (postsResource.afterAll standardLimit [posts]
        [putPost "\x7b\"ID\":5\x7d"]).table? "posts" = some t₂ ∧
      ¬ KeepsKeys (.member "1") .rowId t₁ t₂ := by
  refine ⟨rfl, posts, { posts with rows := [{ id := 5, cells := [.integer 5, .text "a"] }] },
    by decide, by decide +kernel, ?_⟩
  rintro ⟨change, hperm, hkeys⟩
  have hkey := hkeys _ (List.mem_singleton_self _)
  have hrow := List.singleton_inj.1 (List.perm_singleton.1 hperm.symm)
  rw [hrow] at hkey
  exact absurd hkey (by decide)

end Resource

end TableApi.Api
