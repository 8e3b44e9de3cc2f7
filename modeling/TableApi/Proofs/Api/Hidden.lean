import TableApi.Proofs.Api.Actions
import TableApi.Proofs.Api.Listing
import TableApi.Proofs.Filter.Allowed
import TableApi.Proofs.Store.Calls
import TableApi.Proofs.Store.Hidden

/-!
Hidden values in answers. What a listing or a record shows does not depend on them: not by what is
left out of it, and not by what is filtered, sorted, counted and cut before.
-/

namespace TableApi

theorem Entries.retain_ofPairs {α : Type} (pairs : List (String × α)) (keep : String → Bool) :
    Entries.retain (Entries.ofPairs pairs) keep =
      Entries.ofPairs (pairs.filter fun p => keep p.1) := by
  have hfold : ∀ e : Entries α,
      Entries.retain (pairs.foldl (fun e p => e.put p.1 p.2) e) keep =
        (pairs.filter fun p => keep p.1).foldl (fun e p => e.put p.1 p.2)
          (Entries.retain e keep) := by
    induction pairs with
    | nil => exact fun _ => rfl
    | cons p pairs ih =>
      intro e
      rw [List.foldl_cons, ih, Entries.put, Entries.retain_alter]
      by_cases hkeep : keep p.1
      · rw [if_pos hkeep, List.filter_cons, if_pos hkeep, List.foldl_cons, Entries.put]
      · rw [if_neg hkeep, List.filter_cons, if_neg hkeep]
  exact hfold []

namespace Api

open Store (Cell Column Database Page RecordStore Row Table databaseStore)
open TableApi.Filter (Clause Parameters Translation)

/-! ### Records -/

/-- The entries that are shown depend on the columns that are not hidden alone. -/
theorem filter_pairs_eq {columns : List Column} {hidden : List String} {cells cells' : List Cell}
    (h : ∀ (i : Nat) (c : Column), columns[i]? = some c → c.name ∉ hidden →
      cells'[i]? = cells[i]?) :
    (columns.zipWith (fun c cell => (c.name, cell.json)) cells').filter
        (fun p => !hidden.contains p.1) =
      (columns.zipWith (fun c cell => (c.name, cell.json)) cells).filter
        (fun p => !hidden.contains p.1) := by
  induction columns generalizing cells cells' with
  | nil => rfl
  | cons c columns ih =>
    have htail : ∀ (i : Nat) (c : Column), columns[i]? = some c → c.name ∉ hidden →
        cells'.tail[i]? = cells.tail[i]? := by
      intro i c hc hname
      rw [List.getElem?_tail, List.getElem?_tail]
      exact h (i + 1) c (by rwa [List.getElem?_cons_succ]) hname
    have hrest := ih htail
    by_cases hname : c.name ∈ hidden
    · -- a hidden column may have a value in one row and none in the other
      have hdropped : ∀ cells : List Cell,
          (List.zipWith (fun (c : Column) (cell : Cell) => (c.name, cell.json)) (c :: columns)
            cells).filter (fun p => !hidden.contains p.1) =
          (columns.zipWith (fun c cell => (c.name, cell.json)) cells.tail).filter
            fun p => !hidden.contains p.1 := by
        intro cells
        cases cells with
        | nil => simp
        | cons cell cells =>
          rw [List.zipWith_cons_cons, List.filter_cons, if_neg (by simpa using hname)]
          rfl
      rw [hdropped, hdropped, hrest]
    · have hhead := h 0 c rfl hname
      cases cells with
      | nil =>
        cases cells' with
        | nil => rfl
        | cons cell' cells' => cases hhead
      | cons cell cells =>
        cases cells' with
        | nil => cases hhead
        | cons cell' cells' =>
          obtain rfl : cell' = cell := Option.some.inj hhead
          have hrest : (columns.zipWith (fun c cell => (c.name, cell.json)) cells').filter
                (fun p => !hidden.contains p.1) =
              (columns.zipWith (fun c cell => (c.name, cell.json)) cells).filter
                (fun p => !hidden.contains p.1) := hrest
          rw [List.zipWith_cons_cons, List.zipWith_cons_cons, List.filter_cons, List.filter_cons,
            hrest]

/-- Two rows that differ in hidden columns only look the same. -/
theorem visible_record {t : Table} {hidden : List String} {row row' : Row}
    (h : t.SameOutside hidden row row') :
    visible hidden (t.record row') = visible hidden (t.record row) := by
  rw [visible, visible, Table.record, Table.record, Entries.retain_ofPairs,
    Entries.retain_ofPairs, filter_pairs_eq h.cells]

/-! ### Databases -/

/-- Whether two databases have the same table under a name, but for the values of hidden columns,
or no table both. -/
def AgreesOutside (hidden : List String) (name : String) (d d' : Database) : Prop :=
  (d.table? name = none ∧ d'.table? name = none) ∨
    ∃ t t', d.table? name = some t ∧ d'.table? name = some t' ∧ t.AgreesOutside hidden t'

namespace Resource

variable (r : Resource)

/-- The names that a resource may look up for a request: its key, the fields of filters and sorts,
and those of the scope. -/
def asked (req : Request) : List String :=
  r.table.primaryKey :: (r.fields.allowed ++ (r.policy.scope req).map Clause.field)

variable {r} {d d' : Database} {t t' : Table} {req : Request}

theorem listing_congr {page : Page} {records records' : List Record} {total : Nat}
    (h : records'.map (visible r.hidden) = records.map (visible r.hidden)) :
    r.listing req page records' total = r.listing req page records total := by
  have hlength : records'.length = records.length := by
    simpa using congrArg List.length h
  have hshown : (records'.map fun record => Json.obj (visible r.hidden record)) =
      records.map fun record => Json.obj (visible r.hidden record) := by
    have hobjects := congrArg (List.map Json.obj) h
    rw [List.map_map, List.map_map] at hobjects
    exact hobjects
  rw [listing, listing, hlength, hshown]

theorem map_visible_record {rows rows' : List Row} (ht : t.AgreesOutside r.hidden t')
    (h : List.Forall₂ (t.SameOutside r.hidden) rows rows') :
    (rows'.map t'.record).map (visible r.hidden) = (rows.map t.record).map (visible r.hidden) := by
  have hrecord : t'.record = t.record := by
    rw [ht.table]
    rfl
  rw [hrecord, List.map_map, List.map_map]
  exact Store.map_eq_of_forall₂ (fun _ _ hrow => visible_record hrow) h

/-- The query of a listing asks for the names of the resource only. -/
theorem asks_query {tr : Translation} (hasked : ∀ name ∈ r.asked req, t.IsOpen r.hidden name)
    (htr : (r.translate (Parameters.ofPairs req.pairs)).result = .ok tr) :
    t.Asks r.hidden (r.query req tr) := by
  obtain ⟨hclauses, hsort⟩ := Filter.covers_of_translate r.fields Filter.calendarReader htr
  intro name hname
  apply hasked
  rcases Sql.Query.mem_fields_andGroup hname with hname | hname
  · rcases Sql.Query.mem_fields_andGroup hname with hname | hname
    · cases hname
    · rw [Sql.Query.fields_ofClauses] at hname
      exact List.mem_cons_of_mem _ (List.mem_append_right _ hname)
  · rw [Sql.Query.fields_ofTranslation, List.mem_append] at hname
    have hallowed : name ∈ r.fields.allowed := by
      rcases hname with hname | hname
      · obtain ⟨c, hc, rfl⟩ := List.mem_map.1 hname
        exact hclauses c hc
      · obtain ⟨sort, hsome, rfl⟩ := List.mem_map.1 hname
        exact hsort sort (Option.mem_toList.1 hsome)
    exact List.mem_cons_of_mem _ (List.mem_append_left _ hallowed)

/-- A listing is answered alike where the store lists alike. -/
theorem index_congr
    (h : ∀ page tr, (r.translate (Parameters.ofPairs req.pairs)).result = .ok tr →
      (((databaseStore.list r.table (r.query req tr) page).run d).1.map fun x =>
        r.listing req page x.1 x.2) =
      (((databaseStore.list r.table (r.query req tr) page).run d').1.map fun x =>
        r.listing req page x.1 x.2)) :
    ((r.index databaseStore req).run d).1 = ((r.index databaseStore req).run d').1 := by
  unfold index
  split
  · rfl
  · rename_i page _
    dsimp only
    split
    · rfl
    · rename_i tr htr
      have hlists := h page tr htr
      rw [Store.run_bind, Store.run_bind]
      generalize (databaseStore.list r.table (r.query req tr) page).run d = listed at hlists ⊢
      generalize (databaseStore.list r.table (r.query req tr) page).run d' = listed' at hlists ⊢
      -- both stores fail, or both list
      obtain ⟨_ | ⟨records, total⟩, _⟩ := listed <;>
        obtain ⟨_ | ⟨records', total'⟩, _⟩ := listed'
      · rfl
      · cases hlists
      · cases hlists
      · have hlisting := Except.ok.inj hlists
        dsimp only at hlisting ⊢
        rw [hlisting]
        rfl

/-- A listing counts, sorts and cuts the same rows in both databases, and shows them alike. -/
theorem index_of_agreesOutside (hd : AgreesOutside r.hidden r.table.name d d')
    (hasked : ∀ t, d.table? r.table.name = some t → ∀ name ∈ r.asked req,
      t.IsOpen r.hidden name) :
    ((r.index databaseStore req).run d).1 = ((r.index databaseStore req).run d').1 := by
  apply index_congr
  intro page tr htr
  rcases hd with ⟨hnone, hnone'⟩ | ⟨t, t', ht, ht', hagrees⟩
  · rw [Store.list_of_no_table hnone, Store.list_of_no_table hnone']
  · have hasks := asks_query (hasked t ht) htr
    have hpage := Table.forall₂_page hasks hagrees page.perPage page.offset
    have htotal := (Table.forall₂_matching hasks hagrees).length_eq
    rw [Store.list_databaseStore _ page ht, Store.list_databaseStore _ page ht', ← htotal]
    exact congrArg Except.ok (listing_congr (map_visible_record hagrees hpage)).symm

/-- A record is found in both databases or in neither, and shown alike. -/
theorem display_of_agreesOutside (hd : AgreesOutside r.hidden r.table.name d d')
    (hasked : ∀ t, d.table? r.table.name = some t → ∀ name ∈ r.asked req,
      t.IsOpen r.hidden name) (key : String) :
    ((r.display databaseStore req key).run d).1 = ((r.display databaseStore req key).run d').1 := by
  unfold display
  split
  · rfl
  · rw [Store.run_bind, Store.run_bind]
    rcases hd with ⟨hnone, hnone'⟩ | ⟨t, t', ht, ht', hagrees⟩
    · rw [Store.find_of_no_table hnone, Store.find_of_no_table hnone']
      rfl
    · have hkey : t.IsOpen r.hidden r.table.primaryKey := hasked t ht _ List.mem_cons_self
      have hshown := map_visible_record hagrees (Table.forall₂_hasKey hkey hagrees key)
      rw [Store.find_of_table ht, Store.find_of_table ht']
      generalize (t.rows.filter (t.hasKey r.table.primaryKey key)).map t.record = records
        at hshown ⊢
      generalize (t'.rows.filter (t'.hasKey r.table.primaryKey key)).map t'.record = records'
        at hshown ⊢
      -- both searches find nothing, or records that look the same
      cases records with
      | nil =>
        obtain rfl : records' = [] := List.map_eq_nil_iff.1 hshown
        rfl
      | cons record records =>
        cases records' with
        | nil => cases hshown
        | cons record' records' =>
          have hrecord : visible r.hidden record' = visible r.hidden record :=
            (List.cons.inj hshown).1
          have hitem : r.item 200 record = r.item 200 record' := by rw [item, item, hrecord]
          exact congrArg Except.ok hitem

theorem atKey_congr {segment : String} {answer : String → StateM Database (Except Failure Response)}
    (h : ∀ key, ((answer key).run d).1 = ((answer key).run d').1) :
    ((atKey segment answer).run d).1 = ((atKey segment answer).run d').1 := by
  unfold atKey
  split
  · rfl
  · exact congrArg Reply.ofResult (h _)

def slugPosts (id : Int) (slug : String) : Table :=
  { name := "posts",
    columns := [{ name := "id", type := "INTEGER", primaryKey := true },
      { name := "slug", type := "TEXT" }],
    rows := [{ id, cells := [.integer id, .text slug] }] }

/-- Posts that are known by their ids and show no slugs, if the list of hidden names says so. -/
def slugHiding (hidden : List String) : Resource :=
  { table := { name := "posts", primaryKey := "id" }, fields := { allowed := ["id"] }, hidden }

/-- Posts that are known by their slugs and show no ids, but may be filtered by row id. -/
def idHiding : Resource :=
  { table := { name := "posts", primaryKey := "slug" }, fields := { allowed := ["rowid"] },
    hidden := ["id"] }

def getPosts (query : Option String) : Request :=
  { method := "GET", uri := { path := "/posts", query } }

theorem table?_slugPosts (id : Int) (slug : String) :
    Database.table? [slugPosts id slug] "posts" = some (slugPosts id slug) := by
  have hname : Text.sameIgnoringCase "posts" "posts" = true := by decide
  exact List.find?_cons_of_pos hname

theorem agreesOutside_slug (slug slug' : String) :
    AgreesOutside ["slug"] "posts" [slugPosts 1 slug] [slugPosts 1 slug'] := by
  refine .inr ⟨_, _, table?_slugPosts 1 slug, table?_slugPosts 1 slug', rfl,
    .cons ⟨?_, fun _ => rfl⟩ .nil⟩
  intro i c hc hname
  match i with
  | 0 => rfl
  | 1 =>
    obtain rfl := Option.some.inj hc
    exact absurd List.mem_cons_self hname
  | n + 2 => rfl

theorem agreesOutside_id (id id' : Int) :
    AgreesOutside ["id"] "posts" [slugPosts id "a"] [slugPosts id' "a"] := by
  have hhides : (slugPosts id "a").HidesRowId ["id"] := by
    refine ⟨⟨_, List.mem_cons_self, rfl⟩, ?_⟩
    intro c hc hrowId
    rcases List.mem_cons.1 hc with rfl | hc
    · exact List.mem_cons_self
    · obtain rfl := List.mem_singleton.1 hc
      exact absurd hrowId (by decide)
  refine .inr ⟨_, _, table?_slugPosts id "a", table?_slugPosts id' "a", rfl,
    .cons ⟨?_, fun hshown => absurd hhides hshown⟩ .nil⟩
  intro i c hc hname
  match i with
  | 0 =>
    obtain rfl := Option.some.inj hc
    exact absurd List.mem_cons_self hname
  | 1 => rfl
  | n + 2 => rfl

end Resource

end Api

end TableApi
