import TableApi.Proofs.Api.Actions
import TableApi.Proofs.Api.Keys
import TableApi.Proofs.Validation.Acceptance

/-!
What successful writes store. Rules look a value up by the name of their field as it is spelled,
while the database compares names without case: a column gets a value that its rules accept as long
as no body names it in another way.
-/

namespace TableApi.Api

open Store (Answer Database Place Row Table boundValues databaseStore)
open Validation (Accepts)

def Reply.IsSuccess (reply : Reply) : Prop :=
  200 ≤ reply.response.status ∧ reply.response.status < 300

theorem ok_of_isSuccess {result : Except Failure Response}
    (h : (Reply.ofResult result).IsSuccess) : ∃ response, result = .ok response := by
  cases result with
  | ok response => exact ⟨response, rfl⟩
  | error f =>
    have hstatus : f.status < 300 := h.2
    cases f <;> simp [Failure.status] at hstatus

/-- A success at a key is one of the answer for that key. -/
theorem run_of_atKey {segment : String} {d : Database}
    {answer : String → StateM Database (Except Failure Response)}
    (h : ((atKey segment answer).run d).1.IsSuccess) :
    ∃ key, readKey segment = .ok key ∧ (answer key).run d =
      (.ok ((atKey segment answer).run d).1.response, ((atKey segment answer).run d).2) := by
  unfold atKey at h ⊢
  cases hkey : readKey segment with
  | error f =>
    simp only [hkey] at h
    obtain ⟨response, hresponse⟩ := ok_of_isSuccess h
    cases hresponse
  | ok key =>
    simp only [hkey] at h
    obtain ⟨response, hresponse⟩ := ok_of_isSuccess h
    have hreply : Reply.response (.ofResult ((answer key).run d).1) = response :=
      congrArg (fun result => Reply.response (.ofResult result)) hresponse
    refine ⟨key, rfl, Prod.ext ?_ (Resource.state_ofResult _ _).symm⟩
    exact hresponse.trans (congrArg Except.ok hreply.symm)

namespace Resource

variable (r : Resource)

/-- A write puts a value at a place: in the row that it adds, unless the value is null and the
table assigns another, or in the rows with its key. -/
def Stores (route : Route) (place : Place) (v : Json) (t t' : Table) : Prop :=
  match route with
  | .collection =>
    ∃ row, t'.rows.Perm (row :: t.rows) ∧
      (row.at place = held t place v ∨ v = .null ∧ t.Assigns place (row.at place))
  | .member segment =>
    ∃ key, ∃ change : Row → Row, readKey segment = .ok key ∧
      t'.rows.Perm (t.rows.map change) ∧
      ∀ s ∈ t.rows, (change s).at place =
        if t.hasKey r.table.primaryKey key s then held t place v else s.at place

/-! ### Successful requests -/

variable {limit : Nat} {d d' : Database} {req : Request} {response : Response}

/-- A body that is stored has passed the rules, and the database has taken the record and shows it. -/
theorem create_of_ok (h : (r.create databaseStore limit req).run d = (.ok response, d')) :
    ∃ body answer, req.readRecord limit = .ok body ∧
      (r.policy.rules .create).validate body = [] ∧
      d.execute (.insert r.table.name (boundValues (r.written .collection req body))) =
        .ok (d', answer) ∧
      response = r.item 201 (answer.rows.headD []) := by
  unfold create at h
  split at h
  · cases (Prod.mk.inj h).1
  · rename_i record hrecord
    obtain ⟨_, -, hrecord⟩ := eq_ok_of_bind hrecord
    obtain ⟨body, hbody, hvalid, rfl⟩ := r.body_of_bodyRecord hrecord
    rw [Store.run_bind] at h
    generalize hinsert :
      (databaseStore.insert r.table (r.policy.prepare req (r.fillable body))).run d = stored at h
    obtain ⟨result, d₁⟩ := stored
    cases result with
    | error e => cases (Prod.mk.inj h).1
    | ok created =>
      obtain ⟨hresponse, rfl⟩ := Prod.mk.inj h
      obtain ⟨answer, hanswer, rfl⟩ := Store.run_of_map hinsert
      exact ⟨body, answer, hbody, hvalid, Store.execute_of_send hanswer,
        (Except.ok.inj hresponse).symm⟩

theorem ok_of_found {result : Except Store.StoreError (Option Record)} {record : Record}
    (h : found result = .ok record) : result = .ok (some record) := by
  unfold found at h
  split at h
  · cases h
  · cases h
  · rw [Except.ok.inj h]

/-- A change that is made has passed the rules, and the database has taken it, unless there was
nothing to change, and shows the row. -/
theorem update_of_ok {key : String}
    (h : (r.update databaseStore limit req key).run d = (.ok response, d')) :
    ∃ body answer, req.readRecord limit = .ok body ∧
      (r.policy.rules .update).validate body = [] ∧
      d.execute (if (r.fillable body).isEmpty then .find r.table.name r.table.primaryKey key
        else .update r.table.name (boundValues (r.fillable body)) r.table.primaryKey key) =
          .ok (d', answer) ∧
      ∃ record, answer.rows.head? = some record ∧ response = r.item 200 record := by
  unfold update at h
  split at h
  · cases (Prod.mk.inj h).1
  · have hfind := Store.run_find d r.table key
    rw [Store.run_bind] at h
    generalize (databaseStore.find r.table key).run d = searched at h hfind
    obtain ⟨result, d₁⟩ := searched
    obtain rfl : d₁ = d := hfind
    -- the search has changed nothing, so the change meets the database of the request
    dsimp only at h
    split at h
    · cases (Prod.mk.inj h).1
    · split at h
      · cases (Prod.mk.inj h).1
      · rename_i record hrecord
        obtain ⟨body, hbody, hvalid, rfl⟩ := r.body_of_bodyRecord hrecord
        rw [Store.run_bind] at h
        generalize hupdate :
          (databaseStore.update r.table key (r.fillable body)).run d₁ = changed at h
        obtain ⟨result, d₂⟩ := changed
        obtain ⟨hresult, rfl⟩ := Prod.mk.inj h
        obtain ⟨updated, hfound, rfl⟩ := eq_ok_of_map hresult
        obtain rfl := ok_of_found hfound
        obtain ⟨answer, hanswer, hshown⟩ := Store.run_of_map hupdate
        exact ⟨body, answer, hbody, hvalid, Store.execute_of_send hanswer, updated, hshown, rfl⟩

section Success

variable {route : Route}

/-- A creation that succeeds is one on the collection. -/
theorem create_of_success (haction : route.action? req.method = some .create)
    (h : ((r.respond databaseStore limit route req).run d).1.IsSuccess) :
    route = .collection ∧ (r.create databaseStore limit req).run d =
      (.ok ((r.respond databaseStore limit route req).run d).1.response,
        r.after limit d (route, req)) := by
  rw [respond_eq_perform, haction] at h ⊢
  rw [after_eq_perform, haction]
  cases route with
  | member segment => rcases Route.action?_member haction with h | h | h <;> cases h
  | collection =>
    obtain ⟨response, hresponse⟩ := ok_of_isSuccess h
    have hreply : Reply.response (.ofResult ((r.create databaseStore limit req).run d).1) =
        response := congrArg (fun result => Reply.response (.ofResult result)) hresponse
    refine ⟨rfl, Prod.ext ?_ (state_ofResult _ _).symm⟩
    exact hresponse.trans (congrArg Except.ok hreply.symm)

/-- A change that succeeds is one of a member. -/
theorem update_of_success (haction : route.action? req.method = some .update)
    (h : ((r.respond databaseStore limit route req).run d).1.IsSuccess) :
    ∃ segment key, route = .member segment ∧ readKey segment = .ok key ∧
      (r.update databaseStore limit req key).run d =
        (.ok ((r.respond databaseStore limit route req).run d).1.response,
          r.after limit d (route, req)) := by
  rw [respond_eq_perform, haction] at h ⊢
  rw [after_eq_perform, haction]
  cases route with
  | collection => rcases Route.action?_collection haction with h | h <;> cases h
  | member segment =>
    obtain ⟨key, hkey, hrun⟩ := run_of_atKey h
    exact ⟨segment, key, rfl, hkey, hrun⟩

theorem delete_of_success (haction : route.action? req.method = some .delete)
    (h : ((r.respond databaseStore limit route req).run d).1.IsSuccess) :
    ∃ segment key, route = .member segment ∧ readKey segment = .ok key ∧
      (r.delete databaseStore req key).run d =
        (.ok ((r.respond databaseStore limit route req).run d).1.response,
          r.after limit d (route, req)) := by
  rw [respond_eq_perform, haction] at h ⊢
  rw [after_eq_perform, haction]
  cases route with
  | collection => rcases Route.action?_collection haction with h | h <;> cases h
  | member segment =>
    obtain ⟨key, hkey, hrun⟩ := run_of_atKey h
    exact ⟨segment, key, rfl, hkey, hrun⟩

end Success

/-! ### What is stored -/

variable {answer : Answer}

/-- Every place that a record names gets one of the values that the record has for it. -/
def StoresRecord (route : Route) (record : Record) (t t' : Table) : Prop :=
  ∀ place, (∃ x ∈ record, t.place? x.1 = some place) →
    ∃ x ∈ record, t.place? x.1 = some place ∧ r.Stores route place x.2 t t'

/-- Every entry of the record resolves, since the insertion went through, and so every place is
given. -/
theorem storesRecord_of_insert (hids : ∀ t ∈ d, t.InIdOrder) {record : Record}
    (h : d.execute (.insert r.table.name (boundValues record)) = .ok (d', answer)) :
    ∃ t t', d.table? r.table.name = some t ∧ d'.table? r.table.name = some t' ∧
      r.StoresRecord .collection record t t' := by
  obtain ⟨t, hfind, -⟩ := eq_ok_of_bind h
  have hd := Database.table?_of_find hfind
  obtain ⟨t', assigned, row, -, ht', -, hperm, hassigned, hinsert, -⟩ :=
    Database.insert_of_execute hd (hids t (Database.mem_of_table? hd)) h
  refine ⟨t, t', hd, ht', ?_⟩
  rintro place ⟨y, hy, hyplace⟩
  have hplace := Table.hasPlace_of_place? hyplace
  obtain ⟨x, hx, hxplace, hkey⟩ :=
    (key_of_insert hassigned hinsert hplace).2 ⟨y, hy, hyplace⟩
  exact ⟨x, hx, hxplace, row, hperm, hkey⟩

/-- Every row that the change reaches holds what is taken for a place of it. -/
theorem storesRecord_of_update (hids : ∀ t ∈ d, t.InIdOrder) {record : Record}
    {segment key : String} (hkey : readKey segment = .ok key)
    (h : d.execute (.update r.table.name (boundValues record) r.table.primaryKey key) =
      .ok (d', answer)) :
    ∃ t t', d.table? r.table.name = some t ∧ d'.table? r.table.name = some t' ∧
      r.StoresRecord (.member segment) record t t' := by
  obtain ⟨t, hfind, -⟩ := eq_ok_of_bind h
  have hd := Database.table?_of_find hfind
  obtain ⟨t', assigned, change, -, ht', -, hperm, hassigned, -, hchange⟩ :=
    Database.update_of_execute hd (hids t (Database.mem_of_table? hd)) h
  refine ⟨t, t', hd, ht', ?_⟩
  rintro place ⟨y, hy, hyplace⟩
  have hplace := Table.hasPlace_of_place? hyplace
  obtain ⟨x, hx, hxplace, hheld⟩ := (key_of_changed hassigned hplace).2 ⟨y, hy, hyplace⟩
  refine ⟨x, hx, hxplace, key, change, hkey, hperm, ?_⟩
  intro s hs
  have hs := hchange s hs
  split at hs
  · rw [if_pos ‹_›]
    exact hheld s _ hs
  · rw [if_neg ‹_›, hs]

/-- A successful write has passed the rules of its action, and its record is stored. -/
theorem stored_of_success (hids : ∀ t ∈ d, t.InIdOrder) {route : Route} {action : Action}
    (haction : route.action? req.method = some action)
    (hwrites : action = .create ∨ action = .update)
    (hsuccess : ((r.respond databaseStore limit route req).run d).1.IsSuccess) :
    ∃ body t t', req.readRecord limit = .ok body ∧
      (r.policy.rules action).validate body = [] ∧ d.table? r.table.name = some t ∧
      (r.after limit d (route, req)).table? r.table.name = some t' ∧
      r.StoresRecord route (r.written route req body) t t' := by
  rcases hwrites with rfl | rfl
  · obtain ⟨rfl, hrun⟩ := r.create_of_success haction hsuccess
    obtain ⟨body, answer, hbody, hvalid, hexecute, -⟩ := r.create_of_ok hrun
    obtain ⟨t, t', ht, ht', hstores⟩ := r.storesRecord_of_insert hids hexecute
    exact ⟨body, t, t', hbody, hvalid, ht, ht', hstores⟩
  · obtain ⟨segment, key, rfl, hkey, hrun⟩ := r.update_of_success haction hsuccess
    obtain ⟨body, answer, hbody, hvalid, hexecute, -⟩ := r.update_of_ok hrun
    split at hexecute
    · -- the record is empty: the row is only looked up, and no place is named
      rename_i hempty
      obtain ⟨t, hfind, hanswer⟩ := eq_ok_of_map hexecute
      obtain ⟨hstate, -⟩ := Prod.mk.inj hanswer
      have ht := Database.table?_of_find hfind
      refine ⟨body, t, t, hbody, hvalid, ht, hstate ▸ ht, ?_⟩
      rintro place ⟨x, hx, -⟩
      rw [written, List.isEmpty_iff.1 hempty] at hx
      cases hx
    · obtain ⟨t, t', ht, ht', hstores⟩ := r.storesRecord_of_update hids hkey hexecute
      exact ⟨body, t, t', hbody, hvalid, ht, ht', hstores⟩

/-- What a record gives to a place comes from the body, under the name of a field as it is
spelled. -/
def NamesExactly (t : Table) (place : Place) (field : String) (body record : Record) : Prop :=
  ∀ x ∈ record, t.place? x.1 = some place → x ∈ body ∧ x.1 = field

/-- After a successful write, every column that the record names holds a value of the record, and
the rules of a field accept all that the body gives under its exact name: where nothing else names
the column, the rules accept what is stored. -/
theorem accepted_values_stored (limit : Nat) {d : Database} (hids : ∀ t ∈ d, t.InIdOrder)
    (route : Route) (req : Request) {action : Action}
    (haction : route.action? req.method = some action)
    (hwrites : action = .create ∨ action = .update)
    (hsuccess : ((r.respond databaseStore limit route req).run d).1.IsSuccess) :
    ∃ body t t', req.readRecord limit = .ok body ∧ d.table? r.table.name = some t ∧
      (r.after limit d (route, req)).table? r.table.name = some t' ∧
      r.StoresRecord route (r.written route req body) t t' ∧
      ∀ field rules, (field, rules) ∈ r.policy.rules action →
        (∀ v, (field, v) ∈ body → Accepts field rules v) ∧
        ∀ place, t.place? field = some place →
          NamesExactly t place field body (r.written route req body) →
          ∀ x ∈ r.written route req body, t.place? x.1 = some place →
            Accepts field rules x.2 ∧ r.Stores route place x.2 t t' := by
  obtain ⟨body, t, t', hbody, hvalid, ht, ht', hstores⟩ :=
    r.stored_of_success hids haction hwrites hsuccess
  have hnames := nodup_names_of_readRecord hbody
  refine ⟨body, t, t', hbody, ht, ht', hstores, ?_⟩
  intro field rules hrules
  have haccepts : ∀ v, (field, v) ∈ body → Accepts field rules v := by
    intro v hv
    exact Validation.RuleSet.accepts_of_validate hvalid hnames hrules hv
  refine ⟨haccepts, ?_⟩
  intro place _ hexact x hx hxplace
  obtain ⟨hxbody, hxname⟩ := hexact x hx hxplace
  obtain ⟨y, hy, hyplace, hystores⟩ := hstores place ⟨x, hx, hxplace⟩
  obtain ⟨hybody, hyname⟩ := hexact y hy hyplace
  -- the body has one value under the name of the field
  have hsame : y = x :=
    List.inj_on_of_nodup_map hnames hybody hxbody (hyname.trans hxname.symm)
  rw [hsame] at hystores
  exact ⟨haccepts x.2 (hxname ▸ hxbody), hystores⟩

def titledPosts : Resource :=
  { table := { name := "posts", primaryKey := "id" },
    policy := KeyGuard.policy { createRules := [("title", [.oneOf ["a", "b"]])] } }

def postPost (body : String) : Route × Request :=
  (.collection,
    { method := "POST", uri := { path := "/posts", query := none },
      headers := [("content-type", "application/json")], body })

theorem accepted_title_stored :
    ∃ t' v, (titledPosts.after standardLimit [posts]
        (postPost "\x7b\"title\":\"a\"\x7d")).table? "posts" = some t' ∧
      titledPosts.Stores .collection (.column 1) v posts t' ∧
      Accepts "title" [.oneOf ["a", "b"]] v := by
  have hids : ∀ t ∈ [posts], t.InIdOrder := by
    intro t ht
    obtain rfl := List.mem_singleton.1 ht
    exact List.pairwise_singleton _ _
  have hsuccess : ((titledPosts.respond databaseStore standardLimit .collection
      (postPost "\x7b\"title\":\"a\"\x7d").2).run [posts]).1.response.status = 201 := by
    decide +kernel
  obtain ⟨body, t, t', hbody, ht, ht', -, haccepted⟩ := titledPosts.accepted_values_stored
    standardLimit hids .collection (postPost "\x7b\"title\":\"a\"\x7d").2 rfl (.inl rfl)
    ⟨by rw [hsuccess]; decide, by rw [hsuccess]; decide⟩
  obtain rfl : t = posts := by
    have hd : Database.table? [posts] titledPosts.table.name = some posts := by decide
    exact Option.some.inj (ht.symm.trans hd)
  have hread : ((postPost "\x7b\"title\":\"a\"\x7d").2.readRecord
      standardLimit).toOption.map Entries.names = some ["title"] := by decide +kernel
  have hnames : body.names = ["title"] := by simpa [hbody, Except.toOption] using hread
  obtain ⟨⟨name, v⟩, rfl, hname⟩ := List.map_eq_singleton_iff.1 hnames
  obtain rfl : name = "title" := hname
  have hwritten : titledPosts.written .collection (postPost "\x7b\"title\":\"a\"\x7d").2
      [("title", v)] = [("title", v)] := rfl
  rw [hwritten] at haccepted
  have hplace : posts.place? "title" = some (.column 1) := by decide
  have hexact : NamesExactly posts (.column 1) "title" [("title", v)] [("title", v)] := by
    intro y hy _
    obtain rfl := List.mem_singleton.1 hy
    exact ⟨hy, rfl⟩
  obtain ⟨haccepts, hstores⟩ := (haccepted "title" _ List.mem_cons_self).2 (.column 1) hplace hexact
    ("title", v) List.mem_cons_self hplace
  exact ⟨t', v, ht', hstores, haccepts⟩

/-- In capitals a name finds its column but not its rules. -/
theorem rejected_title_stored :
    posts.place? "TITLE" = posts.place? "title" ∧
    ((titledPosts.respond databaseStore standardLimit .collection
      (postPost "\x7b\"TITLE\":\"c\"\x7d").2).run [posts]).1.IsSuccess ∧
    ∃ t', (titledPosts.after standardLimit [posts]
        (postPost "\x7b\"TITLE\":\"c\"\x7d")).table? "posts" = some t' ∧
      titledPosts.Stores .collection (.column 1) (.str "c") posts t' ∧
      ¬ Accepts "title" [.oneOf ["a", "b"]] (.str "c") := by
  have hstatus : ((titledPosts.respond databaseStore standardLimit .collection
      (postPost "\x7b\"TITLE\":\"c\"\x7d").2).run [posts]).1.response.status = 201 := by
    decide +kernel
  refine ⟨by decide, ⟨by rw [hstatus]; decide, by rw [hstatus]; decide⟩,
    { posts with rows := posts.rows ++ [{ id := 2, cells := [.integer 2, .text "c"] }] },
    by decide +kernel, ?_, ?_⟩
  · refine ⟨{ id := 2, cells := [.integer 2, .text "c"] }, by decide, .inl (by decide)⟩
  · intro haccepts
    have hfails := haccepts (.oneOf ["a", "b"]) List.mem_cons_self
    exact absurd hfails (by decide)

end Resource

end TableApi.Api
