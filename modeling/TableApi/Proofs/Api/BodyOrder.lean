import TableApi.Proofs.Api.Acceptance
import TableApi.Proofs.Store.Places
import TableApi.Proofs.Store.Reordering
import TableApi.Proofs.Validation.Errors

/-!
The order of the keys in a body. Rules look values up by name, and a write sets every column by its
name, so the order counts only among names of one place. Names that differ in more than case never
stand for one column; it is the row id that has several names, of which the last one counts.
-/

namespace TableApi.Api

open Store (Database SameOutcome Table boundValues databaseStore)

/-- A policy that looks at the head of a request alone, and whose adjustment of a record does not
depend on the order of its names, but for names of one place. -/
structure Policy.IgnoresOrder (p : Policy) : Prop where
  authorizes : ∀ action (req : Request) text,
    p.authorizes action { req with body := text } = p.authorizes action req
  prepare : ∀ (req : Request) text, p.prepare { req with body := text } = p.prepare req
  reorders : ∀ (t : Table) req a b, t.Reorders a b →
    t.Reorders (p.prepare req a) (p.prepare req b)

theorem Policy.ignoresOrder_permissive : Policy.permissive.IgnoresOrder :=
  ⟨fun _ _ _ => rfl, fun _ _ => rfl, fun _ _ _ _ h => h⟩

theorem KeyGuard.ignoresOrder (g : KeyGuard) : g.policy.IgnoresOrder :=
  ⟨fun _ _ _ => rfl, fun _ _ => rfl, fun _ _ _ _ h => h⟩

namespace Resource

variable (r : Resource)

/-! ### What is kept of a body -/

theorem fillable_perm_of_perm {body body' : Record} (h : body.Perm body')
    (hnames : body.names.Nodup) : (r.fillable body).Perm (r.fillable body') := by
  have hnames' : body'.names.Nodup := (h.map Prod.fst).nodup_iff.1 hnames
  exact (r.fillable_perm hnames).trans ((h.filter _).trans (r.fillable_perm hnames').symm)

theorem nodup_lower_fillable {body : Record} (h : (body.names.map Text.lower).Nodup) :
    ((r.fillable body).names.map Text.lower).Nodup := by
  have hperm := (r.fillable_perm h.of_map).map fun x => Text.lower x.1
  rw [Entries.names, List.map_map] at h ⊢
  exact hperm.nodup_iff.2 (h.sublist (List.filter_sublist.map _))

/-- Entries whose names differ in more than case may stand in any order when at most one of them is
for the row id. -/
theorem reorders_of_perm {t : Table} {a b : Record} (h : a.Perm b)
    (hnames : (a.names.map Text.lower).Nodup)
    (hrowId : (a.filter fun x => t.place? x.1 = some .rowId).length ≤ 1) : t.Reorders a b := by
  refine Table.reorders_of_perm h fun place => ?_
  cases place with
  | rowId => exact hrowId
  | column i =>
    have hplace : ∀ x ∈ a.filter (fun x => t.place? x.1 = some (.column i)),
        t.place? x.1 = some (.column i) := fun x hx => by
      simpa using (List.mem_filter.1 hx).2
    have hlower : ((a.filter fun x => t.place? x.1 = some (.column i)).map
        fun x => Text.lower x.1).Nodup := by
      rw [Entries.names, List.map_map] at hnames
      exact hnames.sublist (List.filter_sublist.map _)
    generalize a.filter (fun x => t.place? x.1 = some (.column i)) = given at hplace hlower
    rcases given with _ | ⟨x, _ | ⟨y, rest⟩⟩
    · exact Nat.zero_le _
    · exact le_rfl
    · -- both would be the name of the column
      have hsame : Text.lower x.1 = Text.lower y.1 :=
        Table.lower_eq_of_place? (hplace x List.mem_cons_self)
          (hplace y (List.mem_cons_of_mem _ List.mem_cons_self))
      simp [hsame] at hlower

/-! ### Two requests -/

section

variable {limit : Nat} {req : Request} {text : String} {body body' : Record}

/-- Both requests are refused before their bodies count, or both bodies are read. -/
theorem readRecord_of_read (hsize : limit < text.utf8ByteSize ↔ limit < req.body.utf8ByteSize)
    (hread : Json.read? req.body = some (.obj body)) (hread' : Json.read? text = some (.obj body')) :
    (∃ f, req.readRecord limit = .error f ∧
      Request.readRecord { req with body := text } limit = .error f) ∨
      req.readRecord limit = .ok body ∧
        Request.readRecord { req with body := text } limit = .ok body' := by
  have hheader : Request.header? { req with body := text } "content-type" =
      req.header? "content-type" := rfl
  simp only [Request.readRecord, hheader, hread, hread', hsize]
  split
  · exact .inl ⟨_, rfl, rfl⟩
  · split
    · exact .inl ⟨_, rfl, rfl⟩
    · exact .inr ⟨rfl, rfl⟩

theorem validate_of_perm (action : Action) (hperm : body.Perm body') (hnames : body.names.Nodup) :
    r.validate action body' = r.validate action body := by
  have herrors : (r.policy.rules action).validate body' = (r.policy.rules action).validate body :=
    Validation.RuleSet.validate_congr fun entry _ =>
      (Entries.get?_of_perm hperm hnames entry.1).symm
  simp only [validate, herrors]

/-- Two bodies with the same members are both refused, or leave records with the same entries. -/
theorem bodyRecord_of_perm (action : Action)
    (hsize : limit < text.utf8ByteSize ↔ limit < req.body.utf8ByteSize)
    (hread : Json.read? req.body = some (.obj body)) (hread' : Json.read? text = some (.obj body'))
    (hperm : body.Perm body') (hnames : body.names.Nodup) :
    (∃ f, r.bodyRecord action limit req = .error f ∧
      r.bodyRecord action limit { req with body := text } = .error f) ∨
      r.bodyRecord action limit req = .ok (r.fillable body) ∧
        r.bodyRecord action limit { req with body := text } = .ok (r.fillable body') := by
  simp only [bodyRecord]
  rcases readRecord_of_read hsize hread hread' with ⟨f, h, h'⟩ | ⟨h, h'⟩
  · exact .inl ⟨f, by rw [h]; rfl, by rw [h']; rfl⟩
  · rw [h, h']
    have hvalid := r.validate_of_perm action hperm hnames
    cases hresult : r.validate action body with
    | error f =>
      rw [hresult] at hvalid
      refine .inl ⟨f, ?_, ?_⟩
      · simp [bind, Except.bind, hresult]
      · simp [bind, Except.bind, hvalid]
    | ok _ =>
      rw [hresult] at hvalid
      refine .inr ⟨?_, ?_⟩
      · simp [bind, Except.bind, hresult, pure, Except.pure]
      · simp [bind, Except.bind, hvalid, pure, Except.pure]

end

/-- Refusals do not tell why the store has failed. -/
theorem found_of_toOption {x y : Except Store.StoreError (Option Record)}
    (h : x.toOption = y.toOption) : found x = found y := by
  cases x <;> cases y <;> simp_all [found, Except.toOption]

section

variable {limit : Nat} {d : Database} {req : Request} {text : String} {body body' : Record}

theorem authorize_of_ignoresOrder (hpolicy : r.policy.IgnoresOrder) (action : Action)
    (req : Request) (text : String) :
    r.authorize action { req with body := text } = r.authorize action req := by
  simp only [authorize, hpolicy.authorizes]

/-- The statements of both records may differ in their order, and still do the same. -/
theorem run_create_of_perm (hpolicy : r.policy.IgnoresOrder)
    (hbody : (∃ f, r.bodyRecord .create limit req = .error f ∧
      r.bodyRecord .create limit { req with body := text } = .error f) ∨
      r.bodyRecord .create limit req = .ok (r.fillable body) ∧
        r.bodyRecord .create limit { req with body := text } = .ok (r.fillable body'))
    (hkept : ∀ t, d.table? r.table.name = some t →
      t.Reorders (r.fillable body) (r.fillable body')) :
    (r.create databaseStore limit { req with body := text }).run d =
      (r.create databaseStore limit req).run d := by
  unfold create
  rw [r.authorize_of_ignoresOrder hpolicy]
  cases hauthorize : r.authorize .create req with
  | error f => rfl
  | ok _ =>
    have hright (q : Request) : ((.ok () : Except Failure Unit) >>= fun _ =>
        r.bodyRecord .create limit q) = r.bodyRecord .create limit q := rfl
    rw [hright, hright]
    rcases hbody with ⟨f, h, h'⟩ | ⟨h, h'⟩
    · rw [h, h']
    · rw [h, h']
      dsimp only
      rw [hpolicy.prepare, Store.run_bind, Store.run_bind]
      have hprepared : ∀ t, d.table? r.table.name = some t →
          t.Reorders (r.policy.prepare req (r.fillable body))
            (r.policy.prepare req (r.fillable body')) := fun t ht =>
        hpolicy.reorders t req _ _ (hkept t ht)
      obtain ⟨hanswer, hstate⟩ := Store.sameOutcome_insert hprepared
      generalize (databaseStore.insert r.table _).run d = x at hanswer hstate ⊢
      generalize (databaseStore.insert r.table _).run d = y at hanswer hstate ⊢
      obtain ⟨x, d₁⟩ := x
      obtain ⟨y, d₂⟩ := y
      obtain rfl : d₁ = d₂ := hstate
      cases x <;> cases y
      · rfl
      · cases hanswer
      · cases hanswer
      · obtain rfl := Option.some.inj hanswer
        rfl

/-- A change looks the row up first, which does not depend on the body. -/
theorem run_update_of_perm (hpolicy : r.policy.IgnoresOrder) (hperm : body.Perm body')
    (hnames : body.names.Nodup)
    (hbody : (∃ f, r.bodyRecord .update limit req = .error f ∧
      r.bodyRecord .update limit { req with body := text } = .error f) ∨
      r.bodyRecord .update limit req = .ok (r.fillable body) ∧
        r.bodyRecord .update limit { req with body := text } = .ok (r.fillable body'))
    (hkept : ∀ t, d.table? r.table.name = some t →
      t.Reorders (r.fillable body) (r.fillable body')) (key : String) :
    (r.update databaseStore limit { req with body := text } key).run d =
      (r.update databaseStore limit req key).run d := by
  have hempty : (r.fillable body).isEmpty = (r.fillable body').isEmpty :=
    (r.fillable_perm_of_perm hperm hnames).isEmpty_eq
  unfold update
  rw [r.authorize_of_ignoresOrder hpolicy]
  cases hauthorize : r.authorize .update req with
  | error f => rfl
  | ok _ =>
    have hfind := Store.run_find d r.table key
    dsimp only
    rw [Store.run_bind, Store.run_bind]
    generalize (databaseStore.find r.table key).run d = searched at hfind ⊢
    obtain ⟨result, d₁⟩ := searched
    obtain rfl : d₁ = d := hfind
    dsimp only
    cases found result with
    | error f => rfl
    | ok record =>
      rcases hbody with ⟨f, h, h'⟩ | ⟨h, h'⟩
      · simp only [h, h']
      · simp only [h, h']
        rw [Store.run_bind, Store.run_bind]
        obtain ⟨hanswer, hstate⟩ := Store.sameOutcome_update hkept hempty key
        rw [hstate, found_of_toOption hanswer]

end

theorem run_atKey_congr {segment : String} {d : Database}
    {answer answer' : String → StateM Database (Except Failure Response)}
    (h : ∀ key, (answer key).run d = (answer' key).run d) :
    (atKey segment answer).run d = (atKey segment answer').run d := by
  unfold atKey
  split
  · rfl
  · rw [Store.run_bind, Store.run_bind, h]

/-- Two bodies with the same entries in another order, whose names differ in more than case, get the
same answer and leave the same database, as long as no two names that are kept stand for the row id. -/
theorem body_order_ignored (limit : Nat) (d : Database) (hpolicy : r.policy.IgnoresOrder)
    (route : Route) (req : Request) {text : String} {body body' : Record}
    (hwrites : route.action? req.method = some .create ∨ route.action? req.method = some .update)
    (hsize : limit < text.utf8ByteSize ↔ limit < req.body.utf8ByteSize)
    (hread : Json.read? req.body = some (.obj body)) (hread' : Json.read? text = some (.obj body'))
    (hperm : body.Perm body') (hnames : (body.names.map Text.lower).Nodup)
    (hrowId : ∀ t, d.table? r.table.name = some t →
      ((r.fillable body).filter fun x => t.place? x.1 = some .rowId).length ≤ 1) :
    (r.respond databaseStore limit route { req with body := text }).run d =
      (r.respond databaseStore limit route req).run d := by
  have hkept : ∀ t, d.table? r.table.name = some t →
      t.Reorders (r.fillable body) (r.fillable body') := fun t ht =>
    reorders_of_perm (r.fillable_perm_of_perm hperm hnames.of_map) (r.nodup_lower_fillable hnames)
      (hrowId t ht)
  have hrecord (action : Action) :=
    r.bodyRecord_of_perm action hsize hread hread' hperm hnames.of_map
  have hasked : route.action? (Request.method { req with body := text }) =
      route.action? req.method := rfl
  rw [r.respond_eq_perform, r.respond_eq_perform, hasked]
  rcases hwrites with haction | haction <;> rw [haction]
  · cases route with
    | member segment => rcases Route.action?_member haction with h | h | h <;> cases h
    | collection =>
      unfold perform
      rw [Store.run_bind, Store.run_bind, r.run_create_of_perm hpolicy (hrecord .create) hkept]
  · cases route with
    | collection => rcases Route.action?_collection haction with h | h <;> cases h
    | member segment =>
      exact run_atKey_congr fun key =>
        r.run_update_of_perm hpolicy hperm hnames.of_map (hrecord .update) hkept key

/-- The key of the row is left out of either body, wherever it stands. -/
theorem body_order_ignored_with_key :
    (postsResource.respond databaseStore standardLimit (.member "1")
        (putPost "\x7b\"id\":7,\"title\":\"b\"\x7d").2).run [posts] =
      (postsResource.respond databaseStore standardLimit (.member "1")
        (putPost "\x7b\"title\":\"b\",\"id\":7\x7d").2).run [posts] := by
  have hpolicy : postsResource.policy.IgnoresOrder := Policy.ignoresOrder_permissive
  have hscan : Json.scan "\x7b\"title\":\"b\",\"id\":7\x7d".toList =
      some [.token .openBrace, .token (.str "title"), .token .colon, .token (.str "b"),
        .token .comma, .token (.str "id"), .token .colon, .token (.int 7),
        .token .closeBrace] := by decide +kernel
  have hscan' : Json.scan "\x7b\"id\":7,\"title\":\"b\"\x7d".toList =
      some [.token .openBrace, .token (.str "id"), .token .colon, .token (.int 7), .token .comma,
        .token (.str "title"), .token .colon, .token (.str "b"), .token .closeBrace] := by
    decide +kernel
  have hread : Json.read? "\x7b\"title\":\"b\",\"id\":7\x7d" =
      some (.obj [("title", .str "b"), ("id", .int 7)]) := Json.read?_of_scan hscan rfl rfl
  have hread' : Json.read? "\x7b\"id\":7,\"title\":\"b\"\x7d" =
      some (.obj [("id", .int 7), ("title", .str "b")]) := Json.read?_of_scan hscan' rfl rfl
  refine postsResource.body_order_ignored standardLimit [posts] hpolicy (.member "1")
    (putPost "\x7b\"title\":\"b\",\"id\":7\x7d").2 (.inr rfl) (by decide +kernel) hread hread'
    (.swap _ _ _) (by decide) fun t ht => ?_
  have hd : Database.table? [posts] postsResource.table.name = some posts := by decide
  obtain rfl := Option.some.inj (hd.symm.trans ht)
  decide

def firstEntryPolicy : Policy :=
  { authorizes := fun _ _ => true, prepare := fun _ record => record.take 1 }

/-- Of two names of the row id the last one counts; and a policy may look at the order itself. -/
theorem body_order_counts :
    (∃ body body' : Record,
      Json.read? "\x7b\"rowid\":5,\"oid\":6\x7d" = some (.obj body) ∧
      Json.read? "\x7b\"oid\":6,\"rowid\":5\x7d" = some (.obj body') ∧
      body.Perm body' ∧ (body.names.map Text.lower).Nodup ∧
      postsResource.after standardLimit [posts] (putPost "\x7b\"rowid\":5,\"oid\":6\x7d") ≠
        postsResource.after standardLimit [posts] (putPost "\x7b\"oid\":6,\"rowid\":5\x7d")) ∧
    ∃ body body' : Record,
      Json.read? "\x7b\"title\":\"b\",\"no\":1\x7d" = some (.obj body) ∧
      Json.read? "\x7b\"no\":1,\"title\":\"b\"\x7d" = some (.obj body') ∧
      body.Perm body' ∧ (body.names.map Text.lower).Nodup ∧
      Resource.after { postsResource with policy := firstEntryPolicy } standardLimit [posts]
          (postPost "\x7b\"title\":\"b\",\"no\":1\x7d") ≠
        Resource.after { postsResource with policy := firstEntryPolicy } standardLimit [posts]
          (postPost "\x7b\"no\":1,\"title\":\"b\"\x7d") := by
  have hrowid : Json.scan "\x7b\"rowid\":5,\"oid\":6\x7d".toList =
      some [.token .openBrace, .token (.str "rowid"), .token .colon, .token (.int 5),
        .token .comma, .token (.str "oid"), .token .colon, .token (.int 6),
        .token .closeBrace] := by decide +kernel
  have hoid : Json.scan "\x7b\"oid\":6,\"rowid\":5\x7d".toList =
      some [.token .openBrace, .token (.str "oid"), .token .colon, .token (.int 6),
        .token .comma, .token (.str "rowid"), .token .colon, .token (.int 5),
        .token .closeBrace] := by decide +kernel
  have htitle : Json.scan "\x7b\"title\":\"b\",\"no\":1\x7d".toList =
      some [.token .openBrace, .token (.str "title"), .token .colon, .token (.str "b"),
        .token .comma, .token (.str "no"), .token .colon, .token (.int 1),
        .token .closeBrace] := by decide +kernel
  have hno : Json.scan "\x7b\"no\":1,\"title\":\"b\"\x7d".toList =
      some [.token .openBrace, .token (.str "no"), .token .colon, .token (.int 1),
        .token .comma, .token (.str "title"), .token .colon, .token (.str "b"),
        .token .closeBrace] := by decide +kernel
  constructor
  · exact ⟨[("rowid", .int 5), ("oid", .int 6)], [("oid", .int 6), ("rowid", .int 5)],
      Json.read?_of_scan hrowid rfl rfl, Json.read?_of_scan hoid rfl rfl, .swap _ _ _, by decide,
      by decide +kernel⟩
  · exact ⟨[("title", .str "b"), ("no", .int 1)], [("no", .int 1), ("title", .str "b")],
      Json.read?_of_scan htitle rfl rfl, Json.read?_of_scan hno rfl rfl, .swap _ _ _, by decide,
      by decide +kernel⟩

end Resource

end TableApi.Api
