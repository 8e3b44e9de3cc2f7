import TableApi.Proofs.Api.Acceptance
import TableApi.Proofs.Api.Guard
import TableApi.Proofs.Store.Calls

namespace TableApi.Api

open Store (Database databaseStore)

instance (reply : Reply) : Decidable reply.IsSuccess := inferInstanceAs (Decidable (_ ∧ _))

theorem Failure.status_ge (f : Failure) : 400 ≤ f.status := by
  cases f <;> simp [Failure.status]

namespace Resource

variable (r : Resource)

/-- A request is done, or it is refused and leaves the database as it was. -/
def Settles (d : Database) (answered : Reply × Database) : Prop :=
  answered.1.IsSuccess ∨ 400 ≤ answered.1.response.status ∧ answered.2 = d

def SettlesResult (d : Database) (answered : Except Failure Response × Database) : Prop :=
  Settles d (.ofResult answered.1, answered.2)

variable {d d' : Database}

theorem settles_error (d : Database) (f : Failure) :
    Settles d (.ofResult (.error f), d) := .inr ⟨f.status_ge, rfl⟩

theorem settlesResult_error (d : Database) (f : Failure) : SettlesResult d (.error f, d) :=
  settles_error d f

theorem settlesResult_ok {response : Response}
    (h : 200 ≤ response.status ∧ response.status < 300) : SettlesResult d (.ok response, d') :=
  .inl h

/-- An answer with a record is a success; without one, the database has to be as it was. -/
theorem settlesResult_found {result : Except Store.StoreError (Option Record)} {status : Nat}
    (hstatus : 200 ≤ status ∧ status < 300) (herror : ∀ e, result = .error e → d' = d)
    (hnone : result = .ok none → d' = d) :
    SettlesResult d ((found result).map (r.item status), d') := by
  cases result with
  | error e =>
    rw [herror e rfl]
    exact settlesResult_error d _
  | ok record? =>
    cases record? with
    | none =>
      rw [hnone rfl]
      exact settlesResult_error d _
    | some record => exact settlesResult_ok hstatus

theorem settles_index (d : Database) (req : Request) :
    Settles d ((r.index databaseStore req).run d) := by
  have hstate := r.state_index d req
  suffices hreply : ((r.index databaseStore req).run d).1.IsSuccess ∨
      400 ≤ ((r.index databaseStore req).run d).1.response.status from
    hreply.imp_right fun hstatus => ⟨hstatus, hstate⟩
  unfold index
  split
  · rename_i f _
    exact .inr f.status_ge
  · dsimp only
    split
    · rename_i e _
      exact .inr (Failure.ofInvalidDate e).status_ge
    · rename_i page _ _ t _
      rw [Store.run_bind]
      generalize (databaseStore.list r.table (r.query req t) page).run d = listed
      obtain ⟨_ | _, d'⟩ := listed
      · exact .inr Failure.storeFailed.status_ge
      · exact .inl (by decide : 200 ≤ 200 ∧ 200 < 300)

theorem settles_display (d : Database) (req : Request) (key : String) :
    SettlesResult d ((r.display databaseStore req key).run d) := by
  unfold display
  split
  · exact settlesResult_error d _
  · have hstate := Store.run_find d r.table key
    rw [Store.run_bind]
    exact r.settlesResult_found (by decide) (fun _ _ => hstate) fun _ => hstate

/-- A creation that fails in the store has sent a statement that did nothing. -/
theorem settles_create (limit : Nat) (d : Database) (req : Request) :
    SettlesResult d ((r.create databaseStore limit req).run d) := by
  unfold create
  split
  · exact settlesResult_error d _
  · rename_i record _
    rw [Store.run_bind]
    generalize hinsert :
      (databaseStore.insert r.table (r.policy.prepare req record)).run d = stored
    obtain ⟨result, d'⟩ := stored
    cases result with
    | error e =>
      rw [Store.eq_of_insert_error hinsert]
      exact settlesResult_error d _
    | ok created => exact settlesResult_ok (by decide : 200 ≤ 201 ∧ 201 < 300)

/-- A change that finds no row has sent at most a statement that reached none. -/
theorem settles_update (limit : Nat) (hd : d.IsNamed) (req : Request) (key : String) :
    SettlesResult d ((r.update databaseStore limit req key).run d) := by
  unfold update
  split
  · exact settlesResult_error d _
  · have hfind := Store.run_find d r.table key
    rw [Store.run_bind]
    generalize (databaseStore.find r.table key).run d = searched at hfind ⊢
    obtain ⟨result, d'⟩ := searched
    obtain rfl : d' = d := hfind
    dsimp only
    split
    · exact settlesResult_error d' _
    · split
      · exact settlesResult_error d' _
      · -- the row was there for the search, but the argument does not need it to be there still
        rename_i record _
        rw [Store.run_bind]
        generalize hupdate : (databaseStore.update r.table key record).run d' = changed
        obtain ⟨result, d''⟩ := changed
        refine r.settlesResult_found (by decide) ?_ ?_
        · rintro e rfl
          exact Store.eq_of_update_error hupdate
        · rintro rfl
          exact Store.eq_of_update_none hd hupdate

/-- A removal without a row to remove is a refusal, and removes nothing. -/
theorem settles_delete (hd : d.IsNamed) (req : Request) (key : String) :
    SettlesResult d ((r.delete databaseStore req key).run d) := by
  unfold delete
  split
  · exact settlesResult_error d _
  · rw [Store.run_bind]
    generalize hdelete : (databaseStore.delete r.table key).run d = removed
    obtain ⟨result, d'⟩ := removed
    dsimp only
    split
    · exact settlesResult_ok (by decide : 200 ≤ 200 ∧ 200 < 300)
    · rw [Store.eq_of_delete_false hd hdelete]
      exact settlesResult_error d _
    · rw [Store.eq_of_delete_error hdelete]
      exact settlesResult_error d _

theorem settles_atKey {segment : String}
    {answer : String → StateM Database (Except Failure Response)}
    (h : ∀ key, SettlesResult d ((answer key).run d)) :
    Settles d ((atKey segment answer).run d) := by
  unfold atKey
  split
  · exact settles_error d _
  · exact h _

/-- Every answer of a resource is a success or comes with the database as it was. -/
theorem settles_respond (limit : Nat) (hd : d.IsNamed) (route : Route) (req : Request) :
    Settles d ((r.respond databaseStore limit route req).run d) := by
  rw [respond_eq_perform]
  unfold perform
  split
  · exact r.settles_index d req
  · exact r.settles_create limit d req
  · exact settles_atKey fun key => r.settles_display d req key
  · exact settles_atKey fun key => r.settles_update limit hd req key
  · exact settles_atKey fun key => r.settles_delete hd req key
  · exact .inr ⟨(by decide : 400 ≤ 405), rfl⟩

theorem isNamed_after (limit : Nat) (hd : d.IsNamed) (sent : Route × Request) :
    (r.after limit d sent).IsNamed := by
  obtain ⟨route, req⟩ := sent
  rcases r.reaches_after limit d route req with h | ⟨s, -, h⟩ <;> rw [h]
  · exact hd
  · exact Database.isNamed_after hd s

/-- The requests that are answered with a success, each by the database that the ones before it
have left. -/
def accepted (limit : Nat) : Database → List (Route × Request) → List (Route × Request)
  | _, [] => []
  | d, x :: sent =>
    let rest := accepted limit (r.after limit d x) sent
    if ((r.respond databaseStore limit x.1 x.2).run d).1.IsSuccess then x :: rest else rest

/-- Leaving out the refused requests leaves the same database. -/
theorem afterAll_accepted (limit : Nat) (hd : d.IsNamed) (sent : List (Route × Request)) :
    r.afterAll limit d (r.accepted limit d sent) = r.afterAll limit d sent := by
  induction sent generalizing d with
  | nil => rfl
  | cons x sent ih =>
    have hrest := ih (r.isNamed_after limit hd x)
    rw [accepted, afterAll_cons]
    split
    · rw [afterAll_cons, hrest]
    · rename_i hrefused
      -- what is refused is left out of the sequence, and leaves the database to the rest
      have hsame : r.after limit d x = d :=
        ((r.settles_respond limit hd x.1 x.2).resolve_left hrefused).2
      rw [hsame] at hrest ⊢
      exact hrest

end Resource

end TableApi.Api
