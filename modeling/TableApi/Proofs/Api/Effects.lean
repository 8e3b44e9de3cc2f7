import TableApi.Api.Route
import TableApi.Proofs.Api.Body
import TableApi.Proofs.Store.Execution

namespace TableApi.Api

open Store (Database boundValues databaseStore)
open Sql (Statement)

namespace Resource

variable (r : Resource)

def after (limit : Nat) (d : Database) (sent : Route × Request) : Database :=
  ((r.respond databaseStore limit sent.1 sent.2).run d).2

def written (route : Route) (req : Request) (body : Record) : Record :=
  match route with
  | .collection => r.policy.prepare req (r.fillable body)
  | .member _ => r.fillable body

theorem validate_of_ok {action : Action} {record : Record}
    (h : r.validate action record = .ok ()) : (r.policy.rules action).validate record = [] := by
  unfold validate at h
  split at h
  · assumption
  · cases h

theorem body_of_bodyRecord {action : Action} {limit : Nat} {req : Request} {record : Record}
    (h : r.bodyRecord action limit req = .ok record) :
    ∃ body, req.readRecord limit = .ok body ∧ (r.policy.rules action).validate body = [] ∧
      record = r.fillable body := by
  obtain ⟨body, hbody, h⟩ := eq_ok_of_bind h
  obtain ⟨_, hvalid, h⟩ := eq_ok_of_bind h
  exact ⟨body, hbody, r.validate_of_ok hvalid, (Except.ok.inj h).symm⟩

inductive Writes (limit : Nat) (req : Request) : Route → Statement → Prop
  | insert {body : Record} (hbody : req.readRecord limit = .ok body) :
    Writes limit req .collection
      (.insert r.table.name (boundValues (r.written .collection req body)))
  | update {segment key : String} {body : Record} (hmethod : req.method ≠ "DELETE")
      (hkey : readKey segment = .ok key) (hbody : req.readRecord limit = .ok body) :
    Writes limit req (.member segment)
      (.update r.table.name (boundValues (r.written (.member segment) req body))
        r.table.primaryKey key)
  | delete {segment : String} (hmethod : req.method = "DELETE") (key : String) :
    Writes limit req (.member segment) (.delete r.table.name r.table.primaryKey key)

/-- What may come of a database with a request: itself, or what one statement makes of it. -/
def Reaches (limit : Nat) (route : Route) (req : Request) (d d' : Database) : Prop :=
  d' = d ∨ ∃ s, r.Writes limit req route s ∧ d' = d.after s

/-- A creation that gets as far as the store sends one insertion. -/
theorem reaches_create (limit : Nat) (d : Database) (req : Request) :
    r.Reaches limit .collection req d ((r.create databaseStore limit req).run d).2 := by
  unfold create
  split
  · exact .inl rfl
  · rename_i record hrecord
    obtain ⟨_, -, hrecord⟩ := eq_ok_of_bind hrecord
    obtain ⟨body, hbody, -, rfl⟩ := r.body_of_bodyRecord hrecord
    refine .inr ⟨_, .insert hbody, ?_⟩
    refine (Store.snd_run_bind fun a s => ?_).trans (Store.run_insert d r.table _)
    cases a <;> rfl

/-- A change looks the record up before it sends its statement. -/
theorem reaches_update {segment key : String} (limit : Nat) (d : Database) (req : Request)
    (hmethod : req.method ≠ "DELETE") (hkey : readKey segment = .ok key) :
    r.Reaches limit (.member segment) req d ((r.update databaseStore limit req key).run d).2 := by
  unfold update
  split
  · exact .inl rfl
  · have hfind := Store.run_find d r.table key
    rw [StateT.run_bind]
    generalize (databaseStore.find r.table key).run d = x at hfind ⊢
    obtain ⟨answer, d'⟩ := x
    obtain rfl : d' = d := hfind
    -- the search has changed nothing, so the update meets the database of the request
    dsimp only [bind]
    split
    · exact .inl rfl
    · split
      · exact .inl rfl
      · rename_i record hrecord
        obtain ⟨body, hbody, -, rfl⟩ := r.body_of_bodyRecord hrecord
        have hstate := Store.run_update d' r.table key (r.fillable body)
        have hrun := (Store.snd_run_bind (x := databaseStore.update r.table key (r.fillable body))
          (f := fun a => pure ((found a).map (r.item 200))) (d := d') fun _ _ => rfl).trans hstate
        split at hrun
        · exact .inl hrun
        · exact .inr ⟨_, .update hmethod hkey hbody, hrun⟩

theorem reaches_delete {segment : String} (limit : Nat) (d : Database) (req : Request)
    (hmethod : req.method = "DELETE") (key : String) :
    r.Reaches limit (.member segment) req d ((r.delete databaseStore req key).run d).2 := by
  unfold delete
  split
  · exact .inl rfl
  · refine .inr ⟨_, .delete hmethod key, ?_⟩
    refine (Store.snd_run_bind fun a s => ?_).trans (Store.run_delete d r.table key)
    split <;> rfl

/-- A listing only reads. -/
theorem state_index (d : Database) (req : Request) :
    ((r.index databaseStore req).run d).2 = d := by
  unfold index
  split
  · rfl
  · rename_i page _
    dsimp only
    split
    · rfl
    · rename_i tr _
      refine (Store.snd_run_bind fun a s => ?_).trans
        (Store.run_list d r.table (r.query req tr) page)
      cases a <;> rfl

theorem state_display (d : Database) (req : Request) (key : String) :
    ((r.display databaseStore req key).run d).2 = d := by
  unfold display
  split
  · rfl
  · exact (Store.snd_run_bind fun _ _ => rfl).trans (Store.run_find d r.table key)

theorem state_ofResult (x : StateM Database (Except Failure Response)) (d : Database) :
    ((do return Reply.ofResult (← x) : StateM Database Reply).run d).2 = (x.run d).2 :=
  Store.snd_run_bind fun _ _ => rfl

/-- A segment that is no key is answered before the store is asked. -/
theorem reaches_atKey {limit : Nat} {segment : String} {req : Request} {d : Database}
    {answer : String → StateM Database (Except Failure Response)}
    (h : ∀ key, readKey segment = .ok key →
      r.Reaches limit (.member segment) req d ((answer key).run d).2) :
    r.Reaches limit (.member segment) req d ((atKey segment answer).run d).2 := by
  unfold atKey
  split
  · exact .inl rfl
  · rename_i key hkey
    rw [state_ofResult]
    exact h key hkey

/-- A request does nothing to the database, or what one statement does. -/
theorem reaches_after (limit : Nat) (d : Database) (route : Route) (req : Request) :
    r.Reaches limit route req d (r.after limit d (route, req)) := by
  show r.Reaches limit route req d ((r.respond databaseStore limit route req).run d).2
  have hput : "PUT" ≠ "DELETE" := by decide
  have hpatch : "PATCH" ≠ "DELETE" := by decide
  unfold respond
  split
  · exact .inl (r.state_index d req)
  · exact .inl (r.state_index d req)
  · rw [state_ofResult]
    exact r.reaches_create limit d req
  · exact r.reaches_atKey fun key _ => .inl (r.state_display d req key)
  · exact r.reaches_atKey fun key _ => .inl (r.state_display d req key)
  · rename_i hmethod
    exact r.reaches_atKey fun key hkey => r.reaches_update limit d req (hmethod ▸ hput) hkey
  · rename_i hmethod
    exact r.reaches_atKey fun key hkey => r.reaches_update limit d req (hmethod ▸ hpatch) hkey
  · rename_i hmethod
    exact r.reaches_atKey fun key _ => r.reaches_delete limit d req hmethod key
  · exact .inl rfl

end Resource

end TableApi.Api
