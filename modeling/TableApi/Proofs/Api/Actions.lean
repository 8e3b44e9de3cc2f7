import TableApi.Proofs.Api.Effects

namespace TableApi.Api

open Store (Database RecordStore databaseStore)

def Route.action? (route : Route) (method : String) : Option Action :=
  match route, method with
  | .collection, "GET" | .collection, "HEAD" => some .viewAny
  | .collection, "POST" => some .create
  | .member _, "GET" | .member _, "HEAD" => some .view
  | .member _, "PUT" | .member _, "PATCH" => some .update
  | .member _, "DELETE" => some .delete
  | _, _ => none

theorem Route.action?_collection {method : String} {action : Action}
    (h : Route.collection.action? method = some action) :
    action = .viewAny ∨ action = .create := by
  unfold action? at h
  split at h <;> simp_all

theorem Route.action?_member {segment method : String} {action : Action}
    (h : (Route.member segment).action? method = some action) :
    action = .view ∨ action = .update ∨ action = .delete := by
  unfold action? at h
  split at h <;> simp_all

namespace Resource

variable (r : Resource)

section Perform

variable {m : Type → Type} [Monad m]

def perform (store : RecordStore m) (limit : Nat) (req : Request) :
    Route → Option Action → m Reply
  | .collection, some .viewAny => r.index store req
  | .collection, some .create => return .ofResult (← r.create store limit req)
  | .member segment, some .view => atKey segment (r.display store req)
  | .member segment, some .update => atKey segment (r.update store limit req)
  | .member segment, some .delete => atKey segment (r.delete store req)
  | route, _ => return { response := methodNotAllowed route.allowed }

/-- A request is answered by the action that its method asks for on its route. -/
theorem respond_eq_perform (store : RecordStore m) (limit : Nat) (route : Route)
    (req : Request) :
    r.respond store limit route req =
      r.perform store limit req route (route.action? req.method) := by
  generalize hmethod : req.method = method
  unfold respond
  rw [hmethod]
  split
  case h_9 =>
    -- what no other case has taken is served by no action
    have hnone : route.action? method = none := by
      unfold Route.action?
      split <;> first | rfl | (exfalso; tauto)
    rw [hnone]
    cases route <;> rfl
  all_goals rfl

end Perform

theorem after_eq_perform (limit : Nat) (d : Database) (route : Route) (req : Request) :
    r.after limit d (route, req) =
      ((r.perform databaseStore limit req route (route.action? req.method)).run d).2 := by
  rw [← respond_eq_perform]
  rfl

theorem state_atKey {segment : String} {d : Database}
    {answer : String → StateM Database (Except Failure Response)}
    (h : ∀ key, ((answer key).run d).2 = d) : ((atKey segment answer).run d).2 = d := by
  unfold atKey
  split
  · rfl
  · rw [state_ofResult]
    exact h _

/-- A request that does not ask to write leaves the database as it is. -/
theorem after_of_reading {limit : Nat} {d : Database} {route : Route} {req : Request}
    (h : ∀ action ∈ [Action.create, .update, .delete], route.action? req.method ≠ some action) :
    r.after limit d (route, req) = d := by
  have hcreate := h .create (by simp)
  have hupdate := h .update (by simp)
  have hdelete := h .delete (by simp)
  rw [after_eq_perform]
  generalize route.action? req.method = asked at *
  unfold perform
  split
  · exact r.state_index d req
  · exact absurd rfl hcreate
  · exact state_atKey fun key => r.state_display d req key
  · exact absurd rfl hupdate
  · exact absurd rfl hdelete
  · rfl

end Resource

end TableApi.Api
