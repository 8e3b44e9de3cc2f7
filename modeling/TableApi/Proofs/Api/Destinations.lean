import TableApi.Api.Site

namespace TableApi.Api

open Store (Service)

def mountPath (name : String) : String := basePath ++ "/" ++ name

theorem dropOpening?_mountPath (name rest : String) :
    Text.dropOpening? (basePath ++ "/").toList (mountPath name ++ rest).toList =
      some (name.toList ++ rest.toList) := by
  have hpath : (mountPath name ++ rest).toList =
      (basePath ++ "/").toList ++ (name.toList ++ rest.toList) := by
    simp only [mountPath, String.toList_append, List.append_assoc]
  rw [hpath, Text.dropOpening?_append]

theorem mountPath_append_ne {path : String}
    (hpath : Text.dropOpening? (basePath ++ "/").toList path.toList = none) (name rest : String) :
    mountPath name ++ rest ≠ path := by
  rintro rfl
  rw [dropOpening?_mountPath] at hpath
  cases hpath

/-- What can follow a name: nothing, or a separator and more. -/
theorem Route.opens_of_read? {path : List Char} {route : Route} (h : read? path = some route) :
    path = [] ∨ ∃ segment, path = '/' :: segment := by
  unfold read? at h
  split at h
  · exact .inl rfl
  · exact .inr ⟨_, rfl⟩
  · simp at h

namespace Site

variable (s : Site)

theorem destination_mountPath (name rest : String) :
    s.destination (mountPath name ++ rest) = s.below (name.toList ++ rest.toList) := by
  have hdescription : mountPath name ++ rest ≠ "/api/openapi.json" :=
    mountPath_append_ne (by decide) name rest
  have hdocumentation : mountPath name ++ rest ≠ "/api/docs" :=
    mountPath_append_ne (by decide) name rest
  rw [destination, if_neg hdescription, if_neg hdocumentation, dropOpening?_mountPath]

section Names

variable {name : String} {rest : List Char} (hname : ∀ c ∈ name.toList, (c != '/') = true)
  (hrest : rest = [] ∨ ∃ segment, rest = '/' :: segment)

include hname hrest

/-- A name ends before the first separator behind it. -/
theorem takeWhile_name : (name.toList ++ rest).takeWhile (· != '/') = name.toList := by
  rw [List.takeWhile_append_of_pos hname]
  rcases hrest with rfl | ⟨segment, rfl⟩ <;> simp

theorem dropWhile_name : (name.toList ++ rest).dropWhile (· != '/') = rest := by
  rw [List.dropWhile_append_of_pos hname]
  rcases hrest with rfl | ⟨segment, rfl⟩ <;> simp

end Names

theorem destination_health : s.destination (mountPath healthName) = .health := by
  have hname : ∀ c ∈ healthName.toList, (c != '/') = true := by
    have hall : healthName.toList.all (· != '/') = true := by decide
    exact List.all_eq_true.1 hall
  have hpath := s.destination_mountPath healthName ""
  rw [String.append_empty] at hpath
  rw [hpath, String.toList_empty]
  simp only [below, takeWhile_name hname (.inl rfl), dropWhile_name hname (.inl rfl),
    String.ofList_toList, if_true, List.isEmpty_nil]

theorem destination_resource {name rest : String} {r : Resource} {route : Route}
    (hname : ∀ c ∈ name.toList, (c != '/') = true) (hother : name ≠ healthName)
    (hr : s.resource? name = some r) (hroute : Route.read? rest.toList = some route) :
    s.destination (mountPath name ++ rest) = .resource r route := by
  have hrest := Route.opens_of_read? hroute
  rw [s.destination_mountPath]
  simp only [below, takeWhile_name hname hrest, dropWhile_name hname hrest,
    String.ofList_toList, if_neg hother, hr, hroute]

def finish (req : Request) (reply : Reply) : Reply :=
  let response := reply.response.compress req
  trimHead req
    { reply with response := { response with headers := response.headers ++ s.origins.header req } }

theorem respond_of_destination {m : Type → Type} [Monad m] {service : Service m} {req : Request}
    (h : req.method ≠ "OPTIONS") :
    s.respond service req =
      (do return s.finish req (← (s.destination req.uri.path).answer service req)) := by
  rw [respond, if_neg h]
  rfl

end Site

end TableApi.Api
