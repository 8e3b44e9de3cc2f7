import TableApi.Api.Description
import TableApi.Api.Encoding
import TableApi.Api.Origin
import TableApi.Api.Route

namespace TableApi.Api

open Store (Service)

structure Site where
  /-- The resources by the names that stand in paths. -/
  resources : List (String × Resource) := []
  origins : Origins := .any

def basePath : String := "/api/v1"

def healthName : String := "health"

def bodyLimit : Nat := 1024 * 1024

inductive Destination
  | health
  | description
  | documentation
  | resource (r : Resource) (route : Route)
  | nowhere

namespace Site

def resource? (s : Site) (name : String) : Option Resource :=
  (s.resources.find? fun r => r.1 = name).map Prod.snd

def below (s : Site) (path : List Char) : Destination :=
  let name := String.ofList (path.takeWhile (· != '/'))
  let rest := path.dropWhile (· != '/')
  if name = healthName then if rest.isEmpty then .health else .nowhere
  else
    match s.resource? name, Route.read? rest with
    | some r, some route => .resource r route
    | _, _ => .nowhere

def destination (s : Site) (path : String) : Destination :=
  if path = "/api/openapi.json" then .description
  else if path = "/api/docs" then .documentation
  else
    match Text.dropOpening? (basePath ++ "/").toList path.toList with
    | some rest => s.below rest
    | none => .nowhere

end Site

def Destination.allowed? : Destination → Option String
  | health | description | documentation => some "GET,HEAD"
  | resource _ route => some route.allowed
  | nowhere => none

variable {m : Type → Type} [Monad m]

def readOnly (req : Request) (answer : m Reply) : m Reply :=
  if req.method = "GET" || req.method = "HEAD" then answer
  else return { response := methodNotAllowed "GET,HEAD" }

def Destination.answer (d : Destination) (service : Service m) (req : Request) : m Reply :=
  match d with
  | health => readOnly req (Api.health service)
  | description => readOnly req (return { response := descriptionResponse })
  | documentation => readOnly req (return { response := descriptionPage })
  | resource r route => r.respond service.toRecordStore bodyLimit route req
  | nowhere => return { response := Failure.notFound.response }

/-- The answer of the site: a question about methods is answered for every path; all else is
answered by what the path names, compressed if the client prefers that. -/
def Site.respond (s : Site) (service : Service m) (req : Request) : m Reply := do
  let d := s.destination req.uri.path
  if req.method = "OPTIONS" then return { response := preflight s.origins req d.allowed? }
  let reply ← d.answer service req
  let response := reply.response.compress req
  return trimHead req
    { reply with response := { response with headers := response.headers ++ s.origins.header req } }

end TableApi.Api
