import TableApi.Api.Resource

namespace TableApi.Api

open Store (RecordStore)

inductive Route
  | collection
  | member (segment : String)
deriving DecidableEq, Repr

def Route.read? (path : List Char) : Option Route :=
  match path with
  | [] => some .collection
  | '/' :: segment =>
    if segment.isEmpty || segment.contains '/' then none
    else some (.member (String.ofList segment))
  | _ => none

def Route.allowed : Route → String
  | .collection => "GET,HEAD,POST"
  | .member _ => "GET,HEAD,PUT,PATCH,DELETE"

def methodNotAllowed (allowed : String) : Response :=
  { status := 405, headers := [("allow", allowed)] }

def pathNotFound : Response := { status := 404 }

def Response.withoutBody (r : Response) : Response := { r with body := "" }

variable {m : Type → Type} [Monad m]

def atKey (segment : String) (answer : String → m (Except Failure Response)) : m Reply :=
  match readKey segment with
  | .error f => return .ofResult (.error f)
  | .ok key => return .ofResult (← answer key)

def Resource.respond (r : Resource) (store : RecordStore m) (limit : Nat) (route : Route)
    (req : Request) : m Reply :=
  match route, req.method with
  | .collection, "GET" | .collection, "HEAD" => r.index store req
  | .collection, "POST" => return .ofResult (← r.create store limit req)
  | .member segment, "GET" | .member segment, "HEAD" => atKey segment (r.display store req)
  | .member segment, "PUT" | .member segment, "PATCH" =>
    atKey segment (r.update store limit req)
  | .member segment, "DELETE" => atKey segment (r.delete store req)
  | route, _ => return { response := methodNotAllowed route.allowed }

/-- A request for the head alone is answered like a request for the whole, without the body. -/
def trimHead (req : Request) (reply : Reply) : Reply :=
  if req.method = "HEAD" then { reply with response := reply.response.withoutBody } else reply

def standardLimit : Nat := 2 * 1024 * 1024

def Resource.serve (r : Resource) (store : RecordStore m) (req : Request) : m Reply :=
  let route := match req.uri.path.toList with
    | [] => none
    | ['/'] => some .collection
    | path => Route.read? path
  match route with
  | none => return { response := pathNotFound }
  | some route => return trimHead req (← r.respond store standardLimit route req)

end TableApi.Api
