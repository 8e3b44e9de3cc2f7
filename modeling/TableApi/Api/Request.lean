import TableApi.Json.Reader
import TableApi.Net.MediaType
import TableApi.Net.Uri
import TableApi.Api.Key
import TableApi.Api.Page
import TableApi.Api.Response
import TableApi.Text.Blank
import TableApi.Text.Cut

namespace TableApi.Api

structure Request where
  method : String
  uri : Net.Uri
  /-- All headers in order; a name may occur several times, in any case. -/
  headers : List (String × String) := []
  body : String := ""
deriving DecidableEq, Repr

def isReadable (c : Char) : Bool := c = '\t' || (0x20 ≤ c.toNat && c.toNat < 0x7F)

def isHeaderChar (c : Char) : Bool := c = '\t' || (0x20 ≤ c.toNat && c.toNat != 0x7F)

def isHeaderName (s : String) : Bool := s != "" && s.toList.all Net.MediaType.isTokenChar

namespace Request

def rawHeader? (r : Request) (name : String) : Option String :=
  (r.headers.find? fun h => Text.sameIgnoringCase h.1 name).map Prod.snd

def header? (r : Request) (name : String) : Option String :=
  (r.rawHeader? name).filter fun value => value.toList.all isReadable

def bearerToken? (r : Request) : Option String := do
  let value ← r.header? "authorization"
  let (scheme, token) ← Text.cutAt? ' ' value.toList
  let token := Text.trimChars token
  if Text.sameIgnoringCase (String.ofList scheme) "bearer" && !token.isEmpty then
    some (String.ofList token)
  else none

def pairs (r : Request) : List (String × String) := r.uri.pairs

end Request

def readKey (segment : String) : Except Failure String :=
  match Text.Utf8.decode? (Text.Percent.decode (Text.Utf8.encode segment.toList)) with
  | none => .error (.wrongArguments "Invalid URL: Invalid UTF-8 in \x60id\x60")
  | some key =>
    if isKey key then .ok key
    else .error (.wrongArguments "Invalid id: must be 1-256 characters")

structure PagingRead where
  page : Option Nat := none
  perPage : Option Nat := none

def queryError (message : String) : Failure :=
  .wrongArguments ("Failed to deserialize query string: " ++ message)

def readPaging (name : String) (given : Option Nat) (value : String) : Except Failure Nat :=
  if given.isSome then .error (queryError ("duplicate field \x60" ++ name ++ "\x60"))
  else
    match Text.readUnsigned64 value with
    | .ok n => .ok n
    | .error e => .error (queryError (name ++ ": " ++ e.message))

def pageName : String := "page"
def perPageName : String := "per_page"

def PagingRead.step (p : PagingRead) (pair : String × String) : Except Failure PagingRead :=
  if pair.1 = pageName then
    (readPaging pageName p.page pair.2).map fun n => { p with page := some n }
  else if pair.1 = perPageName then
    (readPaging perPageName p.perPage pair.2).map fun n => { p with perPage := some n }
  else .ok p

/-- Reads the paging pairs; the first bad one decides the error, then the ranges are checked. -/
def PageRequest.read (pairs : List (String × String)) : Except Failure PageRequest := do
  let p ← pairs.foldlM PagingRead.step {}
  let request : PageRequest := { page := p.page.getD 1, perPage := p.perPage }
  match request.problems with
  | [] => return request
  | problems => throw (.wrongArguments (Text.join "; " problems))

def Request.readRecord (r : Request) (limit : Nat) : Except Failure Record :=
  let isJson := ((r.header? "content-type").bind Net.MediaType.read?).any Net.MediaType.isJson
  if !isJson then
    .error (.wrongArguments "Expected request with \x60Content-Type: application/json\x60")
  else if limit < r.body.utf8ByteSize then
    .error (.wrongArguments "Failed to buffer the request body: length limit exceeded")
  else
    match Json.read? r.body with
    | none => .error (.wrongArguments "Failed to parse the request body as JSON")
    | some (.obj record) => .ok record
    | some _ => .error (.wrongArguments "Request body must be a JSON object")

end TableApi.Api
