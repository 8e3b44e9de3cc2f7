import TableApi.Api.Policy
import TableApi.Api.Transform
import TableApi.Sql.Query
import TableApi.Store.Basic

namespace TableApi.Api

open TableApi.Filter (Parameters Translation)
open Store (RecordStore)

structure Resource where
  table : Store.TableRef
  fields : Filter.Fields := {}
  /-- The columns that bodies may write; when there are none, all but the primary key. -/
  writable : List String := []
  hidden : List String := []
  perPage : Nat := defaultPerPage
  policy : Policy := .permissive

structure Reply where
  response : Response
  warnings : List Warning := []
deriving Repr

def Reply.ofResult : Except Failure Response → Reply
  | .ok response => { response }
  | .error f => { response := f.response }

def pagingNames : List String := [pageName, perPageName, "include"]

namespace Resource

def translate (r : Resource) (params : Parameters) : Filter.Outcome :=
  Filter.translate r.fields Filter.calendarReader (params.without pagingNames)

def fillable (r : Resource) (record : Record) : Record :=
  let kept := if r.writable.isEmpty then record
    else Entries.retain record fun name => r.writable.contains name
  Entries.swapRemove kept r.table.primaryKey

def authorize (r : Resource) (action : Action) (req : Request) : Except Failure Unit :=
  if r.policy.authorizes action req then .ok () else .error .unauthorized

def validate (r : Resource) (action : Action) (record : Record) : Except Failure Unit :=
  match (r.policy.rules action).validate record with
  | [] => .ok ()
  | errors => .error (.invalid errors)

def item (r : Resource) (status : Nat) (record : Record) : Response :=
  .json status (.obj [("data", .obj (visible r.hidden record))])

/-- The query of a listing: the scope of the policy and the filters of the request, each a group
of its own. -/
def query (r : Resource) (req : Request) (t : Translation) : Sql.Query :=
  let scope := Sql.Query.ofClauses (r.policy.scope req)
  (({} : Sql.Query).andGroup scope).andGroup (.ofTranslation t)

def page (r : Resource) (paging : PageRequest) : Store.Page :=
  { number := paging.page, perPage := paging.perPage.getD r.perPage }

def listing (r : Resource) (req : Request) (page : Store.Page) (records : List Record)
    (total : Nat) : Response :=
  let shown := records.map fun record => Json.obj (visible r.hidden record)
  .json 200 (.obj [("data", .arr shown),
    ("meta", .obj (("pagination", (pagination page total records.length).json) ::
      r.policy.extra req))])

def listedPage (r : Resource) (req : Request) : Except Failure Store.Page := do
  r.authorize .viewAny req
  return r.page (← PageRequest.read req.pairs)

variable {m : Type → Type} [Monad m]

def index (r : Resource) (store : RecordStore m) (req : Request) : m Reply :=
  match r.listedPage req with
  | .error f => return .ofResult (.error f)
  | .ok page => do
    let outcome := r.translate (Parameters.ofPairs req.pairs)
    let response ← match outcome.result with
      | .error e => pure (Failure.ofInvalidDate e).response
      | .ok t =>
        match ← store.list r.table (r.query req t) page with
        | .error _ => pure Failure.storeFailed.response
        | .ok (records, total) => pure (r.listing req page records total)
    return { response, warnings := outcome.warnings }

def found : Except Store.StoreError (Option Record) → Except Failure Record
  | .error _ => .error .storeFailed
  | .ok none => .error .notFound
  | .ok (some record) => .ok record

def display (r : Resource) (store : RecordStore m) (req : Request) (key : String) :
    m (Except Failure Response) :=
  match r.authorize .view req with
  | .error f => return .error f
  | .ok () => return (found (← store.find r.table key)).map (r.item 200)

def bodyRecord (r : Resource) (action : Action) (limit : Nat) (req : Request) :
    Except Failure Record := do
  let body ← req.readRecord limit
  r.validate action body
  return r.fillable body

def create (r : Resource) (store : RecordStore m) (limit : Nat) (req : Request) :
    m (Except Failure Response) :=
  match r.authorize .create req >>= fun _ => r.bodyRecord .create limit req with
  | .error f => return .error f
  | .ok record => do
    match ← store.insert r.table (r.policy.prepare req record) with
    | .error _ => return .error .storeFailed
    | .ok created => return .ok (r.item 201 created)

def update (r : Resource) (store : RecordStore m) (limit : Nat) (req : Request) (key : String) :
    m (Except Failure Response) :=
  match r.authorize .update req with
  | .error f => return .error f
  | .ok () => do
    match found (← store.find r.table key) with
    | .error f => return .error f
    | .ok _ =>
      match r.bodyRecord .update limit req with
      | .error f => return .error f
      | .ok record => return (found (← store.update r.table key record)).map (r.item 200)

def delete (r : Resource) (store : RecordStore m) (req : Request) (key : String) :
    m (Except Failure Response) :=
  match r.authorize .delete req with
  | .error f => return .error f
  | .ok () => do
    match ← store.delete r.table key with
    | .ok true => return .ok (confirm "Resource has been deleted.")
    | .ok false => return .error .notFound
    | .error e => return .error (.internal e.message)

end Resource

end TableApi.Api
