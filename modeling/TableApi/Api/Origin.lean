import TableApi.Api.Request

namespace TableApi.Api

inductive Origins
  | any
  | listed (origins : List String)
deriving DecidableEq, Repr

def everyOrigin : String := "*"

namespace Origins

def isUsable (origin : String) : Bool := origin.toList.all isHeaderChar

/-- The origins of a configured list: when it is empty every origin, else those that a header
can hold. -/
def ofList (origins : List String) : Origins :=
  if origins.isEmpty then any else listed (origins.filter isUsable)

def allowed? (o : Origins) (req : Request) : Option String :=
  match o with
  | any => some everyOrigin
  | listed origins => (req.rawHeader? "origin").filter fun origin => origins.contains origin

def header (o : Origins) (req : Request) : Entries String :=
  ((o.allowed? req).map fun origin => ("access-control-allow-origin", origin)).toList

end Origins

/-- What a page may ask for, as an answer to its question before the request proper. -/
def preflight (o : Origins) (req : Request) (allowed : Option String) : Response :=
  { status := 200,
    headers := (allowed.map fun methods => ("allow", methods)).toList ++ o.header req ++
      [("access-control-allow-methods", "GET,POST,PUT,PATCH,DELETE,OPTIONS"),
        ("access-control-allow-headers", "content-type,authorization,accept,origin,x-api-key")] }

end TableApi.Api
