import TableApi.Json.Node

namespace TableApi.Json

def maxDepth : Nat := 127

def read? (s : String) : Option Json := (Node.read? s).bind (Node.value? maxDepth)

def readObject? (s : String) : Option Record :=
  match read? s with
  | some (.obj members) => some members
  | _ => none

end TableApi.Json
