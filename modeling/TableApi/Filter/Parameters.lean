import TableApi.Entries
import TableApi.Text.Blank
import TableApi.Text.Cut

namespace TableApi.Filter

inductive ParamValue
  | single (value : String)
  | many (values : List String)
deriving DecidableEq, Repr, Inhabited

namespace ParamValue

def single? : ParamValue → Option String
  | single v => some v
  | many _ => none

def values : ParamValue → List String
  | single v => [v]
  | many vs => vs

def last? (v : ParamValue) : Option String := v.values.getLast?

end ParamValue

abbrev Parameters := Entries ParamValue

namespace Parameters

def splitBrackets (key : String) : String × Bool :=
  match Text.dropEnding? ['[', ']'] key.toList with
  | some name => (String.ofList name, true)
  | none => (key, false)

def isSplit (name value : String) : Bool :=
  ['_', 'i', 'n'].isSuffixOf name.toList && value.toList.contains ','

def pieces (name value : String) : List String :=
  if isSplit name value then
    (value.toList.splitOn ',').map fun piece => String.ofList (Text.trimChars piece)
  else [value]

/-- Adds one pair. A bracketed or split pair begins a list, a repeated name continues as one. -/
def push (params : Parameters) (key value : String) : Parameters :=
  let (name, bracketed) := splitBrackets key
  params.alter name fun
    | some old => .many (old.values ++ pieces name value)
    | none => if bracketed || isSplit name value then .many (pieces name value) else .single value

def ofPairs (pairs : List (String × String)) : Parameters :=
  pairs.foldl (fun params p => params.push p.1 p.2) []

def insert (params : Parameters) (name : String) (value : ParamValue) : Parameters :=
  Entries.put params name value

def without (params : Parameters) (names : List String) : Parameters :=
  Entries.retain params fun name => !names.contains name

end Parameters

end TableApi.Filter
