import TableApi.Text.Blank
import TableApi.Text.Cut

namespace TableApi.Config

structure Location where
  directory : String
  home : Option String := none
deriving DecidableEq, Repr

namespace Location

def isAbsolute (path : String) : Bool := path.toList.head? = some '/'

def joined (base path : String) : String :=
  if isAbsolute path then path
  else if base.toList.getLast? = some '/' then base ++ path
  else base ++ "/" ++ path

def atHome (l : Location) (path : String) : String :=
  match path.toList, l.home with
  | ['~'], some home => home
  | '~' :: c :: rest, some home =>
    if c = '/' || c = '\\' then joined home (String.ofList rest) else path
  | _, _ => path

def expand (l : Location) (path : String) : String :=
  let path := Text.trim path
  if path = "" then l.directory else joined l.directory (l.atHome path)

def dropIdle : List Char → List Char
  | '/' :: rest => dropIdle rest
  | ['.'] => []
  | '.' :: '/' :: rest => dropIdle rest
  | s => s

def afterSegment? (segment path : List Char) : Option (List Char) :=
  match Text.dropOpening? segment (dropIdle path) with
  | some [] => some []
  | some ('/' :: rest) => some rest
  | _ => none

def segments (path : List Char) : List (List Char) :=
  (path.splitOn '/').filter fun s => !s.isEmpty && s != ['.']

def relative (l : Location) (path : String) : String :=
  if isAbsolute path != isAbsolute l.directory then path
  else
    match (segments l.directory.toList).foldlM (fun p s => afterSegment? s p) path.toList with
    | some rest => String.ofList (dropIdle (dropIdle rest).reverse).reverse
    | none => path

def above (path : List (List Char)) : List String :=
  match path with
  | [] => []
  | [[]] => ["/"]
  | _ :: rest => String.ofList (['/'].intercalate path.reverse) :: above rest

def directories (l : Location) : List String := above (l.directory.toList.splitOn '/').reverse

end Location

end TableApi.Config
