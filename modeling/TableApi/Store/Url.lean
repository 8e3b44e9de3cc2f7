import TableApi.Store.Error
import TableApi.Text.Cut
import TableApi.Text.Percent

namespace TableApi.Store

inductive UrlError
  | unknownValue (parameter value : String)
  | unknownParameter (parameter : String)
  | illFormedPath
deriving DecidableEq, Repr

def shownValue (s : String) : String :=
  let escape (c : Char) : List Char :=
    match c with
    | '"' => ['\\', '"']
    | '\\' => ['\\', '\\']
    | '\n' => ['\\', 'n']
    | '\r' => ['\\', 'r']
    | '\t' => ['\\', 't']
    | '\x00' => ['\\', '0']
    | c => [c]
  "\"" ++ String.ofList (s.toList.flatMap escape) ++ "\""

def UrlError.message : UrlError → String
  | unknownValue parameter value =>
    "unknown value " ++ shownValue value ++ " for \x60" ++ parameter ++ "\x60"
  | unknownParameter parameter =>
    "unknown query parameter \x60" ++ parameter ++ "\x60 while parsing connection URL"
  | illFormedPath => "the path is not UTF-8"

/-- Where a database is. An empty path is a file that lasts as long as the connection. -/
structure Url where
  path : String
  inMemory : Bool := false
  readOnly : Bool := false
deriving DecidableEq, Repr

namespace Url

def dropOpenings (opening : List Char) (s : List Char) : List Char :=
  match Text.dropOpening? opening s with
  | some rest => if rest.length < s.length then dropOpenings opening rest else s
  | none => s
termination_by s.length

def memoryName : String := ":memory:"

def withParameter (u : Url) (p : String × String) : Except UrlError Url :=
  let oneOf (values : List String) : Except UrlError Url :=
    if values.contains p.2 then .ok u else .error (.unknownValue p.1 p.2)
  match p.1 with
  | "mode" =>
    match p.2 with
    | "ro" => .ok { u with readOnly := true }
    | "memory" => .ok { u with inMemory := true }
    | _ => oneOf ["rw", "rwc"]
  | "cache" => oneOf ["private", "shared"]
  | "immutable" => oneOf ["true", "1", "false", "0"]
  | "vfs" => .ok u
  | name => .error (.unknownParameter name)

def read (s : String) : Except UrlError Url := do
  let rest := dropOpenings "sqlite:".toList (dropOpenings "sqlite://".toList s.toList)
  let name := rest.takeWhile (· != '?')
  let parameters := (rest.dropWhile (· != '?')).drop 1
  let start : Url ←
    if String.ofList name = memoryName then pure { path := "", inMemory := true }
    else
      match Text.Utf8.decode? (Text.Percent.decode (Text.Utf8.encode name)) with
      | some path => pure { path }
      | none => throw .illFormedPath
  (Text.Percent.formPairs (Text.Utf8.encode parameters)).foldlM withParameter start

def namesMemory (s : String) : Bool :=
  Text.anyTail (memoryName.toList.isPrefixOf ·) s.toList ||
    Text.anyTail ("mode=memory".toList.isPrefixOf ·) s.toList

end Url

end TableApi.Store
