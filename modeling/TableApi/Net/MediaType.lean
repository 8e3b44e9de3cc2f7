import TableApi.Text.Blank
import TableApi.Text.Cut

namespace TableApi.Net

structure MediaType where
  type : String
  subtype : String
  /-- What follows the last plus sign of the subtype. -/
  suffix : Option String
deriving DecidableEq, Repr

namespace MediaType

def isTokenChar (c : Char) : Bool := c.isAlphanum || "!#$%&'*+-.^_\x60|~".toList.contains c

def isQuotedChar (c : Char) : Bool := 31 < c.toNat && c.toNat != 127

/-- What follows a quoted value, given the text after the opening quote. The value has at least one
character, so a quote that comes first belongs to it. -/
def afterQuoted? : List Char → Option (List Char)
  | [] => none
  | first :: rest =>
    match isQuotedChar first, rest.dropWhile fun c => isQuotedChar c && c != '"' with
    | true, '"' :: after => some after
    | _, _ => none

/-- Reads what follows the semicolon before a parameter: blanks, a name, an equals sign and a
value, which may be quoted; then nothing or a further semicolon. -/
def areParameters : Nat → List Char → Bool
  | 0, _ => false
  | steps + 1, s =>
    let s := s.dropWhile (· = ' ')
    if s.isEmpty then true
    else
      let name := s.takeWhile fun c => isTokenChar c
      match s.drop name.length with
      | '=' :: '"' :: rest =>
        !name.isEmpty &&
          match (afterQuoted? rest).map (List.dropWhile (· = ' ')) with
          | some [] => true
          | some (';' :: more) => areParameters steps more
          | _ => false
      | '=' :: rest =>
        let value := rest.takeWhile isTokenChar
        !name.isEmpty &&
          match rest.drop value.length with
          | [] => true
          | ';' :: more => !value.isEmpty && areParameters steps more
          | _ => false
      | _ => false

def read? (s : String) : Option MediaType :=
  let s := (Text.lower s).toList
  let type := s.takeWhile isTokenChar
  match s.drop type.length with
  | '/' :: rest =>
    let subtype := rest.takeWhile isTokenChar
    let complete := match rest.drop subtype.length with
      | [] => true
      | ';' :: more => !subtype.isEmpty && areParameters (more.length + 1) more
      | _ => false
    if type.isEmpty || !complete then none
    else
      match Text.cutAtLast? '+' subtype with
      | some (c :: before, suffix) =>
        some { type := String.ofList type, subtype := String.ofList (c :: before),
               suffix := some (String.ofList suffix) }
      | _ =>
        some { type := String.ofList type, subtype := String.ofList subtype, suffix := none }
  | _ => none

def isJson (t : MediaType) : Bool :=
  t.type = "application" && (t.subtype = "json" || t.suffix = some "json")

end MediaType

end TableApi.Net
