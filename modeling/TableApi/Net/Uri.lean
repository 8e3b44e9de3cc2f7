import TableApi.Text.Blank
import TableApi.Text.Cut
import TableApi.Text.Percent

namespace TableApi.Net

inductive UriError
  | empty
  | tooLong
  | invalidFormat
  | invalidCharacter
  | invalidAuthority
  | schemeTooLong
deriving DecidableEq, Repr

def UriError.message : UriError → String
  | .empty => "empty string"
  | .tooLong => "uri too long"
  | .invalidFormat => "invalid format"
  | .invalidCharacter => "invalid uri character"
  | .invalidAuthority => "invalid authority"
  | .schemeTooLong => "scheme too long"

structure Uri where
  path : String
  query : Option String
deriving DecidableEq, Repr

namespace Uri

def maxLength : Nat := 65534
def maxScheme : Nat := 64

def isPathChar (c : Char) : Bool :=
  let n := c.toNat
  n == 0x21 || n == 0x22 || (0x24 ≤ n && n ≤ 0x3B) || n == 0x3D || (0x40 ≤ n && n ≤ 0x5F) ||
    (0x61 ≤ n && n ≤ 0x7E) || 0x80 ≤ n

def isQueryChar (c : Char) : Bool :=
  let n := c.toNat
  n == 0x21 || (0x24 ≤ n && n ≤ 0x3B) || n == 0x3D || (0x3F ≤ n && n ≤ 0x7E) || 0x80 ≤ n

def readPath (s : List Char) : Except UriError Uri :=
  let path := s.takeWhile fun c => c != '?' && c != '#'
  let rest := s.dropWhile fun c => c != '?' && c != '#'
  if !path.all isPathChar then .error .invalidCharacter
  else
    let text := if path.isEmpty then "/" else String.ofList path
    match rest with
    | '?' :: tail =>
      let query := tail.takeWhile (· != '#')
      if query.all isQueryChar then .ok { path := text, query := some (String.ofList query) }
      else .error .invalidCharacter
    | _ => .ok { path := text, query := none }

def isAuthorityEnd (c : Char) : Bool := c = '/' || c = '?' || c = '#'

def isAuthorityChar (c : Char) : Bool :=
  c.isAlphanum || "!$&'()*+,-.:;=@[]_~".toList.contains c

structure Authority where
  colons : Nat := 0
  opened : Bool := false
  closed : Bool := false
  percent : Bool := false
  endsInAt : Bool := false

/-- One character of an authority. Colons and escapes before an `@` or inside brackets are not
those of the host. -/
def Authority.step (a : Authority) (c : Char) : Except UriError Authority :=
  let a := { a with endsInAt := false }
  if c = '%' then .ok { a with percent := true }
  else if !isAuthorityChar c then .error .invalidCharacter
  else if c = ':' then
    if 8 ≤ a.colons then .error .invalidAuthority else .ok { a with colons := a.colons + 1 }
  else if c = '[' then
    if a.percent || a.opened then .error .invalidAuthority else .ok { a with opened := true }
  else if c = ']' then
    if !a.opened || a.closed then .error .invalidAuthority
    else .ok { a with closed := true, colons := 0, percent := false }
  else if c = '@' then .ok { a with colons := 0, percent := false, endsInAt := true }
  else .ok a

def checkAuthority (s : List Char) : Except UriError Unit := do
  let a ← s.foldlM Authority.step {}
  if a.opened != a.closed || 1 < a.colons || a.endsInAt || a.percent then
    throw .invalidAuthority

def isSchemeChar (c : Char) : Bool := c.isAlphanum || c = '+' || c = '-' || c = '.'

def afterScheme? (s : List Char) : Except UriError (Option (List Char)) :=
  let scheme := s.takeWhile isSchemeChar
  match Text.dropOpening? "://".toList (s.dropWhile isSchemeChar) with
  | none => .ok none
  | some rest =>
    if scheme.isEmpty && rest.isEmpty then .ok none
    else if maxScheme < scheme.length then .error .schemeTooLong
    else .ok (some rest)

/-- Reads what is not a path: a whole URI, or an authority alone, which has no path. -/
def readFull (s : List Char) : Except UriError Uri := do
  match ← afterScheme? s with
  | none =>
    checkAuthority (s.takeWhile (!isAuthorityEnd ·))
    if s.any isAuthorityEnd then throw (if s.length = 1 then .invalidCharacter else .invalidFormat)
    return { path := "", query := none }
  | some rest =>
    if rest.isEmpty then throw .empty
    checkAuthority (rest.takeWhile (!isAuthorityEnd ·))
    if rest.head?.any isAuthorityEnd then throw .invalidFormat
    readPath (rest.dropWhile (!isAuthorityEnd ·))

def read (s : String) : Except UriError Uri :=
  if maxLength < s.utf8ByteSize then .error .tooLong
  else
    match s.toList with
    | [] => .error .empty
    | ['*'] => .ok { path := "*", query := none }
    | '/' :: rest => readPath ('/' :: rest)
    | target => readFull target

def pairs (u : Uri) : List (String × String) :=
  Text.Percent.formPairs (Text.Utf8.encode (u.query.getD "").toList)

end Uri

end TableApi.Net
