import TableApi.Net.Address
import TableApi.Net.Domain
import TableApi.Text.Blank
import TableApi.Text.Percent

namespace TableApi.Net.Url

def isEdge (c : Char) : Bool := c.toNat ≤ 0x20

def isSkipped (c : Char) : Bool := c = '\t' || c = '\n' || c = '\r'

def clean (s : List Char) : List Char :=
  (((s.dropWhile isEdge).reverse.dropWhile isEdge).reverse).filter (!isSkipped ·)

/-- What a scheme says about the rest: a name of a host must follow, or a path of a file system, or
anything. -/
inductive Scheme
  | network
  | file
  | other
deriving DecidableEq, Repr

def Scheme.ofName (name : String) : Scheme :=
  if ["http", "https", "ws", "wss", "ftp"].contains name then .network
  else if name = "file" then .file
  else .other

def isSchemeChar (c : Char) : Bool := c.isAlphanum || c = '+' || c = '-' || c = '.'

def splitScheme? (s : List Char) : Option (Scheme × List Char) :=
  match Text.cutAt? ':' s with
  | some (name, rest) =>
    if name.head?.any Char.isAlpha && name.all isSchemeChar then
      some (.ofName (Text.lower (String.ofList name)), rest)
    else none
  | none => none

def isSlash (c : Char) : Bool := c = '/' || c = '\\'

/-- What ends the part of a URL that names its host; a backslash only where a host must stand. -/
def endsAuthority (scheme : Scheme) (c : Char) : Bool :=
  c = '/' || c = '?' || c = '#' || (c = '\\' && scheme != .other)

def isDenied (c : Char) : Bool :=
  c.toNat ≤ 0x20 || c.toNat = 0x7F || "%#/:<>?@[\\]^|".toList.contains c

def isForbidden (c : Char) : Bool :=
  c = '\x00' || isSkipped c || " #/:<>?@[\\]^|".toList.contains c

/-- The value of a numeral in a host: hexadecimal after `0x`, octal after `0`, else decimal. -/
def numeral? (s : List Char) : Option Nat :=
  let read (base : Nat) (digits : List Char) : Option Nat :=
    if digits.all (fun c => (Text.hexValue? c).any (· < base)) then
      some (digits.foldl (fun n c => base * n + (Text.hexValue? c).getD 0) 0)
    else none
  match s with
  | [] => none
  | '0' :: 'x' :: digits => read 16 digits
  | '0' :: 'X' :: digits => read 16 digits
  | ['0'] => some 0
  | '0' :: digits => read 8 digits
  | digits => read 10 digits

def hostParts (host : List Char) : List (List Char) :=
  let parts := host.splitOn '.'
  if parts.getLast? = some [] then parts.dropLast else parts

def endsInNumber (host : List Char) : Bool :=
  (hostParts host).getLast?.any fun last =>
    (!last.isEmpty && last.all Char.isDigit) || (numeral? last).isSome

/-- One to four numbers, of which the last one fills the octets that the others leave. -/
def isNumericAddress (host : List Char) : Bool :=
  match (hostParts host).mapM numeral? with
  | none => false
  | some numbers =>
    let before := numbers.dropLast
    before.length ≤ 3 && before.all (· ≤ 255) &&
      numbers.getLast?.any fun last => last < Nat.pow 256 (4 - before.length)

def bracketed? (host : List Char) : Option (Option (List Char)) :=
  match host with
  | '[' :: rest => some (if rest.getLast? = some ']' then some rest.dropLast else none)
  | _ => none

def isHost (host : List Char) : Bool :=
  match bracketed? host with
  | some inside => inside.any Address.isV6
  | none =>
    match Text.Utf8.decode? (Text.Percent.decode (Text.Utf8.encode host)) with
    | none => false
    | some text =>
      match Domain.toAscii? isDenied text.toList with
      | none => false
      | some ascii => !ascii.isEmpty && (!endsInNumber ascii || isNumericAddress ascii)

def isOpaqueHost (host : List Char) : Bool :=
  match bracketed? host with
  | some inside => inside.any Address.isV6
  | none => !host.any isForbidden

def spanHost (inside : Bool) : List Char → List Char × List Char
  | [] => ([], [])
  | c :: rest =>
    if c = ':' && !inside then ([], c :: rest)
    else
      let (host, tail) := spanHost (c = '[' || (inside && c != ']')) rest
      (c :: host, tail)

/-- What may follow a host: nothing, or a colon with a port of 16 bits, possibly empty. A port ends
at a backslash in every scheme. -/
def isPort (s : List Char) : Bool :=
  match s with
  | [] => true
  | ':' :: rest =>
    let digits := rest.takeWhile Char.isDigit
    Text.digitsValue digits ≤ 65535 && (rest.drop digits.length).head?.all (· = '\\')
  | _ => false

/-- Whether something is written before the last `@`: a lone colon is an empty user with an empty
password. -/
def hasUser (user : List Char) : Bool := !user.isEmpty && user != [':']

/-- The part between the slashes and the path: a user, a host and a port. A lone `@` is no
authority, unless nothing follows it. -/
def isAuthority (scheme : Scheme) (s : List Char) : Bool :=
  let authority := s.takeWhile (!endsAuthority scheme ·)
  let (user, rest) := (Text.cutAtLast? '@' authority).getD ([], authority)
  let (host, port) := spanHost false rest
  (authority != ['@'] || s = authority) && isPort port &&
    (if scheme = .network then isHost host
     else isOpaqueHost host && (!host.isEmpty || (port.isEmpty && !hasUser user)))

def isDriveLetter (s : List Char) : Bool :=
  match s with
  | [letter, c] => letter.isAlpha && (c = ':' || c = '|')
  | _ => false

def isFileRest (s : List Char) : Bool :=
  match s with
  | a :: b :: rest =>
    let host := rest.takeWhile (!endsAuthority .file ·)
    !(isSlash a && isSlash b) || host.isEmpty || isDriveLetter host || isHost host
  | _ => true

def isUrl (s : String) : Bool :=
  match splitScheme? (clean s.toList) with
  | none => false
  | some (.network, rest) => isAuthority .network (rest.dropWhile isSlash)
  | some (.file, rest) => isFileRest rest
  | some (.other, '/' :: '/' :: rest) => isAuthority .other rest
  | some (.other, _) => true

end TableApi.Net.Url
