import TableApi.Command.Line
import TableApi.Text.Alphanumeric
import TableApi.Text.Blank

/-!
Files of environment variables: lines `NAME=value`, with quotes, escapes, comments and references
to other variables. A variable that is already set keeps its value, and the first line that cannot
be read ends the reading.
-/

namespace TableApi.Command.EnvFile

/-- Whether a line goes on in the next one: inside quotes, after a backslash or after a blank. -/
inductive Quoting
  | complete
  | blank
  | escape
  | strong | strongEscape
  | weak | weakEscape
deriving DecidableEq, Repr

/-- Outside of quotes. A comment begins only after a blank; it is not looked at here. -/
def Quoting.ofPlain (c : Char) (afterBlank : Bool) : Quoting :=
  if c = '\\' then escape
  else if c = '"' then weak
  else if c = '\'' then strong
  else if !afterBlank && Text.isBlank c && c != '\n' && c != '\r' then blank
  else complete

def Quoting.step (q : Quoting) (c : Char) : Quoting :=
  match q with
  | complete => ofPlain c false
  | blank => ofPlain c true
  | escape => complete
  | strong => if c = '\\' then strongEscape else if c = '\'' then complete else strong
  | strongEscape => strong
  | weak => if c = '\\' then weakEscape else if c = '"' then complete else weak
  | weakEscape => weak

/-- Reads one line of the file: what stands before a comment, when there is one, or how the line
ends. -/
def readLine (q : Quoting) (before : List Char) : List Char → (List Char) ⊕ Quoting
  | [] => .inr q
  | c :: rest =>
    if q = .blank && c = '#' then .inl before.reverse
    else readLine (q.step c) (c :: before) rest

def dropNewline (s : List Char) : List Char :=
  match Text.dropEnding? ['\n'] s with
  | some s => (Text.dropEnding? ['\r'] s).getD s
  | none => s

def fileLines (current : List Char) : List Char → List (List Char)
  | [] => if current.isEmpty then [] else [current.reverse]
  | c :: rest =>
    if c = '\n' then (c :: current).reverse :: fileLines [] rest else fileLines (c :: current) rest

/-- Joins lines that go on; none stands for a last one that never ends. -/
def joinLines (held : List Char) (q : Quoting) : List (List Char) → List (Option (List Char))
  | [] => if q = .complete then [] else [none]
  | line :: rest =>
    let all := held ++ line
    if (Text.trimStart all).head? = some '#' then some [] :: joinLines [] .complete rest
    else
      match readLine q [] line with
      | .inl before => some (held ++ before) :: joinLines [] .complete rest
      | .inr .complete => some (dropNewline all) :: joinLines [] .complete rest
      | .inr q => joinLines all q rest

inductive Reference
  | bare (name : List Char)
  | braced (name : List Char)
deriving DecidableEq, Repr

structure ValueState where
  strong : Bool := false
  weak : Bool := false
  escaped : Bool := false
  reference : Option Reference := none
  output : List Char := []

def lookUp (env earlier : Environment) (name : List Char) : List Char :=
  let name := String.ofList name.reverse
  (((env.get? name).or (earlier.get? name)).getD "").toList

def ValueState.refer (s : ValueState) (look : List Char → List Char) (name : List Char) :
    ValueState :=
  { s with reference := none, output := (look name).reverse ++ s.output }

def ValueState.push (s : ValueState) (c : Char) : ValueState := { s with output := c :: s.output }

/-- A character inside a reference. One that ends a bare reference stands for itself, also a quote;
a dollar sign begins the next reference. -/
def ValueState.stepReference (s : ValueState) (look : List Char → List Char) (r : Reference)
    (c : Char) : ValueState :=
  match r with
  | .bare name =>
    if Text.isAlphanumeric c then { s with reference := some (.bare (c :: name)) }
    else if c = '{' && name.isEmpty then { s with reference := some (.braced []) }
    else
      let s := s.refer look name
      if c = '$' then { s with reference := some (.bare []) } else s.push c
  | .braced name =>
    if c = '}' then s.refer look name else { s with reference := some (.braced (c :: name)) }

def unescape? : Char → Option Char
  | '\\' => some '\\'
  | '\'' => some '\''
  | '"' => some '"'
  | '$' => some '$'
  | ' ' => some ' '
  | 'n' => some '\n'
  | _ => none

def ValueState.finish (s : ValueState) (look : List Char → List Char) : Option String :=
  if s.strong || s.weak then none
  else
    match s.reference with
    | some (.braced _) => none
    | some (.bare name) => some (String.ofList (s.refer look name).output.reverse)
    | none => some (String.ofList s.output.reverse)

def isOver (rest : List Char) : Bool :=
  match rest.dropWhile fun c => c = ' ' || c = '\t' with
  | [] => true
  | c :: _ => c = '#'

def readValue (look : List Char → List Char) (s : ValueState) : List Char → Option String
  | [] => s.finish look
  | c :: rest =>
    if s.escaped then
      match unescape? c with
      | some x => readValue look { s.push x with escaped := false } rest
      | none => none
    else if s.strong then
      readValue look (if c = '\'' then { s with strong := false } else s.push c) rest
    else
      match s.reference with
      | some r => readValue look (s.stepReference look r c) rest
      | none =>
        if c = '$' then readValue look { s with reference := some (.bare []) } rest
        else if c = '\\' then readValue look { s with escaped := true } rest
        else if s.weak then
          readValue look (if c = '"' then { s with weak := false } else s.push c) rest
        else if c = '\'' then readValue look { s with strong := true } rest
        else if c = '"' then readValue look { s with weak := true } rest
        else if c = ' ' || c = '\t' then if isOver rest then s.finish look else none
        else readValue look (s.push c) rest

def isNameStart (c : Char) : Bool := c.isAlpha || c = '_'
def isNameChar (c : Char) : Bool := c.isAlphanum || c = '_' || c = '.'

def readName? (s : List Char) : Option (List Char × List Char) :=
  if s.head?.any isNameStart then
    some (s.takeWhile isNameChar, Text.trimStart (s.dropWhile isNameChar))
  else none

def afterEquals? (s : List Char) : Option (List Char) := Text.dropOpening? ['='] s

/-- The name that a line sets and the text of its value. The word `export` may stand before it. -/
def assignment? (s : List Char) : Option (String × List Char) :=
  match readName? s with
  | none => none
  | some (name, rest) =>
    match afterEquals? rest with
    | some value => some (String.ofList name, Text.trimStart value)
    | none =>
      if name = "export".toList then
        (readName? rest).bind fun (name, rest) =>
          (afterEquals? rest).map fun value => (String.ofList name, Text.trimStart value)
      else none

structure Reading where
  env : Environment
  earlier : Environment := []

def Reading.set (r : Reading) (name value : String) : Reading :=
  { env := if r.env.has name then r.env else r.env.put name value,
    earlier := r.earlier.put name value }

def Reading.take (r : Reading) (line : List Char) : Option Reading :=
  let line := Text.trimStart (Text.trimEnd line)
  if line.isEmpty || line.head? = some '#' then some r
  else
    match assignment? line with
    | none => none
    | some (name, value) =>
      if value.isEmpty || value.head? = some '#' then some (r.set name "")
      else (readValue (lookUp r.env r.earlier) {} value).map fun v => r.set name v

def Reading.takeAll (r : Reading) : List (Option (List Char)) → Reading
  | [] => r
  | none :: _ => r
  | some line :: rest =>
    match r.take line with
    | some r => r.takeAll rest
    | none => r

def read (env : Environment) (text : String) : Environment :=
  let text := (Text.dropOpening? ['\uFEFF'] text.toList).getD text.toList
  (Reading.takeAll { env } (joinLines [] .complete (fileLines [] text))).env

def words (keep : Char → Bool) (text : String) : List String :=
  ((text.toList.splitOnP fun c => !keep c).filter fun w => !w.isEmpty).map String.ofList

def bracedNames : List Char → List String
  | '$' :: '{' :: rest => String.ofList (rest.takeWhile (· != '}')) :: bracedNames rest
  | _ :: rest => bracedNames rest
  | [] => []

def names (text : String) : List String :=
  words isNameChar text ++ words Text.isAlphanumeric text ++ bracedNames text.toList

end TableApi.Command.EnvFile
