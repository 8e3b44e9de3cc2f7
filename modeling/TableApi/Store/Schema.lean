import TableApi.Store.Database

namespace TableApi.Store.Schema

inductive Token
  | word (s : String)
  | name (s : String)
  | string (s : String)
  | number (s : String)
  | symbol (c : Char)
deriving DecidableEq, Repr

def Token.shown : Token → String
  | word s => s
  | name s => "\"" ++ s ++ "\""
  | string s => "'" ++ s ++ "'"
  | number s => s
  | symbol c => String.singleton c

def isWordStart (c : Char) : Bool := c.isAlpha || c = '_' || 0x80 ≤ c.toNat
def isWordChar (c : Char) : Bool := isWordStart c || c.isDigit || c = '$'

def readQuoted (close : Char) : List Char → List Char × List Char
  | [] => ([], [])
  | c :: rest =>
    if c = close then
      match rest with
      | d :: tail =>
        if d = close then
          let (s, after) := readQuoted close tail
          (c :: s, after)
        else ([], d :: tail)
      | [] => ([], [])
    else
      let (s, after) := readQuoted close rest
      (c :: s, after)

def dropComment : List Char → List Char
  | '*' :: '/' :: rest => rest
  | _ :: rest => dropComment rest
  | [] => []

def next? : List Char → Option (Option Token × List Char)
  | [] => none
  | '-' :: '-' :: rest => some (none, rest.dropWhile (· != '\n'))
  | '/' :: '*' :: rest => some (none, dropComment rest)
  | c :: rest =>
    if Affinity.isPadding c then some (none, rest)
    else if c = '"' then
      let (s, after) := readQuoted '"' rest
      some (some (.name (String.ofList s)), after)
    else if c.toNat = 0x60 then
      let (s, after) := readQuoted c rest
      some (some (.name (String.ofList s)), after)
    else if c = '[' then
      some (some (.name (String.ofList (rest.takeWhile (· != ']')))),
        (rest.dropWhile (· != ']')).drop 1)
    else if c = '\'' then
      let (s, after) := readQuoted '\'' rest
      some (some (.string (String.ofList s)), after)
    else if isWordStart c then
      let word := c :: rest.takeWhile isWordChar
      some (some (.word (String.ofList word)), rest.dropWhile isWordChar)
    else if c.isDigit then
      let isPart (d : Char) : Bool := isWordChar d || d = '.'
      some (some (.number (String.ofList (c :: rest.takeWhile isPart))), rest.dropWhile isPart)
    else some (some (.symbol c), rest)

def tokensUpTo : Nat → List Char → List Token
  | 0, _ => []
  | steps + 1, s =>
    match next? s with
    | none => []
    | some (token, rest) => token.toList ++ tokensUpTo steps rest

def tokens (s : String) : List Token := tokensUpTo s.length s.toList

def isWord (w : String) : Token → Bool
  | .word s => Text.sameIgnoringCase s w
  | _ => false

def name? : Token → Option String
  | .word s | .name s | .string s => some s
  | _ => none

def splitAt (c : Char) (depth : Nat) (current : List Token) : List Token → List (List Token)
  | [] => [current.reverse]
  | t :: rest =>
    if t = .symbol c && depth = 0 then current.reverse :: splitAt c 0 [] rest
    else
      let depth :=
        if t = .symbol '(' then depth + 1 else if t = .symbol ')' then depth - 1 else depth
      splitAt c depth (t :: current) rest

def literal? : Token → Option Cell
  | .string s => some (.text s)
  | .number s => Affinity.numberOf? s
  | .word s => if Text.sameIgnoringCase s "null" then some .null else none
  | _ => none

/-- The first words of what a column or a table may have in SQL and has not here: such a text is
refused. -/
def refusedWords : List String :=
  ["as", "check", "collate", "constraint", "foreign", "generated", "on"]

inductive Position
  | type
  | key
  | risingKey
  | constraints
deriving DecidableEq, Repr

def readColumn (c : Column) (position : Position) : List Token → Except DatabaseError Column
  | [] => .ok c
  | t :: rest =>
    if refusedWords.any (isWord · t) then .error (.syntaxNear t.shown)
    else if isWord "primary" t then
      match rest with
      | k :: rest =>
        if isWord "key" k then readColumn { c with primaryKey := true } .key rest
        else .error (.syntaxNear k.shown)
      | [] => .error .incompleteInput
    else if isWord "asc" t && position = .key then readColumn c .risingKey rest
    else if isWord "autoincrement" t then
      if position != .key && position != .risingKey then .error (.syntaxNear t.shown)
      else if !c.holdsRowId then .error .misplacedAutoincrement
      else readColumn { c with autoincrement := true } .constraints rest
    else if isWord "not" t then
      match rest with
      | k :: rest =>
        if isWord "null" k then readColumn { c with notNull := true } .constraints rest
        else .error (.syntaxNear k.shown)
      | [] => .error .incompleteInput
    else if isWord "null" t then readColumn c .constraints rest
    else if isWord "unique" t then readColumn { c with unique := true } .constraints rest
    else if isWord "default" t then
      match rest with
      | .symbol '-' :: .number s :: rest =>
        readColumn { c with default := (Affinity.numberOf? ("-" ++ s)).getD .null } .constraints rest
      | k :: rest =>
        match literal? k with
        | some cell => readColumn { c with default := cell } .constraints rest
        | none => .error (.syntaxNear k.shown)
      | [] => .error .incompleteInput
    else if isWord "references" t then
      match rest with
      | table :: .symbol '(' :: column :: .symbol ')' :: rest =>
        match name? table, name? column with
        | some table, some column =>
          readColumn { c with references := some { table, column } } .constraints rest
        | _, _ => .error (.syntaxNear table.shown)
      | k :: _ => .error (.syntaxNear k.shown)
      | [] => .error .incompleteInput
    else
      match position, t with
      | .type, .symbol '(' =>
        let inside := rest.takeWhile (· != .symbol ')')
        let size := "(" ++ String.join (inside.map Token.shown) ++ ")"
        readColumn { c with type := c.type ++ size } .constraints (rest.drop (inside.length + 1))
      | .type, t =>
        match name? t with
        | some word =>
          let type := if c.type = "" then word else c.type ++ " " ++ word
          readColumn { c with type } .type rest
        | none => .error (.syntaxNear t.shown)
      | _, t => .error (.syntaxNear t.shown)
  termination_by ts => ts.length
  decreasing_by all_goals simp_wf; all_goals omega

/-- Reads the columns of a table between brackets. A constraint on several columns is refused. -/
def readColumns (tokens : List Token) : Except DatabaseError (List Column) :=
  (splitAt ',' 0 [] tokens).mapM fun
    | [] => .error .incompleteInput
    | t :: rest =>
      if ("primary" :: "unique" :: refusedWords).any (isWord · t) then .error (.syntaxNear t.shown)
      else match name? t with
      | some name => readColumn { name, type := "" } .type rest
      | none => .error (.syntaxNear t.shown)

def repeatedColumn? : List Column → Option String
  | [] => none
  | c :: rest =>
    match rest.find? fun d => Text.sameIgnoringCase c.name d.name with
    | some d => some d.name
    | none => repeatedColumn? rest

def createTable (d : Database) (t : Table) : Except DatabaseError Database :=
  match repeatedColumn? t.columns with
  | some name => .error (.duplicateColumn name)
  | none => if (d.table? t.name).isSome then .error (.tableExists t.name) else .ok (d ++ [t])

def runStatement (d : Database) : List Token → Except DatabaseError Database
  | [] => .ok d
  | t :: rest =>
    if !isWord "create" t then .error (.syntaxNear t.shown)
    else
      match rest with
      | [] => .error .incompleteInput
      | k :: rest =>
        if !isWord "table" k then .error (.syntaxNear k.shown)
        else
          match rest with
          | n :: .symbol '(' :: body =>
            match name? n, body.getLast? with
            | none, _ => .error (.syntaxNear n.shown)
            | some name, some (.symbol ')') => do
              let columns ← readColumns body.dropLast
              createTable d { name, columns }
            | _, _ => .error .incompleteInput
          | _ :: k :: _ => .error (.syntaxNear k.shown)
          | _ => .error .incompleteInput

def run (d : Database) (text : String) : Except DatabaseError Database :=
  (splitAt ';' 0 [] (tokens text)).foldlM runStatement d

end TableApi.Store.Schema
