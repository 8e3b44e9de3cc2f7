import TableApi.Json.Scan

/-!
A JSON text as a tree of what is written in it: members keep every repetition of a name, containers
stand in one another to any depth, and a number or string need not have a value. The tree is built
by a machine that takes one lexeme at a time and keeps the open containers.
-/

namespace TableApi.Json

/-- A written value; `none` stands for a number, a string or a name without a value. -/
inductive Node
  | leaf (v : Option Json)
  | arr (items : List Node)
  | obj (members : List (Option String × Node))
deriving Inhabited

namespace Node

/-- An open container that waits for a value: an array with its items so far, or an object with
its members so far and the name of the value to come. What is done stands last first. -/
inductive Frame
  | item (done : List Node)
  | member (done : List (Option String × Node)) (name : Option String)

inductive Expect
  | value (open_ : List Frame)
  | firstItem (open_ : List Frame)
  | firstName (open_ : List Frame)
  | nextName (done : List (Option String × Node)) (open_ : List Frame)
  | colon (done : List (Option String × Node)) (name : Option String) (open_ : List Frame)
  | after (n : Node) (open_ : List Frame)

def ofLexeme? : Lexeme → Option Node
  | .token .null => some (leaf (some .null))
  | .token (.bool b) => some (leaf (some (.bool b)))
  | .token (.int i) => some (leaf (some (.int i)))
  | .token (.real x) => some (leaf (some (.real x)))
  | .token (.str s) => some (leaf (some (.str s)))
  | .hugeNumber | .brokenString => some (leaf none)
  | _ => none

def name? : Lexeme → Option (Option String)
  | .token (.str s) => some (some s)
  | .brokenString => some none
  | _ => none

def begin? (open_ : List Frame) (x : Lexeme) : Option Expect :=
  match x with
  | .token .openBracket => some (.firstItem open_)
  | .token .openBrace => some (.firstName open_)
  | x => (ofLexeme? x).map fun n => .after n open_

def accept (e : Expect) (x : Lexeme) : Option Expect :=
  match e, x with
  | .value o, x => begin? o x
  | .firstItem o, .token .closeBracket => some (.after (.arr []) o)
  | .firstItem o, x => begin? (.item [] :: o) x
  | .firstName o, .token .closeBrace => some (.after (.obj []) o)
  | .firstName o, x => (name? x).map fun k => .colon [] k o
  | .nextName done o, x => (name? x).map fun k => .colon done k o
  | .colon done k o, .token .colon => some (.value (.member done k :: o))
  | .after n (.item done :: o), .token .comma => some (.value (.item (n :: done) :: o))
  | .after n (.item done :: o), .token .closeBracket => some (.after (.arr (n :: done).reverse) o)
  | .after n (.member done k :: o), .token .comma => some (.nextName ((k, n) :: done) o)
  | .after n (.member done k :: o), .token .closeBrace =>
    some (.after (.obj ((k, n) :: done).reverse) o)
  | _, _ => none

def acceptAll (e : Expect) : List Lexeme → Option Expect
  | [] => some e
  | x :: rest =>
    match accept e x with
    | some e => acceptAll e rest
    | none => none

def ofLexemes? (lexemes : List Lexeme) : Option Node :=
  match acceptAll (.value []) lexemes with
  | some (.after n []) => some n
  | _ => none

def read? (s : String) : Option Node :=
  match scan s.toList with
  | some lexemes => ofLexemes? lexemes
  | none => none

mutual

/-- The value that is written, if there is one and its containers stand in one another no deeper
than `room`. -/
def value? (room : Nat) : Node → Option Json
  | leaf v => v
  | arr items =>
    match room with
    | 0 => none
    | room + 1 => (values? room [] items).map .arr
  | obj members =>
    match room with
    | 0 => none
    | room + 1 => (record? room [] members).map .obj

def values? (room : Nat) (done : List Json) : List Node → Option (List Json)
  | [] => some done.reverse
  | n :: rest =>
    match value? room n with
    | some v => values? room (v :: done) rest
    | none => none

def record? (room : Nat) (done : Record) : List (Option String × Node) → Option Record
  | [] => some done
  | (some k, n) :: rest =>
    match value? room n with
    | some v => record? room (done.put k v) rest
    | none => none
  | (none, _) :: _ => none

end

end Node

end TableApi.Json
