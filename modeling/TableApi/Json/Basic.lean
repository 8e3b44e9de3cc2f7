import TableApi.Entries
import TableApi.Number.Layout
import TableApi.Text.Cut
import TableApi.Text.Digits

namespace TableApi

/-- A JSON value. An object keeps its members in order; integers of 64 bits, signed or unsigned,
are apart from all other numbers. -/
inductive Json
  | null
  | bool (b : Bool)
  | int (i : Int)
  | real (x : Binary64)
  | str (s : String)
  | arr (items : List Json)
  | obj (members : List (String × Json))
deriving BEq, Repr, Inhabited

abbrev Record := Entries Json

namespace Json

inductive Token
  | openBrace | closeBrace | openBracket | closeBracket | colon | comma
  | null | bool (b : Bool)
  | int (i : Int)
  | real (x : Binary64)
  | str (s : String)
deriving DecidableEq, Repr

/-- A character inside a string: quotes, backslashes and controls are escaped, all else is
literal. -/
def escape (c : Char) : List Char :=
  if c = '"' then ['\\', '"']
  else if c = '\\' then ['\\', '\\']
  else if c = '\n' then ['\\', 'n']
  else if c = '\r' then ['\\', 'r']
  else if c = '\t' then ['\\', 't']
  else if c = '\x08' then ['\\', 'b']
  else if c = '\x0c' then ['\\', 'f']
  else if c.toNat < 32 then
    ['\\', 'u', '0', '0', Text.hexDigit (c.toNat / 16), Text.hexDigit (c.toNat % 16)]
  else [c]

def quoted (s : String) : List Char := '"' :: (s.toList.flatMap escape ++ ['"'])

def Token.text : Token → List Char
  | openBrace => ['{']
  | closeBrace => ['}']
  | openBracket => ['[']
  | closeBracket => [']']
  | colon => [':']
  | comma => [',']
  | null => "null".toList
  | bool true => "true".toList
  | bool false => "false".toList
  | int i => (toString i).toList
  | real x => x.toJsonText.toList
  | str s => quoted s

mutual

def tokens : Json → List Token
  | null => [.null]
  | bool b => [.bool b]
  | int i => [.int i]
  | real x => [.real x]
  | str s => [.str s]
  | arr items => .openBracket :: (itemTokens items ++ [.closeBracket])
  | obj members => .openBrace :: (memberTokens members ++ [.closeBrace])

def itemTokens : List Json → List Token
  | [] => []
  | [v] => tokens v
  | v :: rest => tokens v ++ .comma :: itemTokens rest

def memberTokens : List (String × Json) → List Token
  | [] => []
  | [(k, v)] => .str k :: .colon :: tokens v
  | (k, v) :: rest => .str k :: .colon :: (tokens v ++ .comma :: memberTokens rest)

end

def render (v : Json) : String := String.ofList (v.tokens.flatMap Token.text)

def strings (texts : List String) : Json := arr (texts.map str)

def nat (n : Nat) : Json := int n

def ofBinary64 (x : Binary64) : Json := if x.isFinite then real x else null

mutual

def indented (margin : String) : Json → String
  | arr [] => "[]"
  | arr items =>
    "[\n" ++ Text.join ",\n" (itemLines (margin ++ "  ") items) ++ "\n" ++ margin ++ "]"
  | obj [] => "\x7b\x7d"
  | obj members =>
    "\x7b\n" ++ Text.join ",\n" (memberLines (margin ++ "  ") members) ++ "\n" ++ margin ++ "\x7d"
  | v => v.render

def itemLines (margin : String) : List Json → List String
  | [] => []
  | v :: rest => (margin ++ indented margin v) :: itemLines margin rest

def memberLines (margin : String) : List (String × Json) → List String
  | [] => []
  | (k, v) :: rest =>
    (margin ++ String.ofList (quoted k) ++ ": " ++ indented margin v) :: memberLines margin rest

end

def renderIndented (v : Json) : String := v.indented ""

end Json

end TableApi
