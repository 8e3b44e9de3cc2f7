import TableApi.Json.Basic
import TableApi.Json.Numeral

namespace TableApi.Json

/-- A token that was read, or a number or string of the right form that has no value: a number out
of range, or a string with one half of a surrogate pair. -/
inductive Lexeme
  | token (t : Token)
  | hugeNumber
  | brokenString
deriving DecidableEq, Repr

/-- A piece of a string as it is written: a character, or the number of an escape. -/
inductive Piece
  | char (c : Char)
  | code (n : Nat)
deriving DecidableEq, Repr

inductive Place
  | between
  | word (owed : List Char) (token : Token)
  | number (read : List Char)
  | string (read : List Piece)
  | escaped (read : List Piece)
  | code (read : List Piece) (owed value : Nat)
deriving Repr

def isNumberChar (c : Char) : Bool :=
  c.isDigit || c = '-' || c = '+' || c = '.' || c = 'e' || c = 'E'

def numberLexeme? (read : List Char) : Option Lexeme :=
  (Numeral.parts? read.reverse).map fun parts =>
    match parts.value? with
    | some (.inl i) => .token (.int i)
    | some (.inr x) => .token (.real x)
    | none => .hugeNumber

def isHighSurrogate (n : Nat) : Bool := 0xD800 ≤ n && n < 0xDC00
def isLowSurrogate (n : Nat) : Bool := 0xDC00 ≤ n && n < 0xE000

/-- The character of a surrogate pair. -/
def paired (high low : Nat) : Char :=
  Char.ofNat (0x10000 + (high - 0xD800) * 0x400 + (low - 0xDC00))

/-- The characters of pieces, last first, before those that are done. Both halves of a pair stand
side by side. -/
def characters? (done : List Char) : List Piece → Option (List Char)
  | [] => some done
  | .char c :: rest => characters? (c :: done) rest
  | .code n :: rest =>
    if isHighSurrogate n then none
    else if isLowSurrogate n then
      match rest with
      | .code high :: rest =>
        if isHighSurrogate high then characters? (paired high n :: done) rest else none
      | _ => none
    else characters? (Char.ofNat n :: done) rest

def stringLexeme (read : List Piece) : Lexeme :=
  match characters? [] read with
  | some s => .token (.str (String.ofList s))
  | none => .brokenString

def start (c : Char) (found : List Lexeme) : Option (Place × List Lexeme) :=
  match c with
  | ' ' | '\t' | '\n' | '\r' => some (.between, found)
  | '{' => some (.between, .token .openBrace :: found)
  | '}' => some (.between, .token .closeBrace :: found)
  | '[' => some (.between, .token .openBracket :: found)
  | ']' => some (.between, .token .closeBracket :: found)
  | ':' => some (.between, .token .colon :: found)
  | ',' => some (.between, .token .comma :: found)
  | 'n' => some (.word ['u', 'l', 'l'] .null, found)
  | 't' => some (.word ['r', 'u', 'e'] (.bool true), found)
  | 'f' => some (.word ['a', 'l', 's', 'e'] (.bool false), found)
  | '"' => some (.string [], found)
  | c => if c.isDigit || c = '-' then some (.number [c], found) else none

def unescape? : Char → Option Char
  | '"' => some '"'
  | '\\' => some '\\'
  | '/' => some '/'
  | 'b' => some '\x08'
  | 'f' => some '\x0c'
  | 'n' => some '\n'
  | 'r' => some '\r'
  | 't' => some '\t'
  | _ => none

def step (c : Char) (place : Place) (found : List Lexeme) : Option (Place × List Lexeme) :=
  match place with
  | .between => start c found
  | .word [] token => start c (.token token :: found)
  | .word [x] token => if c = x then some (.between, .token token :: found) else none
  | .word (x :: rest) token => if c = x then some (.word rest token, found) else none
  | .number read =>
    if isNumberChar c then some (.number (c :: read), found)
    else
      match numberLexeme? read with
      | some lexeme => start c (lexeme :: found)
      | none => none
  | .string read =>
    if c = '"' then some (.between, stringLexeme read :: found)
    else if c = '\\' then some (.escaped read, found)
    else if c.toNat < 32 then none
    else some (.string (.char c :: read), found)
  | .escaped read =>
    if c = 'u' then some (.code read 4 0, found)
    else (unescape? c).map fun x => (.string (.char x :: read), found)
  | .code read owed value =>
    (Text.hexValue? c).map fun digit =>
      let value := value * 16 + digit
      if owed ≤ 1 then (.string (.code value :: read), found)
      else (.code read (owed - 1) value, found)

def finish (place : Place) (found : List Lexeme) : Option (List Lexeme) :=
  match place with
  | .between => some found
  | .number read => (numberLexeme? read).map fun lexeme => lexeme :: found
  | _ => none

def scanFrom (place : Place) (found : List Lexeme) : List Char → Option (List Lexeme)
  | [] => finish place found
  | c :: rest =>
    match step c place found with
    | some (place, found) => scanFrom place found rest
    | none => none

def scan (s : List Char) : Option (List Lexeme) := (scanFrom .between [] s).map List.reverse

end TableApi.Json
