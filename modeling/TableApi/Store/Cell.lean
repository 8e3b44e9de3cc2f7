import TableApi.Json.Basic
import TableApi.Number.Decimal
import TableApi.Sql.Value
import TableApi.Text.Base64
import TableApi.Text.Blank
import TableApi.Text.Cut
import TableApi.Text.Utf8

namespace TableApi.Store

inductive Cell
  | null
  | integer (i : Int)
  | real (x : Binary64)
  | text (s : String)
  | blob (bytes : List UInt8)
deriving DecidableEq, Repr, Inhabited

namespace Cell

def ofValue : Sql.Value → Cell
  | .null => .null
  | .integer i => .integer i
  | .real x => .real x
  | .text s => .text s

/-- A stored value as records show it: octets in Base64, and null for what JSON cannot hold. -/
def json : Cell → Json
  | .null => .null
  | .integer i => .int i
  | .real x => .ofBinary64 x
  | .text s => .str s
  | .blob bytes => .str (Text.Base64.encode bytes)

/-- The characters that patterns are matched with; they end at the first NUL. -/
def chars? : Cell → Option (List Char)
  | .null => none
  | .integer i => some (toString i).toList
  | .real x => some x.toColumnText.toList
  | .text s => some (s.toList.takeWhile (· != '\x00'))
  | .blob bytes => some ((Text.Utf8.decodeLossy bytes).toList.takeWhile (· != '\x00'))

/-- The classes of values in their order: null, numbers between the infinities, texts, octets.
What is no number stands below the numbers; no column holds it. -/
def rank : Cell → Nat
  | .null => 0
  | .real .nan => 1
  | .real (.infinite true) => 2
  | .integer _ | .real (.finite ..) => 3
  | .real (.infinite false) => 4
  | .text _ => 5
  | .blob _ => 6

/-- The exact value of a number in units of the smallest positive real. -/
def units : Cell → Int
  | .integer i => i * Binary64.unit
  | .real x => x.scaled?.getD 0
  | _ => 0

def octets : Cell → List UInt8
  | .text s => Text.Utf8.encode s.toList
  | .blob bytes => bytes
  | _ => []

/-- The order of stored values: numbers by their exact value, texts by their UTF-8 octets, of
which the first that differ decide. -/
protected def compare (a b : Cell) : Ordering :=
  (compare a.rank b.rank).then ((compare a.units b.units).then (compare a.octets b.octets))

end Cell

inductive Affinity
  | text
  | numeric
  | integer
  | real
  | blob
deriving DecidableEq, Repr

namespace Affinity

def mentions (type word : String) : Bool :=
  Text.anyTail word.toList.isPrefixOf (Text.lower type).toList

def ofType (type : String) : Affinity :=
  if mentions type "int" then .integer
  else if mentions type "char" || mentions type "clob" || mentions type "text" then .text
  else if mentions type "blob" || type = "" then .blob
  else if mentions type "real" || mentions type "floa" || mentions type "doub" then .real
  else .numeric

def isNumeric : Affinity → Bool
  | numeric | integer | real => true
  | text | blob => false

def isPadding (c : Char) : Bool := c = ' ' || ('\t' ≤ c && c ≤ '\r')

def isSigned64 (i : Int) : Bool := Text.minSigned64 ≤ i && i ≤ (Text.maxSigned64 : Int)

/-- The integer that a real without a fraction is, the two ends of the range left out. -/
def wholeOf? (x : Binary64) : Option Int :=
  match x.toInt? with
  | some i => if Text.minSigned64 < i && i < (Text.maxSigned64 : Int) then some i else none
  | none => none

/-- The number that a text spells: digits alone are an integer if it fits 64 bits. -/
def numberOf? (s : String) : Option Cell :=
  let body := ((s.toList.dropWhile isPadding).reverse.dropWhile isPadding).reverse
  (Numeral.read? body).map fun n =>
    let magnitude : Int := Text.digitsValue n.digits
    let i := if n.negative then -magnitude else magnitude
    if n.plain && isSigned64 i then .integer i else .real n.toBinary64

def preferInteger : Cell → Cell
  | .real x => match wholeOf? x with
    | some i => .integer i
    | none => .real x
  | c => c

def toNumber : Cell → Cell
  | .text s => (numberOf? s).getD (.text s)
  | c => c

def toReal : Cell → Cell
  | .integer i => .real (.ofInt i)
  | c => c

def store (a : Affinity) (c : Cell) : Cell :=
  match a with
  | .blob => c
  | .numeric | .integer => preferInteger (toNumber c)
  | .real => toReal (preferInteger (toNumber c))
  | .text => match c with
    | .integer i => .text (toString i)
    | .real x => .text x.toColumnText
    | c => c

def operand (a : Affinity) (value : String) : Cell :=
  if a.isNumeric then toNumber (.text value) else .text value

end Affinity

end TableApi.Store
