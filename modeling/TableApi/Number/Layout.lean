import TableApi.Number.Shortest

namespace TableApi

/-- The decisions of a number format. The exponent of a number is the power of ten of its first
digit. -/
structure NumberLayout where
  /-- The least exponent written without an exponent part; none means every one. -/
  least : Option Int
  /-- The first exponent that is too large for that. -/
  bound : Option Int
  /-- Whether a number without fraction digits is written with `.0`. -/
  wholeFraction : Bool
  /-- Whether a single digit before an exponent part is followed by `.0`. -/
  exponentFraction : Bool
  /-- The least count of digits in an exponent part. -/
  exponentWidth : Nat

namespace NumberLayout

def zeros (n : Int) : List Char := List.replicate n.toNat '0'

def positional (layout : NumberLayout) (d : Digits) : List Char :=
  let count : Int := d.digits.length
  if d.point ≤ 0 then "0.".toList ++ zeros (-d.point) ++ d.digits
  else if count ≤ d.point then
    d.digits ++ zeros (d.point - count) ++ (if layout.wholeFraction then ".0".toList else [])
  else d.digits.take d.point.toNat ++ '.' :: d.digits.drop d.point.toNat

def scientific (layout : NumberLayout) (d : Digits) : List Char :=
  let exponent := d.point - 1
  let width := layout.exponentWidth
  let digits := (toString exponent.natAbs).toList
  let rest := d.digits.drop 1
  d.digits.take 1 ++
    (if rest.isEmpty then (if layout.exponentFraction then ".0".toList else []) else '.' :: rest) ++
    'e' :: (if exponent < 0 then '-' else '+') :: (zeros (width - digits.length) ++ digits)

def write (layout : NumberLayout) (negative : Bool) (d : Digits) : String :=
  let exponent := d.point - 1
  let fits := layout.least.all (· ≤ exponent) && layout.bound.all (exponent < ·)
  let body := if fits then layout.positional d else layout.scientific d
  String.ofList (if negative then '-' :: body else body)

/-- A number in a JSON text: an exponent part below `1e-5` and from `1e+16` on, and otherwise
always a fraction. -/
def json : NumberLayout :=
  { least := some (-5), bound := some 16, wholeFraction := true, exponentFraction := false,
    exponentWidth := 1 }

/-- A number in a message or an answer: never an exponent part, and a fraction only where there
are digits for it. -/
def plain : NumberLayout :=
  { least := none, bound := none, wholeFraction := false, exponentFraction := false,
    exponentWidth := 1 }

/-- A number that a text column takes in: fifteen digits at most, with a fraction always, and an
exponent part of two digits below `1e-4` and from `1e+15` on. -/
def column : NumberLayout :=
  { least := some (-4), bound := some 15, wholeFraction := true, exponentFraction := true,
    exponentWidth := 2 }

end NumberLayout

namespace Binary64

def word : Binary64 → String
  | .nan => "NaN"
  | .infinite true => "-inf"
  | _ => "inf"

def toPlainText : Binary64 → String
  | .finite s m e => NumberLayout.plain.write s (shortestDigits m e)
  | x => x.word

def toJsonText : Binary64 → String
  | .finite s m e => NumberLayout.json.write s (shortestDigits m e)
  | _ => "null"

def toColumnText : Binary64 → String
  | .finite s m e => NumberLayout.column.write (s && m != 0) (roundedDigits 15 m e)
  | .infinite true => "-Inf"
  | .infinite false => "Inf"
  | .nan => "NaN"

end Binary64

end TableApi
