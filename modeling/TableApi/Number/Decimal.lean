import TableApi.Number.Binary64
import TableApi.Text.Digits

namespace TableApi

/-- A numeral `digits · 10 ^ scale`; `plain` when it has neither point nor exponent. -/
structure Numeral where
  negative : Bool
  digits : List Char
  scale : Int
  plain : Bool
deriving Repr, DecidableEq

namespace Numeral

def readSign : List Char → Bool × List Char
  | '-' :: rest => (true, rest)
  | '+' :: rest => (false, rest)
  | rest => (false, rest)

def readExponent? : List Char → Option Int
  | [] => some 0
  | c :: rest =>
    if c = 'e' ∨ c = 'E' then
      let (negative, digits) := readSign rest
      if digits.isEmpty || !digits.all Char.isDigit then none
      else
        let n : Int := Text.digitsValue digits
        some (if negative then -n else n)
    else none

/-- Reads a numeral: an optional sign, digits with an optional point among, before or after them,
and an optional exponent. -/
def read? (s : List Char) : Option Numeral :=
  let (negative, body) := readSign s
  let whole := body.takeWhile Char.isDigit
  let rest := body.dropWhile Char.isDigit
  let (pointed, fraction, rest) :=
    match rest with
    | '.' :: tail => (true, tail.takeWhile Char.isDigit, tail.dropWhile Char.isDigit)
    | tail => (false, [], tail)
  if whole.isEmpty && fraction.isEmpty then none
  else (readExponent? rest).map fun exponent =>
    { negative, digits := whole ++ fraction, scale := exponent - fraction.length,
      plain := !pointed && rest.isEmpty }

def toBinary64 (n : Numeral) : Binary64 :=
  Binary64.ofDecimal n.negative (Text.digitsValue n.digits) n.scale

end Numeral

/-- Reads a number: a numeral, or a word for infinity or for not-a-number in any case, signed. -/
def Binary64.read? (s : List Char) : Option Binary64 :=
  let (negative, body) := Numeral.readSign s
  let word := String.ofList (body.map Char.toLower)
  if word = "inf" ∨ word = "infinity" then some (.infinite negative)
  else if word = "nan" then some .nan
  else (Numeral.read? s).map Numeral.toBinary64

end TableApi
