import TableApi.Number.Decimal

/-!
Numbers in JSON texts.

An integer that fits 64 bits is exact. Every other number takes the leading digits that fit an
unsigned 64-bit integer, rounds that integer, and scales it by one rounded power of ten, so its
last bit may differ from the nearest number.
-/

namespace TableApi.Json.Numeral

/-- Digits read into an integer up to the bound: the integer and the count of digits read. -/
def gather (value taken : Nat) : List Char → Nat × Nat
  | [] => (value, taken)
  | c :: rest =>
    let next := 10 * value + Text.digitValue c
    if Text.maxUnsigned64 < next then (value, taken) else gather next (taken + 1) rest

/-- Divides by `10 ^ 308` a number of times. -/
def shrink (x : Binary64) : Nat → Binary64
  | 0 => x
  | n + 1 => shrink (x.div (.ofDecimal false 1 308)) n

/-- An integer scaled by a power of ten; none when it leaves the finite range. Four divisions
take every 64-bit integer to zero. -/
def scale? (significand : Nat) (exponent : Int) : Option Binary64 :=
  let x := Binary64.ofInt significand
  if 0 ≤ exponent then
    if exponent ≤ 308 then
      let y := x.mul (.ofDecimal false 1 exponent)
      if y.isFinite then some y else none
    else if significand = 0 then some x
    else none
  else
    let down := (-exponent).toNat
    let steps := (down - 1) / 308
    if 4 ≤ steps then some (.zero false)
    else some ((shrink x steps).div (.ofDecimal false 1 (down - 308 * steps : Nat)))

structure Parts where
  negative : Bool
  whole : List Char
  fraction : List Char
  exponent : Int
  plain : Bool

def wholePart (s : List Char) : Bool :=
  match s with
  | [] => false
  | ['0'] => true
  | '0' :: _ => false
  | _ => true

/-- Splits a number's text: no plus sign, no leading zero, a digit on both sides of a point. -/
def parts? (s : List Char) : Option Parts :=
  let (negative, body) := match s with
    | '-' :: rest => (true, rest)
    | rest => (false, rest)
  let whole := body.takeWhile Char.isDigit
  let rest := body.dropWhile Char.isDigit
  let (pointed, fraction, rest) := match rest with
    | '.' :: tail => (true, tail.takeWhile Char.isDigit, tail.dropWhile Char.isDigit)
    | tail => (false, [], tail)
  if !wholePart whole || (pointed && fraction.isEmpty) then none
  else (TableApi.Numeral.readExponent? rest).map fun exponent =>
    { negative, whole, fraction, exponent, plain := !pointed && rest.isEmpty }

def Parts.value? (p : Parts) : Option (Int ⊕ Binary64) :=
  let sign (x : Binary64) : Binary64 := if p.negative then x.neg else x
  let (leading, taken) := gather 0 0 p.whole
  let dropped := p.whole.length - taken
  if p.plain && dropped = 0 then
    if !p.negative then some (.inl leading)
    else if leading = 0 || Text.minSigned64.natAbs < leading then
      some (.inr (sign (.ofInt leading)))
    else some (.inl (-leading))
  else
    let (significand, places) := gather leading 0 p.fraction
    (scale? significand (p.exponent + dropped - places)).map (.inr ∘ sign)

end TableApi.Json.Numeral
