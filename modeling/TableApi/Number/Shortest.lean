import TableApi.Number.Binary64

/-!
Decimal digits of binary numbers: the fewest that read back to the number, or a fixed count.

A grid of `n` digits holds the multiples of a power of ten that give numbers of this size `n`
digits. The first grid with a point that rounds to the number gives its shortest digits.
-/

namespace TableApi

/-- The number `0.d₁d₂… · 10 ^ point`. The digits neither end in a zero nor, unless the number
is zero, begin with one. -/
structure Digits where
  digits : List Char
  point : Int
deriving Repr, DecidableEq

namespace Binary64

/-- The place of the first digit of a positive ratio: it is below `10 ^ place` and not below
`10 ^ (place - 1)`. -/
def place (num den : Nat) : Int :=
  if den ≤ num then (Nat.toDigits 10 (num / den)).length
  else
    match (List.range 400).find? fun j => den ≤ num * Nat.pow 10 (j + 1) with
    | some j => -j
    | none => 0

def onGrid (num den : Nat) (exponent : Int) : Nat × Nat :=
  (num * Nat.pow 10 (-exponent).toNat, den * Nat.pow 10 exponent.toNat)

/-- Whether a quarter count of grid steps lies among the values that round to the number, whose
ends belong to it when the significand is even. -/
def roundsTo (significand exponent : Nat) (num den : Nat) : Bool :=
  let low := (if significand = leastSignificand ∧ 0 < exponent then 4 * significand - 1
    else 4 * significand - 2) * Nat.pow 2 exponent
  let high := (4 * significand + 2) * Nat.pow 2 exponent
  let value := 4 * num * unit
  if significand % 2 = 0 then low * den ≤ value && value ≤ high * den
  else low * den < value && value < high * den

/-- The point of the grid nearest to the number, when a neighbour on the grid rounds to it. -/
def gridPoint? (significand exponent : Nat) (step : Int) : Option Nat :=
  let (num, den) := onGrid (magnitude significand exponent) unit step
  let below := num / den
  let hit (c : Nat) : Bool :=
    roundsTo significand exponent (c * Nat.pow 10 step.toNat) (Nat.pow 10 (-step).toNat)
  match hit below, hit (below + 1) with
  | true, true => some (roundDiv num den)
  | true, false => some below
  | false, true => some (below + 1)
  | false, false => none

def digitsOf (count : Nat) (step : Int) : Digits :=
  let text := Nat.toDigits 10 count
  { digits := (text.reverse.dropWhile (· == '0')).reverse, point := text.length + step }

def zeroDigits : Digits := { digits := ['0'], point := 1 }

/-- The fewest digits that read back to the magnitude, and of those the nearest to it. -/
def shortestDigits (significand exponent : Nat) : Digits :=
  if significand = 0 then zeroDigits
  else
    let size := place (magnitude significand exponent) unit
    let found := (List.range 17).findSome? fun (i : Nat) =>
      let step := size - (i + 1 : Nat)
      (gridPoint? significand exponent step).map fun count => digitsOf count step
    found.getD zeroDigits

def roundedDigits (count significand exponent : Nat) : Digits :=
  if significand = 0 then zeroDigits
  else
    let step := place (magnitude significand exponent) unit - count
    let (num, den) := onGrid (magnitude significand exponent) unit step
    digitsOf ((2 * num + den) / (2 * den)) step

end Binary64

end TableApi
