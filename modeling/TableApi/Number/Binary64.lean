/-!
Binary floating point numbers of 64 bits, with exact integer arithmetic.

A finite number is `± significand · 2 ^ exponent / 2 ^ 1074`. Every constructor of numbers rounds
an exact ratio to the nearest number, a tie to the even significand, so the pair is unique for a
value: the significand is below `2 ^ 53`, and at least `2 ^ 52` unless the exponent is zero.
-/

namespace TableApi

inductive Binary64
  | nan
  | infinite (negative : Bool)
  | finite (negative : Bool) (significand exponent : Nat)
deriving DecidableEq, Repr, Inhabited

namespace Binary64

/-- One over the smallest positive number. -/
def unit : Nat := Nat.pow 2 1074

/-- The least significand of a number whose exponent is not zero; twice it is above all
significands. -/
def leastSignificand : Nat := 0x10000000000000

def roundDiv (num den : Nat) : Nat :=
  let quotient := num / den
  let rest := num % den
  if 2 * rest < den then quotient
  else if den < 2 * rest then quotient + 1
  else quotient + quotient % 2

/-- A finite number, or infinity above the largest exponent. -/
def pack (negative : Bool) (significand exponent : Nat) : Binary64 :=
  if 2045 < exponent then .infinite negative else .finite negative significand exponent

def ofRatio (negative : Bool) (num den : Nat) : Binary64 :=
  let scaled := num * unit
  let exponent := (scaled / den).log2 + 1 - 53
  let significand := roundDiv scaled (den * Nat.pow 2 exponent)
  if significand = 2 * leastSignificand then pack negative leastSignificand (exponent + 1)
  else pack negative significand exponent

def zero (negative : Bool) : Binary64 := .finite negative 0 0

def ofInt (i : Int) : Binary64 := ofRatio (i < 0) i.natAbs 1

/-- The number nearest to `digits · 10 ^ exponent`. Beyond four hundred places on either side
nothing but infinity or zero is near. -/
def ofDecimal (negative : Bool) (digits : Nat) (exponent : Int) : Binary64 :=
  let places : Int := (Nat.toDigits 10 digits).length + exponent
  if digits = 0 ∨ places < -400 then zero negative
  else if 400 < places then .infinite negative
  else if 0 ≤ exponent then ofRatio negative (digits * Nat.pow 10 exponent.toNat) 1
  else ofRatio negative digits (Nat.pow 10 (-exponent).toNat)

/-- The magnitude in units of the smallest positive number. -/
def magnitude (significand exponent : Nat) : Nat := significand * Nat.pow 2 exponent

def scaled? : Binary64 → Option Int
  | .finite true m e => some (-(magnitude m e : Int))
  | .finite false m e => some (magnitude m e)
  | _ => none

def neg : Binary64 → Binary64
  | .nan => .nan
  | .infinite s => .infinite !s
  | .finite s m e => .finite (!s) m e

/-- Strictly below; false when either side is not a number. -/
def lt : Binary64 → Binary64 → Bool
  | .nan, _ | _, .nan => false
  | .infinite s, .infinite t => s && !t
  | .infinite s, .finite .. => s
  | .finite .., .infinite t => !t
  | x@(.finite ..), y@(.finite ..) =>
    match x.scaled?, y.scaled? with
    | some a, some b => decide (a < b)
    | _, _ => false

def mul : Binary64 → Binary64 → Binary64
  | .finite s m e, .finite t n f =>
    ofRatio (s != t) (magnitude m e * magnitude n f) (unit * unit)
  | .nan, _ | _, .nan => .nan
  | .infinite s, .infinite t => .infinite (s != t)
  | .infinite s, .finite t n _ => if n = 0 then .nan else .infinite (s != t)
  | .finite s m _, .infinite t => if m = 0 then .nan else .infinite (s != t)

def div : Binary64 → Binary64 → Binary64
  | .finite s m e, .finite t n f =>
    if n = 0 then (if m = 0 then .nan else .infinite (s != t))
    else ofRatio (s != t) (magnitude m e) (magnitude n f)
  | .nan, _ | _, .nan => .nan
  | .infinite _, .infinite _ => .nan
  | .infinite s, .finite t .. => .infinite (s != t)
  | .finite s .., .infinite t => zero (s != t)

def isFinite : Binary64 → Bool
  | .finite .. => true
  | _ => false

def toInt? (x : Binary64) : Option Int :=
  match x.scaled? with
  | some a => if a % (unit : Int) = 0 then some (a / unit) else none
  | none => none

end Binary64

end TableApi
