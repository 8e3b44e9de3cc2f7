namespace TableApi.Text

inductive NumeralError
  | empty
  | invalidDigit
  | tooLarge
deriving DecidableEq, Repr

def NumeralError.message : NumeralError → String
  | .empty => "cannot parse integer from empty string"
  | .invalidDigit => "invalid digit found in string"
  | .tooLarge => "number too large to fit in target type"

def digitValue (c : Char) : Nat := c.toNat - '0'.toNat

def digitsValue (s : List Char) : Nat := s.foldl (fun n c => 10 * n + digitValue c) 0

/-- Reads digits up to a bound; the first character that is no digit or makes the value too
large decides the error. -/
def readDigits (limit : Nat) : Nat → List Char → Except NumeralError Nat
  | n, [] => .ok n
  | n, c :: rest =>
    if !c.isDigit then .error .invalidDigit
    else if limit < 10 * n + digitValue c then .error .tooLarge
    else readDigits limit (10 * n + digitValue c) rest

/-- Reads an unsigned numeral up to `limit`; one plus sign may stand before the digits. -/
def readUnsigned (limit : Nat) (s : List Char) : Except NumeralError Nat :=
  match s with
  | [] => .error .empty
  | ['+'] => .error .invalidDigit
  | '+' :: digits => readDigits limit 0 digits
  | digits => readDigits limit 0 digits

def maxUnsigned64 : Nat := 0xFFFFFFFFFFFFFFFF
def maxSigned64 : Nat := 0x7FFFFFFFFFFFFFFF
def minSigned64 : Int := -0x8000000000000000

def readUnsigned64 (s : String) : Except NumeralError Nat := readUnsigned maxUnsigned64 s.toList

def readSigned64? (s : List Char) : Option Int :=
  let magnitude (limit : Nat) (digits : List Char) : Option Nat :=
    if digits.isEmpty then none else (readDigits limit 0 digits).toOption
  match s with
  | '-' :: digits => (magnitude minSigned64.natAbs digits).map fun n => -(n : Int)
  | '+' :: digits => (magnitude maxSigned64 digits).map fun n => (n : Int)
  | digits => (magnitude maxSigned64 digits).map fun n => (n : Int)

def hexValue? (c : Char) : Option Nat :=
  if '0' ≤ c ∧ c ≤ '9' then some (c.toNat - '0'.toNat)
  else if 'a' ≤ c ∧ c ≤ 'f' then some (c.toNat - 'a'.toNat + 10)
  else if 'A' ≤ c ∧ c ≤ 'F' then some (c.toNat - 'A'.toNat + 10)
  else none

def hexDigit (n : Nat) : Char := if n < 10 then Char.ofNat (48 + n) else Char.ofNat (87 + n)

def padded (width n : Nat) : String :=
  let digits := (toString n).toList
  String.ofList (List.replicate (width - digits.length) '0' ++ digits)

end TableApi.Text
