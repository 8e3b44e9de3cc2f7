import TableApi.Calendar.Reader
import TableApi.Json.Basic
import TableApi.Net.Url
import TableApi.Validation.Email
import TableApi.Validation.Rule

namespace TableApi.Validation

def isFilled : Json → Bool
  | .null => false
  | .str s => !Text.allBlank s
  | .arr items => !items.isEmpty
  | _ => true

def number? : Json → Option Binary64
  | .int i => some (.ofInt i)
  | .real x => some x
  | .str s => Binary64.read? (Text.trimChars s.toList)
  | _ => none

def isInteger : Json → Bool
  | .int _ => true
  | .str s => (Text.readSigned64? (Text.trimChars s.toList)).isSome
  | _ => false

def isBoolean : Json → Bool
  | .bool _ => true
  | .int i => i = 0 || i = 1
  | .str s => ["0", "1", "true", "false"].contains s
  | _ => false

def optionText? : Json → Option String
  | .null | .arr _ | .obj _ => none
  | .str s => some s
  | v => some v.render

def isString : Json → Bool
  | .str _ => true
  | _ => false

def isStringThat (p : String → Bool) : Json → Bool
  | .str s => p s
  | _ => false

inductive Size
  | amount (n : Binary64)
  | chars (n : Nat)
  | items (n : Nat)
deriving DecidableEq, Repr

def Size.of? (v : Json) (numeric : Bool) : Option Size :=
  match v with
  | .arr values => some (.items values.length)
  | .str s => if numeric then (number? v).map .amount else some (.chars s.length)
  | v => (number? v).map .amount

def Size.number : Size → Binary64
  | .amount n => n
  | .chars n => .ofInt n
  | .items n => .ofInt n

/-- A bound as messages show it: without a fraction as a signed 64-bit integer, cut to the ends of
that range. -/
def boundText (bound : Binary64) : String :=
  match bound.toInt? with
  | some i => toString (max Text.minSigned64 (min (Text.maxSigned64 : Int) i))
  | none => bound.toPlainText

def tooSmall (label : String) (bound : Binary64) : Size → String
  | .items _ => "The " ++ label ++ " must have at least " ++ boundText bound ++ " items."
  | .chars _ => "The " ++ label ++ " must be at least " ++ boundText bound ++ " characters."
  | .amount _ => "The " ++ label ++ " must be at least " ++ boundText bound ++ "."

def tooLarge (label : String) (bound : Binary64) : Size → String
  | .items _ => "The " ++ label ++ " may not have more than " ++ boundText bound ++ " items."
  | .chars _ =>
    "The " ++ label ++ " may not be greater than " ++ boundText bound ++ " characters."
  | .amount _ => "The " ++ label ++ " may not be greater than " ++ boundText bound ++ "."

/-- The message of a rule that a filled value fails. A value without a size keeps every bound. -/
def Rule.failure? (rule : Rule) (v : Json) (label : String) (numeric : Bool) : Option String :=
  let demand (valid : Bool) (message : String) : Option String :=
    if valid then none else some message
  match rule with
  | .required | .sometimes | .nullable => none
  | .string => demand (isString v) ("The " ++ label ++ " must be a string.")
  | .integer => demand (isInteger v) ("The " ++ label ++ " must be an integer.")
  | .numeric => demand (number? v).isSome ("The " ++ label ++ " must be a number.")
  | .boolean => demand (isBoolean v) ("The " ++ label ++ " field must be true or false.")
  | .email =>
    demand (isStringThat Email.isEmail v) ("The " ++ label ++ " must be a valid email address.")
  | .url => demand (isStringThat Net.Url.isUrl v) ("The " ++ label ++ " format is invalid.")
  | .date =>
    demand (isStringThat (fun s => (Calendar.Instant.read? s).isSome) v)
      ("The " ++ label ++ " is not a valid date.")
  | .min bound =>
    (Size.of? v numeric).bind fun size =>
      demand (!size.number.lt bound) (tooSmall label bound size)
  | .max bound =>
    (Size.of? v numeric).bind fun size =>
      demand (!bound.lt size.number) (tooLarge label bound size)
  | .oneOf options =>
    demand ((optionText? v).any options.contains) ("The selected " ++ label ++ " is invalid.")

end TableApi.Validation
