import TableApi.Number.Decimal
import TableApi.Text.Blank
import TableApi.Text.Cut

namespace TableApi.Validation

inductive Rule
  | required
  /-- The field is only looked at when its key is present. -/
  | sometimes
  | nullable
  | string
  | integer
  | numeric
  | boolean
  | email
  | url
  | date
  | min (bound : Binary64)
  | max (bound : Binary64)
  | oneOf (options : List String)
deriving DecidableEq, Repr

inductive RuleError
  | unknown (name : String)
  | missingArgument (rule : String)
  | invalidArgument (rule argument : String)
  | invalidDefinition (field : String)
deriving DecidableEq, Repr

def RuleError.message : RuleError → String
  | .unknown name => "Unknown validation rule '" ++ name ++ "'"
  | .missingArgument rule => "Validation rule '" ++ rule ++ "' requires an argument"
  | .invalidArgument rule argument =>
    "Invalid argument '" ++ argument ++ "' for validation rule '" ++ rule ++ "'"
  | .invalidDefinition field =>
    "Rules for field '" ++ field ++ "' must be a string or an array of strings"

namespace Rule

def readBound (name : String) : Option (List Char) → Except RuleError Binary64
  | none => .error (.missingArgument name)
  | some argument =>
    match Binary64.read? (Text.trimChars argument) with
    | some bound => .ok bound
    | none => .error (.invalidArgument name (String.ofList argument))

def readOptions (name : String) : Option (List Char) → Except RuleError (List String)
  | none => .error (.missingArgument name)
  | some argument =>
    .ok ((argument.splitOn ',').map fun option => String.ofList (Text.trimChars option))

def splitArgument (s : List Char) : List Char × Option (List Char) :=
  match Text.cutAt? ':' s with
  | some (name, argument) => (name, some argument)
  | none => (s, none)

def read (s : String) : Except RuleError Rule :=
  let (chars, argument) := splitArgument (Text.trimChars s.toList)
  let name := String.ofList chars
  match name with
  | "required" => .ok required
  | "sometimes" => .ok sometimes
  | "nullable" => .ok nullable
  | "string" => .ok string
  | "integer" => .ok integer
  | "numeric" => .ok numeric
  | "boolean" => .ok boolean
  | "email" => .ok email
  | "url" => .ok url
  | "date" => .ok date
  | "min" => (readBound name argument).map min
  | "max" => (readBound name argument).map max
  | "in" => (readOptions name argument).map oneOf
  | other => .error (.unknown other)

def name : Rule → String
  | required => "required"
  | sometimes => "sometimes"
  | nullable => "nullable"
  | string => "string"
  | integer => "integer"
  | numeric => "numeric"
  | boolean => "boolean"
  | email => "email"
  | url => "url"
  | date => "date"
  | min _ => "min"
  | max _ => "max"
  | oneOf _ => "in"

end Rule

end TableApi.Validation
