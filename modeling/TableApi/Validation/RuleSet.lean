import TableApi.Validation.Check
import TableApi.Validation.FieldErrors

namespace TableApi.Validation

/-- The rules of each field in order; a field may have several entries. -/
abbrev RuleSet := List (String × List Rule)

namespace RuleSet

def barPieces (s : String) : List String :=
  ((s.toList.splitOn '|').map String.ofList).filter (!Text.allBlank ·)

def pieces (field : String) : Json → Except RuleError (List String)
  | .str s => .ok (barPieces s)
  | .arr items =>
    items.mapM fun
      | .str s => .ok s
      | _ => .error (.invalidDefinition field)
  | _ => .error (.invalidDefinition field)

def readField (field : String) (definition : Json) : Except RuleError (List Rule) :=
  pieces field definition >>= fun texts => texts.mapM Rule.read

/-- Reads the rules of all fields; the first bad rule of the first bad field decides the error. -/
def read (definitions : Record) : Except RuleError RuleSet :=
  definitions.mapM fun (field, definition) =>
    (readField field definition).map fun rules => (field, rules)

def label (field : String) : String := field.map fun c => if c = '_' then ' ' else c

def failures (record : Record) (field : String) (rules : List Rule) : List String :=
  let value := Entries.get? record field
  if value.isNone && rules.contains .sometimes then []
  else
    match value.filter isFilled with
    | none =>
      if rules.contains .required then ["The " ++ label field ++ " field is required."] else []
    | some v =>
      let numeric := rules.contains .integer || rules.contains .numeric
      rules.filterMap fun rule => rule.failure? v (label field) numeric

def validate (rules : RuleSet) (record : Record) : FieldErrors :=
  rules.foldl (fun errors (field, rules) =>
    (failures record field rules).foldl (fun errors message => errors.add field message) errors) []

end RuleSet

end TableApi.Validation
