import TableApi.Calendar.Reader
import TableApi.Filter.Clause
import TableApi.Filter.Parameters
import TableApi.Text.Digits
import TableApi.Warning

/-!
Translating the parameters of a query.

Each parameter has one effect: a clause, the sort, the limit, or a warning that it is ignored.
Only a date that cannot be read fails the whole query.
-/

namespace TableApi.Filter

open Calendar (Instant)

structure InvalidDate where
  field : String
  value : String
deriving DecidableEq, Repr

def InvalidDate.message (e : InvalidDate) : String :=
  "The " ++ e.field ++ " field is not a valid date: " ++ e.value

abbrev DateReader := (field value : String) → Except InvalidDate Instant

def calendarReader : DateReader := fun field value =>
  match Instant.read? value with
  | some t => .ok t
  | none => .error { field, value }

inductive Effect
  | clause (c : Clause)
  | sort (s : Order)
  | limit (n : Nat)
  | warning (w : Warning)
  | nothing
deriving DecidableEq, Repr

def sortName : String := "sort"
def limitName : String := "limit"

def nullWord : String := "null"

/-- The sort that a value `field` or `field,direction` asks for; further parts are ignored. -/
def sortEffect (fields : Fields) (value : ParamValue) : Effect :=
  match value.last? with
  | none => .nothing
  | some raw =>
    let parts := (raw.toList.splitOn ',').map fun part => String.ofList (Text.trimChars part)
    let field := parts.getD 0 ""
    let direction := parts.getD 1 ""
    if !fields.allows field then .warning (.sortNotAllowed field)
    else if direction = "" then .sort { field, direction := .ascending }
    else
      match Direction.read? direction with
      | some d => .sort { field, direction := d }
      | none => .warning (.unknownDirection field direction)

def limitEffect (value : ParamValue) : Effect :=
  match value.last? with
  | none => .nothing
  | some raw =>
    match Text.readUnsigned64 (Text.trim raw) with
    | .ok n => .limit n
    | .error _ => .warning (.limitNotNumeric raw)

/-- The predicate of a single value. A date is read first; a text match puts its wildcards around
the value before the test for `null`, so it never becomes a null test. -/
def scalarPredicate (fields : Fields) (dates : DateReader) (name : Name) (raw : String) :
    Except InvalidDate Predicate :=
  let compare (value : ClauseValue) : Predicate :=
    let value := match name.operator with
      | some op => if op.isTextMatch then .text (op.pattern value.bound) else value
      | none => value
    if value = .text nullWord then .isNull
    else .compare (Operator.comparator name.operator) value
  if fields.isDate name.field then (dates name.field raw).map fun t => compare (.date t)
  else .ok (compare (.text raw))

def listValue (fields : Fields) (dates : DateReader) (field : String) (raw : List String) :
    Except InvalidDate ListValue :=
  if fields.isDate field then (raw.mapM (dates field)).map .dates
  else .ok (.texts raw)

def filterEffect (fields : Fields) (dates : DateReader) (parameter : String)
    (value : ParamValue) : Except InvalidDate Effect :=
  let name := Name.read parameter
  let clause (predicate : Predicate) : Effect :=
    .clause { field := name.field, conjunction := name.conjunction, predicate }
  if !fields.allows name.field then .ok (.warning (.filterNotAllowed parameter name.field))
  else
    match value with
    | .single raw => (scalarPredicate fields dates name raw).map clause
    | .many raw =>
      (listValue fields dates name.field raw).map fun values =>
        match name.operator with
        | some .member => clause (.member values)
        | some .notMember => clause (.notMember values)
        | _ => .warning (.listNotMembership parameter)

def effect (fields : Fields) (dates : DateReader) (parameter : String) (value : ParamValue) :
    Except InvalidDate Effect :=
  if parameter = sortName then .ok (sortEffect fields value)
  else if parameter = limitName then .ok (limitEffect value)
  else filterEffect fields dates parameter value

def effects (fields : Fields) (dates : DateReader) :
    Parameters → List Effect × Option InvalidDate
  | [] => ([], none)
  | (parameter, value) :: rest =>
    match effect fields dates parameter value with
    | .error e => ([], some e)
    | .ok f => let (fs, e) := effects fields dates rest; (f :: fs, e)

namespace Effect

def clause? : Effect → Option Clause
  | clause c => some c
  | _ => none

def sort? : Effect → Option Order
  | sort s => some s
  | _ => none

def limit? : Effect → Option Nat
  | limit n => some n
  | _ => none

def warning? : Effect → Option Warning
  | warning w => some w
  | _ => none

end Effect

def Translation.ofEffects (fs : List Effect) : Translation :=
  { clauses := fs.filterMap Effect.clause?, sort := fs.findSome? Effect.sort?,
    limit := fs.findSome? Effect.limit? }

structure Outcome where
  result : Except InvalidDate Translation
  warnings : List Warning

def translate (fields : Fields) (dates : DateReader) (params : Parameters) : Outcome :=
  let (fs, stopped) := effects fields dates params
  { result := match stopped with
      | some e => .error e
      | none => .ok (.ofEffects fs),
    warnings := fs.filterMap Effect.warning? }

end TableApi.Filter
