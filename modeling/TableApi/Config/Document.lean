import TableApi.Api.Policy
import TableApi.Json.Node
import TableApi.Json.Reader

/-!
Configuration files: a JSON object of sections, each an object with known names or an array that
gives their values in order. What a file leaves out is left to the defaults.
-/

namespace TableApi.Config

open Json (Node)

structure ServerSection where
  host : Option String := none
  port : Option Nat := none
  origins : List String := []
deriving DecidableEq, Repr

structure DatabaseSection where
  url : Option String := none
  maxConnections : Option Nat := none
  schemaFile : Option String := none
deriving DecidableEq, Repr

structure AuthSection where
  apiKey : Option String := none
  publicActions : List Api.Action := []
deriving DecidableEq, Repr

structure RulesSection where
  create : Record := []
  update : Record := []
deriving Repr

structure ResourceSection where
  name : String
  table : Option String := none
  primaryKey : Option String := none
  allowedFields : List String := []
  dateFields : List String := []
  allowedAttributes : List String := []
  hidden : List String := []
  perPage : Option Nat := none
  rules : RulesSection := {}
deriving Repr

structure Document where
  server : ServerSection := {}
  database : DatabaseSection := {}
  auth : AuthSection := {}
  resources : List ResourceSection := []
  /-- Names that no section has, each once. -/
  unknown : List String := []
deriving Repr

abbrev Written := Entries Node

def members? (n : Node) : Option Written :=
  match n with
  | .obj members => members.mapM fun m => m.1.map fun name => (name, m.2)
  | _ => none

/-- Reads a section with the given names. An object names each at most once, and its other names
do not matter; an array gives at least the first `least` of them. -/
def section? (names : List String) (least : Nat) (n : Node) : Option Written :=
  match n with
  | .arr items =>
    if least ≤ items.length ∧ items.length ≤ names.length then some (names.zip items) else none
  | n => do
    let known := (← members? n).filter fun m => names.contains m.1
    if (known.map Prod.fst).Nodup then some known else none

section Values

variable {α : Type}

def optional? (read : Node → Option α) (n : Option Node) : Option (Option α) :=
  match n with
  | none | some (.leaf (some .null)) => some none
  | some n => (read n).map some

/-- A value that may be missing, but not null. -/
def orElse? (default : α) (read : Node → Option α) (n : Option Node) : Option α :=
  match n with
  | none => some default
  | some n => read n

def text? : Node → Option String
  | .leaf (some (.str s)) => some s
  | _ => none

def natural? (most : Nat) : Node → Option Nat
  | .leaf (some (.int i)) => if 0 ≤ i ∧ i ≤ most then some i.toNat else none
  | _ => none

def list? (read : Node → Option α) : Node → Option (List α)
  | .arr items => items.mapM read
  | _ => none

def texts? : Node → Option (List String) := list? text?

def action? : Node → Option Api.Action
  | .leaf (some (.str s)) => Api.Action.read? s
  | .obj [(some s, .leaf (some .null))] => Api.Action.read? s
  | _ => none

def record? (depth : Nat) (n : Node) : Option Record :=
  match n.value? (Json.maxDepth - depth) with
  | some (.obj record) => some record
  | _ => none

end Values

def maxPort : Nat := 0xFFFF
def maxUnsigned32 : Nat := 0xFFFFFFFF

def ServerSection.ofNode? (n : Node) : Option ServerSection := do
  let w ← section? ["host", "port", "cors_origins"] 3 n
  return {
    host := ← optional? text? (w.get? "host")
    port := ← optional? (natural? maxPort) (w.get? "port")
    origins := (← optional? texts? (w.get? "cors_origins")).getD [] }

def DatabaseSection.ofNode? (n : Node) : Option DatabaseSection := do
  let w ← section? ["url", "max_connections", "schema_file"] 3 n
  return {
    url := ← optional? text? (w.get? "url")
    maxConnections := ← optional? (natural? maxUnsigned32) (w.get? "max_connections")
    schemaFile := ← optional? text? (w.get? "schema_file") }

def AuthSection.ofNode? (n : Node) : Option AuthSection := do
  let w ← section? ["api_key", "public_actions"] 2 n
  return {
    apiKey := ← optional? text? (w.get? "api_key")
    publicActions := (← optional? (list? action?) (w.get? "public_actions")).getD [] }

/-- Rules stand in the file, the list of resources, a resource and their own section. -/
def RulesSection.ofNode? (n : Node) : Option RulesSection := do
  let w ← section? ["create", "update"] 0 n
  return {
    create := ← orElse? [] (record? 4) (w.get? "create")
    update := ← orElse? [] (record? 4) (w.get? "update") }

def ResourceSection.ofNode? (n : Node) : Option ResourceSection := do
  let w ← section? ["name", "table", "primary_key", "allowed_fields", "date_fields",
    "allowed_attributes", "hidden", "per_page", "rules"] 8 n
  return {
    name := ← (w.get? "name").bind text?
    table := ← optional? text? (w.get? "table")
    primaryKey := ← optional? text? (w.get? "primary_key")
    allowedFields := ← orElse? [] texts? (w.get? "allowed_fields")
    dateFields := ← orElse? [] texts? (w.get? "date_fields")
    allowedAttributes := ← orElse? [] texts? (w.get? "allowed_attributes")
    hidden := ← orElse? [] texts? (w.get? "hidden")
    perPage := ← optional? (natural? Text.maxUnsigned64) (w.get? "per_page")
    rules := ← orElse? {} RulesSection.ofNode? (w.get? "rules") }

namespace Document

def sectionNames : List String := ["server", "database", "auth", "resources"]

def isValue (n : Node) : Bool := (n.value? (Json.maxDepth - 1)).isSome

def ofNode? (n : Node) : Option Document := do
  let (known, unknown) := (← members? n).partition fun m => sectionNames.contains m.1
  let w ← section? sectionNames 0 (.obj (known.map fun m => (some m.1, m.2)))
  if !unknown.all fun m => isValue m.2 then none
  return {
    server := (← optional? ServerSection.ofNode? (w.get? "server")).getD {}
    database := (← optional? DatabaseSection.ofNode? (w.get? "database")).getD {}
    auth := (← optional? AuthSection.ofNode? (w.get? "auth")).getD {}
    resources := (← optional? (list? ResourceSection.ofNode?) (w.get? "resources")).getD []
    unknown := (unknown.map Prod.fst).eraseDups }

def read? (s : String) : Option Document := (Node.read? s).bind ofNode?

end Document

end TableApi.Config
