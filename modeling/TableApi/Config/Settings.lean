import TableApi.Config.Document
import TableApi.Config.Location
import TableApi.Filter.Clause
import TableApi.Warning

namespace TableApi.Config

structure Overrides where
  host : Option String := none
  port : Option Nat := none
  config : Option String := none
  databaseUrl : Option String := none
  apiKey : Option String := none
  noAuth : Bool := false
deriving DecidableEq, Repr

structure ServerSettings where
  host : String
  port : Nat
  /-- When there are none, every origin is allowed. -/
  origins : List String
deriving DecidableEq, Repr

structure DatabaseSettings where
  url : String
  maxConnections : Nat
  schemaFile : Option String
deriving DecidableEq, Repr

structure AuthSettings where
  /-- The key that protected actions need; without one every action is open. -/
  apiKey : Option String
  publicActions : List Api.Action
deriving DecidableEq, Repr

structure ResourceSettings where
  name : String
  table : String
  primaryKey : String
  fields : Filter.Fields
  allowedAttributes : List String
  hidden : List String
  perPage : Nat
  createRules : Record
  updateRules : Record
deriving Repr

structure Settings where
  server : ServerSettings
  database : DatabaseSettings
  auth : AuthSettings
  resources : List ResourceSettings
deriving Repr

inductive ConfigError
  | notFound (path : String)
  | unreadable (path : String)
  | malformed (path : String)
  | invalidName (name : String)
  | invalidPerPage (name : String)
  | repeatedName (name : String)
deriving DecidableEq, Repr

def ConfigError.message : ConfigError → String
  | notFound path => "Config file not found: " ++ path
  | unreadable path => "Failed to read config file: " ++ path
  | malformed path => "Failed to parse config file: " ++ path
  | invalidName name =>
    "Invalid resource name '" ++ name ++ "': use letters, digits, '-' or '_'"
  | invalidPerPage name =>
    "Resource '" ++ name ++ "': per_page must be between 1 and " ++ toString Api.maxPerPage
  | repeatedName name => "Duplicate resource name '" ++ name ++ "'"

def defaultHost : String := "127.0.0.1"
def defaultPort : Nat := 8080
def defaultUrl : String := "sqlite://querygate.db"
def defaultMaxConnections : Nat := 5
def defaultPrimaryKey : String := "id"

def isNameChar (c : Char) : Bool := c.isAlphanum || c = '-' || c = '_'

def isResourceName (s : String) : Bool := s != "" && s.toList.all isNameChar

namespace ResourceSection

def settings (r : ResourceSection) : Except ConfigError ResourceSettings :=
  let perPage := r.perPage.getD Api.defaultPerPage
  if !isResourceName r.name then .error (.invalidName r.name)
  else if perPage = 0 || Api.maxPerPage < perPage then .error (.invalidPerPage r.name)
  else .ok {
    name := r.name
    table := r.table.getD r.name
    primaryKey := r.primaryKey.getD defaultPrimaryKey
    fields := { allowed := r.allowedFields, dates := r.dateFields }
    allowedAttributes := r.allowedAttributes
    hidden := r.hidden
    perPage
    createRules := r.rules.create
    updateRules := r.rules.update }

def warnings (r : ResourceSection) : List Warning :=
  (r.dateFields.filter fun field => !r.allowedFields.contains field).map (.unusableDateField r.name)

def isAccepted (r : ResourceSection) : Bool := r.settings.toBool

end ResourceSection

def firstRepeated? (seen : List String) : List String → Option String
  | [] => none
  | name :: rest => if seen.contains name then some name else firstRepeated? (name :: seen) rest

/-- The settings of all resources; the first bad one decides the error, then repeated names. -/
def resourceSettings (sections : List ResourceSection) :
    Except ConfigError (List ResourceSettings) :=
  match sections.mapM ResourceSection.settings with
  | .error e => .error e
  | .ok resources =>
    match firstRepeated? [] (resources.map ResourceSettings.name) with
    | some name => .error (.repeatedName name)
    | none => .ok resources

def resourceWarnings (sections : List ResourceSection) : List Warning :=
  (sections.takeWhile ResourceSection.isAccepted).flatMap ResourceSection.warnings

/-- The key of the highest layer that gives one. An empty key is none, and none is needed where
checks are switched off. -/
def resolvedKey (o : Overrides) (d : Document) : Option String :=
  if o.noAuth then none else (o.apiKey.or d.auth.apiKey).filter (· != "")

structure Outcome where
  result : Except ConfigError Settings
  warnings : List Warning := []

def resolve (l : Location) (o : Overrides) (d : Document) : Outcome :=
  let result := (resourceSettings d.resources).map fun resources => {
    server := {
      host := (o.host.or d.server.host).getD defaultHost
      port := (o.port.or d.server.port).getD defaultPort
      origins := d.server.origins }
    database := {
      url := (o.databaseUrl.or d.database.url).getD defaultUrl
      maxConnections := d.database.maxConnections.getD defaultMaxConnections
      schemaFile := d.database.schemaFile.map l.expand }
    auth := { apiKey := resolvedKey o d, publicActions := d.auth.publicActions }
    resources }
  { result, warnings := resourceWarnings d.resources ++
      (if d.resources.isEmpty then [.noResources] else []) }

def fileName : String := "querygate.json"

inductive Found
  | nothing
  | directory
  | unreadable
  | text (s : String)
deriving DecidableEq, Repr

def Overrides.path (o : Overrides) (l : Location) : String :=
  match o.config with
  | some path => l.expand path
  | none => fileName

/-- Settings from what stands at the path of the configuration file; only a file that was named
has to be there. -/
def load (l : Location) (o : Overrides) (found : Found) : Outcome :=
  let path := o.path l
  match found with
  | .nothing =>
    if o.config.isSome then { result := .error (.notFound path) } else resolve l o {}
  | .directory | .unreadable => { result := .error (.unreadable path) }
  | .text s =>
    match Document.read? s with
    | none => { result := .error (.malformed path) }
    | some d =>
      let outcome := resolve l o d
      let unknown : List Warning :=
        if d.unknown.isEmpty then [] else [.unknownConfigFields (Text.join ", " d.unknown)]
      { outcome with warnings := unknown ++ outcome.warnings }

def Settings.resource? (s : Settings) (name : String) : Option ResourceSettings :=
  s.resources.find? fun r => r.name = name

end TableApi.Config
