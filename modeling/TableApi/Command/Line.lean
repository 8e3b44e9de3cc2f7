import TableApi.Config.Settings
import TableApi.Text.Digits

/-!
The command line: options that may stand before or after a command, the command, and its words.

Each level, that is the part before the command and the part after it, is read by itself: it takes
an option once, and what it does not give it looks for in the environment. At the end a value of
the command line wins over the environment, and the later level over the earlier one.
-/

namespace TableApi.Command

open Config (Overrides)

abbrev Environment := Entries String

inductive Task
  | start
  | translate (resource query : String)
deriving DecidableEq, Repr

inductive Stop
  | unknownArgument
  | unknownCommand
  | missingValue
  | invalidValue
  | missingWord
  | repeated
  | needlessValue
  | help
  | version
deriving DecidableEq, Repr

inductive ValueOption
  | host | port | config | databaseUrl | apiKey
deriving DecidableEq, Repr

namespace ValueOption

def all : List ValueOption := [host, port, config, databaseUrl, apiKey]

def environmentName : ValueOption → String
  | host => "QUERYGATE_HOST"
  | port => "QUERYGATE_PORT"
  | config => "QUERYGATE_CONFIG"
  | databaseUrl => "QUERYGATE_DATABASE_URL"
  | apiKey => "QUERYGATE_API_KEY"

end ValueOption

inductive Switch
  | option (o : ValueOption)
  | noAuth
  | help
  | version
deriving DecidableEq, Repr

structure Scope where
  isTop : Bool := false
  /-- How many words stand at the level. -/
  places : Nat := 0
deriving Repr

namespace Scope

def long? (s : Scope) : List Char → Option Switch := fun name =>
  match String.ofList name with
  | "host" => some (.option .host)
  | "port" => some (.option .port)
  | "config" => some (.option .config)
  | "database-url" => some (.option .databaseUrl)
  | "api-key" => some (.option .apiKey)
  | "no-auth" => some .noAuth
  | "help" => some .help
  | "version" => if s.isTop then some .version else none
  | _ => none

def short? (s : Scope) : Char → Option Switch
  | 'H' => some (.option .host)
  | 'p' => some (.option .port)
  | 'c' => some (.option .config)
  | 'h' => some .help
  | 'V' => if s.isTop then some .version else none
  | _ => none

end Scope

def isGiven (o : Overrides) : ValueOption → Bool
  | .host => o.host.isSome
  | .port => o.port.isSome
  | .config => o.config.isSome
  | .databaseUrl => o.databaseUrl.isSome
  | .apiKey => o.apiKey.isSome

def readPort? (s : String) : Option Nat :=
  match Text.readSigned64? s.toList with
  | some i => if 0 ≤ i ∧ i ≤ Config.maxPort then some i.toNat else none
  | none => none

def withValue (o : Overrides) (option : ValueOption) (value : String) : Except Stop Overrides :=
  match option with
  | .host => .ok { o with host := some value }
  | .port =>
    match readPort? value with
    | some n => .ok { o with port := some n }
    | none => .error .invalidValue
  | .config => if value = "" then .error .missingValue else .ok { o with config := some value }
  | .databaseUrl => .ok { o with databaseUrl := some value }
  | .apiKey => .ok { o with apiKey := some value }

inductive Pending
  | awaiting (option : ValueOption)
  | holding (option : ValueOption) (value : String)
deriving DecidableEq, Repr

structure Level where
  given : Overrides := {}
  pending : Option Pending := none
  /-- Whether only words follow. -/
  trailing : Bool := false
  words : List String := []
deriving Repr

namespace Level

def isAwaiting (l : Level) : Bool :=
  match l.pending with
  | some (.awaiting _) => true
  | _ => false

def store (l : Level) (option : ValueOption) (value : String) : Except Stop Level :=
  if isGiven l.given option then .error .repeated
  else (withValue l.given option value).map fun given => { l with given }

def settle (l : Level) : Except Stop Level :=
  let done := { l with pending := none }
  match l.pending with
  | none => .ok done
  | some (.awaiting _) => .error .missingValue
  | some (.holding option value) => done.store option value

def switch (l : Level) (s : Switch) (attached : Option (List Char)) : Except Stop Level :=
  match s, attached with
  | .option option, none => l.settle.map fun l => { l with pending := some (.awaiting option) }
  | .option option, some value => l.settle >>= fun l => l.store option (String.ofList value)
  | _, some _ => .error .needlessValue
  | .noAuth, none =>
    l.settle >>= fun l =>
      if l.given.noAuth then .error .repeated
      else .ok { l with given := { l.given with noAuth := true } }
  | .help, none => l.settle >>= fun _ => .error .help
  | .version, none => l.settle >>= fun _ => .error .version

def long (l : Level) (scope : Scope) (body : List Char) : Except Stop Level :=
  let (name, attached) := match Text.cutAt? '=' body with
    | some (name, value) => (name, some value)
    | none => (body, none)
  match scope.long? name with
  | none => .error .unknownArgument
  | some s => l.switch s attached

/-- Takes `-n`, `-nvalue` or `-n=value`. What follows a switch without a value does not matter,
for there is none that does not end the line. -/
def short (l : Level) (scope : Scope) (name : Char) (rest : List Char) : Except Stop Level :=
  match scope.short? name with
  | none => .error .unknownArgument
  | some (.option option) =>
    let attached := match rest with
      | [] => none
      | '=' :: value => some value
      | value => some value
    l.switch (.option option) attached
  | some s => l.switch s none

def commandNames : List String := ["start", "translate", "help"]

def word (l : Level) (scope : Scope) (w : String) : Except Stop Level :=
  if l.words.length < scope.places then l.settle.map fun l => { l with words := l.words ++ [w] }
  else if !scope.isTop || (l.trailing && commandNames.contains w) then .error .unknownArgument
  else .error .unknownCommand

def take (l : Level) (scope : Scope) (argument : String) : Except Stop Level :=
  if l.trailing then l.word scope argument
  else
    match argument.toList with
    | ['-', '-'] => .ok { l with trailing := true }
    | '-' :: '-' :: body => l.long scope body
    | '-' :: name :: rest => l.short scope name rest
    | _ =>
      match l.pending with
      | some (.awaiting option) => .ok { l with pending := some (.holding option argument) }
      | _ => l.word scope argument

def fromEnvironment (l : Level) (env : Environment) : Except Stop Overrides :=
  let wanted := ValueOption.all.filter fun option => !isGiven l.given option
  wanted.foldlM (fun o option =>
    match env.get? option.environmentName with
    | some value => withValue o option value
    | none => .ok o) {}

def finish (l : Level) (env : Environment) : Except Stop (Level × Overrides) := do
  let l ← l.settle
  return (l, ← l.fromEnvironment env)

end Level

def layered (upper lower : Overrides) : Overrides :=
  { host := upper.host.or lower.host
    port := upper.port.or lower.port
    config := upper.config.or lower.config
    databaseUrl := upper.databaseUrl.or lower.databaseUrl
    apiKey := upper.apiKey.or lower.apiKey
    noAuth := upper.noAuth || lower.noAuth }

structure Invocation where
  overrides : Overrides
  command : Option Task := none
deriving DecidableEq, Repr

/-- Reads the arguments after a command: what the level gives, what it finds in the environment,
and the command. -/
def readCommand (env : Environment) (scope : Scope) (build : List String → Option Task)
    (arguments : List String) : Except Stop (Overrides × Overrides × Task) := do
  let level ← arguments.foldlM (fun l argument => Level.take l scope argument) {}
  let (level, found) ← level.finish env
  match build level.words with
  | some command => return (level.given, found, command)
  | none => throw .missingWord

def startCommand? (_ : List String) : Option Task := some .start

def translateCommand? : List String → Option Task
  | [resource, query] => some (.translate resource query)
  | _ => none

def readHelp : List String → Stop
  | [] => .help
  | [name] => if Level.commandNames.contains name then .help else .unknownCommand
  | _ => .unknownCommand

def finishTop (env : Environment) (level : Level)
    (below : Option (Overrides × Overrides × Task)) : Except Stop Invocation := do
  let (level, found) ← level.finish env
  return match below with
  | none => { overrides := layered level.given found }
  | some (given, foundBelow, command) =>
    { overrides := layered (layered given level.given) (layered foundBelow found)
      command := some command }

def readTop (env : Environment) (level : Level) : List String → Except Stop Invocation
  | [] => finishTop env level none
  | argument :: rest =>
    if level.trailing || level.isAwaiting || !Level.commandNames.contains argument then
      level.take { isTop := true } argument >>= fun level => readTop env level rest
    else
      match argument with
      | "start" => readCommand env {} startCommand? rest >>= fun below => finishTop env level below
      | "translate" =>
        readCommand env { places := 2 } translateCommand? rest >>= fun below =>
          finishTop env level below
      | _ => .error (readHelp rest)

def readLine (env : Environment) (arguments : List String) : Except Stop Invocation :=
  readTop env {} arguments

end TableApi.Command
