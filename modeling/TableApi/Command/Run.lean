import TableApi.Command.Banner
import TableApi.Command.EnvFile
import TableApi.Config.Site
import TableApi.Filter.Json
import TableApi.Store.Connection
import TableApi.Store.Schema
import TableApi.Store.Url

namespace TableApi.Command

open Config (Found Location Settings)

structure Exit where
  code : Nat := 0
  output : String := ""
  error : String := ""
deriving DecidableEq, Repr

def Exit.failed (output message : String) : Exit :=
  { code := 1, output, error := "\nError: " ++ message ++ "\n\n" }

def Exit.fault (output : String) : Exit := { code := 101, output }

structure Host (m : Type → Type) where
  location : Location
  getVariable : String → m (Option String)
  look : String → m Found

inductive OpenError
  | url (e : Store.UrlError)
  | noConnections
  | database (e : Store.DatabaseError)
  | schemaMissing
  | schemaDirectory
  | schemaUnreadable
  | schemaFailed (path : String) (e : Store.DatabaseError)
deriving DecidableEq, Repr

def told (kind text cause : String) : String := kind ++ text ++ ": " ++ text ++ cause

def OpenError.message : OpenError → String
  | url e => told "Database error: " ("error with configuration: " ++ e.message) (": " ++ e.message)
  | noConnections => "no connections"
  | database e =>
    told "Database error: " e.message (": (code: " ++ toString e.code ++ ") " ++ e.text)
  | schemaMissing => told "IO error: " "No such file or directory (os error 2)" ""
  | schemaDirectory => told "IO error: " "Is a directory (os error 21)" ""
  | schemaUnreadable => told "IO error: " "Permission denied (os error 13)" ""
  | schemaFailed path e => Store.StoreError.message (.schemaFailed path e.message)

def parent (path : String) : String :=
  match Text.cutAtLast? '/' path.toList with
  | none => "."
  | some ([], _) => "/"
  | some (directory, _) => String.ofList directory

section Open

variable {m : Type → Type} [Monad m]

def openFile (host : Host m) (url : Store.Url) : m (Except OpenError Unit) := do
  match ← host.look url.path with
  | .text s => return if s = "" then .ok () else .error (.database .notADatabase)
  | .directory | .unreadable => return .error (.database .cannotOpen)
  | .nothing =>
    if url.readOnly then return .error (.database .cannotOpen)
    match ← host.look (parent url.path) with
    | .directory => return .ok ()
    | _ => return .error (.database .cannotOpen)

def openDatabase (host : Host m) (settings : Config.DatabaseSettings) :
    m (Except OpenError Store.Connection) := do
  match Store.Url.read settings.url with
  | .error e => return .error (.url e)
  | .ok url =>
    if settings.maxConnections = 0 && !Store.Url.namesMemory settings.url then
      return .error .noConnections
    let opened ← if url.inMemory || url.path = "" then pure (.ok ()) else openFile host url
    match opened, settings.schemaFile with
    | .error e, _ => return .error e
    | .ok (), none => return .ok {}
    | .ok (), some path =>
      match ← host.look path with
      | .nothing => return .error .schemaMissing
      | .directory => return .error .schemaDirectory
      | .unreadable => return .error .schemaUnreadable
      | .text schema =>
        match Store.Schema.run [] schema with
        | .error e => return .error (.schemaFailed path e)
        | .ok database => return .ok { database }

end Open

variable {m : Type → Type} [Monad m]

def loadSettings (host : Host m) (overrides : Config.Overrides) : m Config.Outcome :=
  return Config.load host.location overrides (← host.look (overrides.path host.location))

def runTranslate (settings : Settings) (resource query : String) : Exit :=
  match settings.translate resource query with
  | .error e => .failed "" e.message
  | .ok (t, _) => { output := t.json.renderIndented ++ "\n" }

def linkVariable : String := "FORCE_HYPERLINK"

def isLinked (env : Environment) : Bool :=
  (env.get? linkVariable).any fun value => Text.trim value != "0"

def boundAddress (server : Config.ServerSettings) : String :=
  let host := if Net.Address.isV6 server.host.toList then "[" ++ server.host ++ "]" else server.host
  host ++ ":" ++ toString server.port

/-- Starts the service up to the point where it would listen; there is nothing here to listen
with. -/
def runStart (host : Host m) (env : Environment) (settings : Settings) : m Exit := do
  match ← openDatabase host settings.database with
  | .error .noConnections => return .fault ""
  | .error e =>
    return .failed "" ("Failed to open database " ++ settings.database.url ++ ": " ++ e.message)
  | .ok _ =>
    let shown := banner (isLinked env) settings
    match settings.site with
    | .error (.invalidRules name e) =>
      return .failed shown (Config.SiteError.message (.invalidRules name e))
    | .error _ => return .fault shown
    | .ok _ =>
      if !Net.Address.isAddress settings.server.host.toList then
        return .failed shown "invalid IP address syntax"
      else return .failed shown ("Failed to bind " ++ boundAddress settings.server ++
        ": no listener is available")

def versionText : String := programName ++ " " ++ Api.version ++ "\n"

def usageText : String := Text.join "\n" [
  "Query-string filtered REST API over SQLite tables",
  "",
  "Usage: querygate [OPTIONS] [COMMAND]",
  "",
  "Commands:",
  "  start      Start the server (default command)",
  "  translate  Print how a query string translates for a configured resource",
  "  help       Print this message or the help of the given subcommand(s)",
  "",
  "Options:",
  "  -H, --host <HOST>                  Server host address [env: QUERYGATE_HOST]",
  "  -p, --port <PORT>                  Server port [env: QUERYGATE_PORT]",
  "  -c, --config <CONFIG>              Path to config file [env: QUERYGATE_CONFIG]",
  "      --database-url <DATABASE_URL>  SQLite connection URL [env: QUERYGATE_DATABASE_URL]",
  "      --api-key <API_KEY>            API key required by protected actions " ++
    "[env: QUERYGATE_API_KEY]",
  "      --no-auth                      Disable API key checks (for development)",
  "  -h, --help                         Print help",
  "  -V, --version                      Print version",
  ""]

def envFileName : String := ".env"

def ownVariables : List String := ValueOption.all.map ValueOption.environmentName ++ [linkVariable]

def gather (host : Host m) (names : List String) : m Environment :=
  names.foldlM (fun env name => do
    match ← host.getVariable name with
    | some value => return env.put name value
    | none => return env) []

/-- The environment with the variables of the nearest file of them: the one in the working
directory or the nearest directory above it. -/
def readEnvironment (host : Host m) : List String → m Environment
  | [] => gather host ownVariables
  | directory :: above => do
    match ← host.look (Location.joined directory envFileName) with
    | .text s => return EnvFile.read (← gather host (ownVariables ++ EnvFile.names s)) s
    | _ => readEnvironment host above

def run (host : Host m) (arguments : List String) : m Exit := do
  let env ← readEnvironment host host.location.directories
  match readLine env arguments with
  | .error .help => return { output := usageText }
  | .error .version => return { output := versionText }
  | .error _ => return { code := 2, error := "error: invalid usage\n\n" ++ usageText }
  | .ok invocation =>
    let outcome ← loadSettings host invocation.overrides
    match outcome.result with
    | .error e => return .failed "" e.message
    | .ok settings =>
      match invocation.command with
      | some (.translate resource query) => return runTranslate settings resource query
      | _ => runStart host env settings

end TableApi.Command
