import TableApi.Api.Site
import TableApi.Config.Settings
import TableApi.Net.Address

namespace TableApi.Command

def programName : String := "querygate"
def programTitle : String := "QueryGate"

namespace Banner

inductive Style
  | bold | green | yellow | cyan | grey
deriving DecidableEq, Repr

def Style.code : Style → String
  | bold => "\x1b[1m"
  | green => "\x1b[32m"
  | yellow => "\x1b[33m"
  | cyan => "\x1b[36m"
  | grey => "\x1b[90m"

def resetCode : String := "\x1b[0m"

def styled (styles : List Style) (s : String) : String :=
  String.join (styles.map Style.code) ++ s ++ resetCode

def link (linked : Bool) (url : String) : String :=
  if linked then "\x1b]8;;" ++ url ++ "\x07" ++ styled [.cyan] url ++ "\x1b]8;;\x07"
  else styled [.cyan] url

def labelWidth : Nat := 12

def label (s : String) : String :=
  s ++ String.ofList (List.replicate (labelWidth - s.length) ' ')

def baseUrl (server : Config.ServerSettings) : String :=
  let host := if Net.Address.everyInterface.contains server.host then "localhost" else server.host
  "http://" ++ host ++ ":" ++ toString server.port ++ Api.basePath

def resourceLine (base : String) (r : Config.ResourceSettings) : String :=
  "  " ++ styled [.yellow] "➜" ++ "  " ++ styled [.bold] (label "Resource:") ++ " " ++
    base ++ "/" ++ r.name ++ " " ++ styled [.grey] ("(" ++ r.table ++ ")")

def greyLine (name value : String) : String :=
  "  " ++ styled [.grey] ("➜  " ++ label name ++ " " ++ value)

def lines (linked : Bool) (s : Config.Settings) : List String :=
  let base := baseUrl s.server
  ["", "  " ++ styled [.bold, .cyan] programTitle ++ " " ++ styled [.grey] ("v" ++ Api.version), "",
    "  " ++ styled [.green] "➜" ++ "  " ++ styled [.bold] (label "API:") ++ " " ++
      link linked base] ++
  s.resources.map (resourceLine base) ++
  [greyLine "Auth:" (if s.auth.apiKey.isSome then "API key required" else "open"),
    greyLine "Database:" s.database.url, ""]

end Banner

def banner (linked : Bool) (s : Config.Settings) : String :=
  String.join ((Banner.lines linked s).map (· ++ "\n"))

end TableApi.Command
