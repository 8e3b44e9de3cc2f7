import TableApi.Api.Site
import TableApi.Config.Resource

namespace TableApi.Config

inductive SiteError
  | invalidRules (name : String) (e : Validation.RuleError)
  /-- A resource has the name under which the site reports its health. -/
  | reservedName (name : String)
  /-- The word for every origin stands in a list of origins. -/
  | wildcardOrigin
deriving DecidableEq, Repr

def SiteError.message : SiteError → String
  | invalidRules name e => "Invalid validation rules for resource '" ++ name ++ "': " ++ e.message
  | reservedName name => "The name '" ++ name ++ "' is reserved"
  | wildcardOrigin => "A list of origins cannot name every origin"

def ResourceSettings.mounted (r : ResourceSettings) (auth : AuthSettings) :
    Except SiteError (String × Api.Resource) :=
  match r.resource auth with
  | .error e => .error (.invalidRules r.name e)
  | .ok resource =>
    if r.name = Api.healthName then .error (.reservedName r.name) else .ok (r.name, resource)

/-- The site of some settings: the first bad resource decides the error, then the origins. -/
def Settings.site (s : Settings) : Except SiteError Api.Site := do
  let resources ← s.resources.mapM fun r => r.mounted s.auth
  let origins := Api.Origins.ofList s.server.origins
  match origins with
  | .listed listed => if listed.contains Api.everyOrigin then throw .wildcardOrigin
  | .any => pure ()
  return { resources, origins }

def Settings.siteWarnings (s : Settings) : List Warning :=
  (s.server.origins.filter fun origin => !Api.Origins.isUsable origin).map .invalidOrigin

end TableApi.Config
