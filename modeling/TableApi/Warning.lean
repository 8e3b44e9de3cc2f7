namespace TableApi

inductive Warning
  | filterNotAllowed (parameter field : String)
  | listNotMembership (parameter : String)
  | sortNotAllowed (field : String)
  | unknownDirection (field direction : String)
  | limitNotNumeric (limit : String)
  | unknownConfigFields (fields : String)
  | unusableDateField (resource field : String)
  | noResources
  | invalidOrigin (origin : String)
  | healthCheckFailed (error : String)
deriving DecidableEq, Repr

namespace Warning

def message : Warning → String
  | filterNotAllowed .. => "Ignoring filter on field not in whitelist"
  | listNotMembership _ => "Ignoring array value for non-membership filter"
  | sortNotAllowed _ => "Ignoring sort on field not in whitelist"
  | unknownDirection .. => "Ignoring sort with unknown direction"
  | limitNotNumeric _ => "Ignoring non-numeric limit"
  | unknownConfigFields _ => "Unknown fields in config file (possible typos)"
  | unusableDateField .. => "Date field is not in allowed_fields and can never be filtered"
  | noResources => "No resources configured; only the health endpoint will be served"
  | invalidOrigin _ => "Ignoring invalid CORS origin"
  | healthCheckFailed _ => "Health check query failed"

def details : Warning → List (String × String)
  | filterNotAllowed parameter field => [("parameter", parameter), ("field", field)]
  | listNotMembership parameter => [("parameter", parameter)]
  | sortNotAllowed field => [("field", field)]
  | unknownDirection field direction => [("field", field), ("direction", direction)]
  | limitNotNumeric limit => [("limit", limit)]
  | unknownConfigFields fields => [("fields", fields)]
  | unusableDateField resource field => [("resource", resource), ("field", field)]
  | noResources => []
  | invalidOrigin origin => [("origin", origin)]
  | healthCheckFailed error => [("error", error)]

end Warning

end TableApi
