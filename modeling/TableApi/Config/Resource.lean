import TableApi.Api.Resource
import TableApi.Config.Settings

namespace TableApi.Config

open TableApi.Filter (Parameters Translation)

def ResourceSettings.resource (r : ResourceSettings) (auth : AuthSettings) :
    Except Validation.RuleError Api.Resource := do
  let createRules ← Validation.RuleSet.read r.createRules
  let updateRules ← Validation.RuleSet.read r.updateRules
  let keyGuard : Api.KeyGuard :=
    { key := auth.apiKey, publicActions := auth.publicActions, createRules, updateRules }
  return {
    table := { name := r.table, primaryKey := r.primaryKey }
    fields := r.fields
    writable := r.allowedAttributes
    hidden := r.hidden
    perPage := r.perPage
    policy := keyGuard.policy }

inductive TranslateError
  | unknownResource (name : String)
  | invalidRules (e : Validation.RuleError)
  | invalidQuery (query : String) (e : Net.UriError)
  | invalidDate (e : Filter.InvalidDate)
deriving DecidableEq, Repr

def TranslateError.message : TranslateError → String
  | unknownResource name => "Unknown resource '" ++ name ++ "'"
  | invalidRules e => e.message
  | invalidQuery query e => "Invalid query string: " ++ query ++ ": " ++ e.message
  | invalidDate e => e.message

def readQuery (query : String) : Except Net.UriError Parameters :=
  let bare := String.ofList (query.toList.dropWhile (· = '?'))
  (Net.Uri.read ("/?" ++ bare)).map fun uri => Parameters.ofPairs uri.pairs

def Settings.translate (s : Settings) (name query : String) :
    Except TranslateError (Translation × List Warning) :=
  match s.resource? name with
  | none => .error (.unknownResource name)
  | some settings =>
    match settings.resource s.auth with
    | .error e => .error (.invalidRules e)
    | .ok resource =>
      match readQuery query with
      | .error e => .error (.invalidQuery query e)
      | .ok params =>
        let outcome := resource.translate params
        match outcome.result with
        | .error e => .error (.invalidDate e)
        | .ok t => .ok (t, outcome.warnings)

end TableApi.Config
