import TableApi.Filter.Translate
import TableApi.Json.Basic
import TableApi.Validation.FieldErrors

namespace TableApi.Api

structure Response where
  status : Nat
  headers : Entries String := []
  body : String := ""
  compressed : Bool := false
deriving DecidableEq, Repr

def jsonType : String := "application/json"

def Response.json (status : Nat) (v : Json) : Response :=
  { status, headers := [("content-type", jsonType)], body := v.render }

inductive Failure
  | wrongArguments (message : String)
  | unauthorized
  | notFound
  | unprocessable (message : String) (errors : Validation.FieldErrors)
  | internal (message : String)
deriving DecidableEq, Repr

namespace Failure

def status : Failure → Nat
  | wrongArguments _ => 400
  | unauthorized => 401
  | notFound => 404
  | unprocessable .. => 422
  | internal _ => 500

def code : Failure → String
  | wrongArguments _ => "GEN-WRONG-ARGS"
  | unauthorized => "GEN-UNAUTHORIZED"
  | notFound => "GEN-NOT-FOUND"
  | unprocessable .. => "GEN-UNPROCESSABLE"
  | internal _ => "GEN-INTERNAL-ERROR"

def message : Failure → String
  | wrongArguments m => m
  | unauthorized => "Unauthorized"
  | notFound => "Resource Not Found"
  | unprocessable m _ => m
  | internal m => m

def invalid (errors : Validation.FieldErrors) : Failure :=
  .unprocessable (errors.first?.getD "The given data was invalid") errors

def ofInvalidDate (e : Filter.InvalidDate) : Failure :=
  invalid (Validation.FieldErrors.add [] e.field e.message)

def storeFailed : Failure := .internal "Database operation failed"

def errors? : Failure → Option Validation.FieldErrors
  | unprocessable _ errors => some errors
  | _ => none

end Failure

def errorsJson (errors : Validation.FieldErrors) : Json :=
  .obj (errors.map fun (field, messages) => (field, .strings messages))

def Failure.json (f : Failure) : Json :=
  .obj [("error", .obj ([("code", .str f.code), ("http_code", .nat f.status),
    ("message", .str f.message)] ++ (f.errors?.map fun e => ("errors", errorsJson e)).toList))]

def Failure.response (f : Failure) : Response := .json f.status f.json

def confirmation (message : String) : Json :=
  .obj [("success", .obj [("code", .str "GEN-SUCCESS"), ("http_code", .nat 200),
    ("message", .str message)])]

def confirm (message : String) : Response := .json 200 (confirmation message)

end TableApi.Api
