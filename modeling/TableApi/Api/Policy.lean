import TableApi.Api.Request
import TableApi.Filter.Clause
import TableApi.Validation.RuleSet

namespace TableApi.Api

inductive Action
  | viewAny
  | view
  | create
  | update
  | delete
deriving DecidableEq, Repr

def Action.all : List Action := [.viewAny, .view, .create, .update, .delete]

def Action.name : Action → String
  | .viewAny => "view_any"
  | .view => "view"
  | .create => "create"
  | .update => "update"
  | .delete => "delete"

def Action.read? (s : String) : Option Action := Action.all.find? fun a => a.name = s

structure Policy where
  authorizes : Action → Request → Bool
  rules : Action → Validation.RuleSet := fun _ => []
  /-- Clauses that every listed row satisfies. -/
  scope : Request → List Filter.Clause := fun _ => []
  /-- Adjusts a record before it is stored. -/
  prepare : Request → Record → Record := fun _ record => record
  /-- Entries beside the pagination of a listing. -/
  extra : Request → Record := fun _ => []

def Policy.permissive : Policy := { authorizes := fun _ _ => true }

def keyHeader : String := "x-api-key"

structure KeyGuard where
  key : Option String := none
  publicActions : List Action := []
  createRules : Validation.RuleSet := []
  updateRules : Validation.RuleSet := []
deriving Repr

namespace KeyGuard

def presented? (r : Request) : Option String := r.bearerToken?.or (r.header? keyHeader)

def authorizes (g : KeyGuard) (action : Action) (r : Request) : Bool :=
  match g.key with
  | none => true
  | some key => g.publicActions.contains action || presented? r = some key

def rules (g : KeyGuard) : Action → Validation.RuleSet
  | .create => g.createRules
  | .update => g.updateRules
  | _ => []

def policy (g : KeyGuard) : Policy := { authorizes := g.authorizes, rules := g.rules }

end KeyGuard

end TableApi.Api
