import TableApi.Net.Address
import TableApi.Net.Domain

namespace TableApi.Validation.Email

def maxUser : Nat := 64
def maxDomain : Nat := 255
def maxLabel : Nat := 63

def isUserChar (c : Char) : Bool :=
  c.isAlphanum || ".!#$%&'*+/=?^_\x60\x7b|\x7d~-".toList.contains c

def isUser (s : List Char) : Bool := !s.isEmpty && s.all isUserChar

def isLabel (s : List Char) : Bool :=
  s.length ≤ maxLabel && s.all (fun c => c.isAlphanum || c = '-') &&
    s.head?.any Char.isAlphanum && s.getLast?.any Char.isAlphanum

def literal? (domain : List Char) : Option (List Char) :=
  match domain.reverse with
  | ']' :: rest => (Text.cutAtLast? '[' rest.reverse).map Prod.snd
  | _ => none

def isDomain (s : List Char) : Bool :=
  (s.splitOn '.').all isLabel || (literal? s).any Net.Address.isAddress

/-- A user and a domain around the last `@`; the domain may also be one in its ASCII form. -/
def isEmail (s : String) : Bool :=
  match Text.cutAtLast? '@' s.toList with
  | none => false
  | some (user, domain) =>
    user.length ≤ maxUser && domain.length ≤ maxDomain && isUser user &&
      (isDomain domain || (Net.Domain.toAscii? (fun _ => false) domain).any isDomain)

end TableApi.Validation.Email
