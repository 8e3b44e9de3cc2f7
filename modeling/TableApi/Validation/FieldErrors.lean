import TableApi.Entries

namespace TableApi.Validation

/-- The messages of each field, in the order in which the fields first failed. -/
abbrev FieldErrors := Entries (List String)

namespace FieldErrors

def add (errors : FieldErrors) (field message : String) : FieldErrors :=
  Entries.alter errors field fun messages => messages.getD [] ++ [message]

def first? (errors : FieldErrors) : Option String :=
  match errors with
  | [] => none
  | (_, messages) :: _ => messages.head?

end FieldErrors

end TableApi.Validation
