import TableApi.Text.Digits

namespace TableApi.Text

def readHex (s : List Char) : Nat × List Char :=
  let digits := s.takeWhile fun c => (Text.hexValue? c).isSome
  (digits.foldl (fun n c => 16 * n + (Text.hexValue? c).getD 0) 0, s.drop digits.length)

def tableWords (table : String) : List (List Char) :=
  ((table.toList.map fun c => if c = '\n' then ' ' else c).splitOn ' ').filter (!·.isEmpty)

structure Range where
  first : Nat
  last : Nat
deriving DecidableEq, Repr

def Range.ofWord (word : List Char) : Range :=
  let (first, rest) := readHex word
  match rest with
  | '-' :: rest => { first, last := (readHex rest).1 }
  | _ => { first, last := first }

def ranges (table : String) : List Range := (tableWords table).map Range.ofWord

def inRanges (rs : List Range) (n : Nat) : Bool := rs.any fun r => r.first ≤ n && n ≤ r.last

def valueIn? {α : Type} (groups : List (α × List Range)) (n : Nat) : Option α :=
  (groups.find? fun g => inRanges g.2 n).map Prod.fst

end TableApi.Text
