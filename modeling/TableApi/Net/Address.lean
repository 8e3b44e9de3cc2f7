import TableApi.Text.Cut
import TableApi.Text.Digits

namespace TableApi.Net.Address

def isOctet (s : List Char) : Bool :=
  !s.isEmpty && s.length ≤ 3 && s.all Char.isDigit && (s.length = 1 || s.head? != some '0') &&
    Text.digitsValue s ≤ 255

def isV4 (s : List Char) : Bool :=
  let octets := s.splitOn '.'
  octets.length = 4 && octets.all isOctet

def isHexDigit (c : Char) : Bool := (Text.hexValue? c).isSome

def isGroup (s : List Char) : Bool := !s.isEmpty && s.length ≤ 4 && s.all isHexDigit

/-- How many groups of 16 bits the pieces between colons stand for; the last piece may be a whole
address of four octets, which counts as two. -/
def groupCount? : List (List Char) → Option Nat
  | [] => some 0
  | [last] => if isV4 last then some 2 else if isGroup last then some 1 else none
  | piece :: rest => if isGroup piece then (groupCount? rest).map (· + 1) else none

def cutAtGap? : List Char → Option (List Char × List Char)
  | ':' :: ':' :: rest => some ([], rest)
  | c :: rest => (cutAtGap? rest).map fun (before, after) => (c :: before, after)
  | [] => none

def pieces (s : List Char) : List (List Char) := if s.isEmpty then [] else s.splitOn ':'

/-- Eight groups, or up to seven where a double colon stands for the missing ones. Before the
double colon there are groups only. -/
def isV6 (s : List Char) : Bool :=
  match cutAtGap? s with
  | none => groupCount? (pieces s) = some 8
  | some (before, after) =>
    (pieces before).all isGroup &&
      (groupCount? (pieces after)).any fun count => (pieces before).length + count ≤ 7

def isAddress (s : List Char) : Bool := isV4 s || isV6 s

def everyInterface : List String := ["0.0.0.0", "::", "[::]"]

end TableApi.Net.Address
