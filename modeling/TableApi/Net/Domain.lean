import TableApi.Net.Domain.Joining
import TableApi.Net.Domain.Mapping
import TableApi.Net.Punycode

namespace TableApi.Net.Domain

def asciiOpening : List Char := "xn--".toList

def isAscii (s : List Char) : Bool := s.all fun c => c.toNat < 0x80

def maxWritten : Nat := 1000
def maxRead : Nat := 2000

def isProper (label : List Char) : Bool :=
  !(label.head?.any isMark) && joinersFit [] label &&
    label.all isKept && normalize label = label

def readLabel? (label : List Char) : Option (List Char) :=
  match Text.dropOpening? asciiOpening label with
  | none => if isAscii label || isProper label then some label else none
  | some body =>
    if !isAscii body || maxRead < body.length then none
    else
      match Punycode.decode? body with
      | none => none
      | some text => if isAscii text || !isProper text then none else some text

def writeLabel? (label : List Char) : Option (List Char) :=
  if isAscii label then some label
  else if maxWritten < label.length then none
  else some (asciiOpening ++ Punycode.encode label)

def toAscii? (denied : Char → Bool) (name : List Char) : Option (List Char) := do
  let mapped ← name.mapM replacement?
  let text := normalize mapped.flatten
  let labels ← (text.splitOn '.').mapM readLabel?
  if text.any (fun c => c.toNat < 0x80 && denied c) then none
  if labels.any hasRightToLeft && !labels.all isDirected then none
  let written ← labels.mapM writeLabel?
  return ['.'].intercalate written

end TableApi.Net.Domain
