import TableApi.Text.Cut
import TableApi.Text.Digits

/-!
Punycode: a label written with ASCII letters, digits and hyphens alone. The ASCII characters stand
first; after the last hyphen, numbers of variable length say where the other characters go.
-/

namespace TableApi.Net.Punycode

def base : Nat := 36
def leastThreshold : Nat := 1
def mostThreshold : Nat := 26
def skew : Nat := 38
def damping : Nat := 700
def firstBias : Nat := 72
def firstCode : Nat := 128

def digit (n : Nat) : Char := if n < 26 then Char.ofNat (97 + n) else Char.ofNat (22 + n)

def digitValue? (c : Char) : Option Nat :=
  if 'a' ≤ c ∧ c ≤ 'z' then some (c.toNat - 97)
  else if 'A' ≤ c ∧ c ≤ 'Z' then some (c.toNat - 65)
  else if '0' ≤ c ∧ c ≤ '9' then some (c.toNat - 22)
  else none

/-- The digit at position `index` that ends a number is below this. -/
def threshold (bias index : Nat) : Nat :=
  min mostThreshold (max leastThreshold (base * (index + 1) - bias))

def scaleDown : Nat → Nat → Nat × Nat
  | 0, delta => (0, delta)
  | steps + 1, delta =>
    if (base - leastThreshold) * mostThreshold / 2 < delta then
      let (k, rest) := scaleDown steps (delta / (base - leastThreshold))
      (k + base, rest)
    else (0, delta)

def adapt (delta count : Nat) (first : Bool) : Nat :=
  let delta := if first then delta / damping else delta / 2
  let (k, rest) := scaleDown (delta.log2 + 1) (delta + delta / count)
  k + (base - leastThreshold + 1) * rest / (rest + skew)

def writeNumber (bias : Nat) : Nat → Nat → Nat → List Char
  | 0, _, _ => []
  | steps + 1, index, q =>
    let t := threshold bias index
    if q < t then [digit q]
    else
      digit (t + (q - t) % (base - t)) ::
        writeNumber bias steps (index + 1) ((q - t) / (base - t))

/-- Where a writer stands: the distance gathered, the bias, the count of characters written and
the text so far, last first. -/
structure Writer where
  delta : Nat
  bias : Nat
  count : Nat
  first : Bool
  out : List Char

/-- Passes one character of the label while the characters of code `code` are being placed. -/
def Writer.pass (code : Nat) (w : Writer) (c : Char) : Writer :=
  if c.toNat < code then { w with delta := w.delta + 1 }
  else if c.toNat = code then
    { delta := 0, bias := adapt w.delta (w.count + 1) w.first, count := w.count + 1, first := false,
      out := (writeNumber w.bias (w.delta.log2 + 2) 0 w.delta).reverse ++ w.out }
  else w

def writeCodes (label : List Char) : List Nat → Nat → Writer → Writer
  | [], _, w => w
  | code :: rest, from_, w =>
    let w := { w with delta := w.delta + (code - from_) * (w.count + 1) }
    let w := label.foldl (Writer.pass code) w
    writeCodes label rest (code + 1) { w with delta := w.delta + 1 }

def encode (label : List Char) : List Char :=
  let plain := label.filter (·.toNat < firstCode)
  let codes := ((label.map Char.toNat).filter (firstCode ≤ ·)).eraseDups.mergeSort (· ≤ ·)
  let start : Writer :=
    { delta := 0, bias := firstBias, count := plain.length, first := true, out := [] }
  plain ++ (if plain.isEmpty then [] else ['-']) ++
    (writeCodes label codes firstCode start).out.reverse

def readNumber? (bias index weight sum : Nat) : List Char → Option (Nat × List Char)
  | [] => none
  | c :: rest =>
    match digitValue? c with
    | none => none
    | some d =>
      let t := threshold bias index
      let sum := sum + d * weight
      if d < t then some (sum, rest)
      else readNumber? bias (index + 1) (weight * (base - t)) sum rest

/-- Where a reader stands: the code and the place of the next character, the bias, and the text so
far. -/
structure Reader where
  code : Nat
  place : Nat
  bias : Nat
  out : List Char

def Reader.put? (r : Reader) (distance : Nat) : Option Reader :=
  let count := r.out.length + 1
  let position := r.place + distance
  let code := r.code + position / count
  let place := position % count
  if code.isValidChar then
    some {
      code, place := place + 1, bias := adapt distance count (r.place = 0),
      out := r.out.take place ++ Char.ofNat code :: r.out.drop place }
  else none

/-- Reads numbers to the end of the text, which is as long as there are numbers at most. -/
def readCodes? : Nat → Reader → List Char → Option (List Char)
  | _, r, [] => some r.out
  | 0, _, _ => none
  | steps + 1, r, s =>
    match readNumber? r.bias 0 1 0 s with
    | none => none
    | some (distance, rest) =>
      match r.put? distance with
      | none => none
      | some r => readCodes? steps r rest

/-- The label of an ASCII form without its opening. A hyphen that nothing stands before is no
separator. -/
def decode? (s : List Char) : Option (List Char) :=
  let (plain, numbers) := match Text.cutAtLast? '-' s with
    | some ([], _) | none => ([], s)
    | some parts => parts
  readCodes? numbers.length { code := firstCode, place := 0, bias := firstBias, out := plain }
    numbers

end TableApi.Net.Punycode
