/-!
UTF-8 octets. `decode` never stops: each ill-formed stretch, as long as it could still have begun
a character, gives one missing character.
-/

namespace TableApi.Text.Utf8

def encode (s : List Char) : List UInt8 := s.flatMap String.utf8EncodeChar

/-- Where a reader stands inside a character: the value so far, how many octets are still owed,
and the bounds of the next one. -/
structure Pending where
  value : Nat
  owed : Nat
  low : UInt8 := 0x80
  high : UInt8 := 0xBF
deriving DecidableEq, Repr

/-- The first octet of a character: a whole character, a character begun, or an ill-formed octet. -/
def first (b : UInt8) : Except (Option Char) Pending :=
  if b ≤ 0x7F then .error (some (Char.ofNat b.toNat))
  else if 0xC2 ≤ b && b ≤ 0xDF then .ok { value := b.toNat - 0xC0, owed := 1 }
  else if b == 0xE0 then .ok { value := 0, owed := 2, low := 0xA0 }
  else if b == 0xED then .ok { value := 0xD, owed := 2, high := 0x9F }
  else if 0xE1 ≤ b && b ≤ 0xEF then .ok { value := b.toNat - 0xE0, owed := 2 }
  else if b == 0xF0 then .ok { value := 0, owed := 3, low := 0x90 }
  else if b == 0xF4 then .ok { value := 4, owed := 3, high := 0x8F }
  else if 0xF1 ≤ b && b ≤ 0xF3 then .ok { value := b.toNat - 0xF0, owed := 3 }
  else .error none

structure Reader where
  read : List (Option Char) := []
  pending : Option Pending := none

def Reader.begin (r : List (Option Char)) (b : UInt8) : Reader :=
  match first b with
  | .error c => { read := c :: r }
  | .ok p => { read := r, pending := some p }

def Reader.step (r : Reader) (b : UInt8) : Reader :=
  match r.pending with
  | none => .begin r.read b
  | some p =>
    if p.low ≤ b && b ≤ p.high then
      let value := p.value * 64 + (b.toNat - 0x80)
      if p.owed = 1 then { read := some (Char.ofNat value) :: r.read }
      else { r with pending := some { value, owed := p.owed - 1 } }
    else .begin (none :: r.read) b

def Reader.finish (r : Reader) : List (Option Char) :=
  (if r.pending.isSome then none :: r.read else r.read).reverse

/-- The characters of the octets, `none` for each ill-formed stretch. -/
def decode (bytes : List UInt8) : List (Option Char) := (bytes.foldl Reader.step {}).finish

def decodeLossy (bytes : List UInt8) : String :=
  String.ofList ((decode bytes).map (·.getD '\uFFFD'))

def decode? (bytes : List UInt8) : Option String :=
  let read := decode bytes
  if read.all Option.isSome then some (String.ofList (read.filterMap id)) else none

end TableApi.Text.Utf8
