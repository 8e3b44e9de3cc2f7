import TableApi.Text.Digits
import TableApi.Text.Utf8

namespace TableApi.Text.Percent

def ofByte (b : UInt8) : Char := Char.ofNat b.toNat

/-- Replaces each `%` with two hexadecimal digits by the octet they name; a `%` without them
stands for itself. -/
def decode : List UInt8 → List UInt8
  | [] => []
  | b :: rest =>
    if b = 0x25 then
      match rest with
      | x :: y :: tail =>
        match hexValue? (ofByte x), hexValue? (ofByte y) with
        | some high, some low => UInt8.ofNat (16 * high + low) :: decode tail
        | _, _ => b :: decode (x :: y :: tail)
      | short => b :: decode short
    else b :: decode rest

def decodeForm (bytes : List UInt8) : String :=
  Utf8.decodeLossy (decode (bytes.map fun b => if b = 0x2B then 0x20 else b))

/-- The pairs of a form-encoded text: pieces between `&`, empty ones left out, each cut at its
first `=`. -/
def formPairs (bytes : List UInt8) : List (String × String) :=
  (bytes.splitOn 0x26).filterMap fun piece =>
    if piece.isEmpty then none
    else
      let name := piece.takeWhile (· != 0x3D)
      let value := (piece.dropWhile (· != 0x3D)).drop 1
      some (decodeForm name, decodeForm value)

end TableApi.Text.Percent
