import TableApi.Api.Request

namespace TableApi.Api

namespace Encoding

def fraction? : List Char → Nat → Nat → Option Nat
  | [], _, value => some value
  | c :: rest, factor, value =>
    if c.isDigit && factor != 0 then
      fraction? rest (factor / 10) (value + factor * Text.digitValue c)
    else none

/-- A weight such as `q=0.5` in thousandths, at most one. -/
def weight? (s : List Char) : Option Nat :=
  match s with
  | q :: '=' :: c :: rest =>
    if q != 'q' && q != 'Q' || c != '0' && c != '1' then none
    else
      let whole := 1000 * Text.digitValue c
      match rest with
      | [] => some whole
      | '.' :: digits => (fraction? digits 100 whole).filter (· ≤ 1000)
      | _ => none
  | _ => none

def preference? (piece : List Char) : Option (String × Nat) :=
  match Text.cutAt? ';' piece with
  | none => some (Text.lower (String.ofList (Text.trimChars piece)), 1000)
  | some (name, weight) =>
    (weight? (Text.trimChars weight)).map fun w =>
      (Text.lower (String.ofList (Text.trimChars name)), w)

def preferences (req : Request) : List (String × Nat) :=
  let values := (req.headers.filter fun h => Text.sameIgnoringCase h.1 "accept-encoding").map
    Prod.snd
  let readable := values.filter fun value => value.toList.all isReadable
  readable.flatMap fun value => (value.toList.splitOn ',').filterMap preference?

def weight (preferences : List (String × Nat)) (codings : List String) : Nat :=
  ((preferences.filter fun p => codings.contains p.1).map Prod.snd).foldl max 0

end Encoding

/-- Whether a request prefers a compressed answer: it wants one at all, and no less than a plain
one. -/
def prefersGzip (req : Request) : Bool :=
  let preferences := Encoding.preferences req
  let gzip := Encoding.weight preferences ["gzip", "x-gzip"]
  0 < gzip && Encoding.weight preferences ["identity"] ≤ gzip

def minCompressed : Nat := 32

def Response.compress (r : Response) (req : Request) : Response :=
  if minCompressed ≤ r.body.utf8ByteSize && prefersGzip req then
    { r with headers := r.headers.put "content-encoding" "gzip", compressed := true }
  else r

end TableApi.Api
