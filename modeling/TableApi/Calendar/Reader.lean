import TableApi.Calendar.Instant
import TableApi.Text.Blank

namespace TableApi.Calendar

inductive Field
  | year | month | day | hour | minute | second
deriving DecidableEq, Repr

inductive Item
  /-- Exactly so many digits. -/
  | exact (field : Field) (width : Nat)
  /-- Blanks, then one digit and up to so many; a year may have a sign and then any count. -/
  | loose (field : Field) (width : Nat)
  /-- Nothing, or a point and digits. -/
  | fraction
  /-- Any number of blanks. -/
  | blanks
  | oneOf (choices : List Char)
  /-- The distance from universal time. -/
  | offset
deriving DecidableEq, Repr

structure Fields where
  date : Date := { year := 0, month := 1, day := 1 }
  hour : Nat := 0
  minute : Nat := 0
  second : Nat := 0
  nanos : Nat := 0
  /-- Seconds east of universal time. -/
  offset : Int := 0
deriving Repr

namespace Fields

def set (f : Fields) (field : Field) (value : Int) : Fields :=
  match field with
  | .year => { f with date := { f.date with year := value } }
  | .month => { f with date := { f.date with month := value.toNat } }
  | .day => { f with date := { f.date with day := value.toNat } }
  | .hour => { f with hour := value.toNat }
  | .minute => { f with minute := value.toNat }
  | .second => { f with second := value.toNat }

def instant? (f : Fields) : Option Instant :=
  if f.date.isValid && f.hour ≤ 23 && f.minute ≤ 59 && f.second ≤ 60 then
    let leap := f.second = 60
    let second := if leap then 59 else f.second
    some {
      seconds := f.date.dayNumber * 86400 + f.hour * 3600 + f.minute * 60 + second - f.offset
      nanos := f.nanos + if leap then nanosPerSecond else 0 }
  else none

end Fields

def readNumber? (most : Nat) (s : List Char) : Option (Nat × List Char) :=
  let digits := (s.take most).takeWhile Char.isDigit
  if digits.isEmpty then none else some (Text.digitsValue digits, s.drop digits.length)

/-- The digits of a fraction up to the ninth, as nanoseconds; further digits are dropped. -/
def readFraction? (s : List Char) : Option (Nat × List Char) :=
  let digits := s.takeWhile Char.isDigit
  if digits.isEmpty then none
  else
    let kept := digits.take 9
    some (Text.digitsValue kept * Nat.pow 10 (9 - kept.length), s.drop digits.length)

def readYear? (width : Nat) (s : List Char) : Option (Int × List Char) :=
  match s with
  | '-' :: rest => (readNumber? rest.length rest).map fun (n, r) => (-(n : Int), r)
  | '+' :: rest => (readNumber? rest.length rest).map fun (n, r) => ((n : Int), r)
  | s => (readNumber? width s).map fun (n, r) => ((n : Int), r)

def readOffset? (s : List Char) : Option (Int × List Char) :=
  match s with
  | 'Z' :: rest | 'z' :: rest => some (0, rest)
  | sign :: h :: h' :: ':' :: m :: m' :: rest =>
    if (sign = '+' || sign = '-' || sign = '\u2212') && [h, h', m, m'].all Char.isDigit then
      let hours := Text.digitsValue [h, h']
      let minutes := Text.digitsValue [m, m']
      if hours ≤ 23 && minutes ≤ 59 then
        let seconds : Int := hours * 3600 + minutes * 60
        some (if sign = '+' then seconds else -seconds, rest)
      else none
    else none
  | _ => none

def Item.read? (item : Item) (f : Fields) (s : List Char) : Option (Fields × List Char) :=
  match item with
  | .exact field width =>
    let digits := s.take width
    if digits.length = width && digits.all Char.isDigit then
      some (f.set field (Text.digitsValue digits), s.drop width)
    else none
  | .loose field width =>
    let s := Text.trimStart s
    if field = .year then (readYear? width s).map fun (n, r) => (f.set field n, r)
    else (readNumber? width s).map fun (n, r) => (f.set field n, r)
  | .fraction =>
    match s with
    | '.' :: rest => (readFraction? rest).map fun (n, r) => ({ f with nanos := n }, r)
    | s => some (f, s)
  | .blanks => some (f, Text.trimStart s)
  | .oneOf choices =>
    match s with
    | c :: rest => if c ∈ choices then some (f, rest) else none
    | [] => none
  | .offset => (readOffset? s).map fun (n, r) => ({ f with offset := n }, r)

def readFormat? (f : Fields) (s : List Char) : List Item → Option Fields
  | [] => if s.isEmpty then some f else none
  | item :: rest =>
    match item.read? f s with
    | some (f, s) => readFormat? f s rest
    | none => none

def strictDate : List Item :=
  [.exact .year 4, .oneOf ['-'], .exact .month 2, .oneOf ['-'], .exact .day 2]

def looseDate : List Item :=
  [.loose .year 4, .oneOf ['-'], .loose .month 2, .oneOf ['-'], .loose .day 2]

def looseMinute : List Item := [.loose .hour 2, .oneOf [':'], .loose .minute 2]

def looseSecond : List Item := looseMinute ++ [.oneOf [':'], .loose .second 2, .fraction]

def formats : List (List Item) :=
  [strictDate ++ [.oneOf ['T', 't', ' '], .exact .hour 2, .oneOf [':'], .exact .minute 2,
      .oneOf [':'], .exact .second 2, .fraction, .offset],
    looseDate ++ .blanks :: looseSecond,
    looseDate ++ .oneOf ['T'] :: looseSecond,
    looseDate ++ .blanks :: looseMinute,
    looseDate ++ .oneOf ['T'] :: looseMinute,
    looseDate]

/-- The instant that the first fitting format gives, blanks at both ends left out. -/
def Instant.read? (s : String) : Option Instant :=
  let s := Text.trimChars s.toList
  formats.findSome? fun items => (readFormat? {} s items).bind Fields.instant?

end TableApi.Calendar
