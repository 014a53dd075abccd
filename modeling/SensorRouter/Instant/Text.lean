import SensorRouter.Instant.Basic
import SensorRouter.Text.Blank

/-!
Written instants. They are printed in universal time with as few groups of three fraction digits as
are exact, and read leniently: digits may be missing, blanks may stand before a number or separator,
and a space may stand for the `T`.
-/

namespace SensorRouter.Instant

/-- The number in decimal with at least `width` digits. -/
def padded (width n : Nat) : List Char :=
  let ds := Nat.toDigits 10 n
  List.replicate (width - ds.length) '0' ++ ds

def yearText (year : Int) : List Char :=
  if 0 ≤ year && year ≤ 9999 then padded 4 year.toNat
  else (if year < 0 then '-' else '+') :: padded 4 year.natAbs

/-- The shortest of no, three, six and nine digits that is exact. -/
def fractionText (nanos : Nat) : List Char :=
  if nanos = 0 then []
  else if nanos % 1000000 = 0 then '.' :: padded 3 (nanos / 1000000)
  else if nanos % 1000 = 0 then '.' :: padded 6 (nanos / 1000)
  else '.' :: padded 9 nanos

def text (t : Instant) : String :=
  let d := t.date
  let inDay := (t.seconds % 86400).toNat
  let leap := t.nanos / 1000000000
  String.ofList (yearText d.year ++ '-' :: padded 2 d.month ++ '-' :: padded 2 d.day ++ 'T' ::
    padded 2 (inDay / 3600) ++ ':' :: padded 2 (inDay / 60 % 60) ++ ':' ::
    padded 2 (inDay % 60 + leap) ++ fractionText (t.nanos % 1000000000) ++ ['Z'])

open Text (isBlank dropBlanks)

def isDigit (c : Char) : Bool :=
  '0' ≤ c && c ≤ '9'

def valueOf (ds : List Char) : Nat :=
  ds.foldl (fun n c => n * 10 + (c.toNat - '0'.toNat)) 0

/-- A number of one to `width` digits; `none` as width is without bound. -/
def readNumber (width : Option Nat) (cs : List Char) : Option (Nat × List Char) :=
  let run := cs.takeWhile isDigit
  let ds := match width with
    | some w => run.take w
    | none => run
  if ds.isEmpty then none else some (valueOf ds, cs.drop ds.length)

/-- A number after blanks, within bounds. -/
def readField (width least greatest : Nat) (cs : List Char) : Option (Nat × List Char) := do
  let (n, rest) ← readNumber (some width) (dropBlanks cs)
  if least ≤ n && n ≤ greatest then return (n, rest) else none

/-- A separator after blanks. -/
def readMark (mark : Char) (cs : List Char) : Option (List Char) :=
  match dropBlanks cs with
  | c :: rest => if c = mark then some rest else none
  | [] => none

/-- A year of up to four digits, or of any number of digits after a sign. -/
def readYear (cs : List Char) : Option (Int × List Char) :=
  match dropBlanks cs with
  | '-' :: rest => (readNumber none rest).map fun r => (-(r.1 : Int), r.2)
  | '+' :: rest => (readNumber none rest).map fun r => ((r.1 : Int), r.2)
  | rest => (readNumber (some 4) rest).map fun r => ((r.1 : Int), r.2)

/-- The nanoseconds of a fraction, of which nine digits count. -/
def readFraction (cs : List Char) : Option (Nat × List Char) :=
  match cs with
  | '.' :: rest =>
    let run := rest.takeWhile isDigit
    let ds := run.take 9
    if ds.isEmpty then none
    else some (valueOf ds * Nat.pow 10 (9 - ds.length), rest.drop run.length)
  | _ => some (0, cs)

/-- Two digits, the first of which is at most `greatest`. -/
def readPair (greatest : Char) (cs : List Char) : Option (Nat × List Char) :=
  match cs with
  | a :: b :: rest =>
    if isDigit a && a ≤ greatest && isDigit b then some (valueOf [a, b], rest) else none
  | _ => none

/-- The offset from universal time in seconds. -/
def readOffset (cs : List Char) : Option (Int × List Char) :=
  let signed (negative : Bool) (rest : List Char) : Option (Int × List Char) := do
    let (hours, rest) ← readPair '9' rest
    let (minutes, rest) ← readPair '5' (rest.dropWhile fun c => c = ':' || isBlank c)
    let seconds : Int := hours * 3600 + minutes * 60
    if seconds < 86400 then return (if negative then -seconds else seconds, rest) else none
  match cs with
  | 'Z' :: rest | 'z' :: rest => some (0, rest)
  | '+' :: rest => signed false rest
  | '-' :: rest | '\u2212' :: rest => signed true rest
  | a :: b :: c :: rest =>
    if [a, b, c].map Char.toUpper = ['U', 'T', 'C'] then some (0, rest) else none
  | _ => none

def ofChars (cs : List Char) : Option Instant := do
  let (year, cs) ← readYear cs
  let cs ← readMark '-' cs
  let (month, cs) ← readField 2 1 12 cs
  let cs ← readMark '-' cs
  let (day, cs) ← readField 2 1 31 cs
  let cs ← match cs with
    | 'T' :: rest | 't' :: rest | ' ' :: rest => some rest
    | _ => none
  let (hour, cs) ← readField 2 0 23 cs
  let cs ← readMark ':' cs
  let (minute, cs) ← readField 2 0 59 cs
  let cs ← readMark ':' cs
  let (second, cs) ← readField 2 0 60 cs
  let (nanos, cs) ← readFraction cs
  let (offset, cs) ← readOffset (dropBlanks cs)
  let date : CalendarDate := ⟨year, month, day⟩
  if dropBlanks cs ≠ [] ∨ ¬date.Valid then none
  let leap := second / 60
  let t : Instant := {
    seconds := date.toDays * 86400 + (hour * 3600 + minute * 60 + (second - leap) : Nat) - offset
    nanos := nanos + leap * 1000000000 }
  if CalendarDate.leastYear ≤ t.date.year && t.date.year ≤ CalendarDate.greatestYear then return t
  else none

def ofText (s : String) : Option Instant :=
  ofChars s.toList

example : (ofText " 2024-1-1t0:0:0.5+01:30").map text = some "2023-12-31T22:30:00.500Z" := by
  decide +kernel
example : (ofText "2016-12-31 23:59:60Z").map text = some "2016-12-31T23:59:60Z" := by decide +kernel
example : (ofText "+12345-06-07T08:09:10.0000001utc").map text =
    some "+12345-06-07T08:09:10.000000100Z" := by decide +kernel
example : ofText "2023-02-29T00:00:00Z" = none := by decide +kernel

end SensorRouter.Instant
