import PortletPage.Text

/-!
# Timestamps

Points in time in UTC, to the nanosecond, as calendar fields.  `Timestamp.parse`
reads a date, a time with seconds and an offset from UTC; `Timestamp.print`
writes the fields with `Z` and with the fewest of zero, three, six or nine
digits of a second.

A leap second is second 60 of any minute.  Offsets are whole minutes and less
than a day, so that moving to UTC touches neither the second nor more than the
neighbouring day.
-/

namespace PortletPage

/-- A point in time, as calendar fields in UTC. -/
structure Timestamp where
  year : Int
  month : Nat
  day : Nat
  hour : Nat
  minute : Nat
  second : Nat
  nano : Nat
  deriving DecidableEq, Repr, Inhabited

namespace Timestamp

/-! ## The calendar -/

/-- Whether a year of the Gregorian calendar has a day more. -/
def isLeapYear (year : Int) : Bool := year % 4 == 0 && (year % 100 != 0 || year % 400 == 0)

/-- How many days a month has. -/
def daysInMonth (year : Int) (month : Nat) : Nat :=
  if month = 2 then (if isLeapYear year then 29 else 28)
  else if month = 4 ∨ month = 6 ∨ month = 9 ∨ month = 11 then 30
  else 31

/-- The years that a timestamp may have. -/
def isYear (year : Int) : Bool := -262143 ≤ year && year ≤ 262142

/-- Whether the fields name a point in time. -/
def isValid (t : Timestamp) : Bool :=
  isYear t.year && 1 ≤ t.month && t.month ≤ 12 && 1 ≤ t.day && t.day ≤ daysInMonth t.year t.month
    && t.hour < 24 && t.minute < 60 && t.second ≤ 60 && t.nano < 1000000000

/-- The day after. -/
def nextDay (t : Timestamp) : Timestamp :=
  if t.day < daysInMonth t.year t.month then { t with day := t.day + 1 }
  else if t.month < 12 then { t with month := t.month + 1, day := 1 }
  else { t with year := t.year + 1, month := 1, day := 1 }

/-- The day before. -/
def previousDay (t : Timestamp) : Timestamp :=
  if 1 < t.day then { t with day := t.day - 1 }
  else if 1 < t.month then
    { t with month := t.month - 1, day := daysInMonth t.year (t.month - 1) }
  else { t with year := t.year - 1, month := 12, day := 31 }

/-- The point in time whose local fields, `offset` minutes ahead of UTC, are `t`. -/
def toUtc (t : Timestamp) (offset : Int) : Timestamp :=
  let minutes : Int := t.hour * 60 + t.minute - offset
  let shifted :=
    if minutes < 0 then t.previousDay else if 1440 ≤ minutes then t.nextDay else t
  let inDay := (minutes % 1440).toNat
  { shifted with hour := inDay / 60, minute := inDay % 60 }

/-! ## Reading -/

/-- Reads a number of at least one and at most `width` digits, after blanks. -/
def digits? (width : Nat) (cs : List Char) : Option (Nat × List Char) :=
  let cs := Text.trimLeft cs
  let ds := (cs.takeWhile fun c => '0' ≤ c && c ≤ '9').take width
  if ds = [] then none
  else some (ds.foldl (fun n c => n * 10 + (c.toNat - 48)) 0, cs.drop ds.length)

/-- Reads the mark `c`, after blanks. -/
def mark? (c : Char) (cs : List Char) : Option (List Char) :=
  match Text.trimLeft cs with
  | d :: rest => if d = c then some rest else none
  | [] => none

/-- Reads a year: four digits at most, or a sign and any number of digits. -/
def year? (cs : List Char) : Option (Int × List Char) :=
  match Text.trimLeft cs with
  | '-' :: rest => (signed rest).map fun (n, rest) => (-(n : Int), rest)
  | '+' :: rest => (signed rest).map fun (n, rest) => ((n : Int), rest)
  | rest => (digits? 4 rest).map fun (n, rest) => ((n : Int), rest)
where
  signed (rest : List Char) : Option (Nat × List Char) :=
    match rest with
    | c :: _ => if '0' ≤ c ∧ c ≤ '9' then digits? rest.length rest else none
    | [] => none

/-- Reads a fraction of a second as nanoseconds; digits after the ninth are dropped. -/
def fraction? (cs : List Char) : Option (Nat × List Char) :=
  match cs with
  | '.' :: rest =>
    let ds := rest.takeWhile fun c => '0' ≤ c && c ≤ '9'
    if ds = [] then none
    else
      let kept := ds.take 9
      let n := kept.foldl (fun n c => n * 10 + (c.toNat - 48)) 0
      some (n * Nat.pow 10 (9 - kept.length), rest.drop ds.length)
  | _ => some (0, cs)

/-- Two digits, the first of them at most `limit`. -/
def twoDigits? (limit : Char) : List Char → Option (Nat × List Char)
  | a :: b :: rest =>
    if '0' ≤ a ∧ a ≤ limit ∧ '0' ≤ b ∧ b ≤ '9' then
      some ((a.toNat - 48) * 10 + (b.toNat - 48), rest)
    else none
  | _ => none

/-- Reads an offset from UTC as minutes: `UTC`, `Z`, or a sign, hours and minutes. -/
def offset? (cs : List Char) : Option (Int × List Char) :=
  match cs with
  | 'Z' :: rest | 'z' :: rest => some (0, rest)
  | '+' :: rest => sized 1 rest
  | '-' :: rest => sized (-1) rest
  | '−' :: rest => sized (-1) rest
  | a :: b :: c :: rest =>
    if [a, b, c].map Char.toUpper = ['U', 'T', 'C'] then some (0, rest) else none
  | _ => none
where
  sized (sign : Int) (rest : List Char) : Option (Int × List Char) := do
    let (hours, rest) ← twoDigits? '9' rest
    let (minutes, rest) ← twoDigits? '5' (rest.dropWhile fun c => c == ':' || Text.isBlank c)
    if hours < 24 then some (sign * (hours * 60 + minutes : Nat), rest) else none

/-- Reads a timestamp: a date, one of `T`, `t` or a space, a time with seconds,
and an offset.  Blanks may stand around it and before most of its parts. -/
def parse (s : String) : Option Timestamp := do
  let (year, cs) ← year? s.toList
  let (month, cs) ← digits? 2 (← mark? '-' cs)
  let (day, cs) ← digits? 2 (← mark? '-' cs)
  let cs ← match cs with
    | c :: rest => if c = 'T' ∨ c = 't' ∨ c = ' ' then some rest else none
    | [] => none
  let (hour, cs) ← digits? 2 cs
  let (minute, cs) ← digits? 2 (← mark? ':' cs)
  let (second, cs) ← digits? 2 (← mark? ':' cs)
  let (nano, cs) ← fraction? cs
  let (offset, cs) ← offset? (Text.trimLeft cs)
  let t : Timestamp := ⟨year, month, day, hour, minute, second, nano⟩
  let utc := t.toUtc offset
  if Text.trimLeft cs = [] ∧ t.isValid ∧ utc.isValid then some utc else none

/-! ## Writing -/

/-- The decimal digits of `n`, with zeros before them up to `width` characters. -/
def padded (width n : Nat) : List Char :=
  let ds := Nat.toDigits 10 n
  List.replicate (width - ds.length) '0' ++ ds

/-- A year between 0 and 9999 has four digits, any other a sign before them. -/
def yearChars (year : Int) : List Char :=
  if 0 ≤ year ∧ year ≤ 9999 then padded 4 year.natAbs
  else (if year < 0 then '-' else '+') :: padded 4 year.natAbs

/-- The fraction of a second in as few of zero, three, six or nine digits as it needs. -/
def fractionChars (nano : Nat) : List Char :=
  if nano = 0 then []
  else if nano % 1000000 = 0 then '.' :: padded 3 (nano / 1000000)
  else if nano % 1000 = 0 then '.' :: padded 6 (nano / 1000)
  else '.' :: padded 9 nano

/-- The written form, in UTC. -/
def print (t : Timestamp) : String :=
  String.ofList <|
    yearChars t.year ++ '-' :: padded 2 t.month ++ '-' :: padded 2 t.day
      ++ 'T' :: padded 2 t.hour ++ ':' :: padded 2 t.minute ++ ':' :: padded 2 t.second
      ++ fractionChars t.nano ++ ['Z']

end Timestamp

end PortletPage
