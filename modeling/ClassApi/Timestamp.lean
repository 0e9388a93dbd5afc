import ClassApi.Calendar

/-!
# Timestamps

A moment is a number of milliseconds since the start of 1970. It is written in the ISO form with
millisecond precision, and read from the internet form of that standard.
-/

namespace ClassApi

/-- A moment with millisecond precision. -/
structure Timestamp where
  /-- Milliseconds since 1 January 1970. -/
  millis : Int
deriving DecidableEq, Repr, Inhabited

namespace Timestamp

/-- A natural with at least `width` digits. -/
def padded (width n : Nat) : String :=
  let digits := Nat.toDigits 10 n
  String.ofList (List.replicate (width - digits.length) '0' ++ digits)

/-- A year: four digits, with a sign when it is not a year from 0 to 9999. -/
def yearText (year : Int) : String :=
  if 0 ≤ year ∧ year ≤ 9999 then padded 4 year.toNat
  else (if year < 0 then "-" else "+") ++ padded 4 year.natAbs

/-- Milliseconds of a day. -/
def dayMillis : Int := 86400000

/-- Whether the moment lies within the years that have a text, -262143 to 262142. -/
def inCalendar (t : Timestamp) : Bool :=
  -8334601228800000 ≤ t.millis && t.millis ≤ 8210266876799999

/-- The moment as text, `2017-11-16T10:00:00.000Z`; empty outside the calendar's range. -/
def iso (t : Timestamp) : String :=
  if t.inCalendar then
    let date := CivilDate.ofDays (t.millis / dayMillis)
    let rest := (t.millis % dayMillis).toNat
    yearText date.year ++ "-" ++ padded 2 date.month ++ "-" ++ padded 2 date.day ++ "T"
      ++ padded 2 (rest / 3600000) ++ ":" ++ padded 2 (rest / 60000 % 60) ++ ":"
      ++ padded 2 (rest / 1000 % 60) ++ "." ++ padded 3 (rest % 1000) ++ "Z"
  else ""

/-- Takes exactly `n` decimal digits. -/
def takeFixed : Nat → Nat → List Char → Option (Nat × List Char)
  | 0, acc, rest => some (acc, rest)
  | n + 1, acc, c :: rest =>
    if c.isDigit then takeFixed n (acc * 10 + (c.toNat - 48)) rest else none
  | _ + 1, _, [] => none

/-- Takes one fixed character. -/
def takeChar (c : Char) : List Char → Option (List Char)
  | [] => none
  | d :: rest => if c = d then some rest else none

/-- Takes the digits of a fraction of a second: nanoseconds, further digits being dropped. -/
def takeNanos (unit acc : Nat) : List Char → Nat × List Char
  | [] => (acc, [])
  | c :: rest =>
    if c.isDigit then takeNanos (unit / 10) (acc + (c.toNat - 48) * unit) rest else (acc, c :: rest)

/-- Takes an optional fraction of a second. -/
def takeSubsecond : List Char → Option (Nat × List Char)
  | '.' :: c :: rest => if c.isDigit then some (takeNanos 100000000 0 (c :: rest)) else none
  | '.' :: [] => none
  | rest => some (0, rest)

/-- Reads what ends the text: the letter `Z`, or an offset in hours and minutes. The result is in
seconds. -/
def readOffset (input : List Char) : Option Int := do
  match input with
  | ['Z'] => return 0
  | ['z'] => return 0
  | sign :: rest =>
    let (hours, rest) ← takeFixed 2 0 rest
    let rest ← takeChar ':' rest
    let (minutes, rest) ← takeFixed 2 0 rest
    if rest.isEmpty ∧ hours ≤ 25 ∧ minutes ≤ 59 then
      let seconds : Int := hours * 3600 + minutes * 60
      if sign = '+' then some seconds else if sign = '-' then some (-seconds) else none
    else none
  | [] => none

/-- The second of a day, and whether a leap second was asked for; it stands for the last nanosecond
before it. -/
structure ClockReading where
  /-- Whole seconds since midnight. -/
  seconds : Nat
  /-- Nanoseconds within the second. -/
  nanos : Nat
  /-- Whether the text named second 60. -/
  leap : Bool

/-- Checks the fields of a time of day. -/
def clock (hour minute second nanos : Nat) : Option ClockReading :=
  let leap := second == 60
  let second := if leap then 59 else second
  if hour < 24 ∧ minute < 60 ∧ second < 60 then
    some ⟨hour * 3600 + minute * 60 + second, if leap then 999999999 else nanos, leap⟩
  else none

/-- Whether a second of universal time is the last one of a month. -/
def endsMonth (seconds : Int) : Bool :=
  let date := CivilDate.ofDays (seconds / 86400)
  seconds % 86400 == 86399 && date.day == CivilDate.monthLength date.year date.month

/-- The moment named by a text such as `2017-11-16T10:00:00.5+01:00`. Any one character may stand
between date and time. What is finer than a millisecond is dropped, toward 1970. -/
def read (text : String) : Option Timestamp := do
  let (year, rest) ← takeFixed 4 0 text.toList
  let (month, rest) ← takeFixed 2 0 (← takeChar '-' rest)
  let (day, rest) ← takeFixed 2 0 (← takeChar '-' rest)
  let (hour, rest) ← takeFixed 2 0 (rest.drop 1)
  let (minute, rest) ← takeFixed 2 0 (← takeChar ':' rest)
  let (second, rest) ← takeFixed 2 0 (← takeChar ':' rest)
  let (nanos, rest) ← takeSubsecond rest
  let offset ← readOffset rest
  let date : CivilDate := ⟨year, month, day⟩
  let reading ← clock hour minute second nanos
  let seconds := date.toDays * 86400 + reading.seconds - offset
  if date.isValid ∧ (reading.leap → endsMonth seconds) then
    some ⟨(seconds * 1000000000 + reading.nanos).tdiv 1000000⟩
  else none

end Timestamp

end ClassApi
