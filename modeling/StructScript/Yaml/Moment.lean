import StructScript.Yaml.Tag

/-! # Dates and times

    A date, or a date with a time of day and perhaps its distance from
    universal time. -/

namespace StructScript.Yaml

/-- A time of day. -/
structure Clock where
  hour : Nat
  minute : Nat
  second : Nat
  microsecond : Nat
  /-- The distance from universal time in minutes, if it is stated. -/
  offset : Option Int
deriving DecidableEq, Repr

/-- A date with or without a time of day. -/
structure Moment where
  year : Nat
  month : Nat
  day : Nat
  clock : Option Clock
deriving DecidableEq, Repr

/-- The value of decimal digits. -/
def digitsValue (digits : List Char) : Nat :=
  digits.foldl (fun n d => 10 * n + (d.toNat - '0'.toNat)) 0

/-- From `least` to `most` digits, as many as there are, and what follows. -/
def takeDigits (least most : Nat) (text : List Char) : Option (List Char × List Char) :=
  let run := (text.take most).takeWhile Char.isDigit
  if run.length < least then none else some (run, text.drop run.length)

/-- What follows an expected character. -/
def takeChar (c : Char) : List Char → Option (List Char)
  | [] => none
  | first :: rest => if first == c then some rest else none

/-- The stated distance from universal time at the end of a moment. -/
def readOffset (text : List Char) : Option (Option Int) :=
  match text.dropWhile fun c => c == ' ' || c == '\t' with
  | [] => if text.isEmpty then some none else none
  | ['Z'] => some (some 0)
  | sign :: rest => do
      let (hours, rest) ← takeDigits 1 2 rest
      let minutes ←
        match rest with
        | [] => some 0
        | ':' :: rest => do
            let (minutes, rest) ← takeDigits 2 2 rest
            if rest.isEmpty then some (digitsValue minutes) else none
        | _ => none
      let distance : Int := 60 * digitsValue hours + minutes
      if sign == '+' then some (some distance)
      else if sign == '-' then some (some (-distance))
      else none

/-- The first six digits behind the point of a second, filled up with zeros. -/
def microseconds (digits : List Char) : Nat :=
  let kept := digits.take 6
  digitsValue (kept ++ List.replicate (6 - kept.length) '0')

/-- A time of day. -/
def readClock (text : List Char) : Option Clock := do
  let (hour, rest) ← takeDigits 1 2 text
  let rest ← takeChar ':' rest
  let (minute, rest) ← takeDigits 2 2 rest
  let rest ← takeChar ':' rest
  let (second, rest) ← takeDigits 2 2 rest
  let (fraction, rest) :=
    match rest with
    | '.' :: rest => (rest.takeWhile Char.isDigit, rest.dropWhile Char.isDigit)
    | _ => ([], rest)
  let offset ← readOffset rest
  some
    { hour := digitsValue hour, minute := digitsValue minute, second := digitsValue second
      microsecond := microseconds fraction, offset }

/-- A text without a line feed at its end. -/
def unended (text : List Char) : List Char :=
  if text.getLast? == some '\n' then text.dropLast else text

/-- A moment as it is written; a line feed behind it does not matter. -/
def readMoment (text : List Char) : Option Moment := do
  let (year, rest) ← takeDigits 4 4 (unended text)
  let rest ← takeChar '-' rest
  let (month, rest) ← takeDigits 1 2 rest
  let rest ← takeChar '-' rest
  let (day, rest) ← takeDigits 1 2 rest
  let date : Moment :=
    { year := digitsValue year, month := digitsValue month, day := digitsValue day, clock := none }
  match rest with
  | [] => some date
  | 'T' :: rest => return { date with clock := some (← readClock rest) }
  | 't' :: rest => return { date with clock := some (← readClock rest) }
  | gap :: rest =>
      if gap == ' ' || gap == '\t' then
        let rest := rest.dropWhile fun c => c == ' ' || c == '\t'
        return { date with clock := some (← readClock rest) }
      else none

/-- Whether a text is a moment without being tagged as one: a date alone then has
    two digits for month and day. -/
def isMomentText (text : List Char) : Bool :=
  (readMoment text).any fun m => m.clock.isSome || (unended text).length == 10

namespace Moment

/-- Whether a year has a leap day. -/
def isLeap (year : Nat) : Bool :=
  year % 4 == 0 && (year % 100 != 0 || year % 400 == 0)

/-- The number of days of a month. -/
def daysIn (year month : Nat) : Nat :=
  if month == 2 then if isLeap year then 29 else 28
  else if [4, 6, 9, 11].contains month then 30
  else 31

/-- A distance in minutes as days and seconds, of which those that are zero are left
    out. -/
def distanceText (minutes : Int) : String :=
  let parts : List (String × Int) :=
    [("days", minutes / (24 * 60)), ("seconds", 60 * (minutes % (24 * 60)))]
  let written := parts.filterMap fun part =>
    if part.2 == 0 then none else some (part.1 ++ "=" ++ toString part.2)
  "datetime.timedelta(" ++ String.intercalate ", " written ++ ")"

/-- What is wrong with a stated distance from universal time of a day or more. -/
def offsetFlaw? (clock : Clock) : Option String :=
  (clock.offset.filter fun minutes => 24 * 60 ≤ minutes.natAbs).map fun minutes =>
    "offset must be a timedelta strictly between -timedelta(hours=24) and "
      ++ "timedelta(hours=24), not " ++ distanceText minutes ++ "."

/-- Why there is no such date or time of day, if there is none. -/
def dateFlaw? (m : Moment) : Option String :=
  if m.year == 0 then some "year 0 is out of range"
  else if m.month == 0 || 12 < m.month then some "month must be in 1..12"
  else if m.day == 0 || daysIn m.year m.month < m.day then some "day is out of range for month"
  else
    match m.clock with
    | none => none
    | some clock =>
        if 23 < clock.hour then some "hour must be in 0..23"
        else if 59 < clock.minute then some "minute must be in 0..59"
        else if 59 < clock.second then some "second must be in 0..59"
        else none

/-- Why there is no such moment, if there is none. -/
def flaw? (m : Moment) : Option String :=
  (m.clock.bind offsetFlaw?).or m.dateFlaw?

/-- A number with zeros in front. -/
def padded (width n : Nat) : String :=
  let digits := (toString n).toList
  String.ofList (List.replicate (width - digits.length) '0' ++ digits)

/-- A distance from universal time. -/
def offsetText (offset : Int) : String :=
  (if offset < 0 then "-" else "+") ++ padded 2 (offset.natAbs / 60) ++ ":"
    ++ padded 2 (offset.natAbs % 60)

/-- The text of a time of day. -/
def clockText (clock : Clock) : String :=
  padded 2 clock.hour ++ ":" ++ padded 2 clock.minute ++ ":" ++ padded 2 clock.second
    ++ (if clock.microsecond == 0 then "" else "." ++ padded 6 clock.microsecond)
    ++ (clock.offset.map offsetText).getD ""

/-- The text of a moment. -/
def text (m : Moment) : String :=
  let date := padded 4 m.year ++ "-" ++ padded 2 m.month ++ "-" ++ padded 2 m.day
  match m.clock with
  | none => date
  | some clock => date ++ " " ++ clockText clock

end Moment

end StructScript.Yaml
