import TextAdventure.Text.Blank

/-
  Points in time, written as dates with a time of day.

  A date is read with any offset from universal time and
  written in universal time, with a fraction of 0, 3, 6 or 9
  digits, whichever is the first to be exact. A time of day
  may have a sixty-first second.

  Key definitions include:
    * `Timestamp`
    * `Timestamp.ofText?`
    * `Timestamp.text`
-/

namespace TextAdventure

------------------------------------------------------------
-- Dates
------------------------------------------------------------

/- A day of the calendar. -/
structure Date where
  year : Int
  month : Nat
  day : Nat
deriving DecidableEq

namespace Date

/- Whether a year has a 29th of February. -/
def isLeapYear (year : Int) : Bool :=
  year % 4 == 0 && (year % 100 != 0 || year % 400 == 0)

/- The number of days of a month. -/
def daysInMonth (year : Int) (month : Nat) : Nat :=
  if month = 2 then
    if isLeapYear year then 29 else 28
  else if month = 4 ∨ month = 6 ∨ month = 9 ∨ month = 11 then
    30
  else
    31

/- Whether the calendar has the day. -/
def isValid (date : Date) : Bool :=
  1 ≤ date.month && date.month ≤ 12 && 1 ≤ date.day &&
    date.day ≤ daysInMonth date.year date.month

/-
  The days from the first of January 1970 on. Years are
  counted from March, so that a leap day comes last.
-/
def toDays (date : Date) : Int :=
  let year := if date.month ≤ 2 then date.year - 1
    else date.year
  let cycle := year / 400
  let inCycle := year - cycle * 400
  let month : Int := ((date.month + 9) % 12 : Nat)
  let inYear := (153 * month + 2) / 5 + date.day - 1
  let days :=
    inCycle * 365 + inCycle / 4 - inCycle / 100 + inYear
  cycle * 146097 + days - 719468

/- The date of a number of days. -/
def ofDays (days : Int) : Date :=
  let days := days + 719468
  let cycle := days / 146097
  let inCycle := days - cycle * 146097
  let year :=
    (inCycle - inCycle / 1460 + inCycle / 36524 -
      inCycle / 146096) / 365
  let inYear :=
    inCycle - (365 * year + year / 4 - year / 100)
  let month := (5 * inYear + 2) / 153
  let day := inYear - (153 * month + 2) / 5 + 1
  let month := if month < 10 then month + 3 else month - 9
  { year := year + cycle * 400 + (if month ≤ 2 then 1 else 0)
    month := month.toNat
    day := day.toNat }

end Date

example : (Date.mk 2024 2 29).toDays = 19782 := by decide

example : Date.ofDays 19782 = ⟨2024, 2, 29⟩ := by decide

------------------------------------------------------------
-- Timestamps
------------------------------------------------------------

/-
  Seconds from the start of 1970 in universal time, and the
  nanoseconds past them; in a sixty-first second these go on
  beyond one second.
-/
structure Timestamp where
  seconds : Int
  nanoseconds : Nat
deriving DecidableEq

namespace Timestamp

/- A number with at least the given number of digits. -/
def padded (width : Nat) (number : Nat) : List Char :=
  let digits := Nat.toDigits 10 number
  List.replicate (width - digits.length) '0' ++ digits

/- A year, with a sign when it has not four digits. -/
def yearChars (year : Int) : List Char :=
  if 0 ≤ year ∧ year ≤ 9999 then
    padded 4 year.toNat
  else if year < 0 then
    '-' :: padded 4 year.natAbs
  else
    '+' :: padded 4 year.natAbs

/- A fraction of a second, in the fewest groups of digits. -/
def fractionChars (nanoseconds : Nat) : List Char :=
  if nanoseconds = 0 then
    []
  else if nanoseconds % 1000000 = 0 then
    '.' :: padded 3 (nanoseconds / 1000000)
  else if nanoseconds % 1000 = 0 then
    '.' :: padded 6 (nanoseconds / 1000)
  else
    '.' :: padded 9 nanoseconds

/- The text of a timestamp, in universal time. -/
def text (time : Timestamp) : String :=
  let days := time.seconds / 86400
  let inDay := (time.seconds - days * 86400).toNat
  let date := Date.ofDays days
  let second := inDay % 60 + time.nanoseconds / 1000000000
  String.ofList
    (yearChars date.year ++
      '-' :: padded 2 date.month ++
      '-' :: padded 2 date.day ++
      'T' :: padded 2 (inDay / 3600) ++
      ':' :: padded 2 (inDay / 60 % 60) ++
      ':' :: padded 2 second ++
      fractionChars (time.nanoseconds % 1000000000) ++
      ['Z'])

------------------------------------------------------------
-- Reading
------------------------------------------------------------

/- The number that digit characters spell. -/
def numberOf (digits : List Char) : Nat :=
  digits.foldl
    (fun number c => 10 * number + (c.toNat - '0'.toNat)) 0

/-
  A number of at least one digit and at most so many, after
  blanks, and what follows it.
-/
def number? (most : Nat) (text : List Char) :
    Option (Nat × List Char) :=
  let text := Text.trimFront text
  let digits := (text.take most).takeWhile Char.isDigit
  if digits.isEmpty then
    none
  else
    some (numberOf digits, text.drop digits.length)

/- A year: four digits at most, or any number with a sign. -/
def year? (text : List Char) : Option (Int × List Char) :=
  match Text.trimFront text with
  | '-' :: rest =>
      if (rest.head?.map Char.isDigit).getD false then
        (number? rest.length rest).map
          (fun parts => (-(parts.1 : Int), parts.2))
      else
        none
  | '+' :: rest =>
      if (rest.head?.map Char.isDigit).getD false then
        (number? rest.length rest).map
          (fun parts => ((parts.1 : Int), parts.2))
      else
        none
  | text =>
      (number? 4 text).map
        (fun parts => ((parts.1 : Int), parts.2))

/- What follows a mark, which may have blanks before it. -/
def afterMark? (mark : Char) (text : List Char) :
    Option (List Char) :=
  match Text.trimFront text with
  | c :: rest => if c = mark then some rest else none
  | [] => none

/- A number between bounds, and what follows it. -/
def numberIn? (low high : Nat) (text : List Char) :
    Option (Nat × List Char) := do
  let (number, rest) ← number? 2 text
  if low ≤ number ∧ number ≤ high then
    some (number, rest)
  else
    none

/- The nanoseconds behind a point; further digits are lost. -/
def fraction? : List Char → Option (Nat × List Char)
| '.' :: text =>
    let digits := text.takeWhile Char.isDigit
    if digits.isEmpty then
      none
    else
      let kept := digits.take 9
      some
        (numberOf kept * Nat.pow 10 (9 - kept.length),
          text.drop digits.length)
| text => some (0, text)

/- Two digits at the front, and what follows them. -/
def twoDigits? : List Char → Option (Nat × List Char)
| a :: b :: rest =>
    if a.isDigit && b.isDigit then
      some (numberOf [a, b], rest)
    else
      none
| _ => none

/- Hours and minutes of an offset, in seconds. -/
def offsetSize? (text : List Char) :
    Option (Int × List Char) := do
  let (hours, rest) ← twoDigits? text
  let rest :=
    rest.dropWhile (fun c => c == ':' || Text.isBlank c)
  let (minutes, rest) ← twoDigits? rest
  if minutes < 60 then
    some ((hours * 3600 + minutes * 60 : Nat), rest)
  else
    none

/- The offset from universal time, in seconds. -/
def offset? (text : List Char) : Option (Int × List Char) :=
  let letters := (text.take 3).map Char.toUpper
  if letters = ['U', 'T', 'C'] then
    some (0, text.drop 3)
  else
    match text with
    | 'Z' :: rest => some (0, rest)
    | 'z' :: rest => some (0, rest)
    | '+' :: rest => offsetSize? rest
    | '-' :: rest =>
        (offsetSize? rest).map
          (fun parts => (-parts.1, parts.2))
    | '\u2212' :: rest =>
        (offsetSize? rest).map
          (fun parts => (-parts.1, parts.2))
    | _ => none

/- The earliest and the latest day that can be written. -/
def isInRange (days : Int) : Bool :=
  (Date.mk (-262143) 1 1).toDays ≤ days &&
    days ≤ (Date.mk 262142 12 31).toDays

/- The timestamp that a text spells. -/
def ofText? (text : String) : Option Timestamp := do
  let (year, rest) ← year? text.toList
  let rest ← afterMark? '-' rest
  let (month, rest) ← numberIn? 1 12 rest
  let rest ← afterMark? '-' rest
  let (day, rest) ← numberIn? 1 31 rest
  let rest ←
    match rest with
    | c :: rest =>
        if c = 'T' ∨ c = 't' ∨ c = ' ' then some rest
        else none
    | [] => none
  let (hour, rest) ← numberIn? 0 23 rest
  let rest ← afterMark? ':' rest
  let (minute, rest) ← numberIn? 0 59 rest
  let rest ← afterMark? ':' rest
  let (second, rest) ← numberIn? 0 60 rest
  let (fraction, rest) ← fraction? rest
  let (offset, rest) ← offset? (Text.trimFront rest)
  let date : Date := ⟨year, month, day⟩
  if !(Text.trimFront rest).isEmpty ∨ !date.isValid ∨
      !isInRange date.toDays ∨ 86400 ≤ offset.natAbs then
    none
  let leap := if second = 60 then 1 else 0
  let local' : Int :=
    date.toDays * 86400 +
      (hour * 3600 + minute * 60 + (second - leap) : Nat)
  let seconds := local' - offset
  if isInRange (seconds / 86400) then
    some ⟨seconds, fraction + leap * 1000000000⟩
  else
    none

example :
    (ofText? "2024-03-01T00:30:00.5+05:30").map text =
      some "2024-02-29T19:00:00.500Z" := by
  decide +kernel

end Timestamp

end TextAdventure
