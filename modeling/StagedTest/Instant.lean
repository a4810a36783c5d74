/-!
# Instants

A moment in time is a number of seconds from the first of January 1970 in universal time and a
fraction of a second in nanoseconds. Instants are read from and written as RFC 3339 texts; a
text with an offset is moved to universal time. The calendar is the proleptic Gregorian one, by
the count of days from the first of March of year zero.
-/
namespace StagedTest

/-- A moment in time. -/
structure Instant where
  /-- Whole seconds since the first of January 1970. -/
  seconds : Int
  /-- Nanoseconds after that; a leap second counts from 1 000 000 000 on. -/
  nanoseconds : Nat
deriving DecidableEq, Inhabited, Repr

namespace Instant

/-- Why a text is not an instant. -/
inductive Fault
  /-- The text ends too early. -/
  | tooShort
  /-- A character stands where another kind is needed. -/
  | invalid
  /-- A number is beyond its range, as is the thirteenth month. -/
  | outOfRange
  /-- Something follows the instant. -/
  | tooLong
deriving DecidableEq, Repr

/-- The complaint about a text. -/
def Fault.message : Fault → String
  | .tooShort => "premature end of input"
  | .invalid => "input contains invalid characters"
  | .outOfRange => "input is out of range"
  | .tooLong => "trailing input"

/-- The days from the first of January 1970 to a date. -/
def daysFromDate (year : Int) (month day : Nat) : Int :=
  let y := if month ≤ 2 then year - 1 else year
  let era := Int.fdiv y 400
  let yearOfEra := y - era * 400
  let monthFromMarch : Int := ((month : Int) + 9) % 12
  let dayOfYear := (153 * monthFromMarch + 2) / 5 + day - 1
  era * 146097 + (yearOfEra * 365 + yearOfEra / 4 - yearOfEra / 100 + dayOfYear) - 719468

/-- The date a number of days after the first of January 1970. -/
def dateOfDays (days : Int) : Int × Nat × Nat :=
  let shifted := days + 719468
  let era := Int.fdiv shifted 146097
  let dayOfEra := (shifted - era * 146097).toNat
  let yearOfEra := (dayOfEra - dayOfEra / 1460 + dayOfEra / 36524 - dayOfEra / 146096) / 365
  let dayOfYear := dayOfEra - (365 * yearOfEra + yearOfEra / 4 - yearOfEra / 100)
  let monthFromMarch := (5 * dayOfYear + 2) / 153
  let day := dayOfYear - (153 * monthFromMarch + 2) / 5 + 1
  let month := if monthFromMarch < 10 then monthFromMarch + 3 else monthFromMarch - 9
  (yearOfEra + era * 400 + (if month ≤ 2 then 1 else 0), month, day)

/-- Whether a year has a 29th of February. -/
def isLeapYear (year : Nat) : Bool :=
  year % 4 == 0 && (year % 100 != 0 || year % 400 == 0)

/-- The days of a month. -/
def daysOfMonth (year month : Nat) : Nat :=
  match month with
  | 2 => if isLeapYear year then 29 else 28
  | 4 | 6 | 9 | 11 => 30
  | _ => 31

/-- Reads a number of exactly so many digits. -/
def readDigits : Nat → Nat → List Char → Except Fault (Nat × List Char)
  | 0, value, rest => .ok (value, rest)
  | _ + 1, _, [] => .error .tooShort
  | count + 1, value, c :: rest =>
    if c.isDigit then readDigits count (value * 10 + (c.toNat - 48)) rest else .error .invalid

/-- Reads one character out of several. -/
def readOneOf (expected : List Char) : List Char → Except Fault (List Char)
  | [] => .error .tooShort
  | c :: rest => if expected.contains c then .ok rest else .error .invalid

/-- The nanoseconds that digits after the point stand for; those after the ninth are dropped. -/
def fraction (digits : List Char) : Nat :=
  let kept := digits.take 9
  kept.foldl (fun value c => value * 10 + (c.toNat - 48)) 0 * Nat.pow 10 (9 - kept.length)

/-- Reads a fraction of a second, if there is one. -/
def readFraction : List Char → Except Fault (Nat × List Char)
  | '.' :: rest =>
    match rest.takeWhile (·.isDigit) with
    | [] => .error (if rest.isEmpty then .tooShort else .invalid)
    | digits => .ok (fraction digits, rest.dropWhile (·.isDigit))
  | rest => .ok (0, rest)

/-- Reads an offset from universal time, in seconds. -/
def readOffset : List Char → Except Fault (Int × List Char)
  | [] => .error .tooShort
  | c :: rest => do
    if c = 'Z' ∨ c = 'z' then return (0, rest)
    if c ≠ '+' ∧ c ≠ '-' then throw .invalid
    let (hours, rest) ← readDigits 2 0 rest
    let rest := match rest with
      | ':' :: rest => rest
      | rest => rest
    let (minutes, rest) ← readDigits 2 0 rest
    if 59 < minutes ∨ 23 < hours then throw .outOfRange
    let magnitude : Int := (hours * 60 + minutes) * 60
    return (if c = '-' then -magnitude else magnitude, rest)

/-- Reads an RFC 3339 text. -/
def parse (text : String) : Except Fault Instant := do
  let (year, rest) ← readDigits 4 0 text.toList
  let rest ← readOneOf ['-'] rest
  let (month, rest) ← readDigits 2 0 rest
  if month = 0 ∨ 12 < month then throw .outOfRange
  let rest ← readOneOf ['-'] rest
  let (day, rest) ← readDigits 2 0 rest
  if day = 0 ∨ 31 < day then throw .outOfRange
  let rest ← readOneOf ['T', 't', ' '] rest
  let (hour, rest) ← readDigits 2 0 rest
  if 23 < hour then throw .outOfRange
  let rest ← readOneOf [':'] rest
  let (minute, rest) ← readDigits 2 0 rest
  if 59 < minute then throw .outOfRange
  let rest ← readOneOf [':'] rest
  let (second, rest) ← readDigits 2 0 rest
  if 60 < second then throw .outOfRange
  let (nanoseconds, rest) ← readFraction rest
  let (offset, rest) ← readOffset rest
  unless rest.isEmpty do throw .tooLong
  if daysOfMonth year month < day then throw .outOfRange
  let leap := second = 60
  let second := if leap then 59 else second
  let ofDay : Int := (hour * 60 + minute) * 60 + second
  return ⟨daysFromDate year month day * 86400 + ofDay - offset,
    if leap then nanoseconds + 1000000000 else nanoseconds⟩

/-- A number with leading zeros up to a width. -/
def padded (width n : Nat) : String :=
  let digits := Nat.toDigits 10 n
  String.ofList (List.replicate (width - digits.length) '0' ++ digits)

/-- A year: four digits from 0 to 9999, and a sign with more or before that. -/
def yearText (year : Int) : String :=
  if year < 0 then "-" ++ padded 4 year.natAbs
  else if 9999 < year then "+" ++ padded 5 year.natAbs
  else padded 4 year.natAbs

/-- Date and time of day to the second, without a zone. -/
def wholeText (instant : Instant) : String :=
  let days := Int.fdiv instant.seconds 86400
  let ofDay := (instant.seconds - days * 86400).toNat
  let (year, month, day) := dateOfDays days
  let second := ofDay % 60 + instant.nanoseconds / 1000000000
  yearText year ++ "-" ++ padded 2 month ++ "-" ++ padded 2 day ++ "T" ++
    padded 2 (ofDay / 3600) ++ ":" ++ padded 2 (ofDay / 60 % 60) ++ ":" ++ padded 2 second

/-- A fraction of a second with three, six or nine digits, or nothing for a whole second. -/
def fractionText (nanoseconds : Nat) : String :=
  let n := nanoseconds % 1000000000
  if n = 0 then ""
  else if n % 1000000 = 0 then "." ++ padded 3 (n / 1000000)
  else if n % 1000 = 0 then "." ++ padded 6 (n / 1000)
  else "." ++ padded 9 n

/-- The instant in universal time with its fraction. -/
def text (instant : Instant) : String :=
  instant.wholeText ++ fractionText instant.nanoseconds ++ "Z"

/-- The instant in universal time to the second. -/
def secondsText (instant : Instant) : String := instant.wholeText ++ "Z"

/-- The second of the day in universal time. -/
def secondOfDay (instant : Instant) : Int := instant.seconds % 86400

/-- The leap second that has passed between two times of day: that of the earlier one, once the
clock has left it. -/
def leapSecondsUntil (start finish : Instant) : Int :=
  if start.secondOfDay < finish.secondOfDay then
    if 1000000000 ≤ start.nanoseconds then 1 else 0
  else if finish.secondOfDay < start.secondOfDay then
    if 1000000000 ≤ finish.nanoseconds then -1 else 0
  else 0

/-- The milliseconds from one instant to another, a part of a millisecond dropped. -/
def millisecondsUntil (start finish : Instant) : Int :=
  let seconds := finish.seconds - start.seconds + start.leapSecondsUntil finish
  let nanoseconds := seconds * 1000000000 + ((finish.nanoseconds : Int) - start.nanoseconds)
  nanoseconds.tdiv 1000000

/-- A leap second counts as much on the way back. -/
theorem leapSecondsUntil_swap (start finish : Instant) :
    finish.leapSecondsUntil start = -start.leapSecondsUntil finish := by
  rcases Int.lt_trichotomy start.secondOfDay finish.secondOfDay with before | same | after
  · simp only [leapSecondsUntil, if_pos before, if_neg (Int.lt_asymm before)]
    split <;> rfl
  · simp [leapSecondsUntil, same]
  · simp only [leapSecondsUntil, if_pos after, if_neg (Int.lt_asymm after)]
    split <;> rfl

/-- The way back takes as long. -/
theorem millisecondsUntil_swap (start finish : Instant) :
    finish.millisecondsUntil start = -start.millisecondsUntil finish := by
  simp only [millisecondsUntil]
  rw [leapSecondsUntil_swap, ← Int.neg_tdiv]
  congr 1
  omega

-- The clock shows 02:59:60, and then 03:00:00.
example : millisecondsUntil ⟨10799, 1000000000⟩ ⟨10800, 0⟩ = 1000 := by decide

end Instant

end StagedTest
