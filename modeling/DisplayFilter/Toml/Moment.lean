/-
**Dates and times of TOML.**

A date, a time of day, or both together, with or without an offset from universal time. Without an
offset they are local and are kept as they are shown.

* `MomentKind`: the kinds of dates and times.
* `moment`: the constant of a date or time.
-/

import DisplayFilter.Constant

namespace DisplayFilter.Toml

/-- What can be wrong with a date or time. -/
inductive MomentError where
  | digit
  | dateFormat
  | impossibleDate
  | momentFormat
  | separator
  | clockFormat
  | hour
  | hourColon
  | minute
  | minuteColon
  | second
  | fractionStart
  | fractionEmpty
  | extraClock
  | extraMoment
  | zoneLength
  | zoneSign
  | zoneColon
  | zoneHours
  | zoneMinutes
  | extraZone
deriving DecidableEq, Repr

/-- The wording of a date or time error. -/
def MomentError.message : MomentError → String
  | .digit => "expected digit (0-9)"
  | .dateFormat => "dates are expected to have the format YYYY-MM-DD"
  | .impossibleDate => "impossible date"
  | .momentFormat =>
    "local datetimes are expected to have the format YYYY-MM-DDTHH:MM:SS[.NNNNNNNNN]"
  | .separator => "datetime separator is expected to be T or a space"
  | .clockFormat => "times are expected to have the format HH:MM:SS[.NNNNNN]"
  | .hour => "hour cannot be greater 23"
  | .hourColon => "expecting colon between hours and minutes"
  | .minute => "minutes cannot be greater 59"
  | .minuteColon => "expecting colon between minutes and seconds"
  | .second => "seconds cannot be greater 60"
  | .fractionStart => "need at least one digit after fraction point"
  | .fractionEmpty => "nanoseconds need at least one digit"
  | .extraClock => "extra characters at the end of a local time"
  | .extraMoment => "extra characters at the end of a local date time"
  | .zoneLength => "invalid date-time timezone"
  | .zoneSign => "invalid timezone offset character"
  | .zoneColon => "expected a : separator"
  | .zoneHours => "invalid timezone offset hours"
  | .zoneMinutes => "invalid timezone offset minutes"
  | .extraZone => "extra bytes at the end of the timezone"

/-- The kinds of dates and times. -/
inductive MomentKind where
  | date
  | clock
  | both
  | zoned
deriving DecidableEq, Repr

/-- The number of digits. -/
def digits (text : List Char) : Except MomentError Nat :=
  if text.all Number.isDigit then .ok (Number.ofDigits text) else .error .digit

/-- A year, month and day. -/
def date (text : List Char) : Except MomentError (Nat × Nat × Nat) := do
  if text.length ≠ 10 || text[4]? ≠ some '-' || text[7]? ≠ some '-' then throw .dateFormat
  let year ← digits (text.take 4)
  let month ← digits ((text.drop 5).take 2)
  let day ← digits (text.drop 8)
  if month = 0 || 12 < month || day = 0 || Timestamp.daysIn year month < day then
    throw .impossibleDate
  return (year, month, day)

/-- A time of day: the hour, minute and second and the written fraction of a second, of which at
most nine digits are kept. -/
structure Clock where
  hour : Nat
  minute : Nat
  second : Nat
  fraction : List Char

/-- The fraction of a second behind a point, and what follows it. -/
def fraction (text : List Char) : Except MomentError (List Char × List Char) :=
  match text with
  | '.' :: rest =>
    let written := rest.takeWhile Number.isDigit
    if !written.isEmpty then .ok (written.take 9, rest.drop written.length)
    else if rest.isEmpty then .error .fractionEmpty
    else .error .fractionStart
  | text => .ok ([], text)

/-- A time of day, and what follows it. -/
def clock (text : List Char) : Except MomentError (Clock × List Char) := do
  if text.length < 8 then throw .clockFormat
  let hour ← digits (text.take 2)
  if 23 < hour then throw .hour
  if text[2]? ≠ some ':' then throw .hourColon
  let minute ← digits ((text.drop 3).take 2)
  if 59 < minute then throw .minute
  if text[5]? ≠ some ':' then throw .minuteColon
  let second ← digits ((text.drop 6).take 2)
  if 60 < second then throw .second
  let (fraction, rest) ← fraction (text.drop 8)
  return (⟨hour, minute, second, fraction⟩, rest)

/-- A date and a time of day, and what follows them. -/
def dateAndClock (text : List Char) : Except MomentError ((Nat × Nat × Nat) × Clock × List Char) :=
  do
    if text.length < 11 then throw .momentFormat
    let date ← date (text.take 10)
    let separator := text.getD 10 'T'
    if separator ≠ 'T' && separator ≠ 't' && separator ≠ ' ' then throw .separator
    let (clock, rest) ← clock (text.drop 11)
    return (date, clock, rest)

/-- The offset from universal time in minutes; universal time itself has none. -/
def zone (text : List Char) : Except MomentError (Option Int) := do
  match text with
  | 'Z' :: rest => if rest.isEmpty then return none else throw .extraZone
  | 'z' :: rest => if rest.isEmpty then return none else throw .extraZone
  | text =>
    if text.length ≠ 6 then throw .zoneLength
    let sign := text.headD ' '
    if sign ≠ '-' && sign ≠ '+' then throw .zoneSign
    if text[3]? ≠ some ':' then throw .zoneColon
    let hours ← digits ((text.drop 1).take 2)
    if 23 < hours then throw .zoneHours
    let minutes ← digits (text.drop 4)
    if 59 < minutes then throw .zoneMinutes
    let offset : Int := hours * 60 + minutes
    return if offset = 0 then none else some (if sign = '-' then -offset else offset)

/-- A date as it is shown. -/
def dateText (date : Nat × Nat × Nat) : List Char :=
  Number.padded 4 date.1 ++ '-' :: Timestamp.separated '-' [date.2.1, date.2.2]

/-- A time of day as it is shown. -/
def clockText (clock : Clock) : List Char :=
  Timestamp.separated ':' [clock.hour, clock.minute, clock.second] ++
    if clock.fraction.isEmpty then [] else '.' :: clock.fraction

/-- The constant of a date or time. -/
def moment (kind : MomentKind) (text : List Char) : Except MomentError Constant := do
  match kind with
  | .date => return .string (.ofChars (dateText (← date text)))
  | .clock =>
    let (clock, rest) ← clock text
    if !rest.isEmpty then throw .extraClock
    return .string (.ofChars (clockText clock))
  | .both =>
    let (date, clock, rest) ← dateAndClock text
    if !rest.isEmpty then throw .extraMoment
    return .string (.ofChars (dateText date ++ 'T' :: clockText clock))
  | .zoned =>
    let ((year, month, day), clock, rest) ← dateAndClock text
    let nanosecond :=
      Number.ofDigits clock.fraction * Nat.pow 10 (9 - clock.fraction.length)
    let timestamp : Timestamp :=
      ⟨year, month, day, clock.hour, clock.minute, clock.second, nanosecond, ← zone rest⟩
    return .time timestamp.withoutLeapSecond

end DisplayFilter.Toml
