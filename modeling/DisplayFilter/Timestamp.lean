/-
**Points in time.**

A point in time is written as a date alone, or as a date and a time of day. Behind a `T` or `t` the
time of day has an offset from universal time; behind blanks it has none and is universal. Months,
days and times of day may have one digit or two.

* `Timestamp.read?`: the point in time that a text stands for.
* `Timestamp.text`: its full form, with the offset twice unless it is universal time.
* `Timestamp.isSame`, `Timestamp.precedes`: points in time as keys.
-/

import DisplayFilter.Number.Integer

namespace DisplayFilter

/-- A date, a time of day, and the offset from universal time in minutes if one is given by a
number. -/
structure Timestamp where
  year : Nat
  month : Nat
  day : Nat
  hour : Nat
  minute : Nat
  second : Nat
  nanosecond : Nat
  offset? : Option Int
deriving DecidableEq, Repr

namespace Timestamp

/-- Whether a year has a leap day. -/
def isLeap (year : Nat) : Bool :=
  year % 4 = 0 && (year % 100 ≠ 0 || year % 400 = 0)

/-- The number of days in a month. -/
def daysIn (year month : Nat) : Nat :=
  if month = 2 then if isLeap year then 29 else 28
  else if month = 4 || month = 6 || month = 9 || month = 11 then 30
  else 31

/-- A number of one or two digits within bounds, and what follows it. -/
def number? (least greatest : Nat) (text : List Char) : Option (Nat × List Char) :=
  let written := (text.take 2).takeWhile Number.isDigit
  let value := Number.ofDigits written
  if written.isEmpty || value < least || greatest < value then none
  else some (value, text.drop written.length)

/-- What follows a character that has to come first. -/
def after? (character : Char) : List Char → Option (List Char)
  | [] => none
  | first :: rest => if first = character then some rest else none

/-- The date at the head of a text, and what follows it. -/
def date? (text : List Char) : Option ((Nat × Nat × Nat) × List Char) := do
  let written := text.takeWhile Number.isDigit
  if written.length ≠ 4 then none
  let year := Number.ofDigits written
  let (month, rest) ← number? 1 12 (← after? '-' (text.drop 4))
  let (day, rest) ← number? 1 (daysIn year month) (← after? '-' rest)
  return ((year, month, day), rest)

/-- The fraction of a second behind a point or comma, in nanoseconds, and what follows it; digits
beyond the ninth are dropped. -/
def fraction (text : List Char) : Nat × List Char :=
  match text with
  | [] => (0, [])
  | mark :: rest =>
    let written := rest.takeWhile Number.isDigit
    if (mark = '.' || mark = ',') && !written.isEmpty then
      let kept := written.take 9
      (Number.ofDigits kept * Nat.pow 10 (9 - kept.length), rest.drop written.length)
    else (0, text)

/-- The hour, minute, second and nanosecond at the head of a text, and what follows them. -/
def clock? (text : List Char) : Option ((Nat × Nat × Nat × Nat) × List Char) := do
  let (hour, rest) ← number? 0 23 text
  let (minute, rest) ← number? 0 59 (← after? ':' rest)
  let (second, rest) ← number? 0 59 (← after? ':' rest)
  let (nanosecond, rest) := fraction rest
  return ((hour, minute, second, nanosecond), rest)

/-- A number of exactly two digits that is not above a bound. -/
def twoDigits? (greatest : Nat) (high low : Char) : Option Nat :=
  let value := Number.ofDigits [high, low]
  if Number.isDigit high && Number.isDigit low && value ≤ greatest then some value else none

/-- The offset from universal time in minutes that a text stands for; universal time itself has
none. -/
def zone? : List Char → Option (Option Int)
  | ['Z'] => some none
  | [sign, tens, ones, ':', high, low] => do
    let minutes : Int := (← twoDigits? 24 tens ones) * 60 + (← twoDigits? 60 high low)
    if sign = '+' then some (some minutes) else if sign = '-' then some (some (-minutes)) else none
  | _ => none

/-- The point in time that a text stands for. -/
def read? (text : List Char) : Option Timestamp := do
  let ((year, month, day), rest) ← date? text
  match rest with
  | [] => return ⟨year, month, day, 0, 0, 0, 0, none⟩
  | mark :: rest =>
    if mark ≠ 'T' && mark ≠ 't' && mark ≠ ' ' then none
    let rest := if mark = ' ' then rest.dropWhile (· = ' ') else rest
    let ((hour, minute, second, nanosecond), rest) ← clock? rest
    let offset? ← if mark = ' ' then if rest.isEmpty then some none else none else zone? rest
    return ⟨year, month, day, hour, minute, second, nanosecond, offset?⟩

/-- Numbers of at least two digits with a character between each two. -/
def separated (separator : Char) (numbers : List Nat) : List Char :=
  [separator].intercalate (numbers.map (Number.padded 2))

/-- The fraction of a second with a point in front; no fraction leaves nothing. -/
def fractionText (nanosecond : Nat) : List Char :=
  if nanosecond = 0 then []
  else '.' :: ((Number.padded 9 nanosecond).reverse.dropWhile (· = '0')).reverse

/-- An offset as a sign, hours and minutes. -/
def offsetText (offset : Int) : List Char :=
  (if offset < 0 then '-' else '+') ::
    (Number.padded 2 (offset.natAbs / 60) ++ Number.padded 2 (offset.natAbs % 60))

/-- The full form of a point in time. -/
def text (timestamp : Timestamp) : String :=
  let offset := timestamp.offset?.getD 0
  let zone := if offset = 0 then "UTC".toList else offsetText offset
  String.ofList (Number.padded 4 timestamp.year ++ '-' ::
    separated '-' [timestamp.month, timestamp.day] ++ ' ' ::
    separated ':' [timestamp.hour, timestamp.minute, timestamp.second] ++
    fractionText timestamp.nanosecond ++ ' ' :: offsetText offset ++ ' ' :: zone)

/-- The day after a date. -/
def nextDay (year month day : Nat) : Nat × Nat × Nat :=
  if day < daysIn year month then (year, month, day + 1)
  else if month < 12 then (year, month + 1, 1)
  else (year + 1, 1, 1)

/-- The point in time with a leap second counted as the first second of the next minute. -/
def withoutLeapSecond (timestamp : Timestamp) : Timestamp :=
  if timestamp.second < 60 then timestamp
  else if timestamp.minute < 59 then
    { timestamp with minute := timestamp.minute + 1, second := 0 }
  else if timestamp.hour < 23 then
    { timestamp with hour := timestamp.hour + 1, minute := 0, second := 0 }
  else
    let (year, month, day) := nextDay timestamp.year timestamp.month timestamp.day
    { timestamp with year, month, day, hour := 0, minute := 0, second := 0 }

/-! ### Order -/

/-- The days from the start of the era to a date. -/
def dayNumber (year month day : Nat) : Nat :=
  let leapYears := (year + 3) / 4 - (year + 99) / 100 + (year + 399) / 400
  let inYear := (List.range' 1 (month - 1)).foldl (fun days month => days + daysIn year month) 0
  365 * year + leapYears + inYear + (day - 1)

/-- The seconds from the start of the era in universal time. -/
def instant (timestamp : Timestamp) : Int :=
  let days := dayNumber timestamp.year timestamp.month timestamp.day
  let seconds := ((days * 24 + timestamp.hour) * 60 + timestamp.minute) * 60 + timestamp.second
  seconds - timestamp.offset?.getD 0 * 60

/-- Whether an offset names a zone of its own: a whole number of hours between the outermost
zones. -/
def isHourly (offset : Int) : Bool :=
  offset % 60 = 0 && -720 ≤ offset && offset ≤ 840

/-- The place of a zone among the zones: universal time first, then no offset at all, then the
hourly zones from west to east, then the others. -/
def zoneRank (timestamp : Timestamp) : Int :=
  match timestamp.offset? with
  | none => -1000
  | some offset => if offset = 0 then -999 else if isHourly offset then offset else 1000

/-- Whether two points in time are the same instant in the same zone. Only universal time and the
hourly zones are zones that two points can share. -/
def isSame (first second : Timestamp) : Bool :=
  first.nanosecond = second.nanosecond && first.instant = second.instant &&
    first.zoneRank = second.zoneRank && first.zoneRank < 1000

/-- Whether a point in time is sorted before another or is as high: by the fraction of a second,
then by the instant, then by the zone. -/
def precedes (first second : Timestamp) : Bool :=
  if first.nanosecond ≠ second.nanosecond then first.nanosecond < second.nanosecond
  else if first.instant ≠ second.instant then first.instant < second.instant
  else first.zoneRank ≤ second.zoneRank

end Timestamp

end DisplayFilter
