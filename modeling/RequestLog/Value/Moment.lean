import RequestLog.Text.Cut
import RequestLog.Number.Numeral

/-!
# Moments

A moment is a day and a time of day to the microsecond, with or without an offset from universal
time. It is read from and written in the ISO form, which shows microseconds only when there are
any. Two moments with an offset are equal when they are the same instant.
-/

namespace RequestLog

/-- A day and a time of day. The offset is in microseconds. -/
structure Moment where
  year : Nat
  month : Nat
  day : Nat
  hour : Nat
  minute : Nat
  second : Nat
  microsecond : Nat
  offset : Option Int
  deriving DecidableEq, Repr

namespace Moment

/-- A number in decimal digits, at least `width` of them. -/
def padded (width n : Nat) : List Char :=
  let digits := Nat.toDigits 10 n
  List.replicate (width - digits.length) '0' ++ digits

/-- Microseconds after a point, when there are any. -/
def fractionText (n : Nat) : List Char := if n = 0 then [] else '.' :: padded 6 n

/-- Microseconds in a second. -/
def perSecond : Nat := 1000000

/-- An offset: its sign, hours and minutes, and seconds when there are any. -/
def offsetText (offset : Int) : List Char :=
  let total := offset.natAbs
  let seconds := total / perSecond
  let fraction := total % perSecond
  (if offset < 0 then '-' else '+') :: (padded 2 (seconds / 3600) ++
    ':' :: padded 2 (seconds / 60 % 60) ++
    (if seconds % 60 = 0 ∧ fraction = 0 then []
      else ':' :: padded 2 (seconds % 60) ++ fractionText fraction))

/-- The ISO form without the offset, with a separator between day and time. -/
def localText (m : Moment) (separator : Char) : List Char :=
  padded 4 m.year ++ '-' :: padded 2 m.month ++ '-' :: padded 2 m.day ++
    separator :: padded 2 m.hour ++ ':' :: padded 2 m.minute ++ ':' :: padded 2 m.second ++
    fractionText m.microsecond

/-- The ISO form with a separator between day and time. -/
def isoText (m : Moment) (separator : Char) : String :=
  String.ofList (m.localText separator ++ (m.offset.map offsetText).getD [])

/-- The whole seconds of an offset: of half a second the one farther from zero. -/
def offsetSeconds (offset : Int) : Nat := (offset.natAbs + perSecond / 2) / perSecond

/-- An offset as documents write it: hours and minutes, with what is left of a minute dropped, and a
letter for universal time. -/
def shortOffsetText (offset : Int) : List Char :=
  match offsetSeconds offset with
  | 0 => ['Z']
  | seconds =>
    (if offset < 0 then '-' else '+') ::
      (padded 2 (seconds / 3600) ++ ':' :: padded 2 (seconds / 60 % 60))

/-- The ISO form as documents write it. -/
def documentText (m : Moment) : String :=
  String.ofList (m.localText 'T' ++ (m.offset.map shortOffsetText).getD [])

/-- Takes a number of exactly `width` digits. -/
def takeNumber? (width : Nat) (cs : List Char) : Option (Nat × List Char) :=
  let digits := cs.take width
  if digits.length = width ∧ digits.all Char.isDigit then
    some (Numeral.valueOf digits, cs.drop width)
  else none

/-- Takes one given character. -/
def takeSign? (c : Char) : List Char → Option (List Char)
  | d :: rest => if c = d then some rest else none
  | [] => none

/-- Takes microseconds after a point; without a point there are none. -/
def takeFraction? : List Char → Option (Nat × List Char)
  | '.' :: rest =>
    let digits := rest.takeWhile Char.isDigit
    if digits = [] then none
    else
      let six := (digits ++ List.replicate (6 - digits.length) '0').take 6
      some (Numeral.valueOf six, rest.dropWhile Char.isDigit)
  | cs => some (0, cs)

/-- The offset that a text gives, which must end with it. Without whole seconds it is universal
time. -/
def readOffset? : List Char → Option (Option Int)
  | [] => some none
  | ['Z'] => some (some 0)
  | sign :: rest => do
    guard (sign = '+' ∨ sign = '-')
    let (hours, rest) ← takeNumber? 2 rest
    let rest ← takeSign? ':' rest
    let (minutes, rest) ← takeNumber? 2 rest
    let (seconds, rest) ← match rest with
      | ':' :: tail => takeNumber? 2 tail
      | _ => some (0, rest)
    let (fraction, rest) ← takeFraction? rest
    guard (rest = [])
    let whole := (hours * 60 + minutes) * 60 + seconds
    let total : Int := if whole = 0 then 0 else whole * perSecond + fraction
    return some (if sign = '-' then -total else total)

/-- The moment that a text in ISO form stands for. -/
def ofIso? (s : String) : Option Moment := do
  let (year, cs) ← takeNumber? 4 s.toList
  let cs ← takeSign? '-' cs
  let (month, cs) ← takeNumber? 2 cs
  let cs ← takeSign? '-' cs
  let (day, cs) ← takeNumber? 2 cs
  let cs ← takeSign? 'T' cs
  let (hour, cs) ← takeNumber? 2 cs
  let cs ← takeSign? ':' cs
  let (minute, cs) ← takeNumber? 2 cs
  let cs ← takeSign? ':' cs
  let (second, cs) ← takeNumber? 2 cs
  let (microsecond, cs) ← takeFraction? cs
  let offset ← readOffset? cs
  return ⟨year, month, day, hour, minute, second, microsecond, offset⟩

/-- The days before the first of March of a year, counting from the year 0. -/
def daysBeforeMarch (year : Int) : Int := 365 * year + year / 4 - year / 100 + year / 400

/-- The number of a day; years begin in March, so that a leap day is the last of its year. -/
def dayNumber (year month day : Nat) : Int :=
  let (y, m) : Int × Int := if month < 3 then (year - 1, month + 9) else (year, month - 3)
  daysBeforeMarch y + (153 * m + 2) / 5 + day

/-- The microseconds from a fixed origin to the moment, by its own clock. -/
def localInstant (m : Moment) : Int :=
  (((dayNumber m.year m.month m.day * 24 + m.hour) * 60 + m.minute) * 60 + m.second) * perSecond +
    m.microsecond

/-- The two moments are equal: the same instant if both have an offset, the same day and time if
neither has one. -/
def same (a b : Moment) : Bool :=
  match a.offset, b.offset with
  | some x, some y => a.localInstant - x == b.localInstant - y
  | none, none => a.localInstant == b.localInstant
  | _, _ => false

/-- A stretch of time in days, seconds and microseconds, of which only the days may be negative.
Those that are zero are left out. -/
def durationText (microseconds : Int) : String :=
  let perDay : Int := 86400 * perSecond
  let days := microseconds.fdiv perDay
  let rest := microseconds - days * perDay
  let parts := [("days", days), ("seconds", rest / perSecond), ("microseconds", rest % perSecond)]
  let shown := parts.filter fun p => p.2 ≠ 0
  "datetime.timedelta(" ++
    (if shown = [] then "0"
      else ", ".intercalate (shown.map fun p => p.1 ++ "=" ++ toString p.2)) ++ ")"

/-- The constructor form of an offset. -/
def zoneText (offset : Int) : String :=
  if offset = 0 then "datetime.timezone.utc"
  else "datetime.timezone(" ++ durationText offset ++ ")"

/-- The constructor form of a moment. Seconds and microseconds are left out when nothing but zeros
would follow. -/
def constructorText (m : Moment) : String :=
  let numbers := [m.year, m.month, m.day, m.hour, m.minute] ++
    (if m.microsecond ≠ 0 then [m.second, m.microsecond]
      else if m.second ≠ 0 then [m.second] else [])
  let zone := match m.offset with
    | some o => ["tzinfo=" ++ zoneText o]
    | none => []
  "datetime.datetime(" ++ ", ".intercalate (numbers.map toString ++ zone) ++ ")"

end Moment

end RequestLog
