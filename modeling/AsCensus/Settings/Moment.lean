import AsCensus.Text.Numeral
import AsCensus.Text.Scan

namespace AsCensus
namespace Settings

open Text

/-!
# Dates and times

A moment is a day of the calendar, a time of day, or both, and then maybe how far its
clock is ahead of universal time.  Seconds may be left out, and their fraction is kept
to a billionth.

A moment is shown in one form only, whatever the form it was written in: a `T` stands
between day and time, and a fraction has no zeros at its end.
-/

/-- A day of the calendar. -/
structure Day where
  year : Nat
  month : Nat
  day : Nat
  deriving DecidableEq, Repr

/-- A time of day. -/
structure Clock where
  hour : Nat
  minute : Nat
  second : Option Nat
  /-- The decimal places of the second. -/
  places : Option (List Char)
  deriving DecidableEq, Repr

/-- How a clock differs from universal time. -/
inductive Offset
  | none
  | universal
  | ahead (hour minute : Nat)
  | behind (hour minute : Nat)
  deriving DecidableEq, Repr

/-- A date, a time or both. -/
inductive Moment
  | day (date : Day)
  | clock (time : Clock)
  | both (date : Day) (time : Clock) (offset : Offset)
  deriving DecidableEq, Repr

/-! ## The calendar -/

/-- Whether a year has a day more. -/
def isLeapYear (year : Nat) : Bool :=
  year % 4 == 0 && (year % 100 != 0 || year % 400 == 0)

/-- How many days a month has. -/
def monthLength (year month : Nat) : Nat :=
  if month = 2 then
    if isLeapYear year then 29 else 28
  else if month ∈ [4, 6, 9, 11] then 30
  else 31

/-! ## The shown form -/

/-- A number with at least so many digits. -/
def padded (width number : Nat) : String :=
  let shown := digits 10 number
  String.ofList (List.replicate (width - shown.length) '0' ++ shown)

/-- How many decimal places of a second are kept. -/
def keptPlaces : Nat := 9

/-- Decimal places without the zeros at their end, of which one is left. -/
def shownPlaces (places : List Char) : String :=
  match ((places.take keptPlaces).reverse.dropWhile (· == '0')).reverse with
  | [] => "0"
  | shown => String.ofList shown

/-- The text of a day. -/
def Day.shown (day : Day) : String :=
  padded 4 day.year ++ "-" ++ padded 2 day.month ++ "-" ++ padded 2 day.day

/-- The text of an hour and a minute. -/
def shownMinute (hour minute : Nat) : String :=
  padded 2 hour ++ ":" ++ padded 2 minute

/-- The text of a time of day. -/
def Clock.shown (clock : Clock) : String :=
  let second := match clock.second with
    | some second => ":" ++ padded 2 second
    | none => ""
  let places := match clock.places with
    | some places => "." ++ shownPlaces places
    | none => ""
  shownMinute clock.hour clock.minute ++ second ++ places

/-- The text of a difference.  One of no minutes is shown as ahead. -/
def Offset.shown : Offset -> String
  | none => ""
  | universal => "Z"
  | ahead hour minute => "+" ++ shownMinute hour minute
  | behind 0 0 => "+" ++ shownMinute 0 0
  | behind hour minute => "-" ++ shownMinute hour minute

/-- The text of a moment. -/
def Moment.shown : Moment -> String
  | day date => date.shown
  | clock time => time.shown
  | both date time offset => date.shown ++ "T" ++ time.shown ++ offset.shown

/-! ## The written form -/

/-- Scan a number of exactly so many digits that stays between two bounds. -/
def scanNumber (width least greatest : Nat) : Scanner Nat := fun text =>
  let written := text.take width
  let number := ofDigits 10 written
  if written.length = width ∧ written.all (isDigit 10) ∧ least ≤ number ∧ number ≤ greatest then
    some (number, text.drop width)
  else
    none

/-- Scan a day. -/
def scanDay : Scanner Day := fun text => do
  let (year, rest) ← scanNumber 4 0 9999 text
  let (month, rest) ← scanNumber 2 1 12 (← after? ['-'] rest)
  let (day, rest) ← scanNumber 2 1 (monthLength year month) (← after? ['-'] rest)
  some (⟨year, month, day⟩, rest)

/-- Scan an hour and a minute. -/
def scanMinute : Scanner (Nat × Nat) := fun text => do
  let (hour, rest) ← scanNumber 2 0 23 text
  let (minute, rest) ← scanNumber 2 0 59 (← after? [':'] rest)
  some ((hour, minute), rest)

/-- Scan the decimal places of a second, if there are any. -/
def scanPlaces : Scanner (Option (List Char))
  | '.' :: rest => (scanRun (isDigit 10) rest).map fun (places, rest) => (some places, rest)
  | rest => some (none, rest)

/-- Scan a time of day.  A minute may have 61 seconds. -/
def scanClock : Scanner Clock := fun text => do
  let ((hour, minute), rest) ← scanMinute text
  match rest with
  | ':' :: rest => do
      let (second, rest) ← scanNumber 2 0 60 rest
      let (places, rest) ← scanPlaces rest
      some (⟨hour, minute, some second, places⟩, rest)
  | rest => some (⟨hour, minute, none, none⟩, rest)

/-- Scan a difference from universal time, if there is one. -/
def scanOffset : Scanner Offset
  | '+' :: rest => (scanMinute rest).map fun ((hour, minute), rest) => (.ahead hour minute, rest)
  | '-' :: rest => (scanMinute rest).map fun ((hour, minute), rest) => (.behind hour minute, rest)
  | 'Z' :: rest => some (.universal, rest)
  | 'z' :: rest => some (.universal, rest)
  | rest => some (.none, rest)

/-- The time of day that follows a day, if there is one.  After a blank it starts with
a digit. -/
def timeAfterDay? : List Char -> Option (List Char)
  | 'T' :: rest => some rest
  | 't' :: rest => some rest
  | ' ' :: c :: rest => if isDigit 10 c then some (c :: rest) else none
  | _ => none

/-- Scan a moment. -/
def scanMoment : Scanner Moment := fun text =>
  match scanDay text with
  | none => (scanClock text).map fun (clock, rest) => (.clock clock, rest)
  | some (day, rest) =>
      match timeAfterDay? rest with
      | none => some (.day day, rest)
      | some time => do
          let (clock, rest) ← scanClock time
          let (offset, rest) ← scanOffset rest
          some (.both day clock offset, rest)

end Settings
end AsCensus
