/-
This file reads the dates and times of a TOML document and writes them in their usual form.
-/

import TypedClient.Number.Decimal
import TypedClient.Text.Blank
import TypedClient.Toml.Text

namespace TypedClient.Toml

/-- A day of the calendar. -/
structure Day where
  year : Nat
  month : Nat
  day : Nat
  deriving DecidableEq, Repr, Inhabited

/-- A time of day; a second may be a leap second. -/
structure Clock where
  hour : Nat
  minute : Nat
  second : Nat
  /-- The first nine digits behind the point, without zeros at the end. -/
  fraction : List Char := []
  deriving DecidableEq, Repr, Inhabited

/-- How far a clock is from universal time. -/
inductive Offset
  | universal
  | ahead (hour minute : Nat)
  | behind (hour minute : Nat)
  deriving DecidableEq, Repr, Inhabited

/-- A date, a time, or both. -/
inductive Moment
  | date (day : Day)
  | time (clock : Clock)
  | both (day : Day) (clock : Clock) (offset : Option Offset)
  deriving DecidableEq, Repr, Inhabited

/-- A number in at least the given count of digits. -/
def padded (count value : Nat) : String :=
  let digits := natDigits value
  String.ofList (List.replicate (count - digits.length) '0' ++ digits)

namespace Day

def daysInMonth (year month : Nat) : Nat :=
  if month == 2 then
    if year % 4 == 0 && (year % 100 != 0 || year % 400 == 0) then 29 else 28
  else if month == 4 || month == 6 || month == 9 || month == 11 then 30
  else 31

/-- Tells whether the calendar has such a day. -/
def isValid (day : Day) : Bool :=
  1 ≤ day.month && day.month ≤ 12 && 1 ≤ day.day && day.day ≤ daysInMonth day.year day.month

def text (day : Day) : String :=
  padded 4 day.year ++ "-" ++ padded 2 day.month ++ "-" ++ padded 2 day.day

end Day

namespace Clock

/-- Tells whether a clock shows such a time. -/
def isValid (clock : Clock) : Bool :=
  clock.hour ≤ 23 && clock.minute ≤ 59 && clock.second ≤ 60

def text (clock : Clock) : String :=
  padded 2 clock.hour ++ ":" ++ padded 2 clock.minute ++ ":" ++ padded 2 clock.second ++
    (if clock.fraction.isEmpty then "" else "." ++ String.ofList clock.fraction)

end Clock

/-- The text of an offset; no offset at all is written as one ahead. -/
def Offset.text : Offset → String
  | universal => "Z"
  | ahead hour minute => "+" ++ padded 2 hour ++ ":" ++ padded 2 minute
  | behind hour minute =>
    (if hour == 0 && minute == 0 then "+" else "-") ++ padded 2 hour ++ ":" ++ padded 2 minute

def Moment.text : Moment → String
  | date day => day.text
  | time clock => clock.text
  | both day clock offset =>
    day.text ++ "T" ++ clock.text ++ (offset.map Offset.text).getD ""

/-- Reads a number of exactly `count` digits. -/
def digits? (count : Nat) (input : List Char) : Option (Nat × List Char) :=
  let digits := input.take count
  if digits.length == count && digits.all Char.isDigit then
    some (digitsValue digits, input.drop count)
  else none

/-- The rest behind a character that has to stand in front. -/
def expect? (c : Char) : List Char → Option (List Char)
  | first :: rest => if first == c then some rest else none
  | [] => none

/-- Reads a day. -/
def day? (input : List Char) : Option (Day × List Char) := do
  let (year, rest) ← digits? 4 input
  let (month, rest) ← digits? 2 (← expect? '-' rest)
  let (number, rest) ← digits? 2 (← expect? '-' rest)
  let day : Day := ⟨year, month, number⟩
  if day.isValid then some (day, rest) else none

/-- Reads the digits behind a point, if there is one. -/
def fraction? : List Char → Option (List Char × List Char)
  | '.' :: rest =>
    let digits := rest.takeWhile Char.isDigit
    if digits.isEmpty then none
    else some (Text.dropEndWhile (· == '0') (digits.take 9), rest.dropWhile Char.isDigit)
  | input => some ([], input)

/-- Reads a time of day. -/
def clock? (input : List Char) : Option (Clock × List Char) := do
  let (hour, rest) ← digits? 2 input
  let (minute, rest) ← digits? 2 (← expect? ':' rest)
  let (second, rest) ← digits? 2 (← expect? ':' rest)
  let (fraction, rest) ← fraction? rest
  let clock : Clock := ⟨hour, minute, second, fraction⟩
  if clock.isValid then some (clock, rest) else none

/-- Reads the hours and minutes of an offset. -/
def shift? (input : List Char) : Option ((Nat × Nat) × List Char) := do
  let (hour, rest) ← digits? 2 input
  let (minute, rest) ← digits? 2 (← expect? ':' rest)
  if hour ≤ 23 && minute ≤ 59 then some ((hour, minute), rest) else none

/-- Reads an offset, if there is one. -/
def offset? : List Char → Option (Option Offset × List Char)
  | 'Z' :: rest => some (some .universal, rest)
  | 'z' :: rest => some (some .universal, rest)
  | '+' :: rest => (shift? rest).map fun (amount, behind) =>
    (some (.ahead amount.1 amount.2), behind)
  | '-' :: rest => (shift? rest).map fun (amount, behind) =>
    (some (.behind amount.1 amount.2), behind)
  | input => some (none, input)

/-- Reads the time behind a day, if there is one. -/
def clockBehindDay? : List Char → Option (Clock × List Char)
  | separator :: rest =>
    if separator == 'T' || separator == 't' || separator == ' ' then clock? rest else none
  | [] => none

/-- Reads a date, a time, or both. -/
def moment? (input : List Char) : Option (Moment × List Char) :=
  match day? input with
  | none => (clock? input).map fun (clock, rest) => (.time clock, rest)
  | some (day, rest) =>
    match clockBehindDay? rest with
    | none => some (.date day, rest)
    | some (clock, behind) =>
      (offset? behind).map fun (offset, final) => (.both day clock offset, final)

end TypedClient.Toml
