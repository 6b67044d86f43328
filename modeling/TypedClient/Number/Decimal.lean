/-
This file reads binary64 numbers from decimal text and writes them with the fewest digits that
read back to the same number.
-/

import TypedClient.Number.Binary64
import TypedClient.Text.Piece

namespace TypedClient

def digitsValue (digits : List Char) : Nat :=
  digits.foldl (fun value digit => 10 * value + (digit.toNat - '0'.toNat)) 0

/-- The decimal digits of a natural number. -/
def natDigits (value : Nat) : List Char :=
  Nat.toDigits 10 value

/-- The decimal text of an integer. -/
def intText (value : Int) : String :=
  if value < 0 then String.ofList ('-' :: natDigits value.natAbs)
  else String.ofList (natDigits value.natAbs)

/-- An integer written in decimal, with an optional sign. -/
def readSigned? (cs : List Char) : Option Int :=
  let (negative, digits) := match cs with
    | '-' :: rest => (true, rest)
    | '+' :: rest => (false, rest)
    | _ => (false, cs)
  if digits.isEmpty || !digits.all Char.isDigit then none
  else if negative then some (-(digitsValue digits : Int)) else some (digitsValue digits)

namespace Binary64

/-- The number nearest to `digits` times ten to the power `exponent`. -/
def ofDecimal (negative : Bool) (digits : List Char) (exponent : Int) : Binary64 :=
  let significant := digits.dropWhile (· == '0')
  let value := digitsValue significant
  let magnitude := exponent + significant.length
  if value == 0 || magnitude < -400 then .finite negative 0
  else if magnitude > 400 then .infinite negative
  else if exponent ≥ 0 then ofQuotient negative (value * Nat.pow 10 exponent.toNat) 1
  else ofQuotient negative value (Nat.pow 10 (-exponent).toNat)

/-- Reads what may follow the digits: nothing, or an `e` and a signed integer. -/
def readExponent? : List Char → Option Int
  | [] => some 0
  | c :: rest => if c == 'e' || c == 'E' then readSigned? rest else none

/-- Reads a number without a sign: digits with at most one point and an optional exponent. -/
def readUnsigned? (negative : Bool) (cs : List Char) : Option Binary64 :=
  let whole := cs.takeWhile Char.isDigit
  let behindWhole := cs.dropWhile Char.isDigit
  let (fraction, tail) := match behindWhole with
    | '.' :: rest => (rest.takeWhile Char.isDigit, rest.dropWhile Char.isDigit)
    | _ => ([], behindWhole)
  if whole.isEmpty && fraction.isEmpty then none
  else (readExponent? tail).map fun exponent =>
    ofDecimal negative (whole ++ fraction) (exponent - fraction.length)

/-- Reads a number: an optional sign, and then a decimal, `inf`, `infinity` or `nan` in any
case. -/
def read? (cs : List Char) : Option Binary64 :=
  let (negative, body) := match cs with
    | '-' :: rest => (true, rest)
    | '+' :: rest => (false, rest)
    | _ => (false, cs)
  let word := body.map Char.toLower
  if word == "inf".toList || word == "infinity".toList then some (.infinite negative)
  else if word == "nan".toList then some .nan
  else readUnsigned? negative body

/-- A decimal `digits` times ten to the power `exponent`. -/
structure ShortDecimal where
  digits : Nat
  exponent : Int

/-- The multiple of ten to the power `exponent` that is nearest to the number of the given units
among the multiples that read back to it; a tie goes up. -/
def multipleAt? (units : Nat) (exponent : Int) : Option ShortDecimal :=
  let gap := spacing units
  let closed := units / gap % 2 == 0
  let below := if units / gap == Nat.pow 2 52 && gap > 1 then gap else 2 * gap
  let scale := Nat.pow 10 (-exponent).toNat
  let step := Nat.pow 10 exponent.toNat * (4 * unitsOfOne)
  let value := 4 * units * scale
  let low := (4 * units - below) * scale
  let high := (4 * units + 2 * gap) * scale
  let reaches (candidate : Nat) : Bool :=
    let place := candidate * step
    if closed then low ≤ place && place ≤ high else low < place && place < high
  let down := value / step
  let fitsDown := down > 0 && reaches down
  let fitsUp := reaches (down + 1)
  let upIsNearer := 2 * (value - down * step) ≥ step
  if fitsUp && (!fitsDown || upIsNearer) then some ⟨down + 1, exponent⟩
  else if fitsDown then some ⟨down, exponent⟩
  else none

/-- The first decimal that reads back, from a power of ten downward. -/
def shortestFrom (units : Nat) : Nat → Int → ShortDecimal
  | 0, exponent => ⟨0, exponent⟩
  | steps + 1, exponent =>
    match multipleAt? units exponent with
    | some decimal => decimal
    | none => shortestFrom units steps (exponent - 1)

/-- The decimal with the fewest digits that reads back to the number of the given units, and the
nearest of those. -/
def shortest (units : Nat) : ShortDecimal :=
  shortestFrom units 700 (natDigits (units / unitsOfOne)).length

def placePoint (digits : List Char) (behind : Int) : List Char :=
  if behind ≤ 0 then '0' :: '.' :: (List.replicate (-behind).toNat '0' ++ digits)
  else if behind.toNat < digits.length then
    digits.take behind.toNat ++ '.' :: digits.drop behind.toNat
  else digits ++ List.replicate (behind.toNat - digits.length) '0'

/-- A minus sign where it is due. -/
def signText (negative : Bool) : List Char :=
  if negative then ['-'] else []

/-- The shortest text without an exponent; whole numbers have no point. -/
def positional : Binary64 → String
  | nan => "NaN"
  | infinite negative => String.ofList (signText negative ++ "inf".toList)
  | finite negative units =>
    if units == 0 then String.ofList (signText negative ++ ['0'])
    else
      let decimal := shortest units
      let digits := natDigits decimal.digits
      String.ofList (signText negative ++ placePoint digits (decimal.exponent + digits.length))

/-- The shortest text as a JSON number: always with a point or an exponent, and with an exponent
from ten to the sixteenth on and below one hundred thousandth. -/
def jsonText : Binary64 → String
  | nan => "null"
  | infinite _ => "null"
  | finite negative units =>
    if units == 0 then String.ofList (signText negative ++ "0.0".toList)
    else
      let decimal := shortest units
      let digits := natDigits decimal.digits
      let behind := decimal.exponent + digits.length
      let body :=
        if behind > 16 || behind ≤ -5 then
          let exponentText := (intText (behind - 1)).toList
          match digits with
          | [] => []
          | [digit] => digit :: 'e' :: exponentText
          | digit :: others => digit :: '.' :: (others ++ 'e' :: exponentText)
        else if decimal.exponent ≥ 0 then placePoint digits behind ++ ".0".toList
        else placePoint digits behind
      String.ofList (signText negative ++ body)

end Binary64

end TypedClient
