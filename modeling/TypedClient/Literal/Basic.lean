/-
This file reads the literals of the backend language from expression text: strings, numbers, truth
values and lists of strings.
-/

import TypedClient.Number.Decimal
import TypedClient.SourceType.Brackets
import TypedClient.Text.Hexadecimal

namespace TypedClient.Literal

open Text

/-- Undoes the escapes of a regular string literal. A backslash before another character stands
for that character, and one at the end for itself. -/
def unescape : List Char → List Char
  | [] => []
  | ['\\'] => ['\\']
  | '\\' :: c :: rest =>
    let meant := match c with
      | 'n' => '\n'
      | 't' => '\t'
      | 'r' => '\r'
      | '0' => Char.ofNat 0
      | other => other
    meant :: unescape rest
  | c :: rest => c :: unescape rest

/-- Undoes the doubling of quotes in a verbatim string literal. -/
def undouble : List Char → List Char
  | '"' :: '"' :: rest => '"' :: undouble rest
  | c :: rest => c :: undouble rest
  | [] => []

/-- The text between two delimiters that do not overlap. -/
def between? (start stop cs : List Char) : Option (List Char) :=
  (dropStart? start cs).bind (dropEnd? stop)

/-- Three quotes, which stand around a raw string literal. -/
def rawQuotes : List Char := ['"', '"', '"']

/-- The part behind the last point. -/
def lastSegment (cs : List Char) : List Char :=
  match cutLast? '.' cs with
  | some (_, behind) => behind
  | none => cs

/-- Reads a verbatim string literal behind its at sign. -/
def verbatim? (cs : List Char) : Option (List Char) :=
  (between? ['"'] ['"'] (cs.dropWhile (· == '$'))).map undouble

/-- Reads a string literal without its marks of interpolation. -/
def quoted? (cs : List Char) : Option (List Char) :=
  match between? rawQuotes rawQuotes cs with
  | some inside => some (trim inside)
  | none => (between? ['"'] ['"'] cs).map unescape

/-- Reads a string literal in its regular, verbatim or raw form, or the name of a symbol in
`nameof`. The holes of an interpolated string stay as they are. -/
def stringChars? (text : List Char) : Option (List Char) :=
  let trimmedText := trim text
  match between? "nameof(".toList [')'] trimmedText with
  | some inside => some (lastSegment (trim inside))
  | none =>
    match trimmedText.dropWhile (· == '$') with
    | '@' :: rest => verbatim? rest
    | plain => quoted? plain

def string? (text : String) : Option String :=
  (stringChars? text.toList).map String.ofList

def naturalIn? (base : Nat) (digits : List Char) : Option Nat :=
  if digits.isEmpty then none
  else numberTo? base digits

/-- Reads a signed integer of 64 bits in a base, with an optional sign. -/
def integerIn? (base : Nat) (cs : List Char) : Option Int :=
  match cs with
  | '-' :: digits => (naturalIn? base digits).bind fun value => inInt64? (-(value : Int))
  | '+' :: digits => (naturalIn? base digits).bind fun value => inInt64? value
  | digits => (naturalIn? base digits).bind fun value => inInt64? value

def isIntegerSuffix (c : Char) : Bool :=
  "uUlL".toList.contains c

/-- Tells whether a character is a suffix of a decimal literal. -/
def isNumberSuffix (c : Char) : Bool :=
  "mMdDfFuUlL".toList.contains c

/-- Reads a number without a minus sign: hexadecimal, or decimal with an optional suffix. -/
def unsignedNumber? (cs : List Char) : Option Binary64 :=
  match cs with
  | '0' :: 'x' :: digits => hexadecimal digits
  | '0' :: 'X' :: digits => hexadecimal digits
  | _ => Binary64.read? (dropEndWhile isNumberSuffix cs)
where
  /-- Reads the digits of a hexadecimal number. -/
  hexadecimal (digits : List Char) : Option Binary64 :=
    (integerIn? 16 (dropEndWhile isIntegerSuffix digits)).map Binary64.ofInt

/-- Reads a numeric literal with its suffix, digit separators and a minus sign. -/
def numberChars? (text : List Char) : Option Binary64 :=
  match (trim text).filter (· != '_') with
  | '-' :: rest => (unsignedNumber? (trim rest)).map Binary64.negate
  | body => unsignedNumber? body

/-- Reads a numeric literal. -/
def number? (text : String) : Option Binary64 :=
  numberChars? text.toList

/-- A signed integer of 64 bits that has the same bits as the given one. -/
def wrap (value : Int) : Int :=
  Int.bmod value 18446744073709551616

/-- Shifts the bits of an integer to the left by less than 64 places. -/
def shiftLeft? (value amount : Int) : Option Int :=
  if 0 ≤ amount && amount < 64 then some (wrap (value * Nat.pow 2 amount.toNat)) else none

/-- Shifts an integer to the right by less than 64 places, keeping its sign. -/
def shiftRight? (value amount : Int) : Option Int :=
  if 0 ≤ amount && amount < 64 then some (value.fdiv (Nat.pow 2 amount.toNat)) else none

/-- Reads an integer literal, or a chain of left shifts of such literals that nests to the right;
`steps` bounds the number of shifts. -/
def integerWithin? : Nat → List Char → Option Int
  | 0, _ => none
  | steps + 1, text =>
    match cutFirst? "<<".toList text with
    | some (left, right) => do
      let value ← integerWithin? steps left
      let amount ← integerWithin? steps right
      shiftLeft? value amount
    | none => do
      let value ← numberChars? text
      if value.isWhole then some value.toClampedInt else none

def integerChars? (text : List Char) : Option Int :=
  integerWithin? (text.length + 1) text

def integer? (text : String) : Option Int :=
  integerChars? text.toList

/-- Reads a truth value. -/
def bool? (text : String) : Option Bool :=
  match trimmed text with
  | "true" => some true
  | "false" => some false
  | _ => none

/-- Tells whether a character closes a list of elements. -/
def closesList (c : Char) : Bool :=
  c == '}' || c == ']'

/-- The text of the elements of an array or collection expression. -/
def listInside? (text : List Char) : Option (List Char) := do
  let (before, behind) ← (cutFirst? ['{'] text).or (cutFirst? ['['] text)
  let inside := (behind.reverse.dropWhile fun c => !closesList c).drop 1
  if behind.any closesList then some inside.reverse
  else if before.any closesList then none
  else some behind

/-- Reads a list of strings: the string literals of an array or collection expression, or the
pieces between the commas of a single string literal. -/
def stringListChars (text : List Char) : List (List Char) :=
  let trimmedText := trim text
  match stringChars? trimmedText with
  | some single => ((splitAt ',' single).map trim).filter (fun piece => !piece.isEmpty)
  | none =>
    match listInside? trimmedText with
    | some inside => (Brackets.arguments inside).filterMap stringChars?
    | none => []

def strings (text : String) : List String :=
  (stringListChars text.toList).map String.ofList

end TypedClient.Literal
