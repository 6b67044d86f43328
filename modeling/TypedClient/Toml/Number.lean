/-
This file reads the numbers of a TOML document and the words that stand for values.
-/

import TypedClient.Toml.Value

namespace TypedClient.Toml

/-- Reads digits that may have single underscores between them, up to the first character that
does not fit. The first digit has been read. -/
def moreDigits? (isDigit : Char → Bool) : List Char → Option (List Char × List Char)
  | '_' :: c :: rest =>
    if isDigit c then (moreDigits? isDigit rest).map fun (digits, final) => (c :: digits, final)
    else none
  | ['_'] => none
  | c :: rest =>
    if isDigit c then (moreDigits? isDigit rest).map fun (digits, final) => (c :: digits, final)
    else some ([], c :: rest)
  | [] => some ([], [])

/-- Reads at least one digit, with single underscores between digits. -/
def digitRow? (isDigit : Char → Bool) : List Char → Option (List Char × List Char)
  | c :: rest =>
    if isDigit c then (moreDigits? isDigit rest).map fun (digits, final) => (c :: digits, final)
    else none
  | [] => none

/-- Reads the digits of a decimal integer, which has no zeros in front. -/
def wholeDigits? : List Char → Option (List Char × List Char)
  | '0' :: rest => some (['0'], rest)
  | input => digitRow? Char.isDigit input

/-- Reads a sign, if there is one, and tells whether it is a minus. -/
def sign : List Char → Bool × List Char
  | '-' :: rest => (true, rest)
  | '+' :: rest => (false, rest)
  | input => (false, input)

/-- An integer within the signed integers of 64 bits. -/
def integer? (value : Int) : Option Value :=
  (inInt64? value).map .integer

/-- Reads the digits of an integer to a base other than ten. -/
def basedInteger? (base : Nat) (input : List Char) : Option (Value × List Char) := do
  let isDigit (c : Char) : Bool := (Text.hexValue? c).any (· < base)
  let (digits, rest) ← digitRow? isDigit input
  some (← integer? (← Text.numberTo? base digits), rest)

/-- Reads the fraction of a number, if there is one: a point and digits. -/
def fractionDigits? : List Char → Option (Option (List Char) × List Char)
  | '.' :: rest => (digitRow? Char.isDigit rest).map fun (digits, final) => (some digits, final)
  | input => some (none, input)

/-- Reads the exponent of a number, if there is one: an `e`, a sign that may be missing, and
digits. -/
def exponent? : List Char → Option (Option Int × List Char)
  | c :: rest =>
    if c == 'e' || c == 'E' then
      let (negative, behind) := sign rest
      (digitRow? Char.isDigit behind).map fun (digits, final) =>
        let size : Int := digitsValue digits
        (some (if negative then -size else size), final)
    else some (none, c :: rest)
  | [] => some (none, [])

/-- A float, unless it is too large. A negative number that is too large is allowed. -/
def float? (number : Binary64) : Option Value :=
  if number == .infinite false then none else some (.float number)

/-- Reads a decimal number. It is a float if it has a fraction or an exponent. -/
def decimal? (input : List Char) : Option (Value × List Char) := do
  let (negative, body) := sign input
  let (whole, rest) ← wholeDigits? body
  let (fraction, rest) ← fractionDigits? rest
  let (exponent, rest) ← exponent? rest
  if fraction.isNone && exponent.isNone then
    let size : Int := digitsValue whole
    some (← integer? (if negative then -size else size), rest)
  else
    let behind := fraction.getD []
    let number := Binary64.ofDecimal negative (whole ++ behind) (exponent.getD 0 - behind.length)
    some (← float? number, rest)

/-- Reads a word that stands for a value. -/
def word? (input : List Char) : Option (Value × List Char) :=
  let starts (word : String) : Option (List Char) := Text.dropStart? word.toList input
  if let some rest := starts "true" then some (.bool true, rest)
  else if let some rest := starts "false" then some (.bool false, rest)
  else if let some rest := starts "inf" then some (.float (.infinite false), rest)
  else if let some rest := starts "+inf" then some (.float (.infinite false), rest)
  else if let some rest := starts "-inf" then some (.float (.infinite true), rest)
  else if let some rest := starts "nan" then some (.float .nan, rest)
  else if let some rest := starts "+nan" then some (.float .nan, rest)
  else if let some rest := starts "-nan" then some (.float .nan, rest)
  else none

/-- Reads a number. -/
def number? : List Char → Option (Value × List Char)
  | '0' :: 'x' :: rest => basedInteger? 16 rest
  | '0' :: 'o' :: rest => basedInteger? 8 rest
  | '0' :: 'b' :: rest => basedInteger? 2 rest
  | input => decimal? input

end TypedClient.Toml
