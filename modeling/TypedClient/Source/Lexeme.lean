/-
This file tells how far the token at the head of a text extends.
-/

import TypedClient.Text.Blank
import TypedClient.Text.Hexadecimal
import TypedClient.Text.Letter
import TypedClient.Text.Piece

namespace TypedClient.Source.Lexeme

open Text

/-- Tells whether a character separates tokens. -/
def isSeparator (c : Char) : Bool :=
  isBlank c || c == '\uFEFF'

/-- Tells whether a name can start with a character. -/
def startsName (c : Char) : Bool :=
  c == '_' || isLetter c

/-- Tells whether a name can go on with a character. -/
def continuesName (c : Char) : Bool :=
  c == '_' || isLetterOrNumeral c

/-- The number of characters in front that satisfy a test. -/
def run (test : Char → Bool) (cs : List Char) : Nat :=
  (cs.takeWhile test).length

/-- The length of a word; an at sign may stand in front of it. -/
def word? : List Char → Option Nat
  | '@' :: c :: rest => if startsName c then some (2 + run continuesName rest) else none
  | c :: rest => if startsName c then some (1 + run continuesName rest) else none
  | [] => none

/-- The length of a line without its break. -/
def line (cs : List Char) : Nat :=
  run (fun c => c != '\n' && c != '\r') cs

/-- The length of what goes on up to the end of a comment between stars. -/
def comment? : List Char → Option Nat
  | '*' :: '/' :: _ => some 2
  | _ :: rest => (comment? rest).map (· + 1)
  | [] => none

/-- Tells whether a digit stands at the head of a text. -/
def startsDigit : List Char → Bool
  | c :: _ => c.isDigit
  | [] => false

/-- Tells whether a character is part of the digits or of the suffix of a number. -/
def isNumberPart (c : Char) : Bool :=
  c.isAlphanum || c == '_'

/-- The length of the sign and the digits of an exponent behind its mark. -/
def exponent (mark : Option Char) (cs : List Char) : Nat :=
  match mark, cs with
  | some 'e', sign :: rest | some 'E', sign :: rest =>
    if (sign == '+' || sign == '-') && startsDigit rest then 1 + run isNumberPart rest else 0
  | _, _ => 0

/-- The length of a number that starts with a digit or with a point before a digit. -/
def number (cs : List Char) : Nat :=
  let whole := cs.takeWhile isNumberPart
  let based := whole.drop 1 |>.head?.any fun c => "xXbB".toList.contains c
  if based then whole.length
  else
    let rest := cs.drop whole.length
    let fraction : List Char := match rest with
      | '.' :: digits => if startsDigit digits then '.' :: digits.takeWhile isNumberPart else []
      | _ => []
    let mantissa := whole ++ fraction
    mantissa.length + exponent mantissa.getLast? (cs.drop mantissa.length)

/-- The length of what goes on up to the quote that ends a string with escapes. -/
def escaped? : List Char → Option Nat
  | '\\' :: _ :: rest => (escaped? rest).map (· + 2)
  | c :: rest =>
    if c == '"' then some 1
    else if c == '\n' then none
    else (escaped? rest).map (· + 1)
  | [] => none

def escapeDigits (mark : Char) (cs : List Char) : Nat :=
  if "xuU".toList.contains mark then run (fun c => (hexValue? c).isSome) cs else 0

/-- The length of what goes on up to the quote that ends a character. -/
def character? : List Char → Option Nat
  | '\\' :: mark :: rest =>
    let digits := escapeDigits mark rest
    if (rest.drop digits).head? == some '\'' then some (digits + 3) else none
  | c :: '\'' :: _ => if c == '\'' then none else some 2
  | _ => none

/-- The length of what goes on up to the quote that ends a string in which a quote is doubled. -/
def doubled? : List Char → Option Nat
  | '"' :: '"' :: rest => (doubled? rest).map (· + 2)
  | '"' :: _ => some 1
  | _ :: rest => (doubled? rest).map (· + 1)
  | [] => none

/-- The length of what goes on up to the end of the first run of at least so many quotes. -/
def raw? (quotes : Nat) : List Char → Option Nat
  | [] => none
  | c :: rest =>
    let here := run (· == '"') (c :: rest)
    if here ≥ quotes then some here else (raw? quotes rest).map (· + 1)

/-- The length of the mark of an encoding behind a string. -/
def encodingMark : List Char → Nat
  | 'u' :: '8' :: _ | 'U' :: '8' :: _ => 2
  | _ => 0

def withMark (cs : List Char) (length : Nat) : Nat :=
  length + encodingMark (cs.drop length)

/-- The length of a string or a character without holes. -/
def string? (cs : List Char) : Option Nat :=
  match cs with
  | '\'' :: rest => (character? rest).map (· + 1)
  | '@' :: '"' :: rest => (doubled? rest).map fun length => withMark cs (length + 2)
  | '"' :: rest =>
    let quotes := run (· == '"') cs
    if quotes ≥ 3 then
      (raw? quotes (cs.drop quotes)).map fun length => withMark cs (length + quotes)
    else (escaped? rest).map fun length => withMark cs (length + 1)
  | _ => none

/-- The symbols of more than one character; a longer one stands before its beginnings. -/
def longSymbols : List String :=
  ["??=", "<<=", "=>", "==", "!=", "<=", ">=", "&&", "||", "??", "++", "--", "+=", "-=", "*=",
    "/=", "%=", "&=", "|=", "^=", "<<", "->", "::", ".."]

def shortSymbols : List Char :=
  "()[]\x7b\x7d;,.:?<>=!~+-*/%&|^".toList

/-- The length of a symbol. -/
def symbol? (cs : List Char) : Option Nat :=
  match longSymbols.find? fun symbol => startsWith symbol.toList cs with
  | some symbol => some symbol.length
  | none => if cs.head?.any shortSymbols.contains then some 1 else none

end TypedClient.Source.Lexeme
