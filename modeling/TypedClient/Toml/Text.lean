/-
This file reads the parts of a TOML document that are not values: blanks, comments, line ends, and
the texts in quotes. A reader takes what it reads from the front and leaves the rest.
-/

import TypedClient.Text.Hexadecimal

namespace TypedClient.Toml

/-- Tells whether a character is a blank within a line. -/
def isBlank (c : Char) : Bool :=
  c == ' ' || c == '\t'

/-- Tells whether a character may stand for itself in a text or a comment: all but the control
characters other than the tab. -/
def isPlain (c : Char) : Bool :=
  c == '\t' || (c.toNat ≥ 32 && c.toNat != 127)

/-- The rest behind blanks. -/
def skipBlanks (input : List Char) : List Char :=
  input.dropWhile isBlank

def skipComment : List Char → List Char
  | '#' :: rest => rest.dropWhile isPlain
  | input => input

def lineEnd? : List Char → Option (List Char)
  | '\n' :: rest => some rest
  | '\r' :: '\n' :: rest => some rest
  | _ => none

/-- The rest behind blanks, a comment, and the end of the line or of the input. -/
def restOfLine? (input : List Char) : Option (List Char) :=
  match skipComment (skipBlanks input) with
  | [] => some []
  | rest => lineEnd? rest

/-- The rest behind blanks, comments and line ends, in at most the given number of steps. -/
def skipLinesFrom : Nat → List Char → List Char
  | 0, input => input
  | steps + 1, input =>
    let rest := skipComment (skipBlanks input)
    match lineEnd? rest with
    | some behind => skipLinesFrom steps behind
    | none => rest

/-- The rest behind blanks, comments and line ends. -/
def skipLines (input : List Char) : List Char :=
  skipLinesFrom input.length input

/-- The character that a letter behind a backslash stands for. -/
def escaped? : Char → Option Char
  | 'b' => some (Char.ofNat 8)
  | 't' => some '\t'
  | 'n' => some '\n'
  | 'f' => some (Char.ofNat 12)
  | 'r' => some '\r'
  | '"' => some '"'
  | '\\' => some '\\'
  | _ => none

def coded? (digits : List Char) : Option Char :=
  (Text.numberTo? 16 digits).bind fun code =>
    if code.isValidChar then some (Char.ofNat code) else none

def addFront (c : Option Char) (read : Option (List Char × List Char)) :
    Option (List Char × List Char) :=
  c.bind fun char => read.map fun parts => (char :: parts.1, parts.2)

/-- Reads a text up to a double quote, with escapes, on one line. -/
def quoted? : List Char → Option (List Char × List Char)
  | [] => none
  | '"' :: rest => some ([], rest)
  | '\\' :: 'u' :: a :: b :: c :: d :: rest => addFront (coded? [a, b, c, d]) (quoted? rest)
  | '\\' :: 'U' :: a :: b :: c :: d :: e :: f :: g :: h :: rest =>
    addFront (coded? [a, b, c, d, e, f, g, h]) (quoted? rest)
  | '\\' :: c :: rest => addFront (escaped? c) (quoted? rest)
  | c :: rest => if isPlain c then addFront (some c) (quoted? rest) else none

/-- Reads a text up to a single quote, without escapes, on one line. -/
def literal? : List Char → Option (List Char × List Char)
  | [] => none
  | '\'' :: rest => some ([], rest)
  | c :: rest => if isPlain c then addFront (some c) (literal? rest) else none

/-- Three quotes close a text; up to two more quotes in front of them belong to it. -/
def closing (quote : Char) : List Char → List Char × List Char
  | first :: second :: rest =>
    if first == quote && second == quote then ([quote, quote], rest)
    else if first == quote then ([quote], second :: rest)
    else ([], first :: second :: rest)
  | [only] => if only == quote then ([quote], []) else ([], [only])
  | [] => ([], [])

/-- Where a reader of lines stands. -/
inductive LinePlace
  /-- Within the text. -/
  | within
  /-- Behind a backslash, with only blanks up to the end of the line. -/
  | beforeBreak
  /-- Behind a line end that a backslash hides, with only blanks since. -/
  | afterBreak
  deriving DecidableEq, Repr

/-- Reads a text of several lines up to three double quotes, with escapes. A backslash at the end of
a line hides the blanks and line ends that follow it. -/
def quotedLines? : LinePlace → List Char → Option (List Char × List Char)
  | _, [] => none
  | .beforeBreak, '\n' :: rest => quotedLines? .afterBreak rest
  | .beforeBreak, '\r' :: '\n' :: rest => quotedLines? .afterBreak rest
  | .beforeBreak, c :: rest => if isBlank c then quotedLines? .beforeBreak rest else none
  | .afterBreak, '\n' :: rest => quotedLines? .afterBreak rest
  | .afterBreak, '\r' :: '\n' :: rest => quotedLines? .afterBreak rest
  | .afterBreak, ' ' :: rest => quotedLines? .afterBreak rest
  | .afterBreak, '\t' :: rest => quotedLines? .afterBreak rest
  | _, '"' :: '"' :: '"' :: rest => some (closing '"' rest)
  | _, '\r' :: '\n' :: rest => addFront (some '\n') (quotedLines? .within rest)
  | _, '\n' :: rest => addFront (some '\n') (quotedLines? .within rest)
  | _, '\\' :: 'u' :: a :: b :: c :: d :: rest =>
    addFront (coded? [a, b, c, d]) (quotedLines? .within rest)
  | _, '\\' :: 'U' :: a :: b :: c :: d :: e :: f :: g :: h :: rest =>
    addFront (coded? [a, b, c, d, e, f, g, h]) (quotedLines? .within rest)
  | _, '\\' :: '\n' :: rest => quotedLines? .afterBreak rest
  | _, '\\' :: '\r' :: '\n' :: rest => quotedLines? .afterBreak rest
  | _, '\\' :: c :: rest =>
    if isBlank c then quotedLines? .beforeBreak rest
    else addFront (escaped? c) (quotedLines? .within rest)
  | _, c :: rest => if isPlain c then addFront (some c) (quotedLines? .within rest) else none

/-- Reads a text of several lines up to three single quotes, without escapes. -/
def literalLines? : List Char → Option (List Char × List Char)
  | [] => none
  | '\'' :: '\'' :: '\'' :: rest => some (closing '\'' rest)
  | '\r' :: '\n' :: rest => addFront (some '\n') (literalLines? rest)
  | '\n' :: rest => addFront (some '\n') (literalLines? rest)
  | c :: rest => if isPlain c then addFront (some c) (literalLines? rest) else none

/-- The rest behind a line end, if there is one: the first line end of a text of several lines does
not belong to it. -/
def skipFirstBreak (input : List Char) : List Char :=
  (lineEnd? input).getD input

def lineText? : List Char → Option (List Char × List Char)
  | '"' :: rest => quoted? rest
  | '\'' :: rest => literal? rest
  | _ => none

def text? : List Char → Option (List Char × List Char)
  | '"' :: '"' :: '"' :: rest => quotedLines? .within (skipFirstBreak rest)
  | '\'' :: '\'' :: '\'' :: rest => literalLines? (skipFirstBreak rest)
  | input => lineText? input

/-- Tells whether a character may stand in a key without quotes. -/
def isKeyChar (c : Char) : Bool :=
  c.isAlphanum || c == '_' || c == '-'

/-- Reads a part of a key: a text in quotes, or a row of key characters. -/
def keyPart? (input : List Char) : Option (String × List Char) :=
  match lineText? input with
  | some (chars, rest) => some (String.ofList chars, rest)
  | none =>
    let word := input.takeWhile isKeyChar
    if word.isEmpty then none else some (String.ofList word, input.dropWhile isKeyChar)

/-- The number of parts that a key has to stay below. -/
def keyLimit : Nat := 80

/-- Reads a key: parts between points, with blanks around each of them. At most `limit` more parts
are read. -/
def keyParts? : Nat → List Char → Option (List String × List Char)
  | 0, _ => none
  | limit + 1, input => do
    let (part, rest) ← keyPart? (skipBlanks input)
    match skipBlanks rest with
    | '.' :: behind =>
      let (parts, final) ← keyParts? limit behind
      some (part :: parts, final)
    | behind => some ([part], behind)

def key? (input : List Char) : Option (List String × List Char) :=
  keyParts? (keyLimit - 1) input

end TypedClient.Toml
