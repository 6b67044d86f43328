/-
This file cuts a source text into tokens. A string with holes gives a token for each of its ends
and for each end of a hole, with the tokens of the hole between them.
-/

import TypedClient.Source.Lexeme
import TypedClient.Source.Token

namespace TypedClient.Source

/-- How a string with holes is delimited. -/
structure QuoteForm where
  /-- The number of quotes at each end. -/
  quotes : Nat := 1
  /-- The number of braces at each end of a hole. -/
  braces : Nat := 1
  /-- Whether a quote inside is doubled. -/
  isVerbatim : Bool := false
  deriving DecidableEq, Repr, Inhabited

/-- Tells whether a quote, a brace and a backslash inside stand for themselves. -/
def QuoteForm.isRaw (form : QuoteForm) : Bool :=
  form.quotes ≥ 3

/-- The form and the length of the start of a string with holes. -/
def QuoteForm.start? (cs : List Char) : Option (QuoteForm × Nat) :=
  let marks := Lexeme.run (· == '$') cs
  match marks, cs.drop marks with
  | 0, '@' :: '$' :: '"' :: _ => some ({ isVerbatim := true }, 3)
  | 0, _ => none
  | 1, '@' :: '"' :: _ => some ({ isVerbatim := true }, 3)
  | _, behind =>
    let quotes := Lexeme.run (· == '"') behind
    if quotes ≥ 3 then some ({ quotes, braces := marks }, marks + quotes)
    else if quotes ≥ 1 && marks == 1 then some ({}, 2)
    else none

/-- Where a text is read: in the text of a string or in code, and inside which holes. Each hole,
the innermost first, comes with the number of brackets that are open in it. -/
structure Place where
  quote : Option QuoteForm := none
  holes : List (QuoteForm × Nat) := []
  deriving Repr, Inhabited

/-- What stands at the head of a text. -/
inductive Piece
  | blank (length : Nat)
  | gap (length : Nat) (gap : Gap)
  | token (length : Nat) (kind : TokenKind) (text : String) (next : Place)
  | unknown
  deriving Repr, Inhabited

namespace Piece

/-- What stands at the head of the text of a string. -/
def ofQuote (form : QuoteForm) (holes : List (QuoteForm × Nat)) (cs : List Char) : Piece :=
  let quotes := Lexeme.run (· == '"') cs
  let braces := Lexeme.run (· == '{') cs
  let ends (length : Nat) : Piece := token length .quoteEnd "\"" { holes }
  let opens (length : Nat) : Piece := token length .holeStart "\x7b" { holes := (form, 0) :: holes }
  if form.isRaw then
    if quotes ≥ form.quotes then ends quotes
    else if braces ≥ form.braces then opens braces
    else blank 1
  else if form.isVerbatim && quotes ≥ 2 then blank 2
  else if quotes ≥ 1 then ends 1
  else if braces ≥ 2 then blank 2
  else if braces == 1 then opens 1
  else match form.isVerbatim, cs with
    | false, '\\' :: _ => blank 2
    | false, '\n' :: _ => unknown
    | _, _ => blank 1

/-- The directives that declarations do not depend on. -/
def plainDirectives : List String :=
  ["region", "endregion", "line", "pragma", "nullable", "error", "warning", "define", "undef"]

def conditionDirectives : List String :=
  ["if", "elif", "else", "endif"]

/-- The directive at the head of a text that starts with a number sign. -/
def ofDirective (place : Place) (cs : List Char) : Piece :=
  let name := ((cs.drop 1).dropWhile Text.isBlank).takeWhile Lexeme.continuesName
  let word := String.ofList name
  if plainDirectives.contains word then gap (Lexeme.line cs) .directive
  else if conditionDirectives.contains word then
    token (Lexeme.line cs) .condition word place
  else unknown

/-- The holes after a symbol has opened or closed a bracket. -/
def holesAfter (symbol : Option Char) (holes : List (QuoteForm × Nat)) : List (QuoteForm × Nat) :=
  match symbol, holes with
  | some c, (form, depth) :: outer =>
    if "([\x7b".toList.contains c then (form, depth + 1) :: outer
    else if ")]\x7d".toList.contains c then (form, depth - 1) :: outer
    else holes
  | _, _ => holes

/-- The symbol at the head of a text. A hole ends at a brace that closes no bracket of its own; a
colon in front of that starts the format of the hole, which is part of its end. -/
def ofSymbol (holes : List (QuoteForm × Nat)) (cs : List Char) : Piece :=
  match holes, Lexeme.symbol? cs with
  | _, none => unknown
  | [], some length => token length .symbol (String.ofList (cs.take length)) {}
  | (form, depth) :: outer, some length =>
    let ends := depth == 0 && length == 1 &&
      (cs.head? == some '}' || cs.head? == some ':')
    if ends then
      let format := Lexeme.run (· != '}') cs
      token (format + form.braces) .holeEnd "\x7d" ⟨some form, outer⟩
    else
      token length .symbol (String.ofList (cs.take length))
        { holes := holesAfter (if length == 1 then cs.head? else none) ((form, depth) :: outer) }

/-- What stands at the head of code. -/
def ofCode (holes : List (QuoteForm × Nat)) (cs : List Char) : Piece :=
  let word (length : Nat) (kind : TokenKind) : Piece :=
    token length kind (String.ofList (cs.take length)) { holes }
  let comment (length : Nat) : Piece := gap length (.comment (String.ofList (cs.take length)))
  match cs with
  | '/' :: '/' :: _ => comment (Lexeme.line cs)
  | '/' :: '*' :: rest => match Lexeme.comment? rest with
    | some length => comment (length + 2)
    | none => unknown
  | '#' :: _ => ofDirective { holes } cs
  | _ =>
    if cs.head?.any Lexeme.isSeparator then blank (Lexeme.run Lexeme.isSeparator cs)
    else match QuoteForm.start? cs, Lexeme.string? cs, Lexeme.word? cs with
      | some (form, length), _, _ => token length .quoteStart "\"" ⟨some form, holes⟩
      | none, some length, _ => word length .literal
      | none, none, some length => word length .word
      | none, none, none =>
        let startsNumber := Lexeme.startsDigit cs ||
          (cs.head? == some '.' && Lexeme.startsDigit (cs.drop 1))
        if startsNumber then word (Lexeme.number cs) .literal else ofSymbol holes cs

/-- What stands at the head of a text at a place. -/
def ofPlace (place : Place) (cs : List Char) : Piece :=
  match place.quote with
  | some form => ofQuote form place.holes cs
  | none => ofCode place.holes cs

end Piece

/-- The tokens of a text from an offset on, read in at most as many steps as `steps`. The error is
the offset at which nothing known stands. -/
def scan : (steps : Nat) → Place → List Gap → Nat → List Char → Except Nat (List Token)
  | 0, _, _, offset, _ => .error offset
  | steps + 1, place, gaps, offset, cs =>
    if cs.isEmpty then
      if place.quote.isNone && place.holes.isEmpty then .ok [] else .error offset
    else match Piece.ofPlace place cs with
      | .blank length => scan steps place gaps (offset + length) (cs.drop length)
      | .gap length found => scan steps place (gaps ++ [found]) (offset + length) (cs.drop length)
      | .token length kind text next => do
        let rest ← scan steps next [] (offset + length) (cs.drop length)
        .ok ({ kind, text, start := offset, stop := offset + length, gaps } :: rest)
      | .unknown => .error offset

/-- The tokens of a text, or the offset at which nothing known stands. -/
def tokens (cs : List Char) : Except Nat (List Token) :=
  scan (cs.length + 1) {} [] 0 cs

end TypedClient.Source
