/-
This file defines readers: functions that take a value from the front of a list of tokens.
-/

import TypedClient.Source.Token

namespace TypedClient.Source

/-- The tokens that are still to be read. -/
structure Cursor where
  source : Array Char
  tokens : List Token
  /-- The number of tokens. -/
  left : Nat
  /-- The offset behind the token that was read last. -/
  stop : Nat := 0
  /-- The greatest offset at which a reader has failed so far. -/
  reach : Nat := 0

/-- The offset at which the next token starts. -/
def Cursor.start (cursor : Cursor) : Nat :=
  match cursor.tokens with
  | token :: _ => token.start
  | [] => cursor.source.size

/-- A function that takes a value from the front of the tokens, or fails at an offset. -/
def Reader (Value : Type) : Type :=
  Cursor → Except Nat (Value × Cursor)

namespace Reader

variable {Value Result : Type}

/-- Fails at the next token. -/
def fail : Reader Value :=
  fun cursor => .error (max cursor.start cursor.reach)

instance : Monad Reader where
  pure value := fun cursor => .ok (value, cursor)
  bind reader next := fun cursor =>
    match reader cursor with
    | .ok (value, rest) => next value rest
    | .error offset => .error offset

instance : Inhabited (Reader Value) where
  default := fail

def either (first second : Reader Value) : Reader Value :=
  fun cursor =>
    match first cursor with
    | .ok found => .ok found
    | .error offset => second { cursor with reach := max offset cursor.reach }

def firstOf : List (Reader Value) → Reader Value
  | [] => fail
  | reader :: rest => either reader (firstOf rest)

def optional (reader : Reader Value) : Reader (Option Value) :=
  either (do return some (← reader)) (pure none)

/-- The next token, which stays. -/
def peek : Reader (Option Token) :=
  fun cursor => .ok (cursor.tokens.head?, cursor)

/-- The token behind the next one. -/
def peekSecond : Reader (Option Token) :=
  fun cursor => .ok (cursor.tokens[1]?, cursor)

/-- Tells whether the next token satisfies a test. -/
def next (test : Token → Bool) : Reader Bool := do
  return (← peek).any test

/-- Fails unless a condition holds. -/
def require (condition : Bool) : Reader Unit :=
  if condition then pure () else fail

/-- Reads a token that satisfies a test. -/
def token (test : Token → Bool) : Reader Token :=
  fun cursor =>
    match cursor.tokens with
    | head :: rest =>
      if test head then
        .ok (head, { cursor with tokens := rest, left := cursor.left - 1, stop := head.stop })
      else fail cursor
    | [] => fail cursor

def symbol (text : String) : Reader Unit := do
  let _ ← token (·.isSymbol text)

def symbolOf (texts : List String) : Reader String := do
  return (← token fun head => head.kind == .symbol && texts.contains head.text).text

def word (text : String) : Reader Unit := do
  let _ ← token (·.isWord text)

def wordOf (texts : List String) : Reader String := do
  return (← token fun head => head.kind == .word && texts.contains head.text).text

def name : Reader String := do
  return (← token Token.isName).text

/-- Reads values as long as there are any, at most as many as `count`. -/
def atMost : (count : Nat) → Reader Value → Reader (List Value)
  | 0, _ => pure []
  | count + 1, reader => fun cursor =>
    match reader cursor with
    | .error offset => .ok ([], { cursor with reach := max offset cursor.reach })
    | .ok (value, rest) =>
      if rest.left < cursor.left then
        (do return value :: (← atMost count reader)) rest
      else .ok ([], cursor)

def many (reader : Reader Value) : Reader (List Value) :=
  fun cursor => atMost cursor.left reader cursor

/-- Extends a value by what follows it as long as something does, at most `count` times. -/
def extendAtMost : (count : Nat) → (Value → Reader Value) → Value → Reader Value
  | 0, _, value => pure value
  | count + 1, extension, value => do
    match ← optional (extension value) with
    | some longer => extendAtMost count extension longer
    | none => return value

/-- Extends a value by what follows it as long as something does. -/
def extend (extension : Value → Reader Value) (value : Value) : Reader Value :=
  fun cursor => extendAtMost cursor.left extension value cursor

/-- Reads at least one value, with commas between them. -/
def separated (reader : Reader Value) : Reader (List Value) := do
  let first ← reader
  let rest ← many (do
    symbol ","
    reader)
  return first :: rest

/-- Reads values with commas between them, and a comma behind the last if there is one. -/
def listed (reader : Reader Value) : Reader (List Value) := do
  let values ← either (separated reader) (pure [])
  let _ ← optional (symbol ",")
  return values

/-- Reads what stands between two symbols. -/
def between (opening closing : String) (reader : Reader Value) : Reader Value := do
  symbol opening
  let value ← reader
  symbol closing
  return value

/-- The offset at which the next token starts. -/
def here : Reader Nat :=
  fun cursor => .ok (cursor.start, cursor)

/-- The text from an offset to the end of the token that was read last. -/
def textFrom (start : Nat) : Reader String :=
  fun cursor =>
    .ok (String.ofList (cursor.source.extract start cursor.stop).toList, cursor)

def withText (reader : Reader Value) : Reader (Value × String) := do
  let start ← here
  let value ← reader
  return (value, ← textFrom start)

/-- The comments before the next token. -/
def comments : Reader (List String) := do
  match ← peek with
  | some head => return head.gaps.filterMap fun
    | .comment text => some text
    | .directive => none
  | none => return []

/-- Fails unless all tokens have been read. -/
def finished : Reader Unit :=
  fun cursor => if cursor.tokens.isEmpty then .ok ((), cursor) else fail cursor

end Reader

end TypedClient.Source
