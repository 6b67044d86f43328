/-
This file reads constant integer expressions, as they stand behind the members of an enumeration,
and computes their values in 64-bit arithmetic.
-/

import TypedClient.Literal.Basic

namespace TypedClient

open Literal

/-- A binary operator on integers. -/
inductive ConstantOperator
  | bitOr | bitXor | bitAnd | shiftLeft | shiftRight | add | subtract | multiply
  deriving DecidableEq, Repr, Inhabited

namespace ConstantOperator

/-- How strongly the operator binds; all of them bind to the left. -/
def strength : ConstantOperator → Nat
  | bitOr => 1
  | bitXor => 2
  | bitAnd => 3
  | shiftLeft => 4
  | shiftRight => 4
  | add => 5
  | subtract => 5
  | multiply => 6

/-- Applies a bitwise operation to the 64 bits of two integers. -/
def bitwise (operation : BitVec 64 → BitVec 64 → BitVec 64) (left right : Int) : Int :=
  (operation (BitVec.ofInt 64 left) (BitVec.ofInt 64 right)).toInt

/-- Applies the operator. Sums, differences and products outside the range have no value, nor has
a shift by an amount outside 0 to 63. -/
def apply (operator : ConstantOperator) (left right : Int) : Option Int :=
  match operator with
  | bitOr => some (bitwise (· ||| ·) left right)
  | bitXor => some (bitwise (· ^^^ ·) left right)
  | bitAnd => some (bitwise (· &&& ·) left right)
  | shiftLeft => shiftLeft? left right
  | shiftRight => shiftRight? left right
  | add => inInt64? (left + right)
  | subtract => inInt64? (left - right)
  | multiply => inInt64? (left * right)

end ConstantOperator

/-- A constant integer expression. -/
inductive Constant
  | number (value : Int)
  | name (text : String)
  | negate (operand : Constant)
  | complement (operand : Constant)
  | binary (operator : ConstantOperator) (left right : Constant)
  deriving Repr, Inhabited

namespace Constant

/-- The value of an expression in which a name stands for what `lookup` knows. -/
def value? (lookup : String → Option Int) : Constant → Option Int
  | number value => some value
  | name text => lookup text
  | negate operand => (operand.value? lookup).bind fun value => inInt64? (-value)
  | complement operand => (operand.value? lookup).map fun value => -value - 1
  | binary operator left right => do
    let leftValue ← left.value? lookup
    let rightValue ← right.value? lookup
    operator.apply leftValue rightValue

/-- A lexical unit of a constant expression. -/
inductive Token
  | number (value : Int)
  | name (text : String)
  | operator (operator : ConstantOperator)
  | tilde
  | opening
  | closing
  deriving DecidableEq, Repr

/-- Tells whether a character is a letter or digit of ASCII. -/
def isPlain (c : Char) : Bool :=
  c.isAlpha || c.isDigit

/-- Tells whether a character may continue a name. -/
def continuesName (c : Char) : Bool :=
  isPlain c || c == '_' || c == '.' || c == '@'

/-- Tells whether a character is a blank of ASCII, the vertical tab apart. -/
def isSpace (c : Char) : Bool :=
  c == ' ' || c == '\t' || c == '\n' || c == '\r' || c == '\x0c'

/-- Reads a number of an expression: binary behind `0b`, or an integer literal. -/
def integerToken? (cs : List Char) : Option Int :=
  match cs with
  | '0' :: 'b' :: bits => integerIn? 2 (bits.filter (· != '_'))
  | '0' :: 'B' :: bits => integerIn? 2 (bits.filter (· != '_'))
  | _ => integerChars? cs

/-- The operator or bracket in front of a text, and the text behind it. -/
def symbol? : List Char → Option (Token × List Char)
  | '<' :: '<' :: rest => some (.operator .shiftLeft, rest)
  | '>' :: '>' :: rest => some (.operator .shiftRight, rest)
  | '|' :: rest => some (.operator .bitOr, rest)
  | '^' :: rest => some (.operator .bitXor, rest)
  | '&' :: rest => some (.operator .bitAnd, rest)
  | '+' :: rest => some (.operator .add, rest)
  | '-' :: rest => some (.operator .subtract, rest)
  | '*' :: rest => some (.operator .multiply, rest)
  | '~' :: rest => some (.tilde, rest)
  | '(' :: rest => some (.opening, rest)
  | ')' :: rest => some (.closing, rest)
  | _ => none

/-- The lexical units of a text of at most `steps` characters. -/
def tokensWithin? : Nat → List Char → Option (List Token)
  | _, [] => some []
  | 0, _ :: _ => none
  | steps + 1, c :: rest =>
    if isSpace c then tokensWithin? steps rest
    else if c.isDigit then do
      let value ← integerToken? (c :: rest.takeWhile fun d => isPlain d || d == '_')
      let others ← tokensWithin? steps (rest.dropWhile fun d => isPlain d || d == '_')
      some (.number value :: others)
    else if c.isAlpha || c == '_' || c == '@' then do
      let others ← tokensWithin? steps (rest.dropWhile continuesName)
      some (.name (String.ofList (c :: rest.takeWhile continuesName)) :: others)
    else do
      let (token, behind) ← symbol? (c :: rest)
      let others ← tokensWithin? steps behind
      some (token :: others)

/-- Tells whether the units behind an opening bracket make it a cast: a name, the closing bracket,
and the beginning of an operand that no binary operator could continue. -/
def isCast : List Token → Bool
  | .name _ :: .closing :: .number _ :: _ => true
  | .name _ :: .closing :: .name _ :: _ => true
  | .name _ :: .closing :: .opening :: _ => true
  | .name _ :: .closing :: .tilde :: _ => true
  | _ => false

mutual

/-- Reads an operand with its unary operators, brackets and casts. -/
def operand? : Nat → List Token → Option (Constant × List Token)
  | 0, _ => none
  | steps + 1, tokens =>
    match tokens with
    | .number value :: rest => some (.number value, rest)
    | .name text :: rest => some (.name text, rest)
    | .operator .subtract :: rest =>
      (operand? steps rest).map fun parsed => (.negate parsed.1, parsed.2)
    | .operator .add :: rest => operand? steps rest
    | .tilde :: rest => (operand? steps rest).map fun parsed => (.complement parsed.1, parsed.2)
    | .opening :: rest =>
      if isCast rest then operand? steps (rest.drop 2)
      else match expression? steps 1 rest with
        | some (inside, .closing :: behind) => some (inside, behind)
        | _ => none
    | _ => none

/-- Reads an expression whose operators bind at least as strongly as `least`. -/
def expression? : Nat → Nat → List Token → Option (Constant × List Token)
  | 0, _, _ => none
  | steps + 1, least, tokens =>
    (operand? steps tokens).bind fun parsed => continue? steps least parsed.1 parsed.2

/-- Reads the operators and operands that may follow a left operand. -/
def continue? : Nat → Nat → Constant → List Token → Option (Constant × List Token)
  | 0, _, _, _ => none
  | steps + 1, least, left, tokens =>
    match tokens with
    | .operator operator :: rest =>
      if operator.strength < least then some (left, tokens)
      else (expression? steps (operator.strength + 1) rest).bind fun parsed =>
        continue? steps least (.binary operator left parsed.1) parsed.2
    | _ => some (left, tokens)

end

/-- Reads an expression that takes up all of the given units. -/
def ofTokens? (tokens : List Token) : Option Constant :=
  match expression? (4 * tokens.length + 4) 1 tokens with
  | some (constant, []) => some constant
  | _ => none

/-- Reads a constant expression. -/
def ofChars? (text : List Char) : Option Constant :=
  (tokensWithin? text.length text).bind ofTokens?

/-- The value of the constant expression that a text holds. -/
def evaluate? (lookup : String → Option Int) (text : String) : Option Int :=
  (ofChars? text.toList).bind (value? lookup)

end Constant

end TypedClient
