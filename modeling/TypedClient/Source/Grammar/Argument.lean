/-
This file reads the names, arguments and initializers inside an expression.
-/

import TypedClient.Source.Grammar.Parameter

namespace TypedClient.Source.Grammar

open Reader

/-- The symbols that show that angle brackets before them held type arguments. -/
def applicationFollowers : List String :=
  ["(", ")", "]", "\x7d", ":", ";", ",", ".", "?", "==", "!=", "|", "^", "&&", "||", "&", "[",
    ">"]

/-- Reads the name of a member. Angle brackets hold type arguments only if a symbol follows that
cannot start an operand. -/
def memberName (inner : Grammar) : Reader AppliedName := do
  let name ← name
  let arguments ← optional (do
    let arguments ← inner.typeArguments
    require (← next fun head => head.kind == .holeEnd ||
      (head.kind == .symbol && applicationFollowers.contains head.text))
    return arguments)
  return applied (name, arguments)

def declaredArgument (inner : Grammar) : Reader Code := do
  let start ← here
  let _ ← inner.typeWithin
  let _ ← name
  require (← next fun head => head.kind == .symbol && [",", ")", "]"].contains head.text)
  compound start []

def label : Reader Unit := do
  let _ ← name
  symbol ":"

def argument (inner : Grammar) : Reader Code := do
  let start ← here
  let _ ← optional label
  let _ ← optional (wordOf ["ref", "out", "in"])
  let value ← either inner.declaredArgument inner.expression
  return .argument (← textFrom start) value

/-- Reads arguments between two symbols. -/
def arguments (inner : Grammar) (opening closing : String) : Reader (List Code) :=
  between opening closing (either (separated inner.argument) (pure []))

def initializer (inner : Grammar) : Reader (List Code) :=
  between "\x7b" "\x7d" (listed inner.expression)

/-- Reads the members of an object that is made from names and values. -/
def memberValues (inner : Grammar) : Reader (List Code) :=
  between "\x7b" "\x7d" (listed (do
    let _ ← optional (do
      let _ ← name
      symbol "=")
    inner.expression))

def arrayLengths (inner : Grammar) : Reader (List Code) := do
  let ranks ← many (between "[" "]" (do
    let first ← optional inner.expression
    let rest ← many (do
      symbol ","
      optional inner.expression)
    return (first :: rest).filterMap id))
  return ranks.flatten

def initializerIfAny (inner : Grammar) : Reader (List Code) :=
  either inner.initializer (pure [])

/-- Reads what is made behind the word for making. -/
def creation (inner : Grammar) : Reader (List Code) :=
  firstOf
    [inner.memberValues,
    do
      let arguments ← inner.arguments "(" ")"
      return arguments ++ (← inner.initializerIfAny),
    do
      let _ ← between "[" "]" (many (symbol ","))
      inner.initializer,
    do
      let _ ← inner.typeOf
      let arguments ← either (inner.arguments "(" ")") (pure [])
      let lengths ← inner.arrayLengths
      return arguments ++ lengths ++ (← inner.initializerIfAny)]

/-- Reads a string with holes. -/
def interpolated (inner : Grammar) : Reader (List Code) := do
  let _ ← token (·.kind == .quoteStart)
  let holes ← many (do
    let _ ← token (·.kind == .holeStart)
    let value ← inner.expression
    let width ← optional (do
      symbol ","
      inner.expression)
    let _ ← token (·.kind == .holeEnd)
    return value :: width.toList)
  let _ ← token (·.kind == .quoteEnd)
  return holes.flatten

end TypedClient.Source.Grammar
