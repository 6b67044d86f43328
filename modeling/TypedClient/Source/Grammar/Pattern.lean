/-
This file reads patterns: what a value is compared with.
-/

import TypedClient.Source.Grammar.Operand

namespace TypedClient.Source.Grammar

open Reader

/-- The words that may stand behind a pattern and name nothing in it. -/
def patternFollowers : List String :=
  connectingWords ++ ["from"]

/-- Reads the name of the value that a pattern finds. -/
def foundName : Reader Unit := do
  let found ← name
  require (!patternFollowers.contains found)

/-- Reads names in parentheses, which may be nested once. -/
def nameTuple : Reader Unit := do
  let names (reader : Reader Unit) : Reader Unit := do
    let _ ← between "(" ")" (separated reader)
  let single : Reader Unit := do
    let _ ← name
  names (either single (names single))

def constantPattern (inner : Grammar) : Reader (List Code) := do
  let first ← inner.wholeOperand false
  let rest ← many (do
    let _ ← symbolOf ["+", "-", "*", "/", "%", "&", "|", "^", "<<"]
    inner.operandIn false)
  return first :: rest

/-- Reads a part of a pattern behind the member that it is about, if it is about one. -/
def memberPattern (inner : Grammar) : Reader Code := do
  let _ ← optional (do
    let _ ← name
    let _ ← many (do
      symbol "."
      name)
    symbol ":")
  inner.pattern

def positionalPatterns (inner : Grammar) : Reader (List Code) :=
  between "(" ")" (either (separated inner.memberPattern) (pure []))

def propertyPatterns (inner : Grammar) : Reader (List Code) :=
  between "\x7b" "\x7d" (listed inner.memberPattern)

/-- Reads the parts of a pattern in the order of their kinds. -/
def structuredPattern (inner : Grammar) : Reader (List Code) := do
  let positional ← optional inner.positionalPatterns
  let properties ← optional inner.propertyPatterns
  require (positional.isSome || properties.isSome)
  let _ ← optional foundName
  return positional.getD [] ++ properties.getD []

/-- Reads a pattern that starts with a type. -/
def typedPattern (inner : Grammar) : Reader (List Code) := do
  let type ← inner.typeWithin
  require (type.text != "nameof")
  let ends : Reader (List Code) := do
    require (← next fun head => match head.kind with
      | .symbol => nullableFollowers.contains head.text || head.text == "?"
      | .word => patternFollowers.contains head.text
      | .holeEnd => true
      | _ => false)
    return []
  firstOf
    [inner.structuredPattern,
    do
      foundName
      return [],
    ends]

/-- Reads a pattern without connecting words. -/
def simplePattern (inner : Grammar) : Reader (List Code) :=
  firstOf
    [do
      word "var"
      either foundName nameTuple
      return [],
    do
      let _ ← symbolOf ["<", ">", "<=", ">="]
      inner.constantPattern,
    inner.structuredPattern,
    do
      let parts ← between "[" "]" (listed inner.pattern)
      let _ ← optional foundName
      return parts,
    do
      symbol ".."
      return (← optional inner.pattern).toList,
    inner.typedPattern,
    inner.constantPattern]

def deniedPattern (inner : Grammar) : Reader (List Code) := do
  let _ ← many (word "not")
  inner.simplePattern

def wholePattern (inner : Grammar) : Reader Code := do
  let first ← inner.deniedPattern
  let rest ← many (do
    let _ ← wordOf ["and", "or"]
    inner.deniedPattern)
  return .sequence (first ++ rest.flatten)

end TypedClient.Source.Grammar
