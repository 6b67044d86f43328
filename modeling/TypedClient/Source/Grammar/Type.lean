/-
This file reads names and types.
-/

import TypedClient.Source.Grammar.Basic
import TypedClient.SourceType.Display

namespace TypedClient.Source.Grammar

open Reader

def displayed (text : String) : WrittenType :=
  ⟨text, SourceType.ofDisplay text⟩

/-- Reads a type between comments; a comment inside a list counts as an element of it. -/
def commented (reader : Reader WrittenType) : Reader (List WrittenType) := do
  let before ← comments
  let type ← reader
  let behind ← comments
  return before.map displayed ++ [type] ++ behind.map displayed

/-- Reads type arguments in angle brackets; an open type has only the commas between them. -/
def typeArguments (inner : Grammar) : Reader (List WrittenType) :=
  between "<" ">" (either
    (do return (← separated (commented inner.type)).flatten)
    (do
      let _ ← many (symbol ",")
      return []))

/-- Reads a name and the type arguments behind it. -/
def segment (inner : Grammar) : Reader (String × Option (List WrittenType)) := do
  let name ← name
  return (name, ← optional inner.typeArguments)

def applied (segment : String × Option (List WrittenType)) : AppliedName :=
  ⟨segment.1, (segment.2.getD []).map WrittenType.text⟩

/-- Reads a name that may be qualified, as a type and as its last part. -/
def qualifiedName (inner : Grammar) : Reader (WrittenType × AppliedName) := do
  let start ← here
  let aliasName ← optional (do
    let _ ← name
    symbol "::")
  let first ← inner.segment
  let rest ← many (do
    symbol "."
    inner.segment)
  let text ← textFrom start
  let type := match aliasName, rest, first.2 with
    | none, [], none => SourceType.reference text
    | none, [], some arguments =>
      SourceType.generic first.1 (arguments.map WrittenType.type)
    | _, _, _ => SourceType.ofDisplay text
  return (⟨text, type⟩, applied (rest.getLastD first))

/-- Reads a type that the language itself defines. -/
def predefinedType : Reader WrittenType := do
  let text ← wordOf Token.predefinedTypes
  return ⟨text, SourceType.reference text⟩

/-- Reads the type of a tuple, whose elements may have names. -/
def tupleType (inner : Grammar) : Reader WrittenType := do
  let (elements, text) ← withText (between "(" ")" (separated (do
    let type ← inner.type
    let _ ← optional name
    return type.type)))
  require (elements.length ≥ 2)
  return ⟨text, SourceType.tuple elements⟩

def functionPointer (inner : Grammar) : Reader WrittenType := do
  let (_, text) ← withText (do
    word "delegate"
    symbol "*"
    let _ ← optional (wordOf ["managed", "unmanaged"])
    let _ ← optional (between "[" "]" (separated name))
    inner.typeArguments)
  return displayed text

/-- The symbols that may stand behind the mark of a nullable type where an expression may go on. -/
def nullableFollowers : List String :=
  [")", ";", ",", "]", "\x7d", ":", "??", "==", "!=", "&&", "||", "=>", "=", ">"]

/-- Reads one suffix of a type. With `isCareful` a question mark belongs to the type only where it
cannot be an operator. -/
def typeSuffix (isCareful : Bool) (start : Nat) (base : WrittenType) : Reader WrittenType :=
  firstOf
    [do
      symbol "?"
      let ends ← next fun head => head.kind == .holeEnd ||
        (head.kind == .symbol && nullableFollowers.contains head.text)
      require (!isCareful || ends)
      return ⟨← textFrom start, base.type.nullable⟩,
    do
      symbol "*"
      return displayed (← textFrom start),
    do
      let _ ← between "[" "]" (many (symbol ","))
      return ⟨← textFrom start, SourceType.array base.type⟩]

def valueType (isCareful : Bool) (inner : Grammar) : Reader WrittenType := do
  let start ← here
  let base ← firstOf [predefinedType, inner.tupleType, inner.functionPointer,
    do return (← inner.qualifiedName).1]
  extend (typeSuffix isCareful start) base

/-- Reads a type; `isCareful` as for its suffixes. -/
def typeIn (isCareful : Bool) (inner : Grammar) : Reader WrittenType :=
  firstOf
    [do
      let (_, text) ← withText (do
        word "ref"
        let _ ← optional (word "readonly")
        valueType isCareful inner)
      return displayed text,
    do
      let (_, text) ← withText (do
        word "scoped"
        valueType isCareful inner)
      return displayed text,
    valueType isCareful inner]

/-- Reads a type where nothing but a type can stand. -/
def typeOf (inner : Grammar) : Reader WrittenType :=
  typeIn false inner

def typeWithin (inner : Grammar) : Reader WrittenType :=
  typeIn true inner

end TypedClient.Source.Grammar
