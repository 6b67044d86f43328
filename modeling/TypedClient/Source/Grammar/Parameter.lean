/-
This file reads parameters.
-/

import TypedClient.Source.Grammar.Decoration

namespace TypedClient.Source.Grammar

open Reader

/-- Parameters and the code in their headers. -/
structure Parameters where
  parameters : List MethodParameter := []
  code : List Code := []

/-- The words that may stand before the type of a parameter. -/
def parameterModifiers : List String :=
  ["this", "ref", "out", "in", "readonly", "scoped"]

/-- Reads a word before the type of a parameter. A word that can be a name is one unless another
word follows. -/
def parameterModifier (allowed : List String) : Reader String := do
  let text ← wordOf allowed
  if text == "scoped" then
    require (← next fun head => head.kind == .word)
  return text

def defaultValue (inner : Grammar) : Reader Code := do
  symbol "="
  inner.expression

/-- Reads a parameter. A parameter for all remaining arguments is left out. In the header of a
function argument the type may be missing, and a reference is part of the type. -/
def parameter (inner : Grammar) (isFunction : Bool) : Reader Parameters := do
  let head ← inner.decorated
  let allowed := if isFunction then ["out", "in"] else parameterModifiers
  let modifiers ← many (parameterModifier allowed)
  if (← next (·.isWord "params")) then
    word "params"
    let _ ← optional (word "scoped")
    let _ ← inner.typeOf
    let _ ← name
    return ⟨[], head.code⟩
  else
    let typed : Reader (SourceType × String) := do
      let type ← inner.typeOf
      return (type.type, ← name)
    let untyped : Reader (SourceType × String) := do
      require isFunction
      return (SourceType.reference "object", ← name)
    let (type, name) ← either typed untyped
    let value ← optional inner.defaultValue
    let isReceiver := modifiers.contains "this" || value.any fun code => code.text == "this"
    return ⟨[⟨name, type, head.decorations, isReceiver, value.isSome⟩],
      head.code ++ value.toList⟩

def parameters (inner : Grammar) (isFunction : Bool) : Reader Parameters := do
  let several ← either (separated (inner.parameter isFunction)) (pure [])
  return ⟨several.flatMap Parameters.parameters, several.flatMap Parameters.code⟩

def parameterList (inner : Grammar) (isFunction : Bool) : Reader Parameters :=
  between "(" ")" (inner.parameters isFunction)

end TypedClient.Source.Grammar
