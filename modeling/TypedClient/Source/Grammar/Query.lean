/-
This file reads queries: expressions that run over the elements of a source.
-/

import TypedClient.Source.Grammar.Parameter

namespace TypedClient.Source.Grammar

open Reader

/-- Reads a variable, perhaps with its type, and the source that it runs over. -/
def querySource (inner : Grammar) : Reader (List Code) := do
  let bare : Reader Unit := do
    let _ ← name
    word "in"
  let typed : Reader Unit := do
    let _ ← inner.typeOf
    bare
  either bare typed
  return [← inner.expression]

def queryClause (inner : Grammar) : Reader (List Code) := do
  let text ← wordOf ["from", "let", "where", "join", "orderby", "select", "group", "into"]
  match text with
  | "from" => inner.querySource
  | "let" =>
    let _ ← name
    symbol "="
    return [← inner.expression]
  | "join" =>
    let source ← inner.querySource
    word "on"
    let left ← inner.expression
    word "equals"
    let right ← inner.expression
    return source ++ [left, right]
  | "orderby" =>
    separated (do
      let key ← inner.expression
      let _ ← optional (wordOf ["ascending", "descending"])
      return key)
  | "group" =>
    let element ← inner.expression
    word "by"
    return [element, ← inner.expression]
  | "into" =>
    let _ ← name
    return []
  | _ => return [← inner.expression]

def query (inner : Grammar) : Reader (List Code) := do
  word "from"
  let source ← inner.querySource
  let clauses ← many inner.queryClause
  require (!clauses.isEmpty)
  return source ++ clauses.flatten

end TypedClient.Source.Grammar
