/-
This file reads expressions. Operators other than conditional ones bind more tightly than an
access to a member that may be missing, so that such an access takes all operands before it.
-/

import TypedClient.Source.Grammar.Operand

namespace TypedClient.Source.Grammar

open Reader

def symbolAt (offset : Nat) (text : String) : Reader Nat := do
  return (← token fun head => head.isSymbol text && head.start == offset).stop

/-- Reads the signs of a comparison or a shift to the right. -/
def angles : Reader Unit := do
  let first ← token (·.isSymbol ">")
  let second ← optional (symbolAt first.stop ">")
  let third ← optional (symbolAt (second.getD first.stop) ">")
  let stop := third.getD (second.getD first.stop)
  require (!(← next fun head => head.isSymbol ">=" && head.start == stop))

def binaryOperator : Reader Unit :=
  either angles (do
    let _ ← symbolOf ["+", "-", "*", "/", "%", "&", "|", "^", "<<", "<", "<=", ">=", "==", "!=",
      "&&", "||", "??"])

def assignmentOperator : Reader Unit :=
  either
    (do
      let _ ← symbolOf ["=", "+=", "-=", "*=", "/=", "%=", "&=", "|=", "^=", "<<=", "??="])
    (do
      let first ← token (·.isSymbol ">")
      let second ← optional (symbolAt first.stop ">")
      let _ ← symbolAt (second.getD first.stop) ">=")

/-- Reads an operator and the operand behind it. -/
def furtherOperand (allowsFunctions : Bool) (inner : Grammar) : Reader (List Code) :=
  firstOf
    [do
      word "is"
      return [← inner.pattern],
    do
      word "as"
      let _ ← inner.typeWithin
      return [],
    do
      symbol ".."
      return (← optional (inner.operandIn allowsFunctions)).toList,
    do
      binaryOperator
      return [← inner.operandIn allowsFunctions]]

def operandsBehind (allowsFunctions : Bool) (inner : Grammar) (start : Nat) (first : Code) :
    Reader Code := do
  let rest ← many (inner.furtherOperand allowsFunctions)
  if rest.isEmpty then return first else compound start (first :: rest.flatten)

/-- Reads an access to a member that may be missing, with all that follows it. -/
def conditionalAccess (allowsFunctions : Bool) (inner : Grammar) (start : Nat) (code : Code) :
    Reader Code := do
  symbol "?"
  let member : Reader Code := do
    symbol "."
    let _ ← inner.memberName
    compound start [code]
  let element : Reader Code := do
    let places ← inner.arguments "[" "]"
    require (!(← next (·.isSymbol ":")))
    compound start (code :: places)
  let accessed ← either member element
  let whole ← extend (inner.operandSuffix start) accessed
  inner.operandsBehind allowsFunctions start whole

def casesBehind (allowsFunctions : Bool) (inner : Grammar) (start : Nat) (condition : Code) :
    Reader Code := do
  symbol "?"
  let first ← inner.expression
  symbol ":"
  let second ← inner.expressionIn allowsFunctions
  compound start [condition, first, second]

/-- Reads the value that is assigned to an expression. -/
def valueBehind (allowsFunctions : Bool) (inner : Grammar) (start : Nat) (target : Code) :
    Reader Code := do
  assignmentOperator
  let value ← inner.expressionIn allowsFunctions
  return .binding (← textFrom start) (some target.text) [target, value]

/-- Reads an expression; `allowsFunctions` as for those nested in it. -/
def wholeExpression (allowsFunctions : Bool) (inner : Grammar) : Reader Code := do
  let start ← here
  let first ← inner.wholeOperand allowsFunctions
  let operands ← inner.operandsBehind allowsFunctions start first
  let accessed ← extend (inner.conditionalAccess allowsFunctions start) operands
  let chosen ← either (inner.casesBehind allowsFunctions start accessed) (pure accessed)
  either (inner.valueBehind allowsFunctions start chosen) (pure chosen)

end TypedClient.Source.Grammar
