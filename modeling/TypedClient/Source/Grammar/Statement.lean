/-
This file reads statements.
-/

import TypedClient.Source.Grammar.Expression
import TypedClient.Source.Grammar.Pattern

namespace TypedClient.Source.Grammar

open Reader

/-- Reads statements in braces. -/
def block (inner : Grammar) : Reader Code := do
  return .sequence (← between "\x7b" "\x7d" (many inner.statement))

/-- Reads the end of a statement. -/
def stop : Reader Unit :=
  symbol ";"

def condition (inner : Grammar) : Reader Code :=
  between "(" ")" inner.expression

/-- Reads a declarator: a name with or without a value, or names in parentheses with one. -/
def declarator (inner : Grammar) : Reader Code := do
  let start ← here
  let value : Reader Code := do
    symbol "="
    inner.expression
  let single : Reader (Option String × List Code) := do
    let name ← name
    let _ ← optional (inner.arguments "[" "]")
    return (some name, (← optional value).toList)
  let several : Reader (Option String × List Code) := do
    nameTuple
    return (none, [← value])
  let (target, parts) ← either single several
  return .binding (← textFrom start) target parts

def variableDeclaration (inner : Grammar) : Reader (List Code) := do
  require (!(← next (·.isWord "await")))
  let _ ← inner.typeOf
  separated inner.declarator

/-- Reads the body of a function or the end of a declaration without one. -/
def body (inner : Grammar) : Reader (List Code) :=
  firstOf
    [do return [← inner.block],
    do
      symbol "=>"
      let value ← inner.expression
      stop
      return [.sequence [value]],
    do
      stop
      return []]

/-- Reads the parameters of a type or a function that is declared for several types. -/
def typeParameters (inner : Grammar) : Reader (List String) :=
  between "<" ">" (separated (do
    let _ ← inner.decorated
    let _ ← optional (wordOf ["in", "out"])
    name))

/-- Reads the conditions on one parameter of a declaration for several types. -/
def constraint (inner : Grammar) : Reader Unit := do
  word "where"
  let _ ← name
  symbol ":"
  let kind : Reader Unit := do
    let _ ← wordOf ["class", "struct", "default"]
    let _ ← optional (symbol "?")
  let made : Reader Unit := do
    word "new"
    symbol "("
    symbol ")"
  let allowed : Reader Unit := do
    word "allows"
    word "ref"
    word "struct"
  let type : Reader Unit := do
    let _ ← inner.typeOf
  let _ ← separated (firstOf [kind, made, allowed, type])

/-- The words that are modifiers wherever they stand. -/
def reservedModifiers : List String :=
  ["abstract", "const", "extern", "fixed", "internal", "new", "override", "private", "protected",
    "public", "readonly", "sealed", "static", "unsafe", "virtual", "volatile"]

/-- The words that are modifiers where a declaration goes on behind them. -/
def possibleModifiers : List String :=
  ["async", "file", "partial", "required"]

/-- Reads a word that is a modifier because a type or a keyword follows. -/
def possibleModifier : Reader String := do
  let text ← wordOf possibleModifiers
  let second ← peek
  let third ← peekSecond
  let endsMember := third.any fun head =>
    head.kind == .symbol && [";", "=", "\x7b", ",", "=>", "("].contains head.text
  require (second.any fun head =>
    (head.kind == .word && !(head.isName && endsMember)) || head.isSymbol "(")
  return text

def modifiers : Reader (List String) :=
  many (either (wordOf reservedModifiers) possibleModifier)

/-- Reads a function inside a body. -/
def localFunction (inner : Grammar) : Reader Code := do
  let head ← inner.decorated
  let _ ← modifiers
  require (!(← next (·.isWord "await")))
  let _ ← inner.typeOf
  let _ ← name
  let _ ← optional inner.typeParameters
  let parameters ← inner.parameterList false
  let _ ← many inner.constraint
  return .sequence (head.code ++ parameters.code ++ (← inner.body))

/-- Reads what is in the header of a loop that counts. -/
def countingHeader (inner : Grammar) : Reader (List Code) :=
  between "(" ")" (do
    let several : Reader (List Code) := either (separated inner.expression) (pure [])
    let first ← either
      (do
        let declared ← inner.variableDeclaration
        stop
        return declared)
      (do
        let first ← several
        stop
        return first)
    let test ← optional inner.expression
    stop
    return first ++ test.toList ++ (← several))

/-- Reads what is in the header of a loop over a source. -/
def sourceHeader (inner : Grammar) : Reader (List Code) :=
  between "(" ")" (do
    let declared : Reader (List Code) := do
      let _ ← inner.typeOf
      let single : Reader Unit := do
        let _ ← name
      either single nameTuple
      word "in"
      return []
    let assigned : Reader (List Code) := do
      let target ← inner.expression
      word "in"
      return [target]
    let target ← either declared assigned
    return target ++ [← inner.expression])

def caseLabel (inner : Grammar) : Reader Code :=
  either
    (do
      word "case"
      let pattern ← inner.pattern
      let guard ← optional (do
        word "when"
        inner.expression)
      symbol ":"
      return .sequence (pattern :: guard.toList))
    (do
      word "default"
      symbol ":"
      return .sequence [])

/-- Reads what happens after a failure. -/
def failureClause (inner : Grammar) : Reader Code := do
  word "catch"
  let _ ← optional (between "(" ")" (do
    let _ ← inner.typeOf
    optional name))
  let filter ← optional (do
    word "when"
    inner.condition)
  return .sequence (filter.toList ++ [← inner.block])

/-- Reads the variables or the expression in the header of a statement. -/
def resource (inner : Grammar) : Reader (List Code) :=
  either
    (between "(" ")" inner.variableDeclaration)
    (do return [← inner.condition])

/-- Reads a statement behind the word that it starts with. -/
def statementOf (inner : Grammar) (text : String) : Reader (List Code) := do
  match text with
  | "if" =>
    let test ← inner.condition
    let first ← inner.statement
    let second ← optional (do
      word "else"
      inner.statement)
    return [test, first] ++ second.toList
  | "while" =>
    let test ← inner.condition
    return [test, ← inner.statement]
  | "do" =>
    let repeated ← inner.statement
    word "while"
    let test ← inner.condition
    stop
    return [repeated, test]
  | "for" =>
    let header ← inner.countingHeader
    return header ++ [← inner.statement]
  | "foreach" =>
    let header ← inner.sourceHeader
    return header ++ [← inner.statement]
  | "switch" =>
    let value ← inner.parenthesized
    let cases ← between "\x7b" "\x7d" (many (either inner.caseLabel inner.statement))
    return value :: cases
  | "try" =>
    let tried ← inner.block
    let clauses ← many inner.failureClause
    let last ← optional (do
      word "finally"
      inner.block)
    return tried :: clauses ++ last.toList
  | "return" | "throw" =>
    let value ← optional inner.expression
    stop
    return value.toList
  | "break" | "continue" =>
    stop
    return []
  | "goto" =>
    let _ ← optional (wordOf ["case", "default"])
    let value ← optional inner.expression
    stop
    return value.toList
  | "lock" =>
    let value ← inner.condition
    return [value, ← inner.statement]
  | "using" | "fixed" =>
    let holding : Reader (List Code) := do
      let held ← inner.resource
      return held ++ [← inner.statement]
    either holding (do
      let declared ← inner.variableDeclaration
      stop
      return declared)
  | _ => return [← inner.block]

def statementWords : List String :=
  ["if", "while", "do", "for", "foreach", "switch", "try", "return", "throw", "break", "continue",
    "goto", "lock", "using", "fixed", "checked", "unchecked", "unsafe"]

def awaitedStatement (inner : Grammar) : Reader (List Code) := do
  word "await"
  inner.statementOf (← wordOf ["foreach", "using"])

/-- Reads a statement that gives the next element of a sequence. -/
def yieldStatement (inner : Grammar) : Reader (List Code) := do
  word "yield"
  inner.statementOf (← wordOf ["return", "break"])

/-- Reads code with a condition on the way in which the file is read. -/
def conditionalPart {Value : Type} (inner : Reader Value) : Reader (List Value) := do
  let _ ← token fun head => head.kind == .condition && head.text == "if"
  let values ← many (either (do return [← inner]) (do
    let _ ← token fun head => head.kind == .condition && ["elif", "else"].contains head.text
    return []))
  let _ ← token fun head => head.kind == .condition && head.text == "endif"
  return values.flatten

def wholeStatement (inner : Grammar) : Reader Code := do
  let parts (reader : Reader (List Code)) : Reader Code := do return .sequence (← reader)
  firstOf
    [inner.block,
    parts (do
      stop
      return []),
    parts (conditionalPart inner.statement),
    parts (do inner.statementOf (← wordOf statementWords)),
    parts inner.awaitedStatement,
    parts inner.yieldStatement,
    parts (do
      let _ ← modifiers
      let declared ← inner.variableDeclaration
      stop
      return declared),
    inner.localFunction,
    parts (do
      let _ ← name
      symbol ":"
      return [← inner.statement]),
    parts (do
      let value ← wholeExpression true inner
      stop
      return [value])]

end TypedClient.Source.Grammar
