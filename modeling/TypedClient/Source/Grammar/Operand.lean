/-
This file reads operands: what stands between two operators, with the operators at its ends.
-/

import TypedClient.Source.Grammar.Argument
import TypedClient.Source.Grammar.Query

namespace TypedClient.Source.Grammar

open Reader

/-- Reads the body of a function: statements in braces or an expression. -/
def functionBody (inner : Grammar) : Reader Code := do
  if (← next (·.isSymbol "\x7b")) then inner.statement else inner.expression

/-- Reads a function with an arrow. -/
def function (inner : Grammar) : Reader Code := do
  let start ← here
  let head ← inner.decorated
  let plain : Reader Parameters := do
    let _ ← name
    symbol "=>"
    return {}
  let listed : Reader Parameters := do
    let parameters ← inner.parameterList true
    symbol "=>"
    return parameters
  let typed : Reader Parameters := do
    let _ ← inner.typeWithin
    listed
  let header := firstOf [plain, listed, typed]
  let marked : Reader (List String × Parameters) := do
    let first ← wordOf ["async", "static"]
    let rest ← many (wordOf ["async", "static"])
    return (first :: rest, ← header)
  let (modifiers, parameters) ← either marked (do return ([], ← header))
  let body ← inner.functionBody
  return .function (← textFrom start) modifiers head.decorations parameters.parameters
    (head.code ++ parameters.code) body

/-- Reads a function without an arrow. -/
def delegate (inner : Grammar) : Reader (List Code) := do
  let _ ← many (wordOf ["async", "static"])
  word "delegate"
  let parameters ← either (inner.parameterList true) (pure {})
  require (← next (·.isSymbol "\x7b"))
  return parameters.code ++ [← inner.statement]

/-- Reads an expression in parentheses, or a tuple. -/
def parenthesized (inner : Grammar) : Reader Code := do
  let start ← here
  let parts ← between "(" ")" (separated inner.argument)
  let text ← textFrom start
  match parts with
  | [.argument written value] =>
    if written == value.text then return .enclosed text value else return .compound text parts
  | _ => return .compound text parts

/-- Reads a name that stands for itself. -/
def nameAlone (inner : Grammar) : Reader Code := do
  let start ← here
  let _ ← optional (do
    let _ ← name
    symbol "::")
  let applied ← inner.memberName
  return .named (← textFrom start) applied

/-- Reads an operand that starts with a word for it. -/
def wordOperand (inner : Grammar) : Reader (List Code) := do
  let text ← wordOf ["new", "typeof", "sizeof", "default", "checked", "unchecked", "stackalloc",
    "this", "base", "true", "false", "null"]
  match text with
  | "new" => inner.creation
  | "typeof" | "sizeof" =>
    let _ ← between "(" ")" inner.typeOf
    return []
  | "default" =>
    let _ ← optional (between "(" ")" inner.typeOf)
    return []
  | "checked" | "unchecked" => return [← between "(" ")" inner.expression]
  | "stackalloc" => inner.creation
  | _ => return []

/-- Reads an operand without operators. -/
def primary (allowsFunctions : Bool) (inner : Grammar) : Reader Code := do
  let start ← here
  let parts (reader : Reader (List Code)) : Reader Code := do compound start (← reader)
  let functions := if allowsFunctions then [inner.function, parts inner.delegate] else []
  let simple : List (Reader Code) :=
    [parts (do
      let _ ← token (·.kind == .literal)
      return []),
    parts inner.interpolated,
    inner.parenthesized,
    parts (between "[" "]" (listed inner.expression)),
    parts inner.initializer,
    parts inner.query,
    parts inner.wordOperand,
    inner.nameAlone,
    parts (do
      let _ ← predefinedType
      return [])]
  firstOf (functions ++ simple)

def choiceCase (inner : Grammar) : Reader Code := do
  let pattern ← inner.pattern
  let guard ← optional (do
    word "when"
    inner.expressionIn false)
  symbol "=>"
  return .sequence (pattern :: guard.toList ++ [← inner.expression])

/-- Reads what extends an operand at its end. -/
def operandSuffix (inner : Grammar) (start : Nat) (code : Code) : Reader Code :=
  firstOf
    [do
      let _ ← symbolOf [".", "->"]
      let name ← inner.memberName
      return .access (← textFrom start) code name,
    do
      let arguments ← inner.arguments "(" ")"
      return .call (← textFrom start) code arguments,
    do
      let places ← inner.arguments "[" "]"
      compound start (code :: places),
    do
      let _ ← symbolOf ["++", "--", "!"]
      compound start [code],
    do
      word "switch"
      let cases ← between "\x7b" "\x7d" (listed inner.choiceCase)
      compound start (code :: cases),
    do
      word "with"
      let values ← inner.memberValues
      compound start (code :: values)]

/-- The words that stand between expressions and start none. -/
def connectingWords : List String :=
  ["is", "as", "switch", "with", "and", "or", "when", "in", "select", "where", "orderby", "group",
    "let", "join", "into", "on", "equals", "by", "ascending", "descending", "else"]

/-- Tells whether a token behind a type in parentheses starts the operand of a conversion. -/
def startsConverted (isPredefined : Bool) (head : Token) : Bool :=
  match head.kind with
  | .literal | .quoteStart => true
  | .word => !connectingWords.contains head.text
  | .symbol =>
    ["(", "!", "~"].contains head.text ||
      (isPredefined && ["+", "-", "++", "--", "&", "*", "^"].contains head.text)
  | _ => false

def conversion (allowsFunctions : Bool) (inner : Grammar) : Reader Code := do
  let start ← here
  let type ← between "(" ")" inner.typeOf
  let isPredefined := Token.predefinedTypes.any fun word => Text.startsWith word.toList type.text.toList
  require (← next (startsConverted isPredefined))
  compound start [← inner.operandIn allowsFunctions]

/-- Reads an operand; `allowsFunctions` as for the expressions nested in it. -/
def wholeOperand (allowsFunctions : Bool) (inner : Grammar) : Reader Code := do
  let start ← here
  firstOf
    [do
      let _ ← symbolOf ["+", "-", "!", "~", "&", "*", "^", "++", "--"]
      compound start [← inner.operandIn allowsFunctions],
    do
      symbol ".."
      compound start (← optional (inner.operandIn allowsFunctions)).toList,
    do
      word "await"
      let awaited ← inner.operandIn allowsFunctions
      return .enclosed (← textFrom start) awaited,
    do
      let _ ← wordOf ["throw", "ref"]
      compound start [← inner.expressionIn allowsFunctions],
    inner.conversion allowsFunctions,
    do
      let first ← inner.primary allowsFunctions
      extend (inner.operandSuffix start) first]

end TypedClient.Source.Grammar
