/-
This file reads declarations.
-/

import TypedClient.Source.Chain
import TypedClient.Source.Grammar.Statement
import TypedClient.Source.Summary

namespace TypedClient.Source.Grammar

open Reader

/-- What stands in front of the keyword or the type of a declaration. -/
structure Heading where
  summary : Option String := none
  decorations : List Decoration := []
  modifiers : List String := []

/-- Reads the summary in front of the next token. -/
def summary : Reader (Option String) := do
  return (← peek).bind fun head => Summary.ofGaps head.gaps

/-- Reads what stands in front of a declaration. -/
def heading (inner : Grammar) : Reader Heading := do
  let summary ← summary
  let head ← inner.decorated
  return { summary, decorations := head.decorations, modifiers := ← modifiers }

def members (inner : Grammar) : Reader (List Declaration) :=
  between "\x7b" "\x7d" (many inner.declaration)

/-- Reads a semicolon that may stand behind a closing brace. -/
def stopIfAny : Reader Unit := do
  let _ ← optional stop

/-- Reads a base of a container with the arguments for its constructor. For a record the
arguments are not part of the base; otherwise they count as a base of their own. -/
def base (inner : Grammar) (kind : ContainerKind) : Reader (List SourceType) := do
  let start ← here
  let type ← inner.typeOf
  let arguments ← optional (inner.arguments "(" ")")
  let text ← textFrom start
  let head := String.ofList (text.toList.takeWhile (· != '('))
  match arguments, kind with
  | none, _ => return [type.type]
  | some _, .recordKind => return [SourceType.ofDisplay head]
  | some _, _ => return [type.type, SourceType.ofDisplay ""]

def baseOfComment (text : String) : SourceType :=
  SourceType.ofDisplay (String.ofList (text.toList.takeWhile (· != '(')))

/-- Reads the bases of a container; a comment between them counts as one. -/
def bases (inner : Grammar) (kind : ContainerKind) : Reader (List SourceType) := do
  symbol ":"
  let commented : Reader (List SourceType) := do
    let before ← comments
    return before.map baseOfComment ++ (← inner.base kind)
  let first ← commented
  let rest ← many (do
    let behind ← comments
    symbol ","
    return behind.map baseOfComment ++ (← commented))
  return first ++ rest.flatten

/-- Reads the keyword of a container. -/
def containerKind : Reader ContainerKind :=
  firstOf
    [do
      word "class"
      return .classKind,
    do
      word "interface"
      return .interfaceKind,
    do
      let _ ← optional (word "ref")
      let _ ← optional (word "partial")
      word "struct"
      return .structKind,
    do
      word "record"
      let _ ← optional (wordOf ["class", "struct"])
      return .recordKind]

/-- Reads a container behind its modifiers. -/
def container (inner : Grammar) (heading : Heading) : Reader Declaration := do
  let kind ← containerKind
  let name ← name
  let typeParameters ← either inner.typeParameters (pure [])
  let parameters ← either (inner.parameterList false) (pure {})
  let bases ← either (inner.bases kind) (pure [])
  let _ ← many inner.constraint
  let members ← either inner.members (do
    stop
    return [])
  stopIfAny
  return .container
    { name, kind, typeParameters, bases
      decorations := heading.decorations
      modifiers := heading.modifiers
      summary := heading.summary
      recordParameters := if kind == .recordKind then parameters.parameters else [] }
    members

def enumMember (inner : Grammar) : Reader DeclaredMember := do
  let summary ← summary
  let _ ← inner.decorated
  let name ← name
  let value ← optional (do
    symbol "="
    return (← withText inner.expression).2)
  return { name, value, summary }

/-- Reads an enumeration behind its modifiers. Its conditional parts declare no member. -/
def enumeration (inner : Grammar) (heading : Heading) : Reader Declaration := do
  word "enum"
  let name ← name
  let _ ← optional (do
    symbol ":"
    inner.typeOf)
  let member : Reader DeclaredMember := do
    let member ← inner.enumMember
    let comma ← optional (symbol ",")
    let ends ← next fun head => head.isSymbol "\x7d" || head.kind == .condition
    require (comma.isSome || ends)
    return member
  let item : Reader (List DeclaredMember) := either (do return [← member]) (do
    let _ ← conditionalPart member
    let _ ← optional (symbol ",")
    return [])
  let items ← between "\x7b" "\x7d" (many item)
  stopIfAny
  return .enumeration { name, members := items.flatten, summary := heading.summary }

def scope (inner : Grammar) : Reader Declaration := do
  word "namespace"
  let (written, _) ← inner.qualifiedName
  let nested : Reader Declaration := do
    let members ← inner.members
    stopIfAny
    return .scope written.text members
  either nested (do
    stop
    return .fileScope written.text)

/-- Reads a directive that brings names into a file. -/
def usingDirective (inner : Grammar) : Reader Declaration := do
  let _ ← optional (word "global")
  word "using"
  let _ ← many (wordOf ["static", "unsafe"])
  let _ ← optional (do
    let _ ← name
    symbol "=")
  let _ ← inner.typeOf
  stop
  return .other

/-- Reads the name of a library that the file depends on. -/
def externAlias : Reader Declaration := do
  word "extern"
  word "alias"
  let _ ← name
  stop
  return .other

def freeDecorations (inner : Grammar) : Reader Declaration := do
  require (← next (·.isSymbol "["))
  require ((← peekSecond).any fun head =>
    head.kind == .word && ["assembly", "module"].contains head.text)
  let _ ← inner.decorationList
  return .other

/-- Reads the type of a function as a declaration of its own. -/
def delegateDeclaration (inner : Grammar) : Reader Declaration := do
  word "delegate"
  let _ ← inner.typeOf
  let _ ← name
  let _ ← optional inner.typeParameters
  let _ ← inner.parameterList false
  let _ ← many inner.constraint
  stop
  return .other

/-- Reads the functions that read and write a property. -/
def accessors (inner : Grammar) : Reader Unit := do
  let _ ← between "\x7b" "\x7d" (many (do
    let _ ← inner.heading
    let _ ← wordOf ["get", "set", "init", "add", "remove"]
    inner.body))

def arrowValue (inner : Grammar) : Reader Unit := do
  symbol "=>"
  let _ ← inner.expression
  stop

/-- Reads a name behind the names of the interface that it belongs to. -/
def explicitName (inner : Grammar) : Reader String := do
  let _ ← many (do
    let _ ← inner.segment
    symbol ".")
  name

def fields (inner : Grammar) : Reader Declaration := do
  let _ ← separated inner.declarator
  stop
  return .other

/-- Reads an event behind its modifiers. -/
def event (inner : Grammar) : Reader Declaration := do
  word "event"
  let _ ← inner.typeOf
  let accessed : Reader Declaration := do
    let _ ← inner.explicitName
    inner.accessors
    return .other
  either accessed inner.fields

/-- Reads the sign of an operator, its parameters and its body. -/
def operatorBehind (inner : Grammar) : Reader Declaration := do
  let _ ← inner.parameterList false
  let _ ← inner.body
  return .other

/-- Reads an operator of a type behind its modifiers. -/
def operator (inner : Grammar) : Reader Declaration := do
  let converting : Reader Unit := do
    let _ ← wordOf ["implicit", "explicit"]
    word "operator"
    let _ ← optional (word "checked")
    let _ ← inner.typeOf
  let signed : Reader Unit := do
    let _ ← inner.typeOf
    word "operator"
    let _ ← optional (word "checked")
    let _ ← many (token fun head =>
      (head.kind == .symbol && head.text != "(") || head.isWord "true" || head.isWord "false")
  either converting signed
  inner.operatorBehind

/-- Reads a constructor behind its modifiers. -/
def constructor (inner : Grammar) : Reader Declaration := do
  let _ ← name
  let _ ← inner.parameterList false
  let _ ← optional (do
    symbol ":"
    let _ ← wordOf ["this", "base"]
    inner.arguments "(" ")")
  let body ← inner.body
  return .constructor (Code.allChains none body)

/-- Reads the function that runs when an object is given up. -/
def finalizer (inner : Grammar) : Reader Declaration := do
  symbol "~"
  let _ ← name
  symbol "("
  symbol ")"
  let _ ← inner.body
  return .other

/-- Reads a property whose parameters stand in brackets. -/
def indexer (inner : Grammar) : Reader Declaration := do
  let _ ← inner.typeOf
  let _ ← many (do
    let _ ← inner.segment
    symbol ".")
  word "this"
  let _ ← between "[" "]" (inner.parameters false)
  either inner.accessors inner.arrowValue
  return .other

/-- Reads a method behind its modifiers. -/
def method (inner : Grammar) (heading : Heading) : Reader Declaration := do
  let type ← inner.typeOf
  let name ← inner.explicitName
  let _ ← optional inner.typeParameters
  let parameters ← inner.parameterList false
  let _ ← many inner.constraint
  let body ← inner.body
  return .method
    { name
      modifiers := heading.modifiers
      decorations := heading.decorations
      summary := heading.summary
      returnType := some type.type
      parameters := parameters.parameters
      chains := Code.allChains none body }

/-- Reads a property behind its modifiers. -/
def property (inner : Grammar) (heading : Heading) : Reader Declaration := do
  let type ← inner.typeOf
  let name ← inner.explicitName
  let withAccessors : Reader Unit := do
    inner.accessors
    let _ ← optional (do
      symbol "="
      let _ ← inner.expression
      stop)
  either withAccessors inner.arrowValue
  return .property
    { name
      type := type.type
      decorations := heading.decorations
      modifiers := heading.modifiers
      summary := heading.summary }

/-- Reads fields behind their modifiers. -/
def typedFields (inner : Grammar) : Reader Declaration := do
  let _ ← inner.typeOf
  inner.fields

def typeDeclaration (inner : Grammar) (heading : Heading) : Reader Declaration :=
  firstOf [inner.container heading, inner.enumeration heading, inner.delegateDeclaration]

def scopeItem (inner : Grammar) : Reader Declaration :=
  firstOf [inner.scope, inner.usingDirective, externAlias, inner.freeDecorations]

def wholeDeclaration (inner : Grammar) : Reader Declaration := do
  let conditional : Reader Declaration := do
    let _ ← conditionalPart inner.declaration
    return .other
  let headed : Reader Declaration := do
    let heading ← inner.heading
    firstOf
      [inner.typeDeclaration heading, inner.event, inner.operator, inner.finalizer,
        inner.indexer, inner.method heading, inner.property heading, inner.constructor,
        inner.typedFields]
  firstOf [conditional, inner.scopeItem, headed]

def statementAtTop (inner : Grammar) : Reader Declaration := do
  let _ ← inner.statement
  return .other

/-- Reads what stands at the top of a file: the declaration of a type or a statement, which
declares nothing. -/
def fileItem (inner : Grammar) : Reader Declaration :=
  firstOf
    [do
      let _ ← conditionalPart (either inner.declaration inner.statementAtTop)
      return .other,
    inner.scopeItem,
    do inner.typeDeclaration (← inner.heading),
    inner.statementAtTop]

end TypedClient.Source.Grammar
