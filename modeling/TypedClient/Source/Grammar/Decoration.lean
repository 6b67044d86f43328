/-
This file reads the decorations of a declaration.
-/

import TypedClient.Source.Grammar.Type
import TypedClient.Source.Lexeme

namespace TypedClient.Source.Grammar

open Reader

def valueBehind? (mark : Char) (stops : List Char) : List Char → Option (List Char)
  | c :: value => if c == mark && !value.head?.any stops.contains then some value else none
  | [] => none

/-- An argument from its text: a name stands before an equals sign or a colon. -/
def argumentOfText (text : String) : DecorationArgument :=
  let cs := Text.trim text.toList
  let name := cs.takeWhile Lexeme.continuesName
  let rest := Text.trimStart (cs.drop name.length)
  let value := (valueBehind? '=' ['=', '>'] rest).or (valueBehind? ':' [':'] rest)
  match name.head?.any Lexeme.startsName, value with
  | true, some value => ⟨some (String.ofList name), String.ofList (Text.trim value)⟩
  | _, _ => ⟨none, String.ofList cs⟩

/-- The name of a decoration without the usual ending. -/
def decorationName (name : String) : String :=
  match Text.beforeEnd? "Attribute" name with
  | some short => if short.isEmpty then name else short
  | none => name

/-- Decorations and the code in their arguments. -/
structure Decorated where
  decorations : List Decoration := []
  code : List Code := []

def decorationArgument (inner : Grammar) : Reader (DecorationArgument × Code) := do
  let (code, text) ← withText (do
    let _ ← optional (do
      let _ ← name
      symbol ":")
    inner.expression)
  return (argumentOfText text, code)

def decoration (inner : Grammar) : Reader Decorated := do
  let (_, name) ← inner.qualifiedName
  let arguments ← optional (between "(" ")" (listed inner.decorationArgument))
  let arguments := arguments.getD []
  return ⟨[⟨decorationName name.name, name.typeArguments, arguments.map Prod.fst⟩],
    arguments.map Prod.snd⟩

/-- Reads the name of what a list of decorations is meant for. -/
def decorationTarget : Reader Unit := do
  let _ ← token fun head => head.kind == .word
  symbol ":"

/-- Puts decorations one after another. -/
def joinDecorated (several : List Decorated) : Decorated :=
  ⟨several.flatMap Decorated.decorations, several.flatMap Decorated.code⟩

/-- Reads decorations in brackets. -/
def decorationList (inner : Grammar) : Reader Decorated :=
  between "[" "]" do
    let _ ← optional decorationTarget
    let first ← inner.decoration
    let rest ← many (do
      symbol ","
      inner.decoration)
    let _ ← optional (symbol ",")
    return joinDecorated (first :: rest)

def decorated (inner : Grammar) : Reader Decorated := do
  return joinDecorated (← many inner.decorationList)

end TypedClient.Source.Grammar
