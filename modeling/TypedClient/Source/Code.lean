/-
This file defines code: the expressions and statements of a body, as far as the calls in it
depend on them.
-/

import TypedClient.Backend.Model

namespace TypedClient.Source

/-- A name and the texts of the type arguments behind it. -/
structure AppliedName where
  name : String
  typeArguments : List String := []
  deriving DecidableEq, Repr, Inhabited

/-- A piece of code. An expression has the text in which it is written. -/
inductive Code
  /-- A call. -/
  | call (text : String) (function : Code) (arguments : List Code)
  /-- A member of a receiver. -/
  | access (text : String) (receiver : Code) (name : AppliedName)
  /-- A name that stands for itself. -/
  | named (text : String) (name : AppliedName)
  /-- An awaited expression or one in parentheses. -/
  | enclosed (text : String) (inner : Code)
  /-- An assignment or a declarator; the target is the text that the parts are assigned to. -/
  | binding (text : String) (target : Option String) (parts : List Code)
  /-- A function argument with the decorations and parameters in its header. -/
  | function (text : String) (modifiers : List String) (decorations : List Decoration)
      (parameters : List MethodParameter) (header : List Code) (body : Code)
  /-- An argument of a call. -/
  | argument (text : String) (value : Code)
  /-- Any other expression. -/
  | compound (text : String) (parts : List Code)
  /-- Code that is no expression. -/
  | sequence (parts : List Code)
  deriving Repr, Inhabited

namespace Code

/-- The text of an expression. -/
def text : Code → String
  | call text _ _ => text
  | access text _ _ => text
  | named text _ => text
  | enclosed text _ => text
  | binding text _ _ => text
  | function text _ _ _ _ _ => text
  | argument text _ => text
  | compound text _ => text
  | sequence _ => ""

/-- The part of a name behind its last dot or double colon. -/
def simpleName (text : String) : String :=
  Text.afterLast '.' (afterColons (Text.trimmed text))
where
  /-- The part of a text behind the last double colon. -/
  afterColons (text : String) : String :=
    match Text.cutFirst? [':', ':'] text.toList.reverse with
    | some (behind, _) => String.ofList behind.reverse
    | none => text

/-- The name by which a call of a function goes. -/
def calledName : Code → AppliedName
  | access _ _ name => name
  | named _ name => name
  | code => ⟨simpleName code.text, []⟩

end Code

end TypedClient.Source
