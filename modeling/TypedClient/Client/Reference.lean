/-
This file finds the names that the text of a client type refers to.
-/

import TypedClient.Client.Type

namespace TypedClient.Reference

open Text

/-- The names that the language itself declares. -/
def builtinNames : List String :=
  ["string", "number", "boolean", "bigint", "any", "unknown", "void", "never", "null",
    "undefined", "object", "Date", "Blob", "File", "FormData", "Record", "Map", "Set", "Array",
    "ReadonlyArray", "Promise", "Partial"]

/-- Tells whether a character may begin a name. -/
def startsName (c : Char) : Bool :=
  c.isAlpha || c == '_'

/-- Tells whether a text is a name of ASCII letters, digits and underscores. -/
def isName : List Char → Bool
  | [] => false
  | c :: rest => startsName c && (c :: rest).all fun d => startsName d || d.isDigit

/-- What a type text is made of. -/
inductive Shape
  | empty
  /-- Several texts that the type is made of. -/
  | parts (texts : List (List Char))
  /-- A text that cannot be taken apart. -/
  | atom (text : List Char)

def inside? (opening closing : Char) (cs : List Char) : Option (List Char) :=
  (dropStart? [opening] cs).bind (dropEnd? [closing])

/-- Takes a type text apart at its outermost level: a union, an array, parentheses, a tuple or a
generic application. -/
def shape (text : List Char) : Shape :=
  let expression := Brackets.balancedStart (trim text)
  if expression.isEmpty then .empty
  else if Brackets.isUnion expression then .parts (Brackets.unionMembers expression)
  else match dropEnd? ['[', ']'] expression with
    | some element => .parts [element]
    | none =>
      match inside? '(' ')' expression with
      | some inner => .parts [inner]
      | none =>
        match inside? '[' ']' expression with
        | some elements => .parts (Brackets.arguments elements)
        | none =>
          match Brackets.application? expression with
          | some (base, arguments) => .parts (base :: Brackets.arguments arguments)
          | none => .atom expression

/-- The names in a type text of at most the given nesting, with repetitions. -/
def namesWithin : Nat → List Char → List String
  | 0, _ => []
  | depth + 1, text =>
    match shape text with
    | .empty => []
    | .parts texts => texts.flatMap (namesWithin depth)
    | .atom expression =>
      if isName expression && !builtinNames.contains (String.ofList expression) then
        [String.ofList expression]
      else []

/-- The names that a type text refers to, each once, in the order of their first occurrence. -/
def names (text : String) : List String :=
  (namesWithin (text.length + 1) text.toList).eraseDups

end TypedClient.Reference
