/-
This file reads rules from the decorations of a property.
-/

import TypedClient.Rule.Chained

namespace TypedClient

open Text

namespace Decoration

/-- The length that an unnamed argument states. -/
def length? (decoration : Decoration) (index : Nat) : Option Nat :=
  decoration.positional[index]?.bind Rule.length?

/-- A numeric bound that is written as a number or as a string with a number. -/
def bound? (text : String) : Option Binary64 :=
  (Literal.number? text).or ((Literal.string? text).bind Literal.number?)

/-- The unnamed arguments of a range, without the type that may precede its bounds. -/
def rangeArguments (decoration : Decoration) : List String :=
  decoration.positional.filter fun argument =>
    !startsWith "typeof".toList (trimStart argument.toList)

/-- Tells whether a named argument is the literal for truth. -/
def isSet (decoration : Decoration) (name : String) : Bool :=
  ((decoration.named? name).bind Literal.bool?).getD false

def rangeRules (typeName property : String) (decoration : Decoration) : List Rule :=
  let bounds := decoration.rangeArguments
  match bounds[0]?.bind bound?, bounds[1]?.bind bound? with
  | some least, some greatest =>
    [Rule.bound typeName property .minimum least !decoration.isSet "MinimumIsExclusive",
      Rule.bound typeName property .maximum greatest !decoration.isSet "MaximumIsExclusive"]
  | _, _ => []

/-- The rules that one decoration demands, without its message. -/
def plainRules (typeName property : String) (decoration : Decoration) : List Rule :=
  let oneLength (kind : RuleKind) (length : Option Nat) : List Rule :=
    (length.map (Rule.length typeName property kind)).toList
  match decoration.name with
  | "Required" => [Rule.flag typeName property .required]
  | "StringLength" =>
    oneLength .minLength ((decoration.named? "MinimumLength").bind Rule.length?) ++
      oneLength .maxLength (decoration.length? 0)
  | "MinLength" => oneLength .minLength (decoration.length? 0)
  | "MaxLength" => oneLength .maxLength (decoration.length? 0)
  | "Length" =>
    match decoration.length? 0, decoration.length? 1 with
    | some least, some greatest => Rule.lengths typeName property least greatest
    | _, _ => []
  | "Range" => decoration.rangeRules typeName property
  | "EmailAddress" => [Rule.flag typeName property .email]
  | "RegularExpression" =>
    ((decoration.positional[0]?.bind Literal.string?).map fun pattern =>
      { typeName, property, kind := .pattern, value := .text pattern : Rule }).toList
  | _ => []

def rules (typeName property : String) (decoration : Decoration) : List Rule :=
  match (decoration.named? "ErrorMessage").bind Literal.string? with
  | some message =>
    (decoration.plainRules typeName property).map fun rule =>
      { rule with message := some message }
  | none => decoration.plainRules typeName property

end Decoration

def Rule.ofDecorations (typeName property : String) (decorations : List Decoration) : List Rule :=
  decorations.flatMap (Decoration.rules typeName property)

end TypedClient
