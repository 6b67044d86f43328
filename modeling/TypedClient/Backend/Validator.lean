/-
This file finds the rules in validator classes and in the decorations of properties.
-/

import TypedClient.Backend.Model
import TypedClient.Rule.Decorated

namespace TypedClient.Validator

def baseName : String := "AbstractValidator"

def target? (container : Container) : Option String :=
  (((container.bases.find? fun base => base.name == baseName).bind fun base =>
    base.arguments.head?)).map SourceType.name

def containerRules (container : Container) : List Rule :=
  match target? container with
  | some target => container.constructors.flatten.flatMap fun chain =>
      Rule.ofChain target chain.calls
  | none => []

def rules (file : SourceModel) : List Rule :=
  file.containers.flatMap containerRules

/-- The rules that the decorations of the properties of a type state. -/
def typeRules (type : SourceType) : List Rule :=
  if type.isEnum then []
  else type.properties.flatMap fun property =>
    Rule.ofDecorations type.name property.name property.decorations

def decorationRules (types : List SourceType) : List Rule :=
  types.flatMap typeRules

end TypedClient.Validator
