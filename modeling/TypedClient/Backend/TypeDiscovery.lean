/-
This file finds the types of a source file that belong to the contract.
-/

import TypedClient.Backend.Model
import TypedClient.Literal.Basic
import TypedClient.Text.Words

namespace TypedClient.TypeDiscovery

/-- The endings of the names of types that belong to the contract by their name. -/
def contractEndings : List String :=
  ["Request", "Response", "Command", "Query", "Dto", "DTO", "ViewModel", "Model"]

/-- Tells whether a name ends in one of some endings. -/
def hasEnding (endings : List String) (name : String) : Bool :=
  endings.any fun ending => Text.endsWith ending.toList name.toList

/-- Tells whether a type belongs to the contract by its name. -/
def isContractName (name : String) : Bool :=
  hasEnding contractEndings name

/-- The bases of containers that serve the backend itself. -/
def plumbingBases : List String :=
  ["AbstractValidator", "ControllerBase", "Controller", "DbContext", "Hub"]

/-- The endings of the names of containers that serve the backend itself. -/
def plumbingEndings : List String :=
  ["Controller", "Endpoints", "Validator", "Handler"]

/-- Tells whether a container holds data and does not serve the backend itself. -/
def isDataShape (container : Container) : Bool :=
  container.kind != .interfaceKind && !container.modifiers.contains "static" &&
    !(container.bases.any fun base => plumbingBases.contains base.name) &&
    !hasEnding plumbingEndings container.name

/-- The name of a property in a request: the one that a decoration states, or the camel case of
its name. -/
def wireName (decorations : List Decoration) (name : String) : String :=
  (((Decoration.find? decorations "JsonPropertyName").bind fun decoration =>
    decoration.positional.head?).bind Literal.string?).getD (Text.lowerCamel name)

/-- The property for a parameter in the header of a record. -/
def positionalProperty (parameter : MethodParameter) : SourceProperty :=
  { name := parameter.name
    wireName := wireName parameter.decorations parameter.name
    type := parameter.type
    isNullable := parameter.type.isNullable
    isRequired := (!parameter.type.isNullable && !parameter.hasDefault) ||
      Decoration.has parameter.decorations "Required"
    decorations := parameter.decorations }

def declaredProperty (property : DeclaredProperty) : SourceProperty :=
  { name := property.name
    wireName := wireName property.decorations property.name
    type := property.type
    isNullable := property.type.isNullable
    isRequired := property.modifiers.contains "required" ||
      Decoration.has property.decorations "Required"
    decorations := property.decorations
    summary := property.summary }

/-- Tells whether a declared property is part of the data. -/
def isDataProperty (property : DeclaredProperty) : Bool :=
  property.modifiers.contains "public" && !property.modifiers.contains "static"

/-- The properties of a container that are part of the data. -/
def properties (container : Container) : List SourceProperty :=
  (container.recordParameters.map positionalProperty ++
    (container.properties.filter isDataProperty).map declaredProperty).filter fun property =>
      !Decoration.has property.decorations "JsonIgnore"

def definition (container : Container) : SourceType :=
  SourceType.definition container.name container.scope
    (container.typeParameters.map SourceType.reference) (properties container)
    container.summary

/-- The types of a source file. -/
structure DiscoveredTypes where
  /-- The enumerations, and the types that belong to the contract by their names. -/
  included : List SourceType
  /-- The other types with properties. -/
  unlisted : List SourceType
  deriving Repr, Inhabited

def discover (file : SourceModel) : DiscoveredTypes :=
  let shapes := file.containers.filter isDataShape
  { included := file.enums ++
      (shapes.filter fun container => isContractName container.name).map definition
    unlisted :=
      ((shapes.filter fun container => !isContractName container.name).map definition).filter
        fun type => !type.properties.isEmpty }

end TypedClient.TypeDiscovery
