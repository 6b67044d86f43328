/-
This file maps the types of the backend to types of the client: first as the user has chosen, then
by fixed names, enumerations and generic types, and at last by name.
-/

import TypedClient.Client.Type
import TypedClient.Diagnostic
import TypedClient.SourceType.Display

namespace TypedClient

/-- What a mapping of types knows besides the fixed names. -/
structure TypeMapping where
  /-- The client types that the user has chosen for names or displays. -/
  overrides : List (String × String) := []
  enums : List String := []
  /-- The names of the types that the client declares. -/
  declared : List String := []
  deriving Repr, Inhabited

namespace TypeMapping

/-- The choice of the user for a type: by its display without null marks, by its qualified name or
by its name. -/
def override? (mapping : TypeMapping) (type : SourceType) : Option String :=
  let display := String.ofList (Text.dropEndWhile (· == '?') type.display.toList)
  ((mapping.overrides.lookup display).or
    (mapping.overrides.lookup (SourceType.withScope type.scope type.name))).or
    (mapping.overrides.lookup type.name)

/-- The client type of a collection whose arguments are mapped already; arrays of bytes travel as
text. -/
def collection (type : SourceType) (mapped : List ClientType) : ClientType :=
  match type.arguments, mapped with
  | element :: _, mappedElement :: _ =>
    if type.name == "Array" && (element.name == "byte" || element.name == "Byte") then
      .builtin Builtin.stringText
    else .array mappedElement
  | _, _ => .array (.builtin Builtin.anyText)

def dictionary (key value : ClientType) : ClientType :=
  if key.text == Builtin.stringText then .record value else .map key value

/-- The successful answer among the possible answers of an operation. -/
def success? (arguments : List SourceType) (mapped : List ClientType) : Option ClientType :=
  (((arguments.zip mapped).find? fun pair => Builtin.isErasedWrapper pair.1.name).map
    Prod.snd).or mapped.head?

/-- The client type of a generic type with at least one argument. -/
def applied (type : SourceType) (mapped : List ClientType) : ClientType :=
  match mapped with
  | [] => .application type.name []
  | first :: others =>
    if Builtin.isErasedWrapper type.name then first
    else if Builtin.isOutcome type.name && others.isEmpty then .application "Result" [first]
    else if Builtin.isResultUnion type.name then (success? type.arguments mapped).getD first
    else match Builtin.isMap type.name, others with
      | true, [second] => dictionary first second
      | _, _ =>
        if Builtin.isSet type.name && others.isEmpty then .set first
        else if Builtin.isTuple type.name then .tuple mapped
        else .application type.name mapped

/-- The client type that a collection, a generic type or an answer without content has by its
form. -/
def byForm? (type : SourceType) (mapped : List ClientType) : Option ClientType :=
  if type.isCollection then some (collection type mapped)
  else if type.arguments.isEmpty then
    if Builtin.isOutcome type.name then
      some (.application "Result" [.builtin Builtin.voidText])
    else if Builtin.isEmptyResult type.name then some (.builtin Builtin.voidText)
    else none
  else some (applied type mapped)

/-- The client type of a type whose arguments are mapped already, apart from null. -/
def core (mapping : TypeMapping) (type : SourceType) (mapped : List ClientType) : ClientType :=
  match mapping.override? type with
  | some text => .chosen text
  | none =>
    match Builtin.primitive? type.name with
    | some text => .builtin text
    | none =>
      if type.isEnum || mapping.enums.contains type.name then .enumeration type.name
      else match byForm? type mapped with
        | some result => result
        | none =>
          if mapping.declared.contains type.name then .declared type.name
          else .unknown type.name type.display

def finish (mapping : TypeMapping) (type : SourceType) (mapped : List ClientType) : ClientType :=
  let result := mapping.core type mapped
  if type.isNullable then result.withNull else result

mutual

def map (mapping : TypeMapping) : SourceType → ClientType
  | ⟨name, display, scope, isGeneric, arguments, isCollection, isNullable, isEnum, members,
      properties, summary⟩ =>
    mapping.finish
      ⟨name, display, scope, isGeneric, arguments, isCollection, isNullable, isEnum, members,
        properties, summary⟩
      (mapping.mapAll arguments)

def mapAll (mapping : TypeMapping) : List SourceType → List ClientType
  | [] => []
  | type :: rest => mapping.map type :: mapping.mapAll rest

end

def mapDisplay (mapping : TypeMapping) (display : String) : ClientType :=
  mapping.map (SourceType.ofDisplay display)

/-- The information that a type goes to the client by its name alone. -/
def passedThrough (unknown : String × String) : Diagnostic :=
  { severity := .info
    message := "'" ++ unknown.2 ++ "' has no mapping rule, emitting it as a named type"
    declaration := some unknown.1 }

def reports (type : ClientType) : List Diagnostic :=
  type.unknowns.map passedThrough

end TypeMapping

end TypedClient
