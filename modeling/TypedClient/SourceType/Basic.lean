/-
This file defines the types of the backend: references to types and the definitions of types.
-/

import TypedClient.Decoration
import TypedClient.SourceType.Brackets

namespace TypedClient

/-- A member of an enumeration with its value. -/
structure EnumMember where
  name : String
  value : Int
  summary : Option String := none
  deriving DecidableEq, Repr, Inhabited

/-- A property whose type is of the kind `Content`. -/
structure PropertyOf (Content : Type) where
  name : String
  wireName : String
  type : Content
  isNullable : Bool
  isRequired : Bool
  decorations : List Decoration := []
  summary : Option String := none
  deriving Repr, Inhabited

/-- A reference to a type, or its definition where it has properties or members. -/
structure SourceType where
  /-- The name without qualifier and arguments. -/
  name : String
  /-- The text as it is written in the backend, with qualifier and arguments. -/
  display : String
  scope : Option String := none
  isGeneric : Bool := false
  arguments : List SourceType := []
  isCollection : Bool := false
  isNullable : Bool := false
  isEnum : Bool := false
  members : List EnumMember := []
  properties : List (PropertyOf SourceType) := []
  summary : Option String := none
  deriving Repr, Inhabited

abbrev SourceProperty := PropertyOf SourceType

namespace SourceType

/-- The names of generic types that hold a sequence of elements. -/
def collectionNames : List String :=
  ["Array", "List", "IList", "IEnumerable", "ICollection", "IReadOnlyList", "IReadOnlyCollection",
    "Collection", "ReadOnlyCollection", "ImmutableArray", "ImmutableList", "IImmutableList",
    "IAsyncEnumerable", "IQueryable", "LinkedList", "Queue", "Stack"]

/-- Drops every `global::` in front. -/
def dropGlobal (cs : List Char) : List Char :=
  go cs.length cs
where
  /-- Drops at most as many qualifiers as there are characters. -/
  go : Nat → List Char → List Char
    | 0, rest => rest
    | steps + 1, rest =>
      match Text.dropStart? "global::".toList rest with
      | some behind => go steps behind
      | none => rest

/-- A plain reference by a name that may be qualified. -/
def reference (name : String) : SourceType :=
  let full := dropGlobal (Text.trim name.toList)
  let (qualifier, simple) := Brackets.qualified full
  { name := String.ofList simple
    display := String.ofList full
    scope := qualifier.map String.ofList
    isCollection := collectionNames.contains (String.ofList simple) }

def displayList (types : List SourceType) : String :=
  ", ".intercalate (types.map SourceType.display)

def generic (name : String) (arguments : List SourceType) : SourceType :=
  let base := reference name
  { base with
    display := base.display ++ "<" ++ displayList arguments ++ ">"
    isGeneric := !arguments.isEmpty
    arguments }

def array (element : SourceType) : SourceType :=
  { name := "Array"
    display := element.display ++ "[]"
    isGeneric := true
    arguments := [element]
    isCollection := true }

def tuple (elements : List SourceType) : SourceType :=
  { generic "ValueTuple" elements with display := "(" ++ displayList elements ++ ")" }

def nullable (type : SourceType) : SourceType :=
  if type.isNullable then type
  else { type with display := type.display ++ "?", isNullable := true }

def asEnum (type : SourceType) : SourceType :=
  { type with isEnum := true, properties := [] }

/-- A display behind the scope that it is declared in. -/
def withScope (scope : Option String) (display : String) : String :=
  match scope with
  | some outer => outer ++ "." ++ display
  | none => display

def definition (name : String) (scope : Option String) (parameters : List SourceType)
    (properties : List SourceProperty) (summary : Option String) : SourceType :=
  let base := if parameters.isEmpty then reference name else generic name parameters
  { base with display := withScope scope base.display, scope, properties, summary }

/-- The definition of an enumeration. -/
def enumeration (name : String) (scope : Option String) (members : List EnumMember)
    (summary : Option String) : SourceType :=
  let base := reference name
  let display := match scope with
    | some _ => withScope scope name
    | none => base.display
  { base with display, scope, isEnum := true, members, summary }

def parameterNames (type : SourceType) : List String :=
  type.arguments.map SourceType.name

/-- Tells whether the type is a definition and not a mere reference. -/
def isDefinition (type : SourceType) : Bool :=
  type.isEnum || !type.properties.isEmpty

end SourceType

end TypedClient
