/-
This file assembles the contract from the analyses of all source files. Types that nothing chosen
by name refers to stay out of it.
-/

import TypedClient.Backend.Analysis
import TypedClient.Contract
import TypedClient.Path
import TypedClient.Rule.Fold

namespace TypedClient.Assembly

mutual

def markEnums (enums : List String) : SourceType → SourceType
  | ⟨name, display, scope, isGeneric, arguments, isCollection, isNullable, isEnum, members,
      properties, summary⟩ =>
    let type : SourceType :=
      ⟨name, display, scope, isGeneric, markAllEnums enums arguments, isCollection, isNullable,
        isEnum, members, properties, summary⟩
    if !isEnum && arguments.isEmpty && enums.contains name then type.asEnum else type

def markAllEnums (enums : List String) : List SourceType → List SourceType
  | [] => []
  | type :: rest => markEnums enums type :: markAllEnums enums rest

end

def markEndpoint (enums : List String) (endpoint : Endpoint) : Endpoint :=
  { endpoint with
    requestType := endpoint.requestType.map (markEnums enums)
    responseType := endpoint.responseType.map (markEnums enums)
    parameters := endpoint.parameters.map fun parameter =>
      { parameter with type := markEnums enums parameter.type } }

def markDefinition (enums : List String) (type : SourceType) : SourceType :=
  if type.isEnum then type
  else
    { type with
      properties := type.properties.map fun property =>
        { property with type := markEnums enums property.type } }

mutual

def names : SourceType → List String
  | ⟨name, _, _, _, arguments, _, _, _, _, _, _⟩ => name :: namesOfAll arguments

def namesOfAll : List SourceType → List String
  | [] => []
  | type :: rest => names type ++ namesOfAll rest

end

def propertyNames (type : SourceType) : List String :=
  type.properties.flatMap fun property => names property.type

def endpointNames (endpoint : Endpoint) : List String :=
  (endpoint.requestType.toList ++ endpoint.responseType.toList ++
    endpoint.parameters.map Parameter.type).flatMap names

/-- The type of a name among others, and the others. -/
def take? (name : String) : List SourceType → Option (SourceType × List SourceType)
  | [] => none
  | type :: rest =>
    if type.name == name then some (type, rest)
    else (take? name rest).map fun found => (found.1, type :: found.2)

/-- Taking a type out leaves one type less. -/
theorem length_of_take? {name : String} {types : List SourceType}
    {found : SourceType × List SourceType} (taken : take? name types = some found) :
    found.2.length + 1 = types.length := by
  induction types generalizing found with
  | nil => simp [take?] at taken
  | cons type rest inductionHypothesis =>
    simp only [take?] at taken
    split at taken
    · cases taken
      rfl
    · cases inner : take? name rest with
      | none => simp [inner] at taken
      | some deeper =>
        simp only [inner, Option.map_some, Option.some.injEq] at taken
        subst taken
        simp [inductionHypothesis inner]

/-- Moves the types that names refer to from `pending` behind `types`. The name at the head of
`stack` comes first, and the names in a moved type come before the others. -/
def pull (types pending : List SourceType) (stack : List String) :
    List SourceType × List SourceType :=
  match stack with
  | [] => (types, pending)
  | name :: rest =>
    match taken : take? name pending with
    | none => pull types pending rest
    | some found =>
      have := length_of_take? taken
      pull (types ++ [found.1]) found.2 ((propertyNames found.1).reverse ++ rest)
termination_by (pending.length, stack.length)
decreasing_by
  · simp_wf
    omega
  · simp_wf
    omega

def nameAtMost (left right : SourceType) : Bool :=
  Text.atMost left.name right.name

/-- The table of types by their names: of several types with one name the last one stays. -/
def table : List SourceType → List SourceType
  | [] => []
  | type :: rest =>
    if (rest.map SourceType.name).contains type.name then table rest else type :: table rest

/-- The order in which the table gives its types back. The table is hashed with a seed of its own in
each run, so nothing is known of this order. -/
structure TableOrder where
  values : List SourceType → List SourceType
  perm (types : List SourceType) : (values types).Perm types

def TableOrder.asGiven : TableOrder :=
  ⟨id, List.Perm.refl⟩

/-- The types of the contract, and the types that nothing in it refers to in the order of their
names. `roots` are names that are referred to in any case. -/
def closeReferences (endpoints : List Endpoint) (types unlisted : List SourceType)
    (roots : List String) (order : TableOrder) : List SourceType × List SourceType :=
  let start := roots ++ endpoints.flatMap endpointNames ++ types.flatMap propertyNames
  let (reached, rest) := pull types (table unlisted) start.reverse
  (reached, (order.values rest).mergeSort nameAtMost)

/-- The contract of several files, merged in the order of their paths. -/
def assemble (files : List FileAnalysis) (order : TableOrder := .asGiven) : Reported Contract :=
  let ordered := files.mergeSort fun left right => Path.atMost left.path right.path
  let validatorRules := ordered.flatMap FileAnalysis.rules
  let merged := Contract.merge (ordered.map fun file =>
    { endpoints := file.endpoints, types := file.types, unlistedTypes := file.unlisted })
  let enums := (merged.value.types.filter SourceType.isEnum).map SourceType.name
  let endpoints := merged.value.endpoints.map (markEndpoint enums)
  let (reached, unlistedTypes) := closeReferences endpoints merged.value.types
    merged.value.unlistedTypes (validatorRules.map Rule.typeName) order
  let types := reached.map (markDefinition enums)
  let folded := foldRules (validatorRules ++ Validator.decorationRules types)
  { value :=
      { endpoints, types, unlistedTypes
        validation := folded.records
        extraRules := folded.extras }
    diagnostics := merged.diagnostics }

end TypedClient.Assembly
