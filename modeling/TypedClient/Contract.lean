/-
This file defines the contract of a backend: its operations, types and validation rules, and how
partial contracts merge into one.
-/

import TypedClient.Diagnostic
import TypedClient.Endpoint
import TypedClient.Rule.Basic
import TypedClient.Text.Order

namespace TypedClient

/-- The operations, types and rules of a backend. -/
structure Contract where
  endpoints : List Endpoint := []
  /-- The types to declare in the client. -/
  types : List SourceType := []
  validation : List PropertyRules := []
  /-- Rules that fit no record of a property. -/
  extraRules : List Rule := []
  /-- Declared types that the client needs only where an operation refers to them. -/
  unlistedTypes : List SourceType := []
  deriving Repr, Inhabited

namespace Contract

/-- What remains of a list when each key may come only once; the first element of a key stays. -/
def firstOfEach {Element Key : Type} [BEq Key] (key : Element → Key) (seen : List Key) :
    List Element → List Element
  | [] => []
  | element :: rest =>
    if seen.contains (key element) then firstOfEach key seen rest
    else element :: firstOfEach key (key element :: seen) rest

/-- What a list loses when each key may come only once. -/
def repeatedOf {Element Key : Type} [BEq Key] (key : Element → Key) (seen : List Key) :
    List Element → List Element
  | [] => []
  | element :: rest =>
    if seen.contains (key element) then element :: repeatedOf key seen rest
    else repeatedOf key (key element :: seen) rest

/-- The warning for an operation that is declared again. -/
def duplicateOperation (endpoint : Endpoint) : Diagnostic :=
  { severity := .warning
    message := "duplicate operation '" ++ endpoint.operation ++ "' in group '" ++
      endpoint.group ++ "', keeping the first"
    file := endpoint.source
    declaration := some (endpoint.container ++ "." ++ endpoint.operation) }

/-- The information that a type is declared again. -/
def duplicateType (type : SourceType) : Diagnostic :=
  { severity := .info
    message := "type '" ++ type.name ++ "' declared more than once"
    declaration := some type.display }

/-- Adds a part to a contract; what the contract has already is reported and left out. -/
def add (contract part : Contract) : Reported Contract :=
  let endpointKeys := contract.endpoints.map Endpoint.key
  let typeNames := contract.types.map SourceType.name
  let unlistedNames := contract.unlistedTypes.map SourceType.name
  let ruleKeys := contract.validation.map PropertyRules.key
  { value :=
      { endpoints := contract.endpoints ++ firstOfEach Endpoint.key endpointKeys part.endpoints
        types := contract.types ++ firstOfEach SourceType.name typeNames part.types
        validation := contract.validation ++ firstOfEach PropertyRules.key ruleKeys part.validation
        extraRules := contract.extraRules ++ part.extraRules
        unlistedTypes := contract.unlistedTypes ++
          firstOfEach SourceType.name unlistedNames part.unlistedTypes }
    diagnostics :=
      (repeatedOf Endpoint.key endpointKeys part.endpoints).map duplicateOperation ++
        (repeatedOf SourceType.name typeNames part.types).map duplicateType }

/-- Adds parts to a contract in order. -/
def addAll (contract : Contract) : List Contract → Reported Contract
  | [] => ⟨contract, []⟩
  | part :: rest => (contract.add part).andThen fun merged => merged.addAll rest

def merge (parts : List Contract) : Reported Contract :=
  addAll {} parts

def typeNamed? (contract : Contract) (name : String) : Option SourceType :=
  contract.types.find? fun type => type.name == name

def rulesFor (contract : Contract) (typeName : String) : List PropertyRules :=
  contract.validation.filter fun record => record.typeName == typeName

def extraRulesFor (contract : Contract) (typeName : String) : List Rule :=
  contract.extraRules.filter fun rule => rule.typeName == typeName

/-- Tells whether there is at least one rule for a type. -/
def hasRules (contract : Contract) (typeName : String) : Bool :=
  (contract.rulesFor typeName).any (fun record => !record.isEmpty) ||
    !(contract.extraRulesFor typeName).isEmpty

/-- The names of the types with at least one rule, in order. -/
def validatedTypeNames (contract : Contract) : List String :=
  Text.sortedNames
    ((contract.validation.filter (fun record => !record.isEmpty)).map PropertyRules.typeName ++
      contract.extraRules.map Rule.typeName)

end Contract

end TypedClient
