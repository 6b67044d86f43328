/-
This file holds what all parts of a generated client depend on: the contract, the mapping of types
and the options.
-/

import TypedClient.Client.Artifact
import TypedClient.Client.Mapping
import TypedClient.Client.Name
import TypedClient.Client.Options
import TypedClient.Client.Reference
import TypedClient.Contract

namespace TypedClient

/-- The endpoints of one group. -/
structure EndpointGroup where
  name : String
  endpoints : List Endpoint
  deriving Repr, Inhabited

namespace EndpointGroup

def stem (group : EndpointGroup) : String :=
  Name.fileStem group.name

def ofContract (contract : Contract) : List EndpointGroup :=
  (contract.endpoints.map Endpoint.group).eraseDups.map fun name =>
    { name, endpoints := contract.endpoints.filter fun endpoint => endpoint.group == name }

end EndpointGroup

/-- What the parts of a client depend on. -/
structure Context where
  contract : Contract
  mapping : TypeMapping
  options : Options
  deriving Repr, Inhabited

namespace Context

/-- The context for a contract. The mapping knows the types of the contract. -/
def ofContract (contract : Contract) (overrides : List (String × String)) (options : Options) :
    Context :=
  { contract, options
    mapping :=
      { overrides
        enums := (contract.types.filter SourceType.isEnum).map SourceType.name
        declared := contract.types.map SourceType.name } }

def map (context : Context) (type : SourceType) : ClientType :=
  context.mapping.map type

def declares (context : Context) (name : String) : Bool :=
  context.mapping.declared.contains name

/-- Tells whether client functions check requests of a type. -/
def validates (context : Context) (typeName : String) : Bool :=
  context.options.features.validation && context.contract.hasRules typeName

/-- The stem of the module that declares the outcome type. -/
def resultStem : String := "result"

def declarationStem? (context : Context) (name : String) : Option String :=
  if name == "Result" then some resultStem
  else if context.declares name then some (Name.fileStem name)
  else none

/-- What is asked for because of the declared types that a type text refers to. `specifier` names a
module of types by its stem; the names in `own` need no import. -/
def typeImports (context : Context) (specifier : String → String) (own : List String)
    (text : String) : List ImportedName :=
  (Reference.names text).filterMap fun name =>
    if own.contains name then none
    else (context.declarationStem? name).map fun stem => ⟨specifier stem, name, true⟩

/-- The imports of declared types for a module outside the directory of types. -/
def outerTypeImports (context : Context) (type : ClientType) : List ImportedName :=
  context.typeImports ClientDirectory.types.specifier [] type.text

end Context

end TypedClient
