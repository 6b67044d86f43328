/-
This file makes all files of the client for a contract.
-/

import TypedClient.Client.Declaration
import TypedClient.Client.Hook
import TypedClient.Client.Index
import TypedClient.Client.Schema
import TypedClient.Client.ServerFunction
import TypedClient.Client.SupportModule

namespace TypedClient

/-- Why there is no client. -/
inductive GenerationError
  | cancelled
  /-- Two files have the same path. -/
  | collision (path : String) (first second : ArtifactKind)
  deriving DecidableEq, Repr, Inhabited

namespace GenerationError

/-- The text of an error. -/
def message : GenerationError → String
  | cancelled => "generation cancelled"
  | collision path first second =>
    "two artifacts render to " ++ path ++ ": " ++ first.name ++ " and " ++ second.name

end GenerationError

namespace Package

def groupArtifacts (context : Context) (group : EndpointGroup) : List Artifact :=
  let features := context.options.features
  [group.clientArtifact context] ++
    (if features.bindings then (group.hookArtifact? context).toList else []) ++
    (if features.serverVariants then [group.serverArtifact context] else [])

/-- The files that follow from the contract. -/
def contractArtifacts (context : Context) : List Artifact :=
  context.contract.types.map (Declaration.artifact context) ++
    (EndpointGroup.ofContract context.contract).flatMap (groupArtifacts context) ++
    (if context.options.features.validation then
      context.contract.validatedTypeNames.filterMap (Schema.artifact? context)
    else [])

/-- All files but the index modules. -/
def moduleArtifacts (context : Context) : List Artifact :=
  contractArtifacts context ++
    [SupportModule.clientArtifact context.options.baseUrl, SupportModule.outcomeArtifact]

/-- All files, in the order of their paths. -/
def artifacts (context : Context) : List Artifact :=
  let modules := moduleArtifacts context
  let all := modules ++ Index.artifacts (modules.map fun artifact =>
    Path.names artifact.path.text)
  all.mergeSort fun left right => Path.atMost left.path.text right.path.text

/-- The first two neighbours with the same path. -/
def collision? : List Artifact → Option GenerationError
  | first :: second :: rest =>
    if Path.same first.path.text second.path.text then
      some (.collision first.path.text first.kind second.kind)
    else collision? (second :: rest)
  | _ => none

/-- A function name that another group uses already. -/
structure FunctionClash where
  name : String
  otherGroup : String
  endpoint : Endpoint

/-- The warning about a clash. -/
def FunctionClash.diagnostic (clash : FunctionClash) : Diagnostic :=
  { severity := .warning
    message := "function '" ++ clash.name ++ "' is generated in groups '" ++ clash.otherGroup ++
      "' and '" ++ clash.endpoint.group ++ "'"
    declaration := some (clash.endpoint.container ++ "." ++ clash.endpoint.operation) }

/-- The clashes among endpoints in order. `seen` holds the function names so far, each with the
group that first used it. -/
def clashesFrom (seen : List (String × String)) : List Endpoint → List FunctionClash
  | [] => []
  | endpoint :: rest =>
    let name := Name.function endpoint.verb endpoint.operation
    match seen.lookup name with
    | some group =>
      if group == endpoint.group then clashesFrom seen rest
      else ⟨name, group, endpoint⟩ :: clashesFrom seen rest
    | none => clashesFrom ((name, endpoint.group) :: seen) rest

/-- The clashes between function names of different groups. -/
def clashes (contract : Contract) : List FunctionClash :=
  clashesFrom [] ((EndpointGroup.ofContract contract).flatMap EndpointGroup.endpoints)

/-- What is to report about a client. -/
def reports (context : Context) : List Diagnostic :=
  let functions := context.contract.endpoints.map (ClientFunction.ofEndpoint context)
  (clashes context.contract).map FunctionClash.diagnostic ++
    functions.flatMap ClientFunction.reports ++
    context.contract.types.flatMap (Declaration.reports context) ++
    (if context.options.features.validation then
      context.contract.validatedTypeNames.flatMap (Schema.reports context)
    else [])

/-- The client for a contract: all its files, each at a path of its own. -/
def generate (contract : Contract) (overrides : List (String × String)) (options : Options)
    (cancelled : Bool) : Reported (Except GenerationError (List Artifact)) :=
  let context := Context.ofContract contract overrides options
  let files := artifacts context
  { value :=
      if cancelled then .error .cancelled
      else match collision? files with
        | some error => .error error
        | none => .ok files
    diagnostics := reports context }

end Package

end TypedClient
