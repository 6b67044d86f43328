/-
This file finds operations that are declared by fluent registration calls in extension methods.
Groups of routes pass their path, tags and demands on to their members, also through variables.
-/

import TypedClient.Backend.Handler
import TypedClient.Text.Words

namespace TypedClient

open Text

/-- What a group of routes passes on to its members. -/
structure RouteGroup where
  path : String := ""
  tags : List String := []
  requiresAuth : Option Bool := none
  deriving DecidableEq, Repr, Inhabited

namespace RouteGroup

/-- The group after one more call. -/
def apply (group : RouteGroup) (call : ChainCall) : RouteGroup :=
  match call.name with
  | "MapGroup" =>
    { group with
      path := Route.join group.path ((call.arguments[0]?.bind Literal.string?).getD "") }
  | "WithTags" => { group with tags := group.tags ++ call.arguments.flatMap Literal.strings }
  | "RequireAuthorization" => { group with requiresAuth := some true }
  | "AllowAnonymous" => { group with requiresAuth := some false }
  | _ => group

end RouteGroup

/-- The handler that a registration call names. -/
inductive HandlerReference
  | named (text : String)
  | inline (function : Method)
  | unknown
  deriving Repr, Inhabited

/-- A registration of an operation. -/
structure Registration where
  verb : Verb
  route : String
  handler : HandlerReference
  /-- The calls behind the registration call. -/
  metadata : List ChainCall := []
  group : RouteGroup
  deriving Repr, Inhabited

namespace Registration

/-- The types whose extension methods may register operations. -/
def builderNames : List String :=
  ["IEndpointRouteBuilder", "RouteGroupBuilder", "WebApplication", "IApplicationBuilder"]

/-- Tells whether a call registers an operation. -/
def isMapCall (call : ChainCall) : Bool :=
  (Verb.ofMapCall? call.name).isSome

/-- Tells whether a method extends a builder and registers operations. -/
def isRegistrationMethod (method : Method) : Bool :=
  (method.parameters.head?.any fun parameter =>
    parameter.isReceiver && builderNames.contains parameter.type.name) &&
    method.chains.any fun chain => chain.calls.any isMapCall

/-- Tells whether an argument is the name of a method. -/
def isMethodReference (text : String) : Bool :=
  !text.isEmpty && text.toList.all fun c => isLetterOrNumeral c || c == '_' || c == '.'

def handlerOf (chain : CallChain) (index : Nat) (call : ChainCall) : HandlerReference :=
  match chain.functionOf? index with
  | some function => .inline function
  | none =>
    match call.arguments[1]? with
    | some text => if isMethodReference text then .named text else .unknown
    | none => .unknown

def ofCall (chain : CallChain) (group : RouteGroup) (index : Nat) (verb : Verb)
    (call : ChainCall) : Registration :=
  { verb, group
    route := Route.join group.path ((call.arguments[0]?.bind Literal.string?).getD "")
    handler := handlerOf chain index call }

/-- What a chain has shown so far: its group, the registrations before the open one, and the open
one, which takes the calls that follow. -/
structure ChainState where
  group : RouteGroup
  closed : List Registration := []
  current : Option Registration := none

/-- The state after one more call. -/
def ChainState.step (chain : CallChain) (state : ChainState) (index : Nat) (call : ChainCall) :
    ChainState :=
  match Verb.ofMapCall? call.name with
  | some verb =>
    { state with
      closed := state.closed ++ state.current.toList
      current := some (ofCall chain state.group index verb call) }
  | none =>
    match state.current with
    | some registration =>
      { state with
        current := some { registration with metadata := registration.metadata ++ [call] } }
    | none => { state with group := state.group.apply call }

def ChainState.run (chain : CallChain) (state : ChainState) (index : Nat) :
    List ChainCall → ChainState
  | [] => state
  | call :: rest => ChainState.run chain (state.step chain index call) (index + 1) rest

/-- The registrations of chains in order. `groups` are the groups that variables stand for. -/
def ofChains (groups : List (String × RouteGroup)) : List CallChain → List Registration
  | [] => []
  | chain :: rest =>
    match groups.lookup chain.root with
    | none => ofChains groups rest
    | some group =>
      let state := ChainState.run chain { group } 0 chain.calls
      match state.current, chain.boundTo with
      | none, some name =>
        state.closed ++ ofChains ((name, state.group) :: groups) rest
      | current, _ => state.closed ++ current.toList ++ ofChains groups rest

def ofMethod (method : Method) : List Registration :=
  let groups := method.parameters.head?.toList.map fun receiver => (receiver.name, {})
  ofChains groups method.chains

/-- A handler and the container that it is declared in; a function argument has none. -/
structure ResolvedHandler where
  owner : Option Container
  method : Method

/-- The method that a name stands for: a method of the same container, or of another container of
the file. -/
def methodNamed? (site : DeclarationSite) (text : String) : Option ResolvedHandler :=
  match cutLast? '.' text.toList with
  | some (qualifier, name) => do
    let container ← site.file.containerNamed? (afterLast '.' (String.ofList qualifier))
    let method ← container.methodNamed? (String.ofList name)
    some ⟨some container, method⟩
  | none => (site.container.methodNamed? text).map fun method => ⟨some site.container, method⟩

def resolve? (site : DeclarationSite) (registration : Registration) : Option ResolvedHandler :=
  match registration.handler with
  | .named text => methodNamed? site text
  | .inline function => some ⟨none, function⟩
  | .unknown => none

/-- The export markers that apply to a registration, from the outermost to the innermost. -/
def markers (site : DeclarationSite) (resolved : Option ResolvedHandler) : List Decoration :=
  let outer := (ExportMarker.find? site.container.decorations).toList ++
    (ExportMarker.find? site.method.decorations).toList
  match resolved with
  | some handler =>
    outer ++ (handler.owner.bind fun owner => ExportMarker.find? owner.decorations).toList ++
      (ExportMarker.find? handler.method.decorations).toList
  | none => outer

/-- The operation that a registration declares when its handler is not known. -/
def withoutHandler (site : DeclarationSite) (registration : Registration) : Endpoint :=
  let response := Response.declared? [] registration.metadata
  { verb := registration.verb
    route := registration.route
    container := site.container.name
    operation := ""
    responseType := response
    parameters := Binding.routeOnly registration.route
    requiresAuth := false
    group := groupName site.container.name
    isDownload := response.any Response.isBinary
    style := .registered
    source := site.file.path }

def addTags (tags further : List String) : List String :=
  further.foldl (fun found tag => if found.contains tag then found else found ++ [tag]) tags

def firstText? (call : ChainCall) : Option String :=
  call.arguments[0]?.bind Literal.string?

/-- An endpoint after one of the calls behind its registration. -/
def applyCall (endpoint : Endpoint) (call : ChainCall) : Endpoint :=
  match call.name with
  | "WithName" =>
    if endpoint.operation.isEmpty then
      { endpoint with operation := (firstText? call).getD "" }
    else endpoint
  | "WithSummary" => { endpoint with summary := endpoint.summary.or (firstText? call) }
  | "WithDescription" => { endpoint with summary := endpoint.summary.or (firstText? call) }
  | "WithTags" =>
    { endpoint with tags := addTags endpoint.tags (call.arguments.flatMap Literal.strings) }
  | "RequireAuthorization" => { endpoint with requiresAuth := true }
  | "AllowAnonymous" => { endpoint with requiresAuth := false }
  | "Accepts" =>
    { endpoint with
      requestType := endpoint.requestType.or
        (call.typeArguments.head?.map SourceType.ofDisplay) }
  | _ => endpoint

/-- An endpoint with what its group and the calls behind its registration state. -/
def applyMetadata (endpoint : Endpoint) (registration : Registration) : Endpoint :=
  let group := registration.group
  let grouped : Endpoint :=
    { endpoint with
      requiresAuth := group.requiresAuth.getD endpoint.requiresAuth
      tags := addTags endpoint.tags group.tags }
  registration.metadata.foldl applyCall grouped

def segmentWords (path : String) : String :=
  String.join (((splitWhere (fun c => c == '/' || c == '-' || c == '.') path.toList).filter
    fun segment => !segment.isEmpty).map fun segment => upperCamel (String.ofList segment))

def partWord : RoutePart → String
  | .plain text => segmentWords text
  | .token token => "By" ++ upperCamel token.name

def nameOfRoute (route : String) : String :=
  let name := String.join ((Route.parts route).map partWord)
  if name.isEmpty then "Root" else name

/-- A name for an endpoint without one; a name that is taken gets the method in front. -/
def nameFor (taken : List String) (endpoint : Endpoint) : String :=
  let name := nameOfRoute endpoint.route
  if taken.contains name then endpoint.verb.word ++ name else name

/-- The information that a handler was not found. -/
def missingHandler (site : DeclarationSite) (text : String) : Diagnostic :=
  { severity := .info
    message := "handler '" ++ text ++ "' not found in '" ++ site.container.name ++
      "', using registration metadata"
    declaration := some site.qualifiedName }

def reports (site : DeclarationSite) (registration : Registration)
    (resolved : Option ResolvedHandler) : List Diagnostic :=
  match registration.handler, resolved with
  | .named text, none => [missingHandler site text]
  | _, _ => []

/-- The endpoint of a registration before it has a name of its own and before its markers. -/
def described (site : DeclarationSite) (registration : Registration)
    (resolved : Option ResolvedHandler) : Endpoint :=
  let base := match resolved with
    | some handler => Handler.describe registration.verb registration.route site.container
        handler.method registration.metadata .registered site.file.path
    | none => withoutHandler site registration
  applyMetadata base registration

/-- The operations of registrations in order. `taken` are the names that were made from routes so
far. A registration without an export marker declares none. -/
def endpointsFrom (site : DeclarationSite) (taken : List String) :
    List Registration → Reported (List Endpoint)
  | [] => ⟨[], []⟩
  | registration :: rest =>
    let resolved := resolve? site registration
    let applied := markers site resolved
    if applied.isEmpty then endpointsFrom site taken rest
    else
      let endpoint := described site registration resolved
      let needsName := endpoint.operation.isEmpty
      let name := if needsName then nameFor taken endpoint else endpoint.operation
      let following := endpointsFrom site (if needsName then name :: taken else taken) rest
      ⟨ExportMarker.overlay { endpoint with operation := name } applied :: following.value,
        reports site registration resolved ++ following.diagnostics⟩

def endpoints (site : DeclarationSite) : Reported (List Endpoint) :=
  endpointsFrom site [] (ofMethod site.method)

def handlerName? (registration : Registration) : Option String :=
  match registration.handler with
  | .named text => some (afterLast '.' text)
  | _ => none

def handlerNames (container : Container) : List String :=
  ((container.methods.filter isRegistrationMethod).flatMap ofMethod).filterMap handlerName?

end Registration

end TypedClient
