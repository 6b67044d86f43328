/-
This file gives each operation its client function: its name, its arguments, what it sends and
what it returns.
-/

import TypedClient.Client.Context
import TypedClient.Route

namespace TypedClient

/-- An argument of a client function. -/
structure Argument where
  identifier : String
  type : ClientType
  isOptional : Bool
  /-- The parameter that the argument belongs to; a token of the route may have none. -/
  parameter : Option Parameter
  place : ParameterPlace
  /-- Whether the properties of the argument travel one by one. -/
  isSpread : Bool
  deriving Repr, Inhabited

namespace Argument

def declaration (argument : Argument) : String :=
  argument.identifier ++ (if argument.isOptional then "?" else "") ++ ": " ++ argument.type.text

def wireName (argument : Argument) : String :=
  match argument.parameter with
  | some parameter => parameter.name
  | none => argument.identifier

def field (argument : Argument) : String :=
  let key := Name.propertyKey argument.wireName
  if argument.isSpread then "..." ++ argument.identifier
  else if key == argument.identifier then key
  else key ++ ": " ++ argument.identifier

end Argument

/-- The client function of an operation. -/
structure ClientFunction where
  endpoint : Endpoint
  name : String
  /-- The arguments: required ones before optional ones. -/
  arguments : List Argument
  returns : ClientType
  deriving Repr, Inhabited

namespace ClientFunction

/-- Tells whether a type is a declared object type. -/
def isStructured (context : Context) (type : SourceType) : Bool :=
  !type.isCollection && (context.contract.typeNamed? type.name).any fun found => !found.isEnum

def routeArgument (context : Context) (endpoint : Endpoint) (token : RouteToken) : Argument :=
  let parameter := (endpoint.parametersAt .route).find? fun parameter =>
    Text.sameIgnoringCase parameter.name token.name
  { identifier := Name.identifier token.name
    type := match parameter with
      | some found => context.map found.type
      | none => .builtin Builtin.stringText
    isOptional := false
    parameter
    place := .route
    isSpread := false }

/-- The argument for a parameter that does not travel in the route. -/
def parameterArgument (context : Context) (parameter : Parameter) : Argument :=
  { identifier := Name.identifier parameter.name
    type := context.map parameter.type
    isOptional := !parameter.isRequired
    parameter := some parameter
    place := parameter.place
    isSpread := parameter.place == .query && isStructured context parameter.type }

/-- The arguments for the tokens of the route and for the other parameters, in order. -/
def declaredArguments (context : Context) (endpoint : Endpoint) : List Argument :=
  (Route.tokens endpoint.route).map (routeArgument context endpoint) ++
    (endpoint.parameters.filter fun parameter => parameter.place != .route).map
      (parameterArgument context)

def returnType (context : Context) (endpoint : Endpoint) : ClientType :=
  if endpoint.isDownload then .builtin "Blob"
  else match endpoint.responseType with
    | some type => context.map type
    | none => .builtin Builtin.voidText

def ofEndpoint (context : Context) (endpoint : Endpoint) : ClientFunction :=
  let arguments := declaredArguments context endpoint
  { endpoint
    name := Name.function endpoint.verb endpoint.operation
    arguments := arguments.filter (fun argument => !argument.isOptional) ++
      arguments.filter Argument.isOptional
    returns := returnType context endpoint }

def parameterList (function : ClientFunction) : String :=
  ", ".intercalate (function.arguments.map Argument.declaration)

/-- The list of arguments in a call with variables of the same names. -/
def callArguments (function : ClientFunction) : String :=
  ", ".intercalate (function.arguments.map Argument.identifier)

def signatureTypes (function : ClientFunction) : List ClientType :=
  function.arguments.map Argument.type ++ [function.returns]

def argumentsAt (function : ClientFunction) (place : ParameterPlace) : List Argument :=
  function.arguments.filter fun argument => argument.place == place

/-- The first line of the function. -/
def opening (function : ClientFunction) : String :=
  "export async function " ++ function.name ++ "(" ++ function.parameterList ++ "): Promise<" ++
    function.returns.text ++ "> \x7b"

/-- The code that puts the value of a token into a path; a catch-all keeps its slashes. -/
def tokenCode (token : RouteToken) : String :=
  let identifier := Name.identifier token.name
  if token.isCatchAll then
    "$\x7bString(" ++ identifier ++ ").split('/').map(encodeURIComponent).join('/')\x7d"
  else "$\x7bencodeURIComponent(" ++ identifier ++ ")\x7d"

/-- The code of a part of a path inside a template. -/
def partCode : RoutePart → String
  | .plain text => text
  | .token token => tokenCode token

/-- The code of a path: a literal, or a template where the route has tokens. -/
def routeCode (route : String) : String :=
  if (Route.tokens route).isEmpty then Name.quote route
  else "`" ++ String.join ((Route.parts route).map partCode) ++ "`"

def requestArgument? (function : ClientFunction) (request : SourceType) : Option Argument :=
  function.arguments.find? fun argument =>
    argument.parameter.any fun parameter => parameter.type.name == request.name

/-- A check of an argument against the schema of a type. -/
structure RequestCheck where
  typeName : String
  argument : Argument

/-- The check of the request before it is sent, where the type of the request has rules. -/
def requestCheck? (context : Context) (function : ClientFunction) : Option RequestCheck := do
  let request ← function.endpoint.requestType
  if context.validates request.name then
    let argument ← function.requestArgument? request
    some ⟨request.name, argument⟩
  else none

def RequestCheck.line (check : RequestCheck) : String :=
  let identifier := check.argument.identifier
  let parse := Name.schema check.typeName ++ ".parse(" ++ identifier ++ ");"
  if check.argument.isOptional then "if (" ++ identifier ++ " !== undefined) " ++ parse else parse

def RequestCheck.schemaImport (check : RequestCheck) : ImportedName :=
  { specifier := ClientDirectory.validation.specifier (Name.fileStem check.typeName)
    name := Name.schema check.typeName
    typeOnly := false }

/-- The text of a type without the marks of null at its end. -/
def withoutNull (text : String) : String :=
  go text.length text.toList
where
  /-- Drops at most as many marks as there are characters. -/
  go : Nat → List Char → String
    | 0, cs => String.ofList cs
    | steps + 1, cs =>
      match Text.dropEnd? " | null".toList cs with
      | some rest => go steps rest
      | none => String.ofList cs

/-- The code that appends an argument to a form. -/
def appendCode (argument : Argument) : String :=
  let name := Name.quote argument.wireName
  let identifier := argument.identifier
  let type := withoutNull argument.type.text
  if type == "File[]" then
    "for (const item of " ++ identifier ++ ") form.append(" ++ name ++ ", item);"
  else if type == "File" || type == "Blob" then
    "form.append(" ++ name ++ ", " ++ identifier ++ ");"
  else if ["string", "number", "boolean"].contains type then
    "form.append(" ++ name ++ ", String(" ++ identifier ++ "));"
  else "form.append(" ++ name ++ ", JSON.stringify(" ++ identifier ++ "));"

def appendLine (argument : Argument) : String :=
  if argument.isOptional then
    "if (" ++ argument.identifier ++ " != null) " ++ appendCode argument
  else appendCode argument

/-- The lines that make the form of a request; a request without form fields has none. -/
def formLines (function : ClientFunction) : List String :=
  let fields := function.argumentsAt .form
  if fields.isEmpty then [] else "const form = new FormData();" :: fields.map appendLine

/-- The line of an object of arguments under a key; an empty object has none. -/
def objectLine (key : String) (arguments : List Argument) : List String :=
  if arguments.isEmpty then []
  else [key ++ ": \x7b " ++ ", ".intercalate (arguments.map Argument.field) ++ " \x7d,"]

/-- The line of the content of a request: the form, or else the first argument of the body. -/
def bodyLine (function : ClientFunction) : List String :=
  if !(function.argumentsAt .form).isEmpty then ["body: form,"]
  else ((function.argumentsAt .body).head?.map fun argument =>
    "body: " ++ argument.identifier ++ ",").toList

/-- The line that says how to read the answer, where it is no JSON. -/
def responseLine (function : ClientFunction) : List String :=
  if function.returns.text == "Blob" then ["responseType: 'blob',"]
  else if function.returns.text == Builtin.voidText then ["responseType: 'void',"]
  else []

def requestLines (function : ClientFunction) : List String :=
  ["method: '" ++ function.endpoint.verb.wire ++ "',"] ++
    objectLine "query" (function.argumentsAt .query) ++
    objectLine "headers" (function.argumentsAt .header) ++
    function.bodyLine ++
    (if function.endpoint.requiresAuth then ["auth: true,"] else []) ++
    function.responseLine

/-- The lines of a client function: the check of the request, its form, and the request. -/
def lines (context : Context) (function : ClientFunction) : List String :=
  let opened := (Draft.comment {} function.endpoint.summary).openBlock function.opening
  let checked := opened.addLines
    (((function.requestCheck? context).map RequestCheck.line).toList ++ function.formLines)
  let call := checked.openBlock ("return apiFetch<" ++ function.returns.text ++ ">(" ++
    routeCode function.endpoint.route ++ ", \x7b")
  (((call.addLines function.requestLines).closeBlock "\x7d);").closeBlock "\x7d").lines

def imports (context : Context) (function : ClientFunction) : List ImportedName :=
  function.signatureTypes.flatMap context.outerTypeImports ++
    ((function.requestCheck? context).map RequestCheck.schemaImport).toList

def reports (function : ClientFunction) : List Diagnostic :=
  function.signatureTypes.flatMap TypeMapping.reports

end ClientFunction

namespace EndpointGroup

def functions (context : Context) (group : EndpointGroup) : List ClientFunction :=
  group.endpoints.map (ClientFunction.ofEndpoint context)

/-- Lines of several declarations with an empty line between them. -/
def separated (declarations : List (List String)) : List String :=
  List.intercalate [""] declarations

/-- The file of the client functions of a group. -/
def clientArtifact (context : Context) (group : EndpointGroup) : Artifact :=
  let functions := group.functions context
  let runtime : ImportedName := ⟨"../client", "apiFetch", false⟩
  { kind := .client
    path := ClientDirectory.api.path group.stem
    module :=
      { imports := (Imports.collect
          (runtime :: functions.flatMap (ClientFunction.imports context))).statements
        exports := functions.map ClientFunction.name
        body := separated (functions.map (ClientFunction.lines context)) } }

end EndpointGroup

end TypedClient
