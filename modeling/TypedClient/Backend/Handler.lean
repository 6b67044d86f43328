/-
This file describes the operation that a handler method implements.
-/

import TypedClient.Backend.Binding
import TypedClient.Backend.ExportMarker
import TypedClient.Backend.Response
import TypedClient.Diagnostic

namespace TypedClient

/-- A method in its container and file. -/
structure DeclarationSite where
  file : SourceModel
  container : Container
  method : Method
  deriving Repr, Inhabited

/-- The name of the method behind the name of its container. -/
def DeclarationSite.qualifiedName (site : DeclarationSite) : String :=
  site.container.name ++ "." ++ site.method.name

namespace Handler

/-- Tells whether the decorations of a container and a method demand that a user is known. -/
def requiresAuth (container : Container) (method : Method) : Bool :=
  (Decoration.has method.decorations "Authorize" ||
    Decoration.has container.decorations "Authorize") &&
    !Decoration.has method.decorations "AllowAnonymous"

/-- The tags that decorations state. -/
def tags (container : Container) (method : Method) : List String :=
  ((container.decorations ++ method.decorations).filter fun decoration =>
    decoration.name == "Tags").flatMap fun decoration =>
      decoration.positional.flatMap Literal.strings

/-- The operation that a handler implements. `metadata` are the calls behind its registration. -/
def describe (verb : Verb) (route : String) (container : Container) (handler : Method)
    (metadata : List ChainCall) (style : DeclarationStyle) (source : Option String) : Endpoint :=
  let bound := Binding.bind handler.parameters route
  let response := Response.resolve? handler.decorations metadata handler.chains handler.returnType
  { verb, route, style, source
    container := container.name
    operation := operationName handler.name
    requestType := bound.requestType
    responseType := response
    parameters := bound.parameters
    requiresAuth := requiresAuth container handler
    tags := tags container handler
    group := groupName container.name
    isUpload := bound.isUpload
    isDownload := response.any Response.isBinary
    summary := handler.summary }

end Handler

end TypedClient
