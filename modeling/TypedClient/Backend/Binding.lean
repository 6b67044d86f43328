/-
This file binds the parameters of a handler to the places in a request where their values travel.
-/

import TypedClient.Backend.Model
import TypedClient.Client.Builtin
import TypedClient.Endpoint
import TypedClient.Literal.Basic
import TypedClient.Route

namespace TypedClient

/-- The parameters of a handler in a request. -/
structure BoundParameters where
  parameters : List Parameter := []
  requestType : Option SourceType := none
  isUpload : Bool := false
  deriving Repr, Inhabited

namespace Binding

def element? (type : SourceType) : Option SourceType :=
  if type.isCollection then type.arguments.head? else some type

/-- Tells whether a type is an uploaded file or a collection of such. -/
def isFile (type : SourceType) : Bool :=
  (element? type).any fun element =>
    element.name == "IFormFile" || element.name == "IFormFileCollection"

mutual

/-- Tells whether a type has a fixed meaning in a client, or is a collection of such a type. -/
def isScalar : SourceType → Bool
  | ⟨name, _, _, _, arguments, isCollection, _, _, _, _, _⟩ =>
    if isCollection then firstIsScalar arguments else (Builtin.primitive? name).isSome

/-- Tells whether the first of some types is scalar. -/
def firstIsScalar : List SourceType → Bool
  | [] => false
  | type :: _ => isScalar type

end

/-- Tells whether the backend itself supplies a parameter. -/
def isInjected (parameter : MethodParameter) : Bool :=
  Decoration.has parameter.decorations "FromServices" ||
    Decoration.has parameter.decorations "FromKeyedServices" ||
    Builtin.isInfrastructure parameter.type.name

def placeMarkers : List (String × ParameterPlace) :=
  [("FromRoute", .route), ("FromQuery", .query), ("FromBody", .body), ("FromHeader", .header),
    ("FromForm", .form)]

/-- The place that a decoration states, and the name there. -/
def statedPlace? (parameter : MethodParameter) : Option (ParameterPlace × String) :=
  placeMarkers.findSome? fun marker =>
    (Decoration.find? parameter.decorations marker.1).map fun decoration =>
      (marker.2, ((decoration.named? "Name").bind Literal.string?).getD parameter.name)

def inferredPlace (tokenNames : List String) (parameter : MethodParameter) : ParameterPlace :=
  if tokenNames.contains (Text.lowerAscii parameter.name) then .route
  else if isFile parameter.type then .form
  else if isScalar parameter.type then .query
  else .body

def place (tokenNames : List String) (parameter : MethodParameter) : ParameterPlace × String :=
  (statedPlace? parameter).getD (inferredPlace tokenNames parameter, parameter.name)

/-- The parameter in a request. -/
def bindOne (tokenNames : List String) (parameter : MethodParameter) : Parameter :=
  let (found, name) := place tokenNames parameter
  { name
    type := parameter.type
    isRequired := !parameter.type.isNullable && !parameter.hasDefault
    place := found }

def given (parameters : List MethodParameter) : List MethodParameter :=
  parameters.filter fun parameter => !parameter.isReceiver && !isInjected parameter

/-- Binds the parameters of a handler. The first type that is not scalar is the type of the
request. -/
def bind (parameters : List MethodParameter) (route : String) : BoundParameters :=
  let tokenNames := (Route.tokens route).map fun token => Text.lowerAscii token.name
  let bound := (given parameters).map (bindOne tokenNames)
  { parameters := bound
    requestType := (bound.find? fun parameter => !isScalar parameter.type).map Parameter.type
    isUpload := bound.any fun parameter =>
      parameter.place == .form && isFile parameter.type }

/-- The backend type that the constraint of a token stands for. -/
def typeOfConstraint (constraint : Option String) : String :=
  let word := constraint.map fun text =>
    String.ofList (Text.dropEndWhile (· == '?') text.toList)
  match word with
  | some "int" => "int"
  | some "long" => "long"
  | some "decimal" => "double"
  | some "double" => "double"
  | some "float" => "double"
  | some "bool" => "bool"
  | some "guid" => "Guid"
  | some "datetime" => "DateTime"
  | _ => "string"

/-- The parameters of a route for which no handler is known. -/
def routeOnly (route : String) : List Parameter :=
  (Route.tokens route).map fun token =>
    { name := token.name
      type := SourceType.reference (typeOfConstraint token.constraint)
      isRequired := true
      place := .route }

end Binding

end TypedClient
