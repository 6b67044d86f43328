/-
This file defines the operations that a backend offers over HTTP.
-/

import TypedClient.SourceType.Basic

namespace TypedClient

/-- A method of HTTP. -/
inductive Verb
  | get
  | post
  | put
  | patch
  | delete
  deriving DecidableEq, Repr, Inhabited

namespace Verb

/-- All methods. -/
def all : List Verb := [get, post, put, patch, delete]

/-- The method as it stands in a request. -/
def wire : Verb → String
  | get => "GET"
  | post => "POST"
  | put => "PUT"
  | patch => "PATCH"
  | delete => "DELETE"

/-- The method as it stands in names. -/
def word : Verb → String
  | get => "Get"
  | post => "Post"
  | put => "Put"
  | patch => "Patch"
  | delete => "Delete"

/-- Tells whether operations of the method only read. -/
def isRead (verb : Verb) : Bool :=
  verb == get

/-- The method whose word follows a given beginning of a name. -/
def after? (beginning name : String) : Option Verb := do
  let rest ← Text.afterStart? beginning name
  all.find? fun verb => verb.word == rest

/-- The method that a marker decoration stands for. -/
def ofMarker? (name : String) : Option Verb :=
  after? "Http" name

/-- The method that a registration call stands for. -/
def ofMapCall? (name : String) : Option Verb :=
  after? "Map" name

end Verb

/-- Where the value of a parameter travels in a request. -/
inductive ParameterPlace
  | route
  | query
  | body
  | header
  | form
  deriving DecidableEq, Repr, Inhabited

/-- A parameter of an operation. -/
structure Parameter where
  name : String
  type : SourceType
  isRequired : Bool
  place : ParameterPlace
  deriving Repr, Inhabited

/-- How an operation is declared. -/
inductive DeclarationStyle
  /-- A verb marker is attached to a method. -/
  | attached
  /-- A registration call names a route and a handler. -/
  | registered
  deriving DecidableEq, Repr, Inhabited

/-- An operation of the backend. -/
structure Endpoint where
  verb : Verb
  route : String
  container : String
  operation : String
  requestType : Option SourceType := none
  responseType : Option SourceType := none
  parameters : List Parameter := []
  requiresAuth : Bool
  tags : List String := []
  group : String
  isUpload : Bool := false
  isDownload : Bool := false
  summary : Option String := none
  style : DeclarationStyle
  source : Option String := none
  deriving Repr, Inhabited

namespace Endpoint

/-- The operation and the group, which together are unique within a contract. -/
def key (endpoint : Endpoint) : String × String :=
  (endpoint.operation, endpoint.group)

def parametersAt (endpoint : Endpoint) (place : ParameterPlace) : List Parameter :=
  endpoint.parameters.filter fun parameter => parameter.place == place

end Endpoint

end TypedClient
