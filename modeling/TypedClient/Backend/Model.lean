/-
This file defines what is known about the declarations of a source file of the backend.
-/

import TypedClient.SourceType.Basic

namespace TypedClient

/-- A parameter of a method. -/
structure MethodParameter where
  name : String
  type : SourceType
  decorations : List Decoration := []
  /-- Whether the parameter is the receiver of an extension method. -/
  isReceiver : Bool := false
  hasDefault : Bool := false
  deriving Repr, Inhabited

/-- A fluent chain of calls whose function arguments are of the kind `Function`. -/
structure ChainOf (Function : Type) where
  /-- The text that the first call is made on; empty for a call on nothing. -/
  root : String := ""
  /-- The variable that the result is assigned to. -/
  boundTo : Option String := none
  calls : List ChainCall := []
  /-- The function arguments, each with the index of the call that receives it. -/
  functions : List (Nat × Function) := []
  deriving Repr, Inhabited

/-- A method, or a function argument without a name. -/
structure Method where
  name : String := ""
  modifiers : List String := []
  decorations : List Decoration := []
  summary : Option String := none
  returnType : Option SourceType := none
  parameters : List MethodParameter := []
  /-- The chains of calls in the body. -/
  chains : List (ChainOf Method) := []
  deriving Repr, Inhabited

abbrev CallChain := ChainOf Method

/-- The function argument of a call. -/
def ChainOf.functionOf? {Function : Type} (chain : ChainOf Function) (index : Nat) :
    Option Function :=
  chain.functions.lookup index

/-- A property of a container. -/
structure DeclaredProperty where
  name : String
  type : SourceType
  decorations : List Decoration := []
  modifiers : List String := []
  summary : Option String := none
  deriving Repr, Inhabited

/-- The kinds of containers. -/
inductive ContainerKind
  | classKind
  | recordKind
  | structKind
  | interfaceKind
  deriving DecidableEq, Repr, Inhabited

/-- A class, record, struct or interface. -/
structure Container where
  name : String := ""
  scope : Option String := none
  kind : ContainerKind := .classKind
  typeParameters : List String := []
  bases : List SourceType := []
  decorations : List Decoration := []
  modifiers : List String := []
  summary : Option String := none
  methods : List Method := []
  properties : List DeclaredProperty := []
  /-- The parameters in the header of a record. -/
  recordParameters : List MethodParameter := []
  /-- The chains of calls in each constructor. -/
  constructors : List (List CallChain) := []
  deriving Repr, Inhabited

def Container.methodNamed? (container : Container) (name : String) : Option Method :=
  container.methods.find? fun method => method.name == name

/-- A member of an enumeration whose value is not known, and the value that is assumed. -/
structure UnresolvedValue where
  enumName : String
  member : String
  expression : String
  assumed : Int
  deriving DecidableEq, Repr, Inhabited

/-- The declarations of a source file. -/
structure SourceModel where
  path : Option String := none
  containers : List Container := []
  enums : List SourceType := []
  unresolvedValues : List UnresolvedValue := []
  deriving Repr, Inhabited

def SourceModel.containerNamed? (file : SourceModel) (name : String) : Option Container :=
  file.containers.find? fun container => container.name == name

def Decoration.find? (decorations : List Decoration) (name : String) : Option Decoration :=
  List.find? (fun decoration => decoration.name == name) decorations

/-- Tells whether there is a decoration of a name. -/
def Decoration.has (decorations : List Decoration) (name : String) : Bool :=
  (Decoration.find? decorations name).isSome

/-- The name of an operation: the name of its method without a final `Async`. -/
def operationName (method : String) : String :=
  match Text.beforeEnd? "Async" method with
  | some rest => if rest.isEmpty then method else rest
  | none => method

/-- The label of a group: the name of its container without the usual endings. -/
def groupName (container : String) : String :=
  let endings := ["Controller", "Endpoints"]
  let shorter := endings.filterMap fun ending =>
    (Text.beforeEnd? ending container).filter fun rest => !rest.isEmpty
  shorter.headD container

end TypedClient
