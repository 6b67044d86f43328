/-
This file finds the type that an operation answers with: from declared responses, from a call that
dispatches the request, or from the return type of the handler.
-/

import TypedClient.Backend.Model
import TypedClient.Client.Builtin
import TypedClient.Literal.Basic
import TypedClient.SourceType.Display

namespace TypedClient.Response

open Text

/-- The types that stand around the answer proper. -/
def envelopeNames : List String := ["ApiResponse", "ApiResult", "Envelope"]

/-- The calls that pass a request on; their last type argument is the type of the answer. -/
def dispatchNames : List String :=
  ["Send", "SendAsync", "Dispatch", "DispatchAsync", "Query", "QueryAsync"]

def typeOperand? (text : String) : Option String :=
  (Literal.between? "typeof(".toList [')'] (trim text.toList)).map fun inside =>
    String.ofList (trim inside)

/-- Tells whether a status stands for success. Numbers from 200 to 299 do; a status that is no
number fails only if the digit behind its first `Status` is not 2. -/
def isSuccess (status : String) : Bool :=
  let text := trim status.toList
  match Literal.numberChars? text with
  | some code =>
    !code.less (Binary64.ofInt 200) && code.less (Binary64.ofInt 300)
  | none =>
    match (cutFirst? "Status".toList text).bind fun parts => parts.2.head? with
    | some digit => if digit.isDigit then digit == '2' else true
    | none => true

/-- The type of a declared response: its type argument or its first `typeof` expression. -/
def declaredType? (typeArguments arguments : List String) (status : Option String) :
    Option SourceType :=
  if status.all isSuccess then
    (typeArguments.head?.or (arguments.findSome? typeOperand?)).map SourceType.ofDisplay
  else none

def firstStatus? (arguments : List String) : Option String :=
  arguments.find? fun argument => (typeOperand? argument).isNone

def ofDecoration? (decoration : Decoration) : Option SourceType :=
  if ["ProducesResponseType", "Produces"].contains decoration.name then
    let positional := decoration.positional
    declaredType? decoration.typeArguments (positional ++ (decoration.named? "Type").toList)
      ((decoration.named? "StatusCode").or (firstStatus? positional))
  else none

/-- The type that a call behind a registration declares for a response. -/
def ofCall? (call : ChainCall) : Option SourceType :=
  if call.name == "Produces" then
    declaredType? call.typeArguments call.arguments (firstStatus? call.arguments)
  else none

/-- The answer proper inside an envelope. -/
def withoutEnvelope (type : SourceType) : SourceType :=
  match envelopeNames.contains type.name, type.arguments with
  | true, [inner] => inner
  | _, _ => type

def declared? (decorations : List Decoration) (metadata : List ChainCall) : Option SourceType :=
  ((decorations.findSome? ofDecoration?).or (metadata.findSome? ofCall?)).map withoutEnvelope

/-- The type that the first dispatching call names for its answer. -/
def dispatched? (chains : List CallChain) : Option SourceType :=
  let calls := (chains.flatMap ChainOf.calls).filter fun call => dispatchNames.contains call.name
  (calls.findSome? fun call => call.typeArguments.getLast?).map fun text =>
    let type := SourceType.ofDisplay text
    match Builtin.isOutcome type.name, type.arguments with
    | true, [inner] => inner
    | _, _ => type

/-- The answer behind a successful one among the possible answers. -/
def successful? (arguments : List SourceType) (peeled : List (Option SourceType)) :
    Option SourceType :=
  ((arguments.zip peeled).find? fun pair =>
    Builtin.isErasedWrapper pair.1.name && !pair.1.arguments.isEmpty).bind Prod.snd

mutual

/-- The type inside wrappers that merely carry it. A list of possible answers stands for its
successful answer, if there is one. -/
def peel : SourceType → Option SourceType
  | ⟨name, display, scope, isGeneric, arguments, isCollection, isNullable, isEnum, members,
      properties, summary⟩ =>
    let peeled := peelAll arguments
    match Builtin.isErasedWrapper name, peeled with
    | true, [inner] => inner
    | _, _ =>
      if Builtin.isResultUnion name then successful? arguments peeled
      else some ⟨name, display, scope, isGeneric, arguments, isCollection, isNullable, isEnum,
        members, properties, summary⟩

/-- The types inside the wrappers of several types. -/
def peelAll : List SourceType → List (Option SourceType)
  | [] => []
  | type :: rest => peel type :: peelAll rest

end

/-- Tells whether a type is binary content. -/
def isBinary (type : SourceType) : Bool :=
  Builtin.primitive? type.name == some "Blob"

/-- Tells whether a type without wrappers says what an operation answers with. -/
def isInformative (type : SourceType) : Bool :=
  if type.arguments.isEmpty && Builtin.isEmptyResult type.name then false
  else isBinary type || (Builtin.primitive? type.name).isNone

/-- What a return type says about the answer of an operation. -/
def ofReturnType? (type : SourceType) : Option SourceType :=
  (peel type).filter isInformative

/-- The type that an operation answers with; the first source that names a type counts. -/
def resolve? (decorations : List Decoration) (metadata : List ChainCall)
    (chains : List CallChain) (returnType : Option SourceType) : Option SourceType :=
  ((declared? decorations metadata).or (dispatched? chains)).or (returnType.bind ofReturnType?)

end TypedClient.Response
