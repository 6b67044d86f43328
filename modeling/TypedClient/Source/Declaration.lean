/-
This file defines the declarations of a source file as they are nested, and the model of the file
that they make up.
-/

import TypedClient.Backend.Model
import TypedClient.Literal.Constant

namespace TypedClient.Source

/-- A member of an enumeration with the text of its value. -/
structure DeclaredMember where
  name : String
  value : Option String := none
  summary : Option String := none
  deriving DecidableEq, Repr, Inhabited

/-- An enumeration. -/
structure DeclaredEnum where
  name : String
  members : List DeclaredMember := []
  summary : Option String := none
  deriving DecidableEq, Repr, Inhabited

/-- A declaration. -/
inductive Declaration
  /-- A part of a scope. -/
  | scope (name : String) (members : List Declaration)
  /-- The scope of everything behind it in the file. -/
  | fileScope (name : String)
  /-- A container; the methods and properties of `header` come from the members. -/
  | container (header : Container) (members : List Declaration)
  | enumeration (declared : DeclaredEnum)
  | method (declared : Method)
  | property (declared : DeclaredProperty)
  /-- A constructor with the chains of calls in its body. -/
  | constructor (chains : List CallChain)
  /-- A declaration that nothing depends on. -/
  | other
  deriving Repr, Inhabited

namespace DeclaredEnum

/-- The members with their values, and the members whose value is not known. -/
structure Evaluated where
  members : List EnumMember := []
  unresolved : List UnresolvedValue := []
  /-- The value of a next member that states none. -/
  next : Int := 0

/-- The value of an earlier member, which may be qualified with the name of the enumeration. -/
def Evaluated.valueOf? (enumName : String) (earlier : Evaluated) (reference : String) :
    Option Int :=
  let simple := (Text.afterStart? (enumName ++ ".") reference).getD reference
  (earlier.members.find? fun member => member.name == simple).map EnumMember.value

/-- Evaluates one more member. A value that is not known is the one after the value before. -/
def Evaluated.add (enumName : String) (earlier : Evaluated) (member : DeclaredMember) :
    Evaluated :=
  let found := member.value.map fun expression =>
    (expression, Constant.evaluate? (earlier.valueOf? enumName) expression)
  let value := match found with
    | some (_, some value) => value
    | _ => earlier.next
  let unresolved := match found with
    | some (expression, none) =>
      [⟨enumName, member.name, Text.trimmed expression, earlier.next⟩]
    | _ => []
  { members := earlier.members ++ [⟨member.name, value, member.summary⟩]
    unresolved := earlier.unresolved ++ unresolved
    next := Literal.wrap (value + 1) }

/-- The values of all members. -/
def evaluate (declared : DeclaredEnum) : Evaluated :=
  declared.members.foldl (Evaluated.add declared.name) {}

end DeclaredEnum

namespace Declaration

def method? : Declaration → Option Method
  | method declared => some declared
  | _ => none

def property? : Declaration → Option DeclaredProperty
  | property declared => some declared
  | _ => none

def constructor? : Declaration → Option (List CallChain)
  | constructor chains => some chains
  | _ => none

def scopeWithin (outer : Option String) (name : String) : String :=
  match outer with
  | some around => if around.isEmpty then name else around ++ "." ++ name
  | none => name

/-- The containers and enumerations of declarations. -/
structure Gathered where
  containers : List Container := []
  enums : List SourceType := []
  unresolved : List UnresolvedValue := []
  deriving Inhabited

def Gathered.append (first second : Gathered) : Gathered :=
  ⟨first.containers ++ second.containers, first.enums ++ second.enums,
    first.unresolved ++ second.unresolved⟩

mutual

/-- What a declaration gathers inside a scope; without one it is inside the scope of the file. A
container comes before the containers nested in it, which are in the same scope. -/
def gather (fileScope outer : Option String) : Declaration → Gathered
  | scope name members => gatherAll fileScope (some (scopeWithin outer name)) members
  | container header members =>
    let inside := outer.or fileScope
    let own :=
      { header with
        scope := inside
        methods := members.filterMap method?
        properties := members.filterMap property?
        constructors := members.filterMap constructor? }
    Gathered.append { containers := [own] } (gatherAll fileScope inside members)
  | enumeration declared =>
    let evaluated := declared.evaluate
    { enums :=
        [SourceType.enumeration declared.name (outer.or fileScope) evaluated.members
          declared.summary]
      unresolved := evaluated.unresolved }
  | _ => {}

def gatherAll (fileScope outer : Option String) : List Declaration → Gathered
  | [] => {}
  | declaration :: rest =>
    Gathered.append (gather fileScope outer declaration) (gatherAll fileScope outer rest)

end

/-- What the declarations of a file gather; the scope of the file holds from where it stands. -/
def gatherFile (fileScope : Option String) : List Declaration → Gathered
  | [] => {}
  | Declaration.fileScope name :: rest => gatherFile (some name) rest
  | declaration :: rest =>
    Gathered.append (gather fileScope none declaration) (gatherFile fileScope rest)

/-- The model of a file. -/
def model (path : Option String) (declarations : List Declaration) : SourceModel :=
  let gathered := gatherFile none declarations
  { path
    containers := gathered.containers
    enums := gathered.enums
    unresolvedValues := gathered.unresolved }

end Declaration

end TypedClient.Source
