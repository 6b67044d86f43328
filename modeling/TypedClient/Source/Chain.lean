/-
This file collects the fluent chains of calls in code. A chain comes before the chains inside its
receiver, its arguments and their bodies, which come in the order in which they are written.
-/

import TypedClient.Source.Code
import TypedClient.Text.Blank

namespace TypedClient.Source

/-- The links of a chain behind its root: each call and the function that it receives. -/
structure ChainLinks where
  root : String := ""
  links : List (ChainCall × Option Method) := []
  deriving Inhabited

namespace ChainLinks

/-- Adds a call of a function at the end of a chain. -/
def add (before : ChainLinks) (function : Code) (arguments : List Code)
    (method : Option Method) : ChainLinks :=
  let name := function.calledName
  let call : ChainCall :=
    ⟨name.name, name.typeArguments, arguments.map fun code => Text.trimmed code.text⟩
  { before with links := before.links ++ [(call, method)] }

/-- The chain with the name that its value is assigned to. -/
def chain (made : ChainLinks) (boundTo : Option String) : CallChain :=
  { root := made.root
    boundTo
    calls := made.links.map Prod.fst
    functions := made.links.zipIdx.filterMap fun ((_, method), index) => method.map (index, ·) }

end ChainLinks

namespace Code

mutual

/-- A function argument as a method without a name. -/
def asMethod? : Code → Option Method
  | argument _ value => asMethod? value
  | function _ modifiers decorations parameters _ body =>
    some { modifiers, decorations, parameters, chains := chains none false body }
  | _ => none

/-- The last function among arguments, as a method. -/
def lastMethod? : List Code → Option Method
  | [] => none
  | code :: rest => (lastMethod? rest).or (asMethod? code)

def linksUpTo : Code → ChainLinks
  | call _ callee arguments =>
    (linksBefore callee).add callee arguments (lastMethod? arguments)
  | code => { root := code.text }

def linksBefore : Code → ChainLinks
  | access _ receiver _ => linksUpTo receiver
  | _ => {}

/-- The chains in code whose value is assigned to `bound`. A call that is the receiver of a
member is part of a longer chain or of no chain. -/
def chains (bound : Option String) (isReceiver : Bool) : Code → List CallChain
  | call _ callee arguments =>
    let inner := chains none false callee ++ allChains none arguments
    if isReceiver then inner
    else
      ((linksBefore callee).add callee arguments (lastMethod? arguments)).chain bound :: inner
  | access _ receiver _ => chains none true receiver
  | named _ _ => []
  | enclosed _ inner => chains bound false inner
  | binding _ target parts => allChains target parts
  | function _ _ _ _ header body => allChains none header ++ chains none false body
  | argument _ value => chains none false value
  | compound _ parts => allChains none parts
  | sequence parts => allChains none parts

def allChains (bound : Option String) : List Code → List CallChain
  | [] => []
  | code :: rest => chains bound false code ++ allChains bound rest

end

end Code

end TypedClient.Source
