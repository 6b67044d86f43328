/-
This file defines the choices that a generated client depends on.
-/

namespace TypedClient

/-- The framework that the hooks of a client are made for. -/
inductive Framework
  | vanilla
  | react
  | nextjs
  | vue
  | svelte
  deriving DecidableEq, Repr, Inhabited

namespace Framework

def all : List Framework := [vanilla, react, nextjs, vue, svelte]

def name : Framework → String
  | vanilla => "vanilla"
  | react => "react"
  | nextjs => "nextjs"
  | vue => "vue"
  | svelte => "svelte"

def ofName? (text : String) : Option Framework :=
  all.find? fun framework => framework.name == text

def queryPackage? : Framework → Option String
  | vanilla => none
  | react => some "@tanstack/react-query"
  | nextjs => some "@tanstack/react-query"
  | vue => some "@tanstack/vue-query"
  | svelte => some "@tanstack/svelte-query"

/-- The function of the package that makes a query. -/
def queryFactory : Framework → String
  | svelte => "createQuery"
  | _ => "useQuery"

/-- The function of the package that makes a mutation. -/
def mutationFactory : Framework → String
  | svelte => "createMutation"
  | _ => "useMutation"

end Framework

/-- The optional parts of a client. -/
structure Features where
  /-- Schemas for requests, and their use in client functions. -/
  validation : Bool := true
  /-- Hooks around client functions. -/
  bindings : Bool := true
  /-- Variants of the client functions that run on a server only. -/
  serverVariants : Bool := false
  deriving DecidableEq, Repr, Inhabited

/-- The choices for a client. -/
structure Options where
  framework : Framework := .vanilla
  features : Features := {}
  /-- The address in front of all routes. -/
  baseUrl : String := ""
  deriving DecidableEq, Repr, Inhabited

/-- Tells whether the client has hooks: they are wanted, and the framework has a package for
them. -/
def Options.emitsBindings (options : Options) : Bool :=
  options.features.bindings && options.framework.queryPackage?.isSome

end TypedClient
