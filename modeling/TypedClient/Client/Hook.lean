/-
This file renders the hooks around client functions: queries for operations that only read, and
mutations for all others.
-/

import TypedClient.Client.Function

namespace TypedClient

namespace ClientFunction

def factoryLines (function : ClientFunction) (parameters factory : String)
    (options : List String) : List String :=
  let opened := (Draft.comment {} function.endpoint.summary).openBlock
    ("export function " ++ Name.hook function.name ++ "(" ++ parameters ++ ") \x7b")
  let call := opened.openBlock ("return " ++ factory ++ "(\x7b")
  (((call.addLines options).closeBlock "\x7d);").closeBlock "\x7d").lines

/-- The key under which the answer of a query is kept. -/
def queryKey (groupStem : String) (function : ClientFunction) : String :=
  ", ".intercalate (Name.quote groupStem :: Name.quote function.name ::
    function.arguments.map Argument.identifier)

def queryLines (groupStem factory : String) (function : ClientFunction) : List String :=
  function.factoryLines function.parameterList factory
    ["queryKey: [" ++ queryKey groupStem function ++ "],",
      "queryFn: () => " ++ function.name ++ "(" ++ function.callArguments ++ "),"]

/-- The line of the function that a mutation calls. Several arguments come as one object. -/
def mutationLine (function : ClientFunction) : String :=
  match function.arguments with
  | [] => "mutationFn: () => " ++ function.name ++ "(),"
  | [single] =>
    "mutationFn: (" ++ single.declaration ++ ") => " ++ function.name ++ "(" ++
      single.identifier ++ "),"
  | several =>
    "mutationFn: (variables: \x7b " ++ "; ".intercalate (several.map Argument.declaration) ++
      " \x7d) => " ++ function.name ++ "(" ++
      ", ".intercalate (several.map fun argument => "variables." ++ argument.identifier) ++ "),"

def mutationLines (factory : String) (function : ClientFunction) : List String :=
  function.factoryLines "" factory [function.mutationLine]

def hookLines (framework : Framework) (groupStem : String) (function : ClientFunction) :
    List String :=
  if function.endpoint.verb.isRead then function.queryLines groupStem framework.queryFactory
  else function.mutationLines framework.mutationFactory

/-- The imports of the hook around a function. -/
def hookImports (context : Context) (groupStem package : String) (function : ClientFunction) :
    List ImportedName :=
  let framework := context.options.framework
  let factory := if function.endpoint.verb.isRead then framework.queryFactory
    else framework.mutationFactory
  ⟨ClientDirectory.api.specifier groupStem, function.name, false⟩ ::
    (function.arguments.flatMap fun argument => context.outerTypeImports argument.type) ++
    [⟨package, factory, false⟩]

end ClientFunction

namespace EndpointGroup

/-- The file of the hooks of a group, where the framework has a package for them. -/
def hookArtifact? (context : Context) (group : EndpointGroup) : Option Artifact :=
  let framework := context.options.framework
  let functions := group.functions context
  framework.queryPackage?.map fun package =>
    { kind := .binding
      path := ClientDirectory.hooks.path group.stem
      module :=
        { directive := if framework == .nextjs then some "'use client';" else none
          imports := (Imports.collect (functions.flatMap
            (ClientFunction.hookImports context group.stem package))).statements
          exports := functions.map fun function => Name.hook function.name
          body := separated (functions.map (ClientFunction.hookLines framework group.stem)) } }

end EndpointGroup

end TypedClient
