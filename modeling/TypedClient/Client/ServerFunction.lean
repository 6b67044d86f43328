/-
This file renders the variants of the client functions that run on a server only.
-/

import TypedClient.Client.Function

namespace TypedClient

namespace ClientFunction

/-- The lines of the server variant of a function, which calls the function itself. -/
def serverLines (function : ClientFunction) : List String :=
  let opened := (Draft.comment {} function.endpoint.summary).openBlock function.opening
  let body := opened.line ("return api." ++ function.name ++ "(" ++ function.callArguments ++ ");")
  (body.closeBlock "\x7d").lines

end ClientFunction

namespace EndpointGroup

/-- What keeps the server variants out of a browser: a directive, or a module to load. -/
def serverGuard (framework : Framework) : Option String × List ImportStatement :=
  if framework == .nextjs then (some "'use server';", [])
  else (none, [⟨"server-only", .nothing⟩])

/-- The file of the server variants of a group. -/
def serverArtifact (context : Context) (group : EndpointGroup) : Artifact :=
  let functions := group.functions context
  let (directive, loaded) := serverGuard context.options.framework
  let types := Imports.collect
    (functions.flatMap fun function => function.signatureTypes.flatMap context.outerTypeImports)
  { kind := .server
    path := ClientDirectory.server.path group.stem
    module :=
      { directive
        imports := loaded ++
          ⟨ClientDirectory.api.specifier group.stem, .everything "api"⟩ :: types.statements
        exports := functions.map ClientFunction.name
        body := separated (functions.map ClientFunction.serverLines) } }

end EndpointGroup

end TypedClient
