/-
This file makes the index modules, which export the other modules of a client again.
-/

import TypedClient.Client.Artifact

namespace TypedClient.Index

/-- The modules of a directory that some paths name: the stems of its files, apart from its
index. -/
def stemsIn (paths : List (List String)) (directory : ClientDirectory) : List String :=
  Text.sortedNames (paths.filterMap fun path =>
    match path with
    | [found, file] =>
      if found == directory.name then (Text.beforeEnd? ".ts" file).filter (· != "index") else none
    | _ => none)

/-- The directories in the order of their names. -/
def directories : List ClientDirectory := [.api, .hooks, .server, .types, .validation]

/-- The directories with at least one module. -/
def populated (paths : List (List String)) : List ClientDirectory :=
  directories.filter fun directory => !(stemsIn paths directory).isEmpty

def directoryArtifact (paths : List (List String)) (directory : ClientDirectory) : Artifact :=
  { kind := .index
    path := directory.path "index"
    module := { reExports := (stemsIn paths directory).map fun stem => ⟨"./" ++ stem, none⟩ } }

/-- What the index of the root exports again. The names of the server variants are those of the
client functions, so they come under a name of their own. -/
def rootExports (paths : List (List String)) : List ReExport :=
  let client := if paths.contains ["client.ts"] then ["client"] else []
  let shown := ((populated paths).filter fun directory => directory != .server).map
    ClientDirectory.name
  (Text.sorted (client ++ shown)).map (fun stem => ⟨"./" ++ stem, none⟩) ++
    (if (populated paths).contains .server then [⟨"./server", some "server"⟩] else [])

/-- The index modules for the files at some paths. -/
def artifacts (paths : List (List String)) : List Artifact :=
  (populated paths).map (directoryArtifact paths) ++
    (if (rootExports paths).isEmpty then []
    else [{ kind := .index, path := ⟨none, "index"⟩, module := { reExports := rootExports paths } }])

end TypedClient.Index
