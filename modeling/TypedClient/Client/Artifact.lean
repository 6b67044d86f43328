/-
This file defines the files of a generated client. A file is a module with imports, exports and
declarations, and its text follows from them.
-/

import TypedClient.Client.Draft
import TypedClient.Client.Import
import TypedClient.Path

namespace TypedClient

/-- What a generated file holds. -/
inductive ArtifactKind
  | type
  | enumeration
  | client
  | binding
  | schema
  | server
  | index
  | support
  deriving DecidableEq, Repr, Inhabited

namespace ArtifactKind

def name : ArtifactKind → String
  | type => "Type"
  | enumeration => "Enum"
  | client => "Client"
  | binding => "Binding"
  | schema => "Schema"
  | server => "Server"
  | index => "Barrel"
  | support => "Runtime"

end ArtifactKind

/-- A statement that exports all names of another module again. -/
structure ReExport where
  specifier : String
  /-- The one name under which the names are exported, where there is one. -/
  sharedName : Option String := none
  deriving DecidableEq, Repr, Inhabited

namespace ReExport

def text (statement : ReExport) : String :=
  match statement.sharedName with
  | some sharedName => "export * as " ++ sharedName ++ " from '" ++ statement.specifier ++ "';"
  | none => "export * from '" ++ statement.specifier ++ "';"

end ReExport

/-- A module of the generated client. -/
structure ClientModule where
  /-- The directive in front of all else. -/
  directive : Option String := none
  imports : List ImportStatement := []
  reExports : List ReExport := []
  /-- The names that the declarations export. -/
  exports : List String := []
  /-- The lines of the declarations. -/
  body : List String := []
  deriving Repr, Inhabited

namespace ClientModule

def paragraph (lines : List String) : List String :=
  if lines.isEmpty then [] else lines ++ [""]

/-- The lines of a module: directive, imports, exports of other modules and declarations. -/
def lines (module : ClientModule) : List String :=
  paragraph module.directive.toList ++
    paragraph (module.imports.map ImportStatement.text) ++
    module.reExports.map ReExport.text ++ module.body

def text (module : ClientModule) : String :=
  Draft.textOf module.lines

end ClientModule

/-- The place of a generated file: a directory below the root, or the root, and the name of the
file without its extension. -/
structure ModulePath where
  directory : Option String := none
  stem : String
  deriving DecidableEq, Repr, Inhabited

namespace ModulePath

def text (path : ModulePath) : String :=
  match path.directory with
  | some directory => directory ++ "/" ++ path.stem ++ ".ts"
  | none => path.stem ++ ".ts"

end ModulePath

/-- A generated file. -/
structure Artifact where
  kind : ArtifactKind
  path : ModulePath
  module : ClientModule
  deriving Repr, Inhabited

namespace Artifact

/-- The text of a file. -/
def contents (artifact : Artifact) : String :=
  artifact.module.text

end Artifact

/-- The directories of a generated client. -/
inductive ClientDirectory
  | types
  | api
  | validation
  | hooks
  | server
  deriving DecidableEq, Repr, Inhabited

namespace ClientDirectory

def all : List ClientDirectory := [types, api, validation, hooks, server]

def name : ClientDirectory → String
  | types => "types"
  | api => "api"
  | validation => "validation"
  | hooks => "hooks"
  | server => "server"

def path (directory : ClientDirectory) (stem : String) : ModulePath :=
  ⟨some directory.name, stem⟩

/-- The specifier by which a module in another directory imports a module of this one. -/
def specifier (directory : ClientDirectory) (stem : String) : String :=
  "../" ++ directory.name ++ "/" ++ stem

end ClientDirectory

end TypedClient
