/-
This file defines projects: what a client is made from, where it goes, and how. A project is read
from a settings file, and relative paths in it start from the directory of that file.
-/

import TypedClient.Disk.Access
import TypedClient.Project.Exclusion
import TypedClient.Project.Settings
import TypedClient.Web.Address

namespace TypedClient

/-- A project. -/
structure Project where
  /-- The directory that the client is written to. -/
  output : String
  packageName : String
  /-- The directories with the sources of the backend. -/
  roots : List String
  /-- Warnings count as errors. -/
  strict : Bool := false
  options : Options := {}
  exclusions : Exclusions := {}
  typeOverrides : List (String × String) := []
  deriving DecidableEq, Repr, Inhabited

/-- Why there is no project. -/
inductive ProjectError
  | unreadable (path : String) (error : FileError)
  /-- The settings file is no document, or a setting has a value of the wrong kind. -/
  | malformed
  | missing (setting : String)
  | baseUrl (address reason : String)
  deriving DecidableEq, Repr, Inhabited

def ProjectError.message : ProjectError → String
  | unreadable path error => error.readingText path
  | malformed => "the settings are malformed"
  | missing setting => "missing required setting '" ++ setting ++ "'"
  | baseUrl address reason => "invalid base_url '" ++ address ++ "': " ++ reason

namespace Project

def settingsFile : String := "clientgen.toml"

/-- The project of some settings, with relative paths behind a base. Without roots, the base is the
only one. -/
def ofSettings (settings : Settings) (base : String) : Except ProjectError Project := do
  let output ← match settings.outputPath with
    | some path => .ok path
    | none => .error (.missing "output_path")
  let packageName ← match settings.packageName with
    | some name =>
      if Text.trimmed name == "" then .error (.missing "package_name") else .ok name
    | none => .error (.missing "package_name")
  let baseUrl := settings.baseUrl.getD ""
  if let some reason := Web.Address.refusal? baseUrl then throw (.baseUrl baseUrl reason)
  return {
    output := Path.join base output
    packageName := packageName
    roots := if settings.roots.isEmpty then [base] else settings.roots.map (Path.join base)
    strict := settings.strict
    options :=
      { framework := settings.framework, features := settings.features, baseUrl := baseUrl }
    exclusions := ⟨settings.excludedEndpoints, settings.excludedTypes⟩
    typeOverrides := settings.typeOverrides }

/-- The project of a settings text, with relative paths behind a base. -/
def read (source base : String) : Except ProjectError Project :=
  match Settings.read? source with
  | some settings => ofSettings settings base
  | none => .error .malformed

/-- The project of a settings file on a disk. -/
def load (disk : Disk) (path : String) : Except ProjectError Project :=
  match disk.read path with
  | .error error => .error (.unreadable path error)
  | .ok source => read source ((Path.parent? path).getD ".")

end Project

end TypedClient
