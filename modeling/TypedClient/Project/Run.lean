/-
This file runs a project on a disk: it reads the sources, extracts the contract, and makes the
client.
-/

import TypedClient.Backend.Extraction
import TypedClient.Client.Package
import TypedClient.Project.Basic
import TypedClient.Project.Report
import TypedClient.Project.SourceSearch

namespace TypedClient

/-- What stops a run. -/
inductive RunError
  | extraction (error : ExtractionError)
  | generation (error : GenerationError)
  deriving DecidableEq, Repr, Inhabited

def RunError.message : RunError → String
  | extraction error => error.message
  | generation error => error.message

namespace Project

/-- The warning that a source file cannot be read. -/
def unreadableSource (path : String) (error : FileError) : Diagnostic :=
  { severity := .warning
    message := error.readingText path
    file := some path }

/-- The source file at a path; one that cannot be read is reported. -/
def source (disk : Disk) (path : String) : Reported (Option SourceText) :=
  match disk.read path with
  | .ok text => ⟨some ⟨path, text⟩, []⟩
  | .error error => ⟨none, [unreadableSource path error]⟩

/-- The warning that there are no source files. -/
def nothingFound : Diagnostic :=
  { severity := .warning
    message := "no C# sources found under the configured projects" }

def sources (project : Project) (disk : Disk) : Reported (List SourceText) := do
  let paths ← SourceSearch.find disk project.roots
  if paths.isEmpty then Reported.report nothingFound
  let found ← Reported.each (source disk) paths
  return found.filterMap id

/-- The contract of a project, without what it excludes. -/
def extract (project : Project) (disk : Disk) (cancelled : Bool) :
    Reported (Except ExtractionError Contract) := do
  let extracted ← Extraction.extract (← project.sources disk) cancelled
  return extracted.map project.exclusions.apply

def generate (project : Project) (disk : Disk) (cancelled : Bool) :
    Reported (Except RunError (List Artifact)) := do
  match ← project.extract disk cancelled with
  | .error error => return .error (.extraction error)
  | .ok contract =>
    let client ← Package.generate contract project.typeOverrides project.options cancelled
    return client.mapError .generation

def report (project : Project) (diagnostics : List Diagnostic) : RunReport :=
  ⟨diagnostics, project.strict⟩

end Project

end TypedClient
