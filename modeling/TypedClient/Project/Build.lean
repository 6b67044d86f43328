/-
This file builds the client of a project: the files are made first, and nothing is written unless
the run is a success.
-/

import TypedClient.Project.Delivery
import TypedClient.Project.Run

namespace TypedClient

/-- What stops a build. -/
inductive BuildError
  | run (error : RunError)
  | write (error : WriteError)
  deriving DecidableEq, Repr, Inhabited

def BuildError.message : BuildError → String
  | run error => error.message
  | write error => error.message

/-- What a build has made. -/
structure Build where
  artifacts : List Artifact
  report : RunReport
  /-- What has been written; nothing if the run is a failure. -/
  summary : Option WriteSummary
  deriving Repr, Inhabited

def Project.build (project : Project) (dryRun clean cancelled : Bool) :
    DiskAction BuildError Build := do
  let made := project.generate (← get) cancelled
  let artifacts ← DiskAction.ofExcept (made.value.mapError .run)
  let report := project.report made.diagnostics
  if report.isFailure then return ⟨artifacts, report, none⟩
  let delivery : Delivery := { root := project.output, dryRun := dryRun, clean := clean }
  let summary ← (delivery.write (artifacts.map Artifact.outputFile)).adaptExcept .write
  return ⟨artifacts, report, some summary⟩

end TypedClient
