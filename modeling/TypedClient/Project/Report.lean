/-
This file judges a run by its diagnostics.
-/

import TypedClient.Diagnostic

namespace TypedClient

/-- The diagnostics of a run, and whether warnings count as errors. -/
structure RunReport where
  diagnostics : List Diagnostic := []
  strict : Bool := false
  deriving DecidableEq, Repr, Inhabited

namespace RunReport

/-- The number of diagnostics of a severity. -/
def count (report : RunReport) (severity : Severity) : Nat :=
  report.diagnostics.countP fun diagnostic => diagnostic.severity == severity

/-- Tells whether the run has failed. -/
def isFailure (report : RunReport) : Bool :=
  report.count .error > 0 || (report.strict && report.count .warning > 0)

end RunReport

end TypedClient
