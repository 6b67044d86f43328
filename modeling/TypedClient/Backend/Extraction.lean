/-
This file extracts the contract of a backend from its source files. A file that cannot be read is
reported and left out.
-/

import TypedClient.Backend.Assembly
import TypedClient.Source.Language

namespace TypedClient

/-- A source file. -/
structure SourceText where
  path : String
  text : String
  deriving DecidableEq, Repr, Inhabited

/-- What stops an extraction. That the grammar of the source language cannot be loaded is left out:
the grammar is part of the program here. -/
inductive ExtractionError
  | cancelled
  deriving DecidableEq, Repr, Inhabited

def ExtractionError.message : ExtractionError → String
  | cancelled => "extraction cancelled"

namespace Extraction

/-- The warning that a file cannot be read. -/
def unreadable (path : String) (error : Source.ReadError) : Diagnostic :=
  { severity := .warning
    message := error.message
    file := some path }

/-- What a source file adds to the contract, if it can be read. -/
def analyze (source : SourceText) : Reported (Option FileAnalysis) :=
  match Source.read (some source.path) source.text with
  | .ok file => (Analysis.analyze source.path file).map some
  | .error error => ⟨none, [unreadable source.path error]⟩

/-- The contract that source files make up. -/
def extract (sources : List SourceText) (cancelled : Bool)
    (order : Assembly.TableOrder := .asGiven) : Reported (Except ExtractionError Contract) :=
  if cancelled then ⟨.error .cancelled, []⟩
  else
    (Reported.each analyze sources).andThen fun analyses =>
      (Assembly.assemble (analyses.filterMap id) order).map .ok

end Extraction

end TypedClient
