/-
This file defines diagnostics and computations that report them. A report never stops a
computation.
-/

namespace TypedClient

/-- How grave a diagnostic is. -/
inductive Severity
  | info
  | warning
  | error
  deriving DecidableEq, Repr, Inhabited

namespace Severity

/-- The severities from the mildest to the gravest. -/
def rank : Severity → Nat
  | info => 0
  | warning => 1
  | error => 2

/-- The word for a severity. -/
def label : Severity → String
  | info => "info"
  | warning => "warning"
  | error => "error"

end Severity

/-- A reported problem with the file and the declaration that it belongs to. -/
structure Diagnostic where
  severity : Severity
  message : String
  file : Option String := none
  declaration : Option String := none
  deriving DecidableEq, Repr, Inhabited

namespace Diagnostic

/-- The text of a diagnostic: severity, file, declaration and message, as far as they are
known. -/
def display (diagnostic : Diagnostic) : String :=
  let parts := [some diagnostic.severity.label, diagnostic.file, diagnostic.declaration,
    some diagnostic.message]
  ": ".intercalate (parts.filterMap id)

/-- The order of sorted diagnostics: by severity and then by text. -/
def atMost (left right : Diagnostic) : Bool :=
  left.severity.rank < right.severity.rank ||
    (left.severity == right.severity && !decide (right.display < left.display))

/-- Keeps one of several neighbouring infos that are equal. -/
def mergeInfos : List Diagnostic → List Diagnostic
  | [] => []
  | diagnostic :: rest =>
    match mergeInfos rest with
    | next :: others =>
      if diagnostic.severity == .info && diagnostic == next then next :: others
      else diagnostic :: next :: others
    | [] => [diagnostic]

/-- Diagnostics in sorted order, with each info once. -/
def sorted (diagnostics : List Diagnostic) : List Diagnostic :=
  mergeInfos (diagnostics.mergeSort atMost)

end Diagnostic

/-- A value together with what was reported on the way to it. -/
structure Reported (Value : Type) where
  value : Value
  diagnostics : List Diagnostic := []
  deriving Repr

namespace Reported

def map {Value Result : Type} (function : Value → Result) (reported : Reported Value) :
    Reported Result :=
  ⟨function reported.value, reported.diagnostics⟩

/-- Continues with the value; the reports of both parts follow each other. -/
def andThen {Value Result : Type} (reported : Reported Value)
    (next : Value → Reported Result) : Reported Result :=
  let following := next reported.value
  ⟨following.value, reported.diagnostics ++ following.diagnostics⟩

instance : Monad Reported where
  pure value := ⟨value, []⟩
  bind := andThen
  map := map

def report (diagnostic : Diagnostic) : Reported Unit :=
  ⟨(), [diagnostic]⟩

def each {Element Result : Type} (function : Element → Reported Result) :
    List Element → Reported (List Result)
  | [] => ⟨[], []⟩
  | element :: rest =>
    let first := function element
    let others := each function rest
    ⟨first.value :: others.value, first.diagnostics ++ others.diagnostics⟩

end Reported

end TypedClient
