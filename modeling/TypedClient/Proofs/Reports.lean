/-
This file shows what a computation reports that treats the elements of a list one by one.
-/

import TypedClient.Diagnostic

namespace TypedClient.Reported

variable {Element Result : Type} (function : Element → Reported Result) (elements : List Element)

/-- The elements of a list are treated one by one. -/
theorem value_each : (each function elements).value = elements.map fun element =>
    (function element).value := by
  induction elements with
  | nil => rfl
  | cons element rest inductionHypothesis => rw [each, List.map_cons, inductionHypothesis]

/-- What is reported about the elements of a list follows each other. -/
theorem diagnostics_each : (each function elements).diagnostics = elements.flatMap fun element =>
    (function element).diagnostics := by
  induction elements with
  | nil => rfl
  | cons element rest inductionHypothesis => rw [each, List.flatMap_cons, inductionHypothesis]

end TypedClient.Reported
