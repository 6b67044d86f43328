/-
This file shows in which order a client function checks, makes and sends a request, and which
argument it checks.
-/

import TypedClient.Client.Function
import TypedClient.Proofs.DraftLines

namespace TypedClient

namespace Argument

/-- The argument belongs to a parameter whose type has a name. -/
def IsTyped (argument : Argument) (typeName : String) : Prop :=
  ∃ parameter, argument.parameter = some parameter ∧ parameter.type.name = typeName

/-- The argument is the first of several whose type has a name. -/
def IsFirstTyped (argument : Argument) (typeName : String) (arguments : List Argument) : Prop :=
  ∃ before behind, arguments = before ++ argument :: behind ∧ argument.IsTyped typeName ∧
    ∀ earlier ∈ before, ¬earlier.IsTyped typeName

end Argument

namespace ClientFunction

open Draft

def sendingLine (function : ClientFunction) : String :=
  "return apiFetch<" ++ function.returns.text ++ ">(" ++ routeCode function.endpoint.route ++
    ", \x7b"

/-- Behind its opening a function checks the request and makes its form, and then it sends the
request with its options. -/
theorem lines_eq (context : Context) (function : ClientFunction) :
    function.lines context =
      commentLines function.endpoint.summary ++ function.opening ::
        (((function.requestCheck? context).map RequestCheck.line).toList ++
          function.formLines).map (indented 1) ++
        indented 1 function.sendingLine :: function.requestLines.map (indented 2) ++
        [indented 1 "\x7d);", "\x7d"] := by
  let opened := (comment {} function.endpoint.summary).openBlock function.opening
  let checks := ((function.requestCheck? context).map RequestCheck.line).toList ++
    function.formLines
  let checked := opened.addLines checks
  obtain ⟨commented, outermost⟩ := lines_comment function.endpoint.summary
  have openedLevel : opened.level = 1 := by
    simp [opened, openBlock, line, outermost]
  have openedLines :
      opened.lines = commentLines function.endpoint.summary ++ [function.opening] := by
    simp [opened, openBlock, line, commented, outermost, indented_zero]
  have checkedLines : checked.lines = commentLines function.endpoint.summary ++
      function.opening :: checks.map (indented 1) := by
    rw [lines_addLines, openedLines, openedLevel, List.append_assoc, List.singleton_append]
  have checkedLevel : checked.level = 1 := by
    rw [level_addLines, openedLevel]
  change ((((checked.openBlock function.sendingLine).addLines
    function.requestLines).closeBlock "\x7d);").closeBlock "\x7d").lines = _
  simp [closeBlock, dedent, openBlock, line, checkedLines, checkedLevel, checks, lines_addLines,
    level_addLines, indented_zero]

theorem requestArgument?_eq_some_iff {function : ClientFunction} {request : SourceType}
    {argument : Argument} :
    function.requestArgument? request = some argument ↔
      argument.IsFirstTyped request.name function.arguments := by
  have typed (other : Argument) :
      (other.parameter.any fun parameter => parameter.type.name == request.name) = true ↔
        other.IsTyped request.name := by
    simp [Argument.IsTyped, Option.any_eq_true]
  simp only [requestArgument?, List.find?_eq_some_iff_append, typed, Argument.IsFirstTyped,
    Bool.not_eq_true', ← Bool.not_eq_true]
  constructor
  · intro ⟨fits, before, behind, parts, others⟩
    exact ⟨before, behind, parts, fits, others⟩
  · intro ⟨before, behind, parts, fits, others⟩
    exact ⟨fits, before, behind, parts, others⟩

/-- The check of a request is for an argument exactly if the type of the request has rules and the
argument is the first with a type of its name. -/
theorem requestCheck?_eq_some_iff {context : Context} {function : ClientFunction}
    {check : RequestCheck} :
    function.requestCheck? context = some check ↔
      function.endpoint.requestType.map SourceType.name = some check.typeName ∧
        context.validates check.typeName = true ∧
        check.argument.IsFirstTyped check.typeName function.arguments := by
  constructor
  · intro checked
    simp only [requestCheck?, Option.bind_eq_bind, Option.bind_eq_some_iff] at checked
    obtain ⟨request, requested, checked⟩ := checked
    split at checked
    case isTrue ruled =>
      obtain ⟨argument, found, made⟩ := Option.bind_eq_some_iff.mp checked
      cases made
      exact ⟨by rw [requested, Option.map_some], ruled, requestArgument?_eq_some_iff.mp found⟩
    case isFalse => contradiction
  · intro ⟨typed, ruled, first⟩
    obtain ⟨typeName, argument⟩ := check
    obtain ⟨request, requested, rfl⟩ := Option.map_eq_some_iff.mp typed
    have found := requestArgument?_eq_some_iff.mpr first
    simp only at ruled
    simp [requestCheck?, requested, ruled, found]

/-- A function makes a check, and nothing else, before it sends its request. -/
structure ChecksFirst (context : Context) (function : ClientFunction) (check : RequestCheck) :
    Prop where
  chosen : function.requestCheck? context = some check
  written : ∃ sending, function.lines context =
    commentLines function.endpoint.summary ++
      [function.opening, indented 1 check.line, indented 1 function.sendingLine] ++ sending

/-- Without fields of a form the chosen check is made first. -/
theorem checksFirst_iff {context : Context} {function : ClientFunction} {check : RequestCheck}
    (unformed : function.argumentsAt .form = []) :
    function.ChecksFirst context check ↔ function.requestCheck? context = some check := by
  constructor
  · exact ChecksFirst.chosen
  · intro chosen
    have formless : function.formLines = [] := by
      rw [formLines, unformed]
      rfl
    refine ⟨chosen, function.requestLines.map (indented 2) ++ [indented 1 "\x7d);", "\x7d"], ?_⟩
    simp [lines_eq, chosen, formless]

end ClientFunction

end TypedClient
