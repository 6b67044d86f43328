/-
This file shows which components a path has that is made of names with slashes between them.
-/

import Mathlib.Data.List.Basic
import TypedClient.Path
import TypedClient.Proofs.Pieces

namespace TypedClient.Path

/-- A text that names a file or directory by itself. -/
structure IsFileName (name : String) : Prop where
  whole : ∀ c ∈ name.toList, c ≠ '/'
  nonempty : name ≠ ""
  notCurrent : name ≠ "."
  notParent : name ≠ ".."

/-- A text without slashes is one piece of the path that it is joined into. -/
theorem pieces_intercalate {names : List String} (some : names ≠ [])
    (whole : ∀ name ∈ names, ∀ c ∈ name.toList, c ≠ '/') :
    (Text.splitAt '/' ("/".intercalate names).toList).map String.ofList = names := by
  have uncut {name : String} (slashless : ∀ c ∈ name.toList, c ≠ '/') :
      ∀ c ∈ name.toList, (c == '/') = false := by
    simpa using slashless
  induction names with
  | nil => exact absurd rfl some
  | cons name rest inductionHypothesis =>
      obtain ⟨here, later⟩ := List.forall_mem_cons.mp whole
      cases rest with
      | nil => simp [Text.splitAt, Text.splitWhere_of_uncut (uncut here)]
      | cons next rest =>
          have behind := inductionHypothesis (by simp) later
          have text : ("/".intercalate (name :: next :: rest)).toList =
              name.toList ++ '/' :: ("/".intercalate (next :: rest)).toList := by
            simp [String.intercalate_cons_cons]
          rw [text, Text.splitAt, Text.splitWhere_append_cons (uncut here) (by simp),
            List.map_cons, String.ofList_toList]
          exact congrArg _ behind

/-- A path whose first piece is not empty does not begin at the root. -/
theorem isAbsolute_intercalate {first : String} (nonempty : first ≠ "")
    (whole : ∀ c ∈ first.toList, c ≠ '/') (rest : List String) :
    isAbsolute ("/".intercalate (first :: rest)) = false := by
  have text : ∃ behind, ("/".intercalate (first :: rest)).toList = first.toList ++ behind := by
    cases rest with
    | nil => exact ⟨[], by simp⟩
    | cons next rest => exact ⟨_, by simp only [String.intercalate_cons_cons,
        String.append_assoc, String.toList_append]; rfl⟩
  obtain ⟨behind, text⟩ := text
  cases letters : first.toList with
  | nil => exact absurd (String.toList_eq_nil_iff.mp letters) nonempty
  | cons c others =>
      have notSlash := whole c (by simp [letters])
      simp [isAbsolute, text, letters, notSlash]

/-- The components that pieces stand for behind the beginning of a path. -/
def inner (pieces : List String) : List Component :=
  (pieces.filter fun piece => piece != "" && piece != ".").map fun piece =>
    if piece == ".." then Component.parent else Component.name piece

theorem inner_of_fileNames {names : List String} (files : ∀ name ∈ names, IsFileName name) :
    inner names = names.map Component.name := by
  have all : names.filter (fun piece => piece != "" && piece != ".") = names := by
    rw [List.filter_eq_self]
    intro name member
    simp [(files name member).nonempty, (files name member).notCurrent]
  rw [inner, all]
  apply List.map_congr_left
  intro name member
  simp [(files name member).notParent]

theorem components_of_pieces {path first : String} {rest : List String}
    (relative : isAbsolute path = false)
    (pieces : (Text.splitAt '/' path.toList).map String.ofList = first :: rest) :
    components path =
      if first = "." then .current :: inner (first :: rest) else inner (first :: rest) := by
  simp [components, relative, pieces, inner]

section Components

variable {names : List String} (files : ∀ name ∈ names, IsFileName name)

include files

theorem components_intercalate (some : names ≠ []) :
    components ("/".intercalate names) = names.map Component.name := by
  obtain ⟨first, rest, rfl⟩ := List.exists_cons_of_ne_nil some
  have here := files first List.mem_cons_self
  have pieces := pieces_intercalate some fun name member => (files name member).whole
  rw [components_of_pieces (isAbsolute_intercalate here.nonempty here.whole rest) pieces,
    if_neg here.notCurrent, inner_of_fileNames files]

/-- A point in front of names is a component of its own. -/
theorem components_current :
    components ("/".intercalate ("." :: names)) = .current :: names.map Component.name := by
  have whole : ∀ c ∈ ".".toList, c ≠ '/' := by simp
  have pieces := pieces_intercalate (List.cons_ne_nil "." names) (List.forall_mem_cons.mpr
    ⟨whole, fun name member => (files name member).whole⟩)
  rw [components_of_pieces (isAbsolute_intercalate (by decide) whole names) pieces, if_pos rfl]
  exact congrArg _ (inner_of_fileNames files)

/-- Two points in front of names are a component of their own. -/
theorem components_parent :
    components ("/".intercalate (".." :: names)) = .parent :: names.map Component.name := by
  have whole : ∀ c ∈ "..".toList, c ≠ '/' := by simp
  have pieces := pieces_intercalate (List.cons_ne_nil ".." names) (List.forall_mem_cons.mpr
    ⟨whole, fun name member => (files name member).whole⟩)
  rw [components_of_pieces (isAbsolute_intercalate (by decide) whole names) pieces,
    if_neg (by decide)]
  exact congrArg _ (inner_of_fileNames files)

end Components

end TypedClient.Path
