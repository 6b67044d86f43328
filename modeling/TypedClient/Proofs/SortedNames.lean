/-
This file shows what ordered names without repetitions are: each name that was given, once.
-/

import Mathlib.Data.List.Induction
import Mathlib.Data.List.Nodup
import Mathlib.Data.List.Perm.Basic
import Mathlib.Data.String.Basic
import TypedClient.Text.Order

namespace TypedClient.Text

/-- One more element is left behind the others where it is new. -/
theorem eraseDups_concat {Element : Type} [BEq Element] [LawfulBEq Element] (before : List Element)
    (element : Element) : (before ++ [element]).eraseDups =
      if element ∈ before then before.eraseDups else before.eraseDups ++ [element] := by
  rw [List.eraseDups_append]
  by_cases known : element ∈ before
  · simp [List.removeAll, known]
  · simp [List.removeAll, known, List.eraseDups_cons]

/-- No element is left twice. -/
theorem nodup_eraseDups {Element : Type} [BEq Element] [LawfulBEq Element]
    (elements : List Element) : elements.eraseDups.Nodup := by
  induction elements using List.reverseRecOn with
  | nil => simp
  | append_singleton before element inductionHypothesis =>
      rw [eraseDups_concat]
      split_ifs with known
      · exact inductionHypothesis
      · rw [← List.concat_eq_append]
        exact inductionHypothesis.concat (by simpa using known)

/-- What is left of the same elements differs at most in its order. -/
theorem eraseDups_perm {Element : Type} [BEq Element] [LawfulBEq Element]
    {left right : List Element} (same : ∀ element, element ∈ left ↔ element ∈ right) :
    left.eraseDups.Perm right.eraseDups := by
  rw [List.perm_ext_iff_of_nodup (nodup_eraseDups left) (nodup_eraseDups right)]
  simpa only [List.mem_eraseDups] using same

/-- Elements are in one order once they are sorted, however they were given, if no two of them tie. -/
theorem mergeSort_eq_of_perm {Element : Type} {before : Element → Element → Bool}
    (transitive : ∀ first second third, before first second → before second third →
      before first third)
    (total : ∀ first second, before first second || before second first)
    {left right : List Element} (perm : left.Perm right)
    (noTies : ∀ first ∈ left, ∀ second ∈ left, before first second → before second first →
      first = second) :
    left.mergeSort before = right.mergeSort before := by
  have same : (left.mergeSort before).Perm (right.mergeSort before) :=
    (List.mergeSort_perm left before).trans (perm.trans (List.mergeSort_perm right before).symm)
  refine same.eq_of_pairwise ?_ (List.pairwise_mergeSort transitive total left)
    (List.pairwise_mergeSort transitive total right)
  intro first second inLeft inRight inFront behind
  exact noTies first (List.mem_mergeSort.mp inLeft) second
    (List.mem_mergeSort.mp (same.mem_iff.mpr inRight)) inFront behind

/-- Bringing names in order changes nothing but the order. -/
theorem mem_sorted {name : String} {names : List String} : name ∈ sorted names ↔ name ∈ names :=
  List.mem_mergeSort

/-- The names are those that were given. -/
theorem mem_sortedNames {name : String} {names : List String} :
    name ∈ sortedNames names ↔ name ∈ names := by
  rw [sortedNames, mem_sorted, List.mem_eraseDups]

theorem nodup_sortedNames (names : List String) : (sortedNames names).Nodup :=
  (List.mergeSort_perm _ _).nodup_iff.mpr (nodup_eraseDups names)

theorem atMost_iff {left right : String} : atMost left right = true ↔ left ≤ right := by
  rw [atMost, Bool.not_eq_true', decide_eq_false_iff_not, not_lt]

theorem atMost_trans (first second third : String) :
    atMost first second → atMost second third → atMost first third := by
  simp only [atMost_iff]
  exact le_trans

theorem atMost_total (first second : String) : atMost first second || atMost second first := by
  rw [Bool.or_eq_true, atMost_iff, atMost_iff]
  exact le_total first second

theorem pairwise_sorted (names : List String) : (sorted names).Pairwise (· ≤ ·) :=
  (List.pairwise_mergeSort atMost_trans atMost_total names).imp atMost_iff.mp

theorem pairwise_sortedNames (names : List String) : (sortedNames names).Pairwise (· < ·) :=
  ((pairwise_sorted names.eraseDups).and (nodup_sortedNames names)).imp fun both =>
    lt_of_le_of_ne both.1 both.2

theorem sortedNames_congr {left right : List String}
    (same : ∀ name, name ∈ left ↔ name ∈ right) : sortedNames left = sortedNames right := by
  refine mergeSort_eq_of_perm atMost_trans atMost_total (eraseDups_perm same) ?_
  intro first _ second _ before behind
  exact le_antisymm (atMost_iff.mp before) (atMost_iff.mp behind)

end TypedClient.Text
