/-
This file shows that paths are in a linear order. Hence equal paths are neighbours once paths are
in order, and a look at neighbours finds every collision.
-/

import Mathlib.Data.List.Lex
import Mathlib.Data.Prod.Lex
import Mathlib.Data.String.Basic
import TypedClient.Client.Package

namespace TypedClient.Path

namespace Component

/-- The place of a component in the order: first its kind counts, then its text. -/
def key (component : Component) : ℕ ×ₗ String :=
  toLex (component.rank, component.text)

/-- Different components have different places. -/
theorem key_injective : Function.Injective key := by
  intro left right same
  have both := toLex_inj.mp same
  cases left <;> cases right <;> simp_all [rank, text]

/-- A component comes before another exactly where its place does. -/
theorem less_iff {left right : Component} : left.less right = true ↔ left.key < right.key := by
  simp [less, key, Prod.Lex.toLex_lt_toLex]

end Component

/-- The places of the components of a path. -/
def order (path : String) : List (ℕ ×ₗ String) :=
  (components path).map Component.key

/-- The order of component lists is that of the lists of their places. -/
theorem lessComponents_iff (left right : List Component) :
    lessComponents left right = true ↔ left.map Component.key < right.map Component.key := by
  fun_induction lessComponents left right with
  | case1 => simp
  | case2 => simp
  | case3 => simp
  | case4 first firsts second seconds before =>
      simp [List.cons_lt_cons_iff, Component.less_iff.mp before]
  | case5 first firsts second seconds _ behind =>
      have later := Component.less_iff.mp behind
      simp [List.cons_lt_cons_iff, later.not_gt, later.ne']
  | case6 first firsts second seconds notBefore notBehind inductionHypothesis =>
      rw [Component.less_iff, not_lt] at notBefore notBehind
      have same := le_antisymm notBehind notBefore
      simp [inductionHypothesis, same]

theorem atMost_iff {left right : String} : atMost left right = true ↔ order left ≤ order right := by
  rw [atMost, Bool.not_eq_true', ← Bool.not_eq_true, lessComponents_iff, not_lt]
  rfl

/-- Two texts are the same path exactly where their places are the same. -/
theorem same_iff {left right : String} : same left right = true ↔ order left = order right := by
  rw [same, beq_iff_eq, order, order, Component.key_injective.list_map.eq_iff]

theorem atMost_trans (first second third : String) :
    atMost first second → atMost second third → atMost first third := by
  simp only [atMost_iff]
  exact le_trans

theorem atMost_total (first second : String) : atMost first second || atMost second first := by
  rw [Bool.or_eq_true, atMost_iff, atMost_iff]
  exact le_total _ _

theorem pairwise_mergeSort {Element : Type} (path : Element → String) (elements : List Element) :
    (elements.mergeSort fun left right => atMost (path left) (path right)).Pairwise
      fun left right => order (path left) ≤ order (path right) := by
  refine (List.pairwise_mergeSort ?transitive ?total elements).imp atMost_iff.mp
  case transitive =>
    intro first second third
    exact atMost_trans (path first) (path second) (path third)
  case total =>
    intro first second
    exact atMost_total (path first) (path second)

end TypedClient.Path

namespace TypedClient.Package

/-- The place of a file among the files of a client. -/
def place (artifact : Artifact) : List (ℕ ×ₗ String) :=
  Path.order artifact.path.text

/-- No collision is found exactly where no two neighbours have the same place. -/
theorem collision?_eq_none {files : List Artifact} :
    collision? files = none ↔ (files.map place).IsChain (· ≠ ·) := by
  fun_induction collision? files with
  | case1 first second rest same =>
      simp [place, Path.same_iff.mp same]
  | case2 first second rest different inductionHypothesis =>
      rw [Path.same_iff] at different
      simpa [place, different] using inductionHypothesis
  | case3 files short =>
      match files with
      | [] => simp
      | [_] => simp
      | first :: second :: rest => exact absurd rfl (short first second rest)

theorem nodup_of_neighbours {Place : Type} [LinearOrder Place] {places : List Place}
    (inOrder : places.Pairwise (· ≤ ·)) (different : places.IsChain (· ≠ ·)) : places.Nodup := by
  have strict : places.IsChain (· < ·) := by
    induction different with
    | nil => exact .nil
    | singleton place => exact .singleton place
    | cons_cons differs _ inductionHypothesis =>
        obtain ⟨least, later⟩ := List.pairwise_cons.mp inOrder
        exact .cons_cons (lt_of_le_of_ne (least _ List.mem_cons_self) differs)
          (inductionHypothesis later)
  exact (List.isChain_iff_pairwise.mp strict).imp ne_of_lt

theorem artifacts_inOrder (context : Context) :
    ((artifacts context).map place).Pairwise (· ≤ ·) := by
  rw [List.pairwise_map]
  exact Path.pairwise_mergeSort (fun artifact : Artifact => artifact.path.text) _

/-- A client exists exactly where the places of all its files differ. -/
theorem generate_eq_ok {contract : Contract} {overrides : List (String × String)}
    {options : Options} {files : List Artifact} :
    (generate contract overrides options false).value = .ok files ↔
      artifacts (Context.ofContract contract overrides options) = files ∧
        (files.map place).Nodup := by
  have inOrder := artifacts_inOrder (Context.ofContract contract overrides options)
  simp only [generate, Bool.false_eq_true, ↓reduceIte]
  cases found : collision? (artifacts (Context.ofContract contract overrides options)) with
  | some error =>
      simp only [reduceCtorEq, false_iff, not_and]
      rintro rfl different
      have none := collision?_eq_none.mpr (List.Pairwise.isChain different)
      rw [none] at found
      exact absurd found (by simp)
  | none =>
      have different := nodup_of_neighbours inOrder (collision?_eq_none.mp found)
      simp only [Except.ok.injEq]
      constructor
      · rintro rfl
        exact ⟨rfl, different⟩
      · exact And.left

end TypedClient.Package
