/-
This file shows that import statements depend only on which names were asked for, and not on the
order or number of the requests: each module has one statement with its names in order, and packages
come before relative modules.
-/

import Mathlib.Data.List.Sort
import TypedClient.Client.Import
import TypedClient.Proofs.SortedNames

namespace TypedClient

open Text

namespace ImportedModule

@[simp] theorem specifier_ask (module : ImportedModule) (asked : ImportedName) :
    (module.ask asked).specifier = module.specifier := rfl

end ImportedModule

namespace Imports

section Requests

variable (requests : List ImportedName) (specifier : String)

def requested : List ImportedName :=
  requests.filter fun request => request.specifier == specifier

/-- What requests ask for from one module. -/
def moduleOf : ImportedModule :=
  { specifier
    names := ((requested requests specifier).map ImportedName.name).eraseDups
    typeOnly := (requested requests specifier).all ImportedName.typeOnly }

/-- The specifiers of the modules that names come from: packages before relative paths, and in
order within both. -/
def specifiers : List String :=
  let all := sortedNames (requests.map ImportedName.specifier)
  all.filter (fun specifier => !isRelative specifier) ++ all.filter isRelative

/-- The statement for the names from one module; it imports types only if each name is needed as
a type only. -/
def statementFor : ImportStatement :=
  { specifier
    clause := .names ((requested requests specifier).all ImportedName.typeOnly)
      (sortedNames ((requested requests specifier).map ImportedName.name)) }

end Requests

/-- First-seen names stay what they are with one more name. -/
theorem addedOnce_eraseDups (texts : List String) (text : String) :
    addedOnce texts.eraseDups text = (texts ++ [text]).eraseDups := by
  rw [addedOnce, eraseDups_concat]
  simp only [List.contains_iff_mem, List.mem_eraseDups]

/-- One more request changes only the module that it asks. -/
theorem moduleOf_concat (before : List ImportedName) (asked : ImportedName) (specifier : String) :
    moduleOf (before ++ [asked]) specifier =
      if asked.specifier = specifier then (moduleOf before specifier).ask asked
      else moduleOf before specifier := by
  by_cases same : asked.specifier = specifier
  · simp [moduleOf, requested, ImportedModule.ask, same, addedOnce_eraseDups]
  · simp [moduleOf, requested, same]

/-- A module that nothing was asked for from is empty. -/
theorem moduleOf_of_absent {requests : List ImportedName} {specifier : String}
    (absent : ∀ request ∈ requests, request.specifier ≠ specifier) :
    moduleOf requests specifier = { specifier } := by
  have none : requested requests specifier = [] := by
    simpa [requested] using absent
  simp [moduleOf, none]

section Table

variable {modules : List ImportedModule} {asked : ImportedName}

/-- What a table holds for a specifier. -/
def entry (modules : List ImportedModule) (specifier : String) : ImportedModule :=
  (modules.find? fun module => module.specifier == specifier).getD { specifier }

theorem specifier_entry (modules : List ImportedModule) (specifier : String) :
    (entry modules specifier).specifier = specifier := by
  unfold entry
  cases found : modules.find? fun module => module.specifier == specifier with
  | none => rfl
  | some module => simpa using List.find?_some found

/-- A module that takes its place in front of another has the smaller specifier. -/
theorem specifier_lt {first : ImportedModule} (other : ¬(first.specifier == asked.specifier) = true)
    (before : atMost asked.specifier first.specifier = true) :
    asked.specifier < first.specifier := by
  rw [atMost_iff] at before
  rw [beq_iff_eq] at other
  exact lt_of_le_of_ne before (Ne.symm other)

/-- A request replaces what an ordered table holds for its specifier, and keeps all else. -/
theorem mem_ask (inOrder : modules.Pairwise fun left right => left.specifier < right.specifier)
    {module : ImportedModule} :
    module ∈ ask asked modules ↔ module ∈ modules ∧ module.specifier ≠ asked.specifier ∨
      module = (entry modules asked.specifier).ask asked := by
  induction modules with
  | nil => simp [ask, entry]
  | cons first rest inductionHypothesis =>
      obtain ⟨behind, inOrder⟩ := List.pairwise_cons.mp inOrder
      rw [ask]
      -- The module is found, or its place in front of a greater one, or the search goes on.
      split_ifs with same before
      · rw [beq_iff_eq] at same
        have others : ∀ other ∈ rest, other.specifier ≠ asked.specifier := fun other member =>
          same ▸ (behind other member).ne'
        have held : entry (first :: rest) asked.specifier = first := by
          simp [entry, same]
        rw [held]
        grind
      · have inFront := specifier_lt same before
        have others : ∀ other ∈ first :: rest, other.specifier ≠ asked.specifier := by
          refine List.forall_mem_cons.mpr ⟨inFront.ne', fun other member => ?_⟩
          exact (inFront.trans (behind other member)).ne'
        have held : entry (first :: rest) asked.specifier = { specifier := asked.specifier } := by
          rw [entry, List.find?_eq_none.mpr (by simpa using others)]
          rfl
        rw [held]
        grind
      · rw [beq_iff_eq] at same
        have held : entry (first :: rest) asked.specifier = entry rest asked.specifier := by
          simp [entry, same]
        rw [held, List.mem_cons, List.mem_cons, inductionHypothesis inOrder]
        grind

/-- A request keeps a table in order. -/
theorem pairwise_ask
    (inOrder : modules.Pairwise fun left right => left.specifier < right.specifier) :
    (ask asked modules).Pairwise fun left right => left.specifier < right.specifier := by
  induction modules with
  | nil => simp [ask]
  | cons first rest inductionHypothesis =>
      obtain ⟨behind, later⟩ := List.pairwise_cons.mp inOrder
      rw [ask]
      split_ifs with same before
      · exact List.pairwise_cons.mpr ⟨behind, later⟩
      · have inFront := specifier_lt same before
        refine List.pairwise_cons.mpr ⟨List.forall_mem_cons.mpr ⟨inFront, ?_⟩, inOrder⟩
        exact fun other member => inFront.trans (behind other member)
      · refine List.pairwise_cons.mpr ⟨?_, inductionHypothesis later⟩
        intro other member
        rcases (mem_ask later).mp member with ⟨inRest, -⟩ | rfl
        · exact behind other inRest
        · rw [ImportedModule.specifier_ask, specifier_entry]
          rwa [atMost_iff, not_le] at before

end Table

/-- A table holds what requests ask for: the modules that they name, each with what they ask for
from it. -/
structure Tabulates (requests : List ImportedName) (modules : List ImportedModule) : Prop where
  inOrder : modules.Pairwise fun left right => left.specifier < right.specifier
  exact : ∀ module, module ∈ modules ↔ module = moduleOf requests module.specifier ∧
    ∃ request ∈ requests, request.specifier = module.specifier

namespace Tabulates

variable {requests : List ImportedName} {modules : List ImportedModule}

theorem entry_eq (tabulates : Tabulates requests modules) (specifier : String) :
    entry modules specifier = moduleOf requests specifier := by
  unfold entry
  cases found : modules.find? fun module => module.specifier == specifier with
  | some module =>
      have same : module.specifier = specifier := by simpa using List.find?_some found
      have held := ((tabulates.exact module).mp (List.mem_of_find?_eq_some found)).1
      rwa [same] at held
  | none =>
      refine (moduleOf_of_absent fun request member same => ?_).symm
      have held := (tabulates.exact (moduleOf requests specifier)).mpr ⟨rfl, request, member, same⟩
      exact List.find?_eq_none.mp found _ held (beq_self_eq_true specifier)

/-- A request is worked into the table. -/
theorem step (tabulates : Tabulates requests modules) (asked : ImportedName) :
    Tabulates (requests ++ [asked]) (ask asked modules) where
  inOrder := pairwise_ask tabulates.inOrder
  exact := by
    intro module
    rw [mem_ask tabulates.inOrder, tabulates.exact, tabulates.entry_eq, moduleOf_concat]
    by_cases same : asked.specifier = module.specifier
    · simp [same]
    · have apart : module ≠ (moduleOf requests asked.specifier).ask asked := fun equal =>
        same (congrArg ImportedModule.specifier equal).symm
      simp [same, Ne.symm same, apart]

end Tabulates

/-- A run through requests leaves a table of what they ask for. -/
theorem tabulates_collect (requests : List ImportedName) :
    Tabulates requests (collect requests).modules := by
  induction requests using List.reverseRecOn with
  | nil => exact ⟨.nil, by simp [collect]⟩
  | append_singleton before asked inductionHypothesis =>
      rw [collect, List.foldl_concat]
      exact inductionHypothesis.step asked

/-- The table in full: the modules in the order of their specifiers, each once. -/
theorem modules_collect (requests : List ImportedName) :
    (collect requests).modules =
      (sortedNames (requests.map ImportedName.specifier)).map (moduleOf requests) := by
  have tabulates := tabulates_collect requests
  have keys : (collect requests).modules.map ImportedModule.specifier =
      sortedNames (requests.map ImportedName.specifier) := by
    refine (List.pairwise_map.mpr tabulates.inOrder).eq_of_mem_iff (pairwise_sortedNames _) ?_
    intro specifier
    rw [mem_sortedNames, List.mem_map, List.mem_map]
    constructor
    · rintro ⟨module, member, rfl⟩
      exact ((tabulates.exact module).mp member).2
    · rintro ⟨request, member, rfl⟩
      exact ⟨_, (tabulates.exact (moduleOf requests request.specifier)).mpr
        ⟨rfl, request, member, rfl⟩, rfl⟩
  rw [← keys, List.map_map]
  conv_lhs => rw [← List.map_id (collect requests).modules]
  exact List.map_congr_left fun module member => ((tabulates.exact module).mp member).1

theorem loaded_collect (requests : List ImportedName) : (collect requests).loaded = [] := by
  induction requests using List.reverseRecOn with
  | nil => rfl
  | append_singleton before asked inductionHypothesis =>
      rw [collect, List.foldl_concat]
      exact inductionHypothesis

section PackagesFirst

variable {modules : List ImportedModule}

theorem packageFirst_trans (first second third : ImportedModule) :
    packageFirst first second → packageFirst second third → packageFirst first third := by
  unfold packageFirst
  cases isRelative second.specifier <;> simp_all

theorem packageFirst_total (first second : ImportedModule) :
    packageFirst first second || packageFirst second first := by
  unfold packageFirst
  cases isRelative first.specifier <;> simp

/-- Where packages come first, the modules are the packages and the relative modules behind them. -/
theorem eq_packages_append_relative
    (inOrder : modules.Pairwise fun left right => packageFirst left right) :
    modules = modules.filter (fun module => !isRelative module.specifier) ++
      modules.filter fun module => isRelative module.specifier := by
  induction modules with
  | nil => rfl
  | cons first rest inductionHypothesis =>
      obtain ⟨behind, later⟩ := List.pairwise_cons.mp inOrder
      cases relative : isRelative first.specifier with
      | false => simp [relative, ← inductionHypothesis later]
      | true =>
          have others : ∀ module ∈ rest, isRelative module.specifier = true := by
            simpa [packageFirst, relative] using behind
          have noPackages : rest.filter (fun module => !isRelative module.specifier) = [] := by
            simpa using others
          simp [relative, List.filter_eq_self.mpr others, noPackages]

/-- Sorting packages to the front is stable: modules of one kind stay in their order. -/
theorem filter_mergeSort_packageFirst (modules : List ImportedModule)
    {wanted : ImportedModule → Bool}
    (alike : ∀ left right, wanted left → wanted right → packageFirst left right) :
    (modules.mergeSort packageFirst).filter wanted = modules.filter wanted := by
  have inOrder : (modules.filter wanted).Pairwise fun left right => packageFirst left right := by
    refine List.pairwise_of_forall_mem_list fun left inLeft right inRight => ?_
    exact alike left right (List.of_mem_filter inLeft) (List.of_mem_filter inRight)
  have stays : ((modules.filter wanted).filter wanted).Sublist
      ((modules.mergeSort packageFirst).filter wanted) :=
    (List.sublist_mergeSort packageFirst_trans packageFirst_total inOrder
      List.filter_sublist).filter wanted
  have sameLength := ((List.mergeSort_perm modules packageFirst).filter wanted).length_eq
  simp only [List.filter_filter, Bool.and_self] at stays
  exact (stays.eq_of_length sameLength.symm).symm

/-- Sorting packages to the front takes both kinds of modules apart. -/
theorem mergeSort_packageFirst (modules : List ImportedModule) :
    modules.mergeSort packageFirst =
      modules.filter (fun module => !isRelative module.specifier) ++
        modules.filter fun module => isRelative module.specifier := by
  rw [eq_packages_append_relative
      (List.pairwise_mergeSort packageFirst_trans packageFirst_total modules),
    filter_mergeSort_packageFirst, filter_mergeSort_packageFirst]
  · intro left right _ isRelative
    simp [packageFirst, isRelative]
  · intro left right isPackage _
    simp only [packageFirst, isPackage, Bool.true_or]

end PackagesFirst

/-- The statements behind a run through requests: one for each specifier, with what was requested
from its module. -/
theorem statements_collect (requests : List ImportedName) :
    (collect requests).statements = (specifiers requests).map (statementFor requests) := by
  rw [statements, loaded_collect, mergeSort_packageFirst, modules_collect, List.filter_map,
    List.filter_map, ← List.map_append, List.map_map]
  rfl

theorem mem_specifiers {requests : List ImportedName} {specifier : String} :
    specifier ∈ specifiers requests ↔ ∃ request ∈ requests, request.specifier = specifier := by
  simp only [specifiers, List.mem_append, List.mem_filter, mem_sortedNames, List.mem_map]
  cases isRelative specifier <;> simp

variable {requests others : List ImportedName}

end Imports

end TypedClient
