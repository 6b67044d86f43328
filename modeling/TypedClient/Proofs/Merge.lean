/-
This file shows what a merge of partial contracts keeps: of each collection the first element of
every key, in the order of the parts.
-/

import Mathlib.Data.List.Nodup
import Mathlib.Tactic.Tauto
import TypedClient.Contract

namespace TypedClient.Contract

section FirstOfEach

variable {Element Key : Type} [BEq Key] [LawfulBEq Key] (key : Element → Key)

/-- Only the members of the list of seen keys count. -/
theorem firstOfEach_congr {seen other : List Key} (same : ∀ name, name ∈ seen ↔ name ∈ other)
    (elements : List Element) :
    firstOfEach key seen elements = firstOfEach key other elements := by
  induction elements generalizing seen other with
  | nil => rfl
  | cons element rest inductionHypothesis =>
      have extended : ∀ name, name ∈ key element :: seen ↔ name ∈ key element :: other := by
        intro name
        simp only [List.mem_cons, same name]
      by_cases known : key element ∈ seen
      · have alsoKnown := (same _).mp known
        simp only [firstOfEach, List.contains_iff_mem, known, alsoKnown, ↓reduceIte]
        exact inductionHypothesis same
      · have alsoNew : key element ∉ other := fun member => known ((same _).mpr member)
        simp only [firstOfEach, List.contains_iff_mem, known, alsoNew, ↓reduceIte]
        rw [inductionHypothesis extended]

/-- A second list adds what neither the first list nor the seen keys hold. -/
theorem firstOfEach_append (seen : List Key) (first second : List Element) :
    firstOfEach key seen (first ++ second) =
      firstOfEach key seen first ++
        firstOfEach key (seen ++ (firstOfEach key seen first).map key) second := by
  induction first generalizing seen with
  | nil => simp [firstOfEach]
  | cons element rest inductionHypothesis =>
      by_cases known : key element ∈ seen
      · simp only [List.cons_append, firstOfEach, List.contains_iff_mem, known, ↓reduceIte]
        exact inductionHypothesis seen
      · simp only [List.cons_append, firstOfEach, List.contains_iff_mem, known, ↓reduceIte,
          inductionHypothesis, List.map_cons]
        congr 2
        apply firstOfEach_congr
        intro name
        simp only [List.mem_cons, List.mem_append]
        tauto

/-- Exactly the keys of the list that are not seen yet remain. -/
theorem mem_keys_firstOfEach (seen : List Key) (elements : List Element) (name : Key) :
    name ∈ (firstOfEach key seen elements).map key ↔ name ∈ elements.map key ∧ name ∉ seen := by
  induction elements generalizing seen with
  | nil => simp [firstOfEach]
  | cons element rest inductionHypothesis =>
      by_cases known : key element ∈ seen
      · simp only [firstOfEach, List.contains_iff_mem, known, ↓reduceIte, inductionHypothesis,
          List.map_cons, List.mem_cons]
        constructor
        · intro member
          exact ⟨.inr member.1, member.2⟩
        · rintro ⟨rfl | member, new⟩
          · exact absurd known new
          · exact ⟨member, new⟩
      · simp only [firstOfEach, List.contains_iff_mem, known, ↓reduceIte, List.map_cons,
          List.mem_cons, inductionHypothesis, not_or]
        by_cases same : name = key element
        · simp [same, known]
        · simp [same]

/-- No key remains twice. -/
theorem nodup_keys_firstOfEach (seen : List Key) (elements : List Element) :
    ((firstOfEach key seen elements).map key).Nodup := by
  induction elements generalizing seen with
  | nil => simp [firstOfEach]
  | cons element rest inductionHypothesis =>
      by_cases known : key element ∈ seen
      · simp only [firstOfEach, List.contains_iff_mem, known, ↓reduceIte]
        exact inductionHypothesis seen
      · simp only [firstOfEach, List.contains_iff_mem, known, ↓reduceIte, List.map_cons,
          List.nodup_cons]
        refine ⟨?_, inductionHypothesis _⟩
        rw [mem_keys_firstOfEach]
        simp

/-- Where no two elements have one key, those with a seen key are lost and no others. -/
theorem firstOfEach_of_nodup (seen : List Key) {elements : List Element}
    (unlike : (elements.map key).Nodup) :
    firstOfEach key seen elements = elements.filter fun element => !seen.contains (key element) := by
  induction elements generalizing seen with
  | nil => rfl
  | cons element rest inductionHypothesis =>
      obtain ⟨new, unlikeBehind⟩ := List.nodup_cons.mp unlike
      have behind : rest.filter (fun other => !(key element :: seen).contains (key other)) =
          rest.filter fun other => !seen.contains (key other) := by
        apply List.filter_congr
        intro other member
        have unequal : key other ≠ key element := fun same =>
          new (same ▸ List.mem_map_of_mem member)
        simp [unequal]
      rw [firstOfEach, List.filter_cons, inductionHypothesis seen unlikeBehind,
        inductionHypothesis _ unlikeBehind, behind]
      cases seen.contains (key element) <;> rfl

end FirstOfEach

/-- The contract of several parts without repetitions. -/
def firstParts (parts : List Contract) : Contract :=
  { endpoints := firstOfEach Endpoint.key [] (parts.flatMap Contract.endpoints)
    types := firstOfEach SourceType.name [] (parts.flatMap Contract.types)
    validation := firstOfEach PropertyRules.key [] (parts.flatMap Contract.validation)
    extraRules := parts.flatMap Contract.extraRules
    unlistedTypes := firstOfEach SourceType.name [] (parts.flatMap Contract.unlistedTypes) }

/-- One more part adds its new elements behind those of the parts before. -/
theorem add_firstParts (parts : List Contract) (part : Contract) :
    ((firstParts parts).add part).value = firstParts (parts ++ [part]) := by
  simp [firstParts, add, firstOfEach_append]

/-- Parts that follow others add what is new in them. -/
theorem addAll_firstParts (done parts : List Contract) :
    ((firstParts done).addAll parts).value = firstParts (done ++ parts) := by
  induction parts generalizing done with
  | nil => simp [addAll]
  | cons part rest inductionHypothesis =>
      simp only [addAll, Reported.andThen, add_firstParts, inductionHypothesis]
      simp

/-- A merge keeps the first element of each key in every collection, and all extra rules. -/
theorem merge_value (parts : List Contract) : (merge parts).value = firstParts parts := by
  exact addAll_firstParts [] parts

end TypedClient.Contract
