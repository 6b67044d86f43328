/-
This file shows that a merge may be staged: parts that are merged before they join others lead to
the same contract and to the same reports. What a merge keeps of each collection, and what it
drops, is described by places in the joined lists of its parts.
-/

import Mathlib.Data.List.Induction
import TypedClient.Proofs.Merge

namespace TypedClient.Contract

/-- The inner ones of four joined lists may change places. -/
theorem perm_append_interchange {Element : Type} (first second third fourth : List Element) :
    (first ++ second ++ (third ++ fourth)).Perm (first ++ third ++ (second ++ fourth)) := by
  rw [List.append_assoc, List.append_assoc]
  exact (List.perm_append_comm_assoc second third fourth).append_left first

section Occurrences

variable {Element Key : Type} [BEq Key] (key : Element → Key)

/-- Tells whether the key of an element stands in front of its place in a list already. -/
def isRepeat (elements : List Element) (entry : Element × Nat) : Bool :=
  ((elements.take entry.2).map key).contains (key entry.1)

/-- The elements of a list that repeat a key, or those that do not, in order. -/
def occurrences (repeated : Bool) (elements : List Element) : List Element :=
  (elements.zipIdx.filter fun entry => isRepeat key elements entry == repeated).map Prod.fst

/-- The elements of a list that are the first of their keys. -/
def firsts (elements : List Element) : List Element :=
  occurrences key false elements

/-- The elements of a list whose keys stand in front of them. -/
def repeats (elements : List Element) : List Element :=
  occurrences key true elements

/-- What follows a place does not matter to it. -/
theorem isRepeat_append {elements : List Element} {entry : Element × Nat}
    (member : entry ∈ elements.zipIdx) (behind : List Element) :
    isRepeat key (elements ++ behind) entry = isRepeat key elements entry := by
  have inside : entry.2 ≤ elements.length := by
    have bound := (List.mem_zipIdx (x := entry.1) (i := entry.2) member).2.1
    omega
  rw [isRepeat, isRepeat, List.take_append_of_le_length inside]

theorem occurrences_concat (repeated : Bool) (elements : List Element) (last : Element) :
    occurrences key repeated (elements ++ [last]) = occurrences key repeated elements ++
      if (elements.map key).contains (key last) == repeated then [last] else [] := by
  have before : (elements.zipIdx.filter fun entry =>
      isRepeat key (elements ++ [last]) entry == repeated) =
        elements.zipIdx.filter fun entry => isRepeat key elements entry == repeated :=
    List.filter_congr fun entry member => by rw [isRepeat_append key member]
  have here : isRepeat key (elements ++ [last]) (last, elements.length) =
      (elements.map key).contains (key last) := by
    rw [isRepeat, List.take_left]
  rw [occurrences, List.zipIdx_append, List.filter_append, before, List.map_append, ← occurrences]
  simp only [List.zipIdx_cons, List.zipIdx_nil, Nat.zero_add, List.filter_cons, here,
    List.filter_nil]
  split <;> rfl

/-- The first elements of the keys and the others make up the list. -/
theorem perm_firsts_repeats (elements : List Element) :
    (firsts key elements ++ repeats key elements).Perm elements := by
  have split := (List.filter_append_perm
    (fun entry => isRepeat key elements entry == false) elements.zipIdx).map Prod.fst
  have others : (fun entry => !(isRepeat key elements entry == false)) =
      fun entry => isRepeat key elements entry == true := by
    funext entry
    cases isRepeat key elements entry <;> rfl
  rw [List.map_append, others, List.zipIdx_map_fst] at split
  exact split

/-- What remains of a list and what it loses make up the list. -/
theorem perm_firstOfEach_repeatedOf (seen : List Key) (elements : List Element) :
    (firstOfEach key seen elements ++ repeatedOf key seen elements).Perm elements := by
  induction elements generalizing seen with
  | nil => exact .refl _
  | cons element rest inductionHypothesis =>
      cases known : seen.contains (key element) with
      | true =>
          simp only [firstOfEach, repeatedOf, known, ↓reduceIte]
          exact List.perm_middle.trans ((inductionHypothesis seen).cons element)
      | false =>
          simp only [firstOfEach, repeatedOf, known, Bool.false_eq_true, ↓reduceIte]
          exact (inductionHypothesis (key element :: seen)).cons element

variable [LawfulBEq Key]

/-- The elements that remain are the first ones of their keys. -/
theorem firstOfEach_eq_firsts (elements : List Element) :
    firstOfEach key [] elements = firsts key elements := by
  induction elements using List.reverseRecOn with
  | nil => rfl
  | append_singleton elements last inductionHypothesis =>
      rw [firstOfEach_append, firsts, occurrences_concat, ← firsts, ← inductionHypothesis]
      congr 1
      by_cases known : key last ∈ elements.map key
      · have seen := (mem_keys_firstOfEach key [] elements (key last)).mpr ⟨known, by simp⟩
        simp [firstOfEach, known, seen]
      · have unseen : key last ∉ (firstOfEach key [] elements).map key := fun member =>
          known ((mem_keys_firstOfEach key [] elements (key last)).mp member).1
        simp [firstOfEach, known, unseen]

theorem repeatedOf_perm_repeats (elements : List Element) :
    (repeatedOf key [] elements).Perm (repeats key elements) := by
  have split := perm_firstOfEach_repeatedOf key [] elements
  rw [firstOfEach_eq_firsts] at split
  exact (List.perm_append_left_iff _).mp (split.trans (perm_firsts_repeats key elements).symm)

/-- Elements that are lost already for fewer seen keys make no difference. -/
theorem firstOfEach_firstOfEach {seen fewer : List Key} (within : fewer ⊆ seen)
    (elements : List Element) :
    firstOfEach key seen (firstOfEach key fewer elements) = firstOfEach key seen elements := by
  induction elements generalizing seen fewer with
  | nil => rfl
  | cons element rest inductionHypothesis =>
      by_cases earlier : key element ∈ fewer
      · have known := within earlier
        simp only [firstOfEach, List.contains_iff_mem, earlier, known, ↓reduceIte]
        exact inductionHypothesis within
      · by_cases known : key element ∈ seen
        · simp only [firstOfEach, List.contains_iff_mem, earlier, known, ↓reduceIte]
          exact inductionHypothesis (List.cons_subset.mpr ⟨known, within⟩)
        · simp only [firstOfEach, List.contains_iff_mem, earlier, known, ↓reduceIte]
          rw [inductionHypothesis (List.cons_subset_cons _ within)]

theorem firstOfEach_staged (first second : List Element) :
    firstOfEach key [] (firstOfEach key [] first ++ firstOfEach key [] second) =
      firstOfEach key [] (first ++ second) := by
  rw [firstOfEach_append, firstOfEach_append,
    firstOfEach_firstOfEach key (List.Subset.refl []) first,
    firstOfEach_firstOfEach key (List.nil_subset _) second]

/-- What a list loses together with a list behind it is what both lose in turn. -/
theorem repeatedOf_append (first second : List Element) :
    (repeatedOf key [] (first ++ second)).Perm
      (repeatedOf key [] first ++
        repeatedOf key ((firstOfEach key [] first).map key) second) := by
  have whole := perm_firstOfEach_repeatedOf key [] (first ++ second)
  have left := perm_firstOfEach_repeatedOf key [] first
  have right := perm_firstOfEach_repeatedOf key ((firstOfEach key [] first).map key) second
  rw [firstOfEach_append, List.nil_append] at whole
  apply (List.perm_append_left_iff _).mp
  exact whole.trans ((left.append right).symm.trans (perm_append_interchange ..))

/-- What two lists lose together is what each loses, and what their remains lose together. -/
theorem repeatedOf_staged (first second : List Element) :
    let joined := firstOfEach key [] first ++ firstOfEach key [] second
    (repeatedOf key [] (first ++ second)).Perm
      (repeatedOf key [] first ++ repeatedOf key [] second ++ repeatedOf key [] joined) := by
  intro joined
  have whole := perm_firstOfEach_repeatedOf key [] (first ++ second)
  have left := perm_firstOfEach_repeatedOf key [] first
  have right := perm_firstOfEach_repeatedOf key [] second
  have remains := perm_firstOfEach_repeatedOf key [] joined
  rw [firstOfEach_staged] at remains
  apply (List.perm_append_left_iff (firstOfEach key [] (first ++ second))).mp
  calc firstOfEach key [] (first ++ second) ++ repeatedOf key [] (first ++ second)
    _ |>.Perm (first ++ second) := whole
    _ |>.Perm (joined ++ (repeatedOf key [] first ++ repeatedOf key [] second)) :=
        (left.append right).symm.trans (perm_append_interchange ..)
    _ |>.Perm (firstOfEach key [] (first ++ second) ++ repeatedOf key [] joined ++
        (repeatedOf key [] first ++ repeatedOf key [] second)) := remains.symm.append_right _
    _ |>.Perm _ := by
        rw [List.append_assoc]
        exact List.perm_append_comm.append_left _

end Occurrences

/-- What is reported about the elements that parts repeat. -/
def repeatReports (parts : List Contract) : List Diagnostic :=
  (repeatedOf Endpoint.key [] (parts.flatMap Contract.endpoints)).map duplicateOperation ++
    (repeatedOf SourceType.name [] (parts.flatMap Contract.types)).map duplicateType

theorem repeatReports_concat (parts : List Contract) (part : Contract) :
    (repeatReports (parts ++ [part])).Perm
      (repeatReports parts ++ ((firstParts parts).add part).diagnostics) := by
  have operations := repeatedOf_append Endpoint.key (parts.flatMap Contract.endpoints)
    part.endpoints
  have types := repeatedOf_append SourceType.name (parts.flatMap Contract.types) part.types
  have together := (operations.map duplicateOperation).append (types.map duplicateType)
  simp only [List.map_append] at together
  simp only [repeatReports, List.flatMap_append, List.flatMap_singleton]
  exact together.trans (perm_append_interchange ..)

theorem addAll_diagnostics (done parts : List Contract) :
    (repeatReports done ++ ((firstParts done).addAll parts).diagnostics).Perm
      (repeatReports (done ++ parts)) := by
  induction parts generalizing done with
  | nil => simp [addAll]
  | cons part rest inductionHypothesis =>
      simp only [addAll, Reported.andThen, add_firstParts]
      rw [← List.append_assoc, List.append_cons done part rest]
      exact ((repeatReports_concat done part).symm.append_right _).trans
        (inductionHypothesis (done ++ [part]))

theorem merge_diagnostics (parts : List Contract) :
    (merge parts).diagnostics.Perm (repeatReports parts) :=
  addAll_diagnostics [] parts

/-- Parts that are merged apart remain the same together. -/
theorem firstParts_staged (first second : List Contract) :
    firstParts [firstParts first, firstParts second] = firstParts (first ++ second) := by
  simp [firstParts, firstOfEach_staged]

theorem repeatReports_staged (first second : List Contract) :
    (repeatReports (first ++ second)).Perm
      (repeatReports first ++ repeatReports second ++
        repeatReports [firstParts first, firstParts second]) := by
  have operations := (repeatedOf_staged Endpoint.key (first.flatMap Contract.endpoints)
    (second.flatMap Contract.endpoints)).map duplicateOperation
  have types := (repeatedOf_staged SourceType.name (first.flatMap Contract.types)
    (second.flatMap Contract.types)).map duplicateType
  have together := operations.append types
  simp only [List.map_append] at together
  simp only [repeatReports, firstParts, List.flatMap_append, List.flatMap_cons, List.flatMap_nil,
    List.append_nil]
  refine together.trans ((perm_append_interchange ..).trans ?_)
  exact (perm_append_interchange ..).append_right _

/-- The warnings of a merge are those about operations; about types it only informs. -/
theorem countP_repeatReports (parts : List Contract) :
    (repeatReports parts).countP (fun diagnostic => diagnostic.severity == .warning) =
      (repeatedOf Endpoint.key [] (parts.flatMap Contract.endpoints)).length := by
  have operations (list : List Endpoint) :
      (list.map duplicateOperation).countP (fun diagnostic => diagnostic.severity == .warning) =
        list.length := by
    rw [List.countP_map, List.countP_eq_length]
    exact fun endpoint _ => rfl
  have types (list : List SourceType) :
      (list.map duplicateType).countP (fun diagnostic => diagnostic.severity == .warning) = 0 := by
    rw [List.countP_map, List.countP_eq_zero]
    exact fun type _ => by simp [duplicateType]
  rw [repeatReports, List.countP_append, operations, types, Nat.add_zero]

/-- A merge does not depend on its stages: parts that are merged apart and then together give the
contract of all parts at once, and over all stages the same reports. Every merge keeps the first
operation of each name and group, the first type and the first unlisted type of each name, the
first record of each property and all extra rules, in order. It reports each operation that it
drops by one warning and each type by one information, and nothing else. -/
theorem merge_in_stages (first second : List Contract) :
    let apart := [merge first, merge second]
    let joined := merge (apart.map Reported.value)
    (merge (first ++ second)).value = joined.value ∧
      (merge (first ++ second)).diagnostics.Perm
        (apart.flatMap Reported.diagnostics ++ joined.diagnostics) ∧
      ∀ parts, let merged := merge parts
        merged.value = {
          endpoints := firsts Endpoint.key (parts.flatMap Contract.endpoints)
          types := firsts SourceType.name (parts.flatMap Contract.types)
          validation := firsts PropertyRules.key (parts.flatMap Contract.validation)
          extraRules := parts.flatMap Contract.extraRules
          unlistedTypes := firsts SourceType.name (parts.flatMap Contract.unlistedTypes) } ∧
        merged.diagnostics.Perm
          ((repeats Endpoint.key (parts.flatMap Contract.endpoints)).map duplicateOperation ++
            (repeats SourceType.name (parts.flatMap Contract.types)).map duplicateType) ∧
        merged.diagnostics.countP (fun diagnostic => diagnostic.severity == .warning) =
          (repeats Endpoint.key (parts.flatMap Contract.endpoints)).length := by
  intro apart joined
  have joinedParts : joined = merge [firstParts first, firstParts second] := by
    simp only [joined, apart, List.map_cons, List.map_nil, merge_value]
  refine ⟨?value, ?reports, ?each⟩
  case value =>
    rw [joinedParts, merge_value, merge_value, firstParts_staged]
  case reports =>
    have stages := ((merge_diagnostics first).append (merge_diagnostics second)).append
      (merge_diagnostics [firstParts first, firstParts second])
    rw [joinedParts]
    simp only [apart, List.flatMap_cons, List.flatMap_nil, List.append_nil]
    exact (merge_diagnostics _).trans ((repeatReports_staged first second).trans stages.symm)
  case each =>
    intro parts merged
    have operations := repeatedOf_perm_repeats Endpoint.key (parts.flatMap Contract.endpoints)
    have types := repeatedOf_perm_repeats SourceType.name (parts.flatMap Contract.types)
    refine ⟨?_, ?_, ?_⟩
    · simp only [merged, merge_value, firstParts, firstOfEach_eq_firsts]
    · exact (merge_diagnostics parts).trans ((operations.map _).append (types.map _))
    · rw [(merge_diagnostics parts).countP_eq, countP_repeatReports, operations.length_eq]

end TypedClient.Contract
