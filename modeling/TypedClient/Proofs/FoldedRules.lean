/-
This file shows how rules are folded into records: there is one record for each key, in the order of
the first rules, and a record takes in the rules of its own key and no others.
-/

import Mathlib.Data.List.Nodup
import TypedClient.Proofs.SortedNames
import TypedClient.Rule.Fold

namespace TypedClient

namespace PropertyRules

/-- The record with one more rule, provided that its shape can hold the rule. -/
def absorb (record : PropertyRules) (rule : Rule) : PropertyRules :=
  ((record.fit? rule).map fun fitted => fitted.withMessageOf rule).getD record

/-- The record that has taken in several rules, one after the other. -/
def absorbAll (record : PropertyRules) (rules : List Rule) : PropertyRules :=
  rules.foldl absorb record

/-- What does not look at messages sees of a record with one more rule what it sees of the record
that holds the rule, where there is one. -/
theorem view_absorb {View : Type} (view : PropertyRules → View) {rule : Rule}
    (silent : ∀ record : PropertyRules, view (record.withMessageOf rule) = view record)
    (record : PropertyRules) :
    view (record.absorb rule) = ((record.fit? rule).map view).getD (view record) := by
  cases fits : record.fit? rule with
  | none => rw [absorb, fits]; rfl
  | some fitted =>
      rw [absorb, fits]
      exact silent fitted

/-- A lower bound changes nothing but the lower bound of a record. -/
theorem exists_raise (record : PropertyRules) (bound : Binary64) (exclusive : Bool) :
    ∃ minimum minimumExclusive,
      record.raise bound exclusive = { record with minimum, minimumExclusive } := by
  unfold raise
  split
  · split <;> exact ⟨_, _, rfl⟩
  · exact ⟨_, _, rfl⟩

/-- An upper bound changes nothing but the upper bound of a record. -/
theorem exists_lower (record : PropertyRules) (bound : Binary64) (exclusive : Bool) :
    ∃ maximum maximumExclusive,
      record.lower bound exclusive = { record with maximum, maximumExclusive } := by
  unfold lower
  split
  · split <;> exact ⟨_, _, rfl⟩
  · exact ⟨_, _, rfl⟩

/-- A demand does not change what a record speaks of. -/
theorem key_of_fit? {record fitted : PropertyRules} {rule : Rule}
    (fits : record.fit? rule = some fitted) : fitted.key = record.key := by
  unfold fit? at fits
  split at fits
  case h_4 =>
    obtain ⟨bound, -, rfl⟩ := Option.map_eq_some_iff.mp fits
    obtain ⟨_, _, raised⟩ := exists_raise record bound !rule.isInclusive
    rw [raised]
    rfl
  case h_5 =>
    obtain ⟨bound, -, rfl⟩ := Option.map_eq_some_iff.mp fits
    obtain ⟨_, _, lowered⟩ := exists_lower record bound !rule.isInclusive
    rw [lowered]
    rfl
  case h_2 | h_3 =>
    obtain ⟨length, -, rfl⟩ := Option.map_eq_some_iff.mp fits
    rfl
  case h_7 =>
    split at fits
    · obtain rfl := Option.some.inj fits
      rfl
    · contradiction
  case h_8 => contradiction
  all_goals
    obtain rfl := Option.some.inj fits
    rfl

@[simp]
theorem key_absorb (record : PropertyRules) (rule : Rule) :
    (record.absorb rule).key = record.key := by
  rw [view_absorb PropertyRules.key fun _ => rfl]
  cases fits : record.fit? rule with
  | none => rfl
  | some fitted => exact key_of_fit? fits

end PropertyRules

namespace FoldedRules

open PropertyRules

theorem key_recordFor (rule : Rule) (records : List PropertyRules) :
    (recordFor rule records).key = rule.key := by
  induction records with
  | nil => rfl
  | cons record rest inductionHypothesis =>
      rw [recordFor]
      split
      · rename_i same
        exact eq_of_beq same
      · exact inductionHypothesis

theorem recordFor_congr {rule other : Rule} (same : rule.key = other.key)
    (records : List PropertyRules) : recordFor rule records = recordFor other records := by
  induction records with
  | nil =>
      obtain ⟨typeName, property⟩ := Prod.mk.inj same
      rw [recordFor, recordFor, typeName, property]
  | cons record rest inductionHypothesis => rw [recordFor, recordFor, same, inductionHypothesis]

/-- A record is found under its key, and under another key what was there before. -/
theorem recordFor_put (record : PropertyRules) (rule : Rule) (records : List PropertyRules) :
    recordFor rule (put record records) =
      if record.key = rule.key then record else recordFor rule records := by
  induction records with
  | nil => simp [put, recordFor]
  | cons first rest inductionHypothesis =>
      rw [put]
      by_cases replaced : first.key = record.key
      · simp only [replaced, beq_self_eq_true, if_true, recordFor, beq_iff_eq]
        split <;> rfl
      · simp only [replaced, beq_iff_eq, if_false, recordFor, inductionHypothesis]
        split_ifs with found same
        · exact absurd (found.trans same.symm) replaced
        · rfl
        · rfl
        · rfl

/-- A record takes the place of the record with its key, or the last place. -/
theorem keys_put (record : PropertyRules) (records : List PropertyRules) :
    (put record records).map PropertyRules.key =
      if record.key ∈ records.map PropertyRules.key then records.map PropertyRules.key
      else records.map PropertyRules.key ++ [record.key] := by
  induction records with
  | nil => rfl
  | cons first rest inductionHypothesis =>
      rw [put]
      by_cases replaced : first.key = record.key
      · simp [replaced]
      · simp only [replaced, beq_iff_eq, if_false, List.map_cons, inductionHypothesis,
          List.mem_cons, Ne.symm replaced, false_or]
        split <;> rfl

theorem records_add (folded : FoldedRules) (rule : Rule) :
    (folded.add rule).records =
      put ((recordFor rule folded.records).absorb rule) folded.records := by
  cases fits : (recordFor rule folded.records).fit? rule <;> simp [add, absorb, fits]

/-- One more rule changes the record of its own key and no other. -/
theorem recordFor_add (folded : FoldedRules) (rule other : Rule) :
    recordFor other (folded.add rule).records =
      if rule.key = other.key then (recordFor other folded.records).absorb rule
      else recordFor other folded.records := by
  rw [records_add, recordFor_put, key_absorb, key_recordFor]
  split
  · rename_i same
    rw [recordFor_congr same]
  · rfl

end FoldedRules

namespace Rule

def ofKey (key : String × String) (rules : List Rule) : List Rule :=
  rules.filter fun rule => rule.key == key

theorem ofKey_append (key : String × String) (before behind : List Rule) :
    ofKey key (before ++ behind) = ofKey key before ++ ofKey key behind :=
  List.filter_append _ _

end Rule

open FoldedRules PropertyRules

/-- The record of a key takes in the rules of that key, in their order. -/
theorem recordFor_foldRules (rules : List Rule) (rule : Rule) :
    recordFor rule (foldRules rules).records =
      (recordFor rule []).absorbAll (Rule.ofKey rule.key rules) := by
  have general (folded : FoldedRules) : recordFor rule (rules.foldl add folded).records =
      (recordFor rule folded.records).absorbAll (Rule.ofKey rule.key rules) := by
    induction rules generalizing folded with
    | nil => rfl
    | cons first rest inductionHypothesis =>
        rw [List.foldl_cons, inductionHypothesis, recordFor_add]
        by_cases same : first.key = rule.key
        · simp [Rule.ofKey, same, absorbAll]
        · simp [Rule.ofKey, same]
  exact general {}

/-- The last rule comes to what the others have left. -/
theorem foldRules_concat (before : List Rule) (rule : Rule) :
    foldRules (before ++ [rule]) = (foldRules before).add rule := by
  rw [foldRules, List.foldl_append]
  rfl

theorem keys_foldRules (rules : List Rule) :
    (foldRules rules).records.map PropertyRules.key = (rules.map Rule.key).eraseDups := by
  induction rules using List.reverseRecOn with
  | nil => rfl
  | append_singleton before rule inductionHypothesis =>
      rw [foldRules_concat, records_add, keys_put, key_absorb, key_recordFor, inductionHypothesis,
        List.map_append, List.map_singleton, Text.eraseDups_concat]
      simp only [List.mem_eraseDups]

theorem nodup_keys_foldRules (rules : List Rule) :
    ((foldRules rules).records.map PropertyRules.key).Nodup := by
  rw [keys_foldRules]
  exact Text.nodup_eraseDups _

/-- The record of a rule is the only one with its key. -/
theorem eq_recordFor {rules : List Rule} {record : PropertyRules}
    (member : record ∈ (foldRules rules).records) {rule : Rule} (same : rule.key = record.key) :
    record = recordFor rule (foldRules rules).records := by
  have unlike := nodup_keys_foldRules rules
  generalize (foldRules rules).records = records at member unlike
  induction records with
  | nil => exact absurd member List.not_mem_nil
  | cons first rest inductionHypothesis =>
      obtain ⟨other, later⟩ := List.nodup_cons.mp unlike
      rw [recordFor]
      rcases List.mem_cons.mp member with rfl | behind
      · rw [if_pos (beq_iff_eq.mpr same.symm)]
      · have different : ¬first.key = rule.key := by
          intro equal
          exact other (equal.trans same ▸ List.mem_map_of_mem behind)
        rw [if_neg (different ∘ eq_of_beq)]
        exact inductionHypothesis behind later

theorem record_eq_absorbAll {rules : List Rule} {record : PropertyRules}
    (member : record ∈ (foldRules rules).records) :
    record = absorbAll { typeName := record.typeName, property := record.property }
      (Rule.ofKey record.key rules) := by
  let rule : Rule := { typeName := record.typeName, property := record.property, kind := .custom }
  have same : rule.key = record.key := rfl
  exact (eq_recordFor member same).trans (recordFor_foldRules rules rule)

end TypedClient
