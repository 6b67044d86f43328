/-
This file shows what becomes of each rule that is folded: a record takes in what its shape can hold,
and all other rules are left over in their order. Whether a pattern is left over depends on the
rules before it, since a record holds one pattern only.
-/

import Mathlib.Data.List.Infix
import TypedClient.Proofs.FoldedRules

namespace TypedClient

namespace Rule

/-- The pattern that a rule states as a text. -/
def pattern? (rule : Rule) : Option String :=
  if rule.kind = .pattern then rule.value.text? else none

/-- Tells whether a rule fits no record: a custom check, a value of another form than the kind of
the rule calls for, or a pattern for a property with an earlier one. -/
def isLeftOver (earlier : List Rule) (rule : Rule) : Bool :=
  match rule.kind with
  | .required => false
  | .email => false
  | .minLength => rule.value.natural?.isNone
  | .maxLength => rule.value.natural?.isNone
  | .minimum => rule.value.number?.isNone
  | .maximum => rule.value.number?.isNone
  | .pattern => rule.value.text?.isNone || (ofKey rule.key earlier).any (·.pattern?.isSome)
  | .custom => true

def withEarlier (rules : List Rule) : List (List Rule × Rule) :=
  rules.inits.zip rules

/-- The rules that fit no record, in their order. -/
def leftOver (rules : List Rule) : List Rule :=
  ((withEarlier rules).filter fun entry => entry.2.isLeftOver entry.1).map Prod.snd

/-- The rules that fit a record, in their order. -/
def fitting (rules : List Rule) : List Rule :=
  ((withEarlier rules).filter fun entry => !entry.2.isLeftOver entry.1).map Prod.snd

theorem withEarlier_concat (before : List Rule) (rule : Rule) :
    withEarlier (before ++ [rule]) = withEarlier before ++ [(before, rule)] := by
  unfold withEarlier
  induction before with
  | nil => rfl
  | cons first rest inductionHypothesis =>
      simp only [List.cons_append, List.inits_cons, List.zip_cons_cons, List.zip_map_left,
        inductionHypothesis, List.map_append, List.map_cons, List.map_nil, Prod.map_apply, id_eq]

theorem leftOver_concat (before : List Rule) (rule : Rule) :
    leftOver (before ++ [rule]) =
      leftOver before ++ if rule.isLeftOver before then [rule] else [] := by
  cases left : rule.isLeftOver before <;> simp [leftOver, withEarlier_concat, left]

theorem fitting_concat (before : List Rule) (rule : Rule) :
    fitting (before ++ [rule]) =
      fitting before ++ if rule.isLeftOver before then [] else [rule] := by
  cases left : rule.isLeftOver before <;> simp [fitting, withEarlier_concat, left]

end Rule

namespace PropertyRules

/-- What one more rule changes in a record apart from its limits. -/
theorem fields_absorb (record : PropertyRules) (rule : Rule) :
    (record.absorb rule).required = (record.required || decide (rule.kind = .required)) ∧
    (record.absorb rule).email = (record.email || decide (rule.kind = .email)) ∧
    (record.absorb rule).pattern = record.pattern.or rule.pattern? ∧
    (record.absorb rule).message =
      if (record.fit? rule).isSome then record.message.or rule.message else record.message := by
  cases kind : rule.kind with
  | minimum =>
      cases number : rule.value.number? with
      | none => simp [absorb, fit?, Rule.pattern?, kind, number]
      | some bound =>
          obtain ⟨_, _, raised⟩ := exists_raise record bound !rule.isInclusive
          simp [absorb, fit?, Rule.pattern?, withMessageOf, kind, number, raised]
  | maximum =>
      cases number : rule.value.number? with
      | none => simp [absorb, fit?, Rule.pattern?, kind, number]
      | some bound =>
          obtain ⟨_, _, lowered⟩ := exists_lower record bound !rule.isInclusive
          simp [absorb, fit?, Rule.pattern?, withMessageOf, kind, number, lowered]
  | minLength | maxLength =>
      cases length : rule.value.natural? <;>
        simp [absorb, fit?, Rule.pattern?, withMessageOf, kind, length]
  | pattern =>
      cases held : record.pattern <;> cases text : rule.value.text? <;>
        simp [absorb, fit?, Rule.pattern?, withMessageOf, kind, held, text]
  | required | email | custom => simp [absorb, fit?, Rule.pattern?, withMessageOf, kind]

/-- A record that has taken in the rules of its key cannot hold a rule that is left over behind
them, and can hold any other. -/
theorem isNone_fit? {record : PropertyRules} {rule : Rule} {earlier : List Rule}
    (held : record.pattern = (Rule.ofKey rule.key earlier).findSome? Rule.pattern?) :
    (record.fit? rule).isNone = rule.isLeftOver earlier := by
  have taken : record.pattern.isSome = (Rule.ofKey rule.key earlier).any (·.pattern?.isSome) := by
    rw [held, List.isSome_findSome?]
  unfold fit? Rule.isLeftOver
  cases rule.kind with
  | pattern =>
      rw [← taken]
      cases record.pattern <;> cases rule.value.text? <;> rfl
  | minLength | maxLength | minimum | maximum => exact Option.isNone_map
  | required | email | custom => rfl

/-- What several rules change in a record apart from its limits and its message. -/
theorem fields_absorbAll (record : PropertyRules) (rules : List Rule) :
    (record.absorbAll rules).required =
      (record.required || rules.any fun rule => decide (rule.kind = .required)) ∧
    (record.absorbAll rules).email =
      (record.email || rules.any fun rule => decide (rule.kind = .email)) ∧
    (record.absorbAll rules).pattern = record.pattern.or (rules.findSome? Rule.pattern?) := by
  induction rules generalizing record with
  | nil => simp [absorbAll]
  | cons rule rest inductionHypothesis =>
      obtain ⟨required, email, pattern, -⟩ := fields_absorb record rule
      obtain ⟨laterRequired, laterEmail, laterPattern⟩ := inductionHypothesis (record.absorb rule)
      refine ⟨?_, ?_, ?_⟩
      · rw [List.any_cons, ← Bool.or_assoc, ← required]
        exact laterRequired
      · rw [List.any_cons, ← Bool.or_assoc, ← email]
        exact laterEmail
      · have first : (rule :: rest).findSome? Rule.pattern? =
            rule.pattern?.or (rest.findSome? Rule.pattern?) := by
          cases pattern : rule.pattern? <;> simp [pattern]
        rw [first, ← Option.or_assoc, ← pattern]
        exact laterPattern

end PropertyRules

open FoldedRules PropertyRules

/-- What the record of a rule holds apart from its limits and its message. -/
theorem fields_recordFor (rules : List Rule) (rule : Rule) :
    let record := recordFor rule (foldRules rules).records
    let own := Rule.ofKey rule.key rules
    record.required = own.any (fun other => decide (other.kind = .required)) ∧
      record.email = own.any (fun other => decide (other.kind = .email)) ∧
      record.pattern = own.findSome? Rule.pattern? := by
  rw [recordFor_foldRules]
  exact fields_absorbAll _ _

theorem isNone_fit?_recordFor (before : List Rule) (rule : Rule) :
    ((recordFor rule (foldRules before).records).fit? rule).isNone = rule.isLeftOver before :=
  isNone_fit? (fields_recordFor before rule).2.2

/-- The rules that fit no record stay apart, in their order. -/
theorem extras_foldRules (rules : List Rule) : (foldRules rules).extras = Rule.leftOver rules := by
  induction rules using List.reverseRecOn with
  | nil => rfl
  | append_singleton before rule inductionHypothesis =>
      rw [foldRules_concat, Rule.leftOver_concat, ← inductionHypothesis, ← isNone_fit?_recordFor]
      cases fits : (recordFor rule (foldRules before).records).fit? rule <;> simp [add, fits]

/-- The message of the record of a rule is the first one among the rules that it holds. -/
theorem message_recordFor (rules : List Rule) (rule : Rule) :
    (recordFor rule (foldRules rules).records).message =
      (Rule.ofKey rule.key (Rule.fitting rules)).findSome? Rule.message := by
  induction rules using List.reverseRecOn with
  | nil => rfl
  | append_singleton before last inductionHypothesis =>
      rw [foldRules_concat, recordFor_add, Rule.fitting_concat, Rule.ofKey_append,
        List.findSome?_append, ← inductionHypothesis]
      by_cases same : last.key = rule.key
      · rw [if_pos same, (fields_absorb _ last).2.2.2, ← recordFor_congr same,
          ← isNone_fit?_recordFor]
        cases (recordFor last (foldRules before).records).fit? last <;>
          simp [Rule.ofKey, same]
      · rw [if_neg same]
        split <;> simp [Rule.ofKey, same]

/-- Folding loses no rule and makes up none. There is one record for each key that a rule has, in
the order of the first rules; what fits no record is left over in its order; and a record has the
first pattern among the rules of its key, says whether one of them demands a value or an email
address, and has the first message among those that fit. -/
theorem folded_rules_accounted (rules : List Rule) :
    let folded := foldRules rules
    ((folded.records.map PropertyRules.key).Nodup ∧
      folded.records.map PropertyRules.key = (rules.map Rule.key).eraseDups) ∧
    folded.extras = Rule.leftOver rules ∧
    ∀ record ∈ folded.records,
      let own := Rule.ofKey record.key rules
      record.pattern = own.findSome? Rule.pattern? ∧
      (record.required = true ↔ ∃ rule ∈ own, rule.kind = .required) ∧
      (record.email = true ↔ ∃ rule ∈ own, rule.kind = .email) ∧
      record.message = (Rule.ofKey record.key (Rule.fitting rules)).findSome? Rule.message := by
  refine ⟨⟨nodup_keys_foldRules rules, keys_foldRules rules⟩, extras_foldRules rules, ?_⟩
  intro record member
  obtain ⟨rule, -, same⟩ : ∃ rule ∈ rules, rule.key = record.key := by
    have known := List.mem_map_of_mem (f := PropertyRules.key) member
    rw [keys_foldRules, List.mem_eraseDups] at known
    exact List.mem_map.mp known
  obtain ⟨required, email, pattern⟩ := fields_recordFor rules rule
  have message := message_recordFor rules rule
  rw [← eq_recordFor member same, same] at required email pattern message
  refine ⟨pattern, ?_, ?_, message⟩
  · simp [required]
  · simp [email]

end TypedClient
