/-
This file folds single rules into one record per property. Of repeated bounds the stricter one
stays; rules that fit no record stay apart.
-/

import TypedClient.Rule.Basic

namespace TypedClient

namespace PropertyRules

/-- A lower bound after one more; an equal bound replaces the earlier one. -/
def raise (record : PropertyRules) (bound : Binary64) (exclusive : Bool) : PropertyRules :=
  match record.minimum with
  | some current =>
    if current.less bound || bound.same current then
      { record with minimum := some bound, minimumExclusive := exclusive }
    else record
  | none => { record with minimum := some bound, minimumExclusive := exclusive }

/-- An upper bound after one more; an equal bound replaces the earlier one. -/
def lower (record : PropertyRules) (bound : Binary64) (exclusive : Bool) : PropertyRules :=
  match record.maximum with
  | some current =>
    if bound.less current || bound.same current then
      { record with maximum := some bound, maximumExclusive := exclusive }
    else record
  | none => { record with maximum := some bound, maximumExclusive := exclusive }

/-- The record with one more demand, provided that its shape can hold the demand. -/
def fit? (record : PropertyRules) (rule : Rule) : Option PropertyRules :=
  match rule.kind with
  | .required => some { record with required := true }
  | .minLength => rule.value.natural?.map fun length =>
    { record with minLength := some ((record.minLength.map (max · length)).getD length) }
  | .maxLength => rule.value.natural?.map fun length =>
    { record with maxLength := some ((record.maxLength.map (min · length)).getD length) }
  | .minimum => rule.value.number?.map fun bound => record.raise bound !rule.isInclusive
  | .maximum => rule.value.number?.map fun bound => record.lower bound !rule.isInclusive
  | .email => some { record with email := true }
  | .pattern =>
    match record.pattern, rule.value.text? with
    | none, some pattern => some { record with pattern := some pattern }
    | _, _ => none
  | .custom => none

/-- The record with the message of a rule, unless it has one already. -/
def withMessageOf (record : PropertyRules) (rule : Rule) : PropertyRules :=
  { record with message := record.message.or rule.message }

end PropertyRules

/-- The records of properties in the order of their first rules, and the rules that fit none. -/
structure FoldedRules where
  records : List PropertyRules := []
  extras : List Rule := []
  deriving Repr, Inhabited

namespace FoldedRules

def recordFor (rule : Rule) : List PropertyRules → PropertyRules
  | [] => { typeName := rule.typeName, property := rule.property }
  | record :: rest => if record.key == rule.key then record else recordFor rule rest

/-- Puts a record at the place of the record with its key, or at the end. -/
def put (record : PropertyRules) : List PropertyRules → List PropertyRules
  | [] => [record]
  | other :: rest => if other.key == record.key then record :: rest else other :: put record rest

/-- Takes one more rule in. -/
def add (folded : FoldedRules) (rule : Rule) : FoldedRules :=
  let record := recordFor rule folded.records
  match record.fit? rule with
  | some fitted => { folded with records := put (fitted.withMessageOf rule) folded.records }
  | none => { records := put record folded.records, extras := folded.extras ++ [rule] }

end FoldedRules

/-- Folds rules into one record per property. -/
def foldRules (rules : List Rule) : FoldedRules :=
  rules.foldl FoldedRules.add {}

end TypedClient
