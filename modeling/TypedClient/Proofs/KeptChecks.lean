/-
This file shows which demands on a property the expression of a schema checks: all of them where the
kind of the values is known, and only the last one where nothing is known about the values, because
each check begins the expression anew.
-/

import Mathlib
import TypedClient.Client.PropertyCheck

namespace TypedClient

namespace SchemaExpression

variable (step : SchemaExpression → String → SchemaExpression)

theorem calls_foldl_of_adds (adds : ∀ expression text, (step expression text).calls =
    expression.calls ++ [text]) (expression : SchemaExpression) (texts : List String) :
    (texts.foldl step expression).calls = expression.calls ++ texts := by
  induction texts generalizing expression with
  | nil => simp
  | cons text rest inductionHypothesis => simp [inductionHypothesis, adds]

/-- Of steps that begin anew only the last call is left. -/
theorem calls_foldl_of_restarts
    (restarts : ∀ expression text, (step expression text).calls = [text])
    (expression : SchemaExpression) (texts : List String) :
    (texts.foldl step expression).calls =
      (texts.getLast?.map fun text => [text]).getD expression.calls := by
  rcases List.eq_nil_or_concat' texts with rfl | ⟨before, last, rfl⟩
  · rfl
  · simp [restarts]

end SchemaExpression

namespace PropertyCheck

/-- A demand on the values of a property that does not concern their length. -/
inductive Demand
  | atLeast (limit : Binary64)
  | above (limit : Binary64)
  | atMost (limit : Binary64)
  | below (limit : Binary64)
  | email
  | pattern (text : String)

namespace Demand

/-- The name of the check of a demand; the check of an exclusive bound excludes the limit. -/
def check : Demand → String
  | atLeast _ => "gte"
  | above _ => "gt"
  | atMost _ => "lte"
  | below _ => "lt"
  | email => "email"
  | pattern _ => "regex"

def arguments (message : Option String) : Demand → String
  | atLeast limit | above limit | atMost limit | below limit =>
    numberText limit ++ furtherArgument message
  | email => onlyArgument message
  | pattern text => "new RegExp(" ++ Json.quoted text ++ ")" ++ furtherArgument message

def call (message : Option String) (demand : Demand) : String :=
  demand.check ++ "(" ++ demand.arguments message ++ ")"

end Demand

/-- The demands on numbers. -/
def boundDemands (record : PropertyRules) : List Demand :=
  (record.minimum.map (if record.minimumExclusive then Demand.above else Demand.atLeast)).toList ++
    (record.maximum.map (if record.maximumExclusive then Demand.below else Demand.atMost)).toList

def pattern? (rule : Rule) : Option String :=
  if rule.kind = .pattern then rule.value.text? else none

/-- The demands on the form of texts. -/
def formDemands (record : PropertyRules) (extras : List Rule) : List Demand :=
  (if record.email then [.email] else []) ++
    (record.pattern.toList ++ extras.filterMap pattern?).map Demand.pattern

/-- The demands on a property whose values are of a kind; the numbers and the texts are checked also
where nothing is known about the values. -/
def demands (kind : ValueKind) (record : PropertyRules) (extras : List Rule) : List Demand :=
  (if kind = .number ∨ kind = .anything then boundDemands record else []) ++
    (if kind = .text ∨ kind = .anything then formDemands record extras else [])

/-- The checks of the lengths of values of a kind. -/
def lengthChecks (kind : ValueKind) (record : PropertyRules) : List String :=
  if kind.hasLength then lengthCalls record else []

/-- What stands at the end of an expression: how a value may be missing, or that it may not. -/
def ending (kind : ValueKind) (property : Option SourceProperty) (record : PropertyRules) :
    List String :=
  if record.required then
    if kind = .anything then
      ["refine((value) => value !== undefined && value !== null" ++
        furtherArgument record.message ++ ")"]
    else []
  else [absenceCall property]

section Calls

variable (record : PropertyRules) (extras : List Rule)

theorem boundCalls_eq : boundCalls record =
    (boundDemands record).map (Demand.call record.message) := by
  unfold boundCalls boundDemands
  cases record.minimum <;> cases record.maximum <;> cases record.minimumExclusive <;>
    cases record.maximumExclusive <;> rfl

theorem textCalls_eq : textCalls record extras =
    (formDemands record extras).map (Demand.call record.message) := by
  have stated : (extras.filter fun rule => rule.kind == .pattern).filterMap
      (fun rule => rule.value.text?) = extras.filterMap pattern? := by
    rw [List.filterMap_filter]
    refine List.filterMap_congr ?_
    simp [pattern?]
  rw [textCalls, patterns, stated, formDemands]
  conv_rhs => rw [List.map_append, List.map_map]
  cases record.email <;> rfl

variable (type : Option ClientType) (property : Option SourceProperty)

theorem calls_of_known (known : ValueKind.ofType type ≠ .anything) :
    (expression type property record extras).calls =
      lengthChecks (ValueKind.ofType type) record ++
        (demands (ValueKind.ofType type) record extras).map (Demand.call record.message) ++
          ending (ValueKind.ofType type) property record := by
  generalize kind_eq : ValueKind.ofType type = kind at known
  have numbers := SchemaExpression.calls_foldl_of_adds (SchemaExpression.numberCall kind)
    (by simp [SchemaExpression.numberCall, SchemaExpression.call, known])
  have texts := SchemaExpression.calls_foldl_of_adds (SchemaExpression.textCall kind)
    (by simp [SchemaExpression.textCall, SchemaExpression.call, known])
  cases kind <;> cases required : record.required <;>
    simp_all [expression, demands, ending, lengthChecks, SchemaExpression.call, boundCalls_eq,
      textCalls_eq]

/-- Where nothing is known about the values, only the last demand is checked. -/
theorem calls_of_unknown (unknown : ValueKind.ofType type = .anything) :
    (expression type property record extras).calls =
      ((demands .anything record extras).map (Demand.call record.message)).getLast?.toList ++
        ending .anything property record := by
  have numbers := SchemaExpression.calls_foldl_of_restarts
    (SchemaExpression.numberCall .anything)
    (by simp [SchemaExpression.numberCall, SchemaExpression.call])
  have texts := SchemaExpression.calls_foldl_of_restarts
    (SchemaExpression.textCall .anything)
    (by simp [SchemaExpression.textCall, SchemaExpression.call])
  have last : demands .anything record extras =
      boundDemands record ++ formDemands record extras := by simp [demands]
  rw [last, List.map_append, List.getLast?_append, ← boundCalls_eq, ← textCalls_eq]
  cases bound : (boundCalls record).getLast? <;> cases text : (textCalls record extras).getLast? <;>
    cases required : record.required <;>
      simp [expression, unknown, ending, ValueKind.hasLength, SchemaExpression.call, numbers, texts,
        bound, text, required]

end Calls

/-- A property with one more constraint than before. -/
inductive AddsConstraint (record : PropertyRules) (extras : List Rule) :
    PropertyRules → List Rule → Prop
  | required : AddsConstraint record extras { record with required := true } extras
  | minLength (absent : record.minLength = none) (length : Nat) :
    AddsConstraint record extras { record with minLength := some length } extras
  | maxLength (absent : record.maxLength = none) (length : Nat) :
    AddsConstraint record extras { record with maxLength := some length } extras
  | minimum (absent : record.minimum = none) (limit : Binary64) (exclusive : Bool) :
    AddsConstraint record extras
      { record with minimum := some limit, minimumExclusive := exclusive } extras
  | maximum (absent : record.maximum = none) (limit : Binary64) (exclusive : Bool) :
    AddsConstraint record extras
      { record with maximum := some limit, maximumExclusive := exclusive } extras
  | email : AddsConstraint record extras { record with email := true } extras
  | pattern (absent : record.pattern = none) (text : String) :
    AddsConstraint record extras { record with pattern := some text } extras
  | extra {before behind : List Rule} (split : extras = before ++ behind) (rule : Rule) :
    AddsConstraint record extras record (before ++ rule :: behind)

section Adding

variable {record more : PropertyRules} {extras moreExtras : List Rule}

theorem AddsConstraint.message_eq (adds : AddsConstraint record extras more moreExtras) :
    more.message = record.message := by
  cases adds <;> rfl

/-- A further constraint takes no demand away. -/
theorem AddsConstraint.demands_sublist (adds : AddsConstraint record extras more moreExtras)
    (kind : ValueKind) : (demands kind record extras).Sublist (demands kind more moreExtras) := by
  have bounds : (boundDemands record).Sublist (boundDemands more) := by
    cases adds <;> simp_all [boundDemands]
  have forms : (formDemands record extras).Sublist (formDemands more moreExtras) := by
    cases adds with
    | email =>
        refine List.Sublist.append ?_ (List.Sublist.refl _)
        split <;> simp
    | pattern absent text =>
        refine List.Sublist.append (List.Sublist.refl _) ?_
        simp [absent]
    | @extra before behind split rule =>
        subst split
        refine List.Sublist.append (List.Sublist.refl _) (List.Sublist.map _ ?_)
        refine List.Sublist.append (List.Sublist.refl _) (List.Sublist.filterMap _ ?_)
        simp
    | _ => exact List.Sublist.refl _
  unfold demands
  refine List.Sublist.append ?_ ?_
  · split
    · exact bounds
    · exact List.Sublist.refl _
  · split
    · exact forms
    · exact List.Sublist.refl _

/-- The third character tells the checks of different demands apart from each other and from what
stands at the end of an expression. -/
theorem third_call (message : Option String) (demand : Demand) :
    (demand.call message).toList[2]? = some (match demand with
      | .atLeast _ => 'e'
      | .above _ => '('
      | .atMost _ => 'e'
      | .below _ => '('
      | .email => 'a'
      | .pattern _ => 'g') := by
  rw [Demand.call]
  generalize demand.arguments message = arguments
  cases demand <;> simp [Demand.check]

/-- Checks of demands do not stand at the end of an expression. -/
theorem call_not_mem_ending (demand : Demand) (message : Option String) (kind : ValueKind)
    (property : Option SourceProperty) : demand.call message ∉ ending kind property record := by
  have third := third_call message demand
  have apart : ∀ text ∈ ending kind property record,
      text.toList[2]? ∈ [some 'f', some 'l', some 't'] := by
    unfold ending absenceCall
    split
    · split
      · simp
      · simp
    · split <;> simp
  intro member
  have other := apart _ member
  rw [third] at other
  cases demand <;> simp at other

theorem exists_pattern_ne (demand : Demand) (message : Option String) :
    ∃ text, (Demand.pattern text).call message ≠ demand.call message := by
  cases demand with
  | pattern other =>
      refine ⟨other ++ "x", fun same => ?_⟩
      have lengths := congrArg String.length same
      simp only [Demand.call, Demand.check, Demand.arguments, Json.quoted, String.length_append,
        String.length_ofList, String.toList_append, List.flatMap_append, List.length_cons,
        List.length_append] at lengths
      have last : ("x".toList.flatMap Json.escapeChar).length = 1 := by decide
      omega
  | _ =>
      refine ⟨"", fun same => ?_⟩
      have third := congrArg (fun text => text.toList[2]?) same
      simp [third_call] at third

end Adding

/-- Where nothing is known about the values, a further pattern can remove any check. -/
theorem exists_extra_removing (type : Option ClientType) (property : Option SourceProperty)
    (record : PropertyRules) (extras : List Rule) (unknown : ValueKind.ofType type = .anything)
    (demand : Demand) : ∃ rule, demand.call record.message ∉
      (expression type property record (extras ++ [rule])).calls := by
  obtain ⟨text, other⟩ := exists_pattern_ne demand record.message
  let rule : Rule :=
    { typeName := record.typeName, property := record.property, kind := .pattern,
      value := .text text }
  have added : demands .anything record (extras ++ [rule]) =
      demands .anything record extras ++ [.pattern text] := by
    simp [demands, formDemands, pattern?, rule, Json.text?]
  refine ⟨rule, fun kept => ?_⟩
  -- The check of the pattern is the only one that is left.
  rw [calls_of_unknown record _ type property unknown, added, List.map_append,
    List.map_singleton, List.getLast?_append] at kept
  rcases List.mem_append.mp kept with replaced | ends
  · have equal : demand.call record.message = (Demand.pattern text).call record.message := by
      simpa using replaced
    exact other equal.symm
  · exact call_not_mem_ending demand record.message .anything property ends

/-- The checks of an expression are those of the lengths, those of all demands and the ending
exactly where the kind of the values is known or at most one demand is made; otherwise only the last
demand is checked. A further constraint never removes the check of another one exactly where the
kind of the values is known or no demand is made. -/
theorem checks_kept_iff (type : Option ClientType) (property : Option SourceProperty)
    (record : PropertyRules) (extras : List Rule) :
    let kind := ValueKind.ofType type
    let checks := (demands kind record extras).map (Demand.call record.message)
    ((expression type property record extras).calls =
        lengthChecks kind record ++ checks ++ ending kind property record ↔
      kind ≠ .anything ∨ checks.length ≤ 1) ∧
    (kind = .anything → (expression type property record extras).calls =
      checks.getLast?.toList ++ ending kind property record) ∧
    ((∀ more moreExtras, AddsConstraint record extras more moreExtras →
        ∀ check ∈ checks, check ∈ (expression type property record extras).calls →
          check ∈ (expression type property more moreExtras).calls) ↔
      kind ≠ .anything ∨ checks = []) := by
  intro kind checks
  have unknown (anything : kind = .anything) : (expression type property record extras).calls =
      checks.getLast?.toList ++ ending kind property record := by
    have calls := calls_of_unknown record extras type property anything
    rwa [← anything] at calls
  refine ⟨?all, unknown, ?adding⟩
  case all =>
    by_cases anything : kind = .anything
    · rw [unknown anything]
      have bare : lengthChecks kind record = [] := by
        simp [anything, lengthChecks, ValueKind.hasLength]
      rw [bare, List.nil_append, List.append_cancel_right_eq]
      rcases List.eq_nil_or_concat' checks with none | ⟨before, last, split⟩
      · simp [none, anything]
      · simp [split, anything]
    · exact iff_of_true (calls_of_known record extras type property anything) (.inl anything)
  case adding =>
    constructor
    · intro keeps
      by_contra neither
      obtain ⟨anything, some⟩ : kind = .anything ∧ checks ≠ [] := by
        simpa [not_or] using neither
      obtain ⟨before, last, split⟩ := (List.eq_nil_or_concat' checks).resolve_left some
      have made : last ∈ checks := by simp [split]
      obtain ⟨demand, -, same⟩ := List.mem_map.mp made
      -- Among checks of unknown values a further rule takes the place of the last one.
      obtain ⟨rule, gone⟩ := exists_extra_removing type property record extras anything demand
      have kept := keeps record (extras ++ [rule]) (.extra (List.append_nil extras).symm rule) last
        made (by simp [unknown anything, split])
      rw [← same] at kept
      exact gone kept
    · rintro (known | none)
      · intro more moreExtras adds check made _
        rw [calls_of_known more moreExtras type property known, adds.message_eq]
        refine List.mem_append_left _ (List.mem_append_right _ ?_)
        exact ((adds.demands_sublist kind).map _).subset made
      · simp [none]

/-- The rules of a total between one and ten. -/
def boundedTotal : PropertyRules :=
  { typeName := "CreateOrder", property := "Total", minimum := some (Binary64.ofInt 1)
    maximum := some (Binary64.ofInt 10) }

/-- Of the two bounds of a total whose type is not known only the upper one is checked. -/
theorem boundedTotal_loses_minimum :
    (expression none none boundedTotal []).text = "z.coerce.number().lte(10).nullish()" ∧
      (demands .anything boundedTotal []).map (Demand.call none) = ["gte(1)", "lte(10)"] := by
  decide +kernel

end PropertyCheck

end TypedClient
