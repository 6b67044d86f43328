/-
This file shows which values the record of a property lets through. Lengths meet the record exactly
if they meet all its rules. For numbers this fails where the last bound with a limit is inclusive
and an earlier one with the same limit is exclusive.
-/

import Mathlib
import TypedClient.Proofs.FoldedRules
import TypedClient.Proofs.TightestBound
import TypedClient.Rule.Chained

namespace TypedClient

open NumberBound

namespace Rule

def bound? (side : Side) (rule : Rule) : Option NumberBound :=
  if rule.kind = side.kind then
    rule.value.number?.map fun limit => { side, limit, exclusive := !rule.isInclusive }
  else none

/-- The bounds of a side that rules state, in their order. -/
def bounds (side : Side) (rules : List Rule) : List NumberBound :=
  rules.filterMap (bound? side)

/-- A number satisfies the bounds that a rule states. -/
def Admits (rule : Rule) (number : Binary64) : Prop :=
  ∀ side, ∀ bound ∈ rule.bound? side, bound.admits number = true

instance (rule : Rule) (number : Binary64) : Decidable (rule.Admits number) :=
  inferInstanceAs (Decidable (∀ side, ∀ bound ∈ rule.bound? side, bound.admits number = true))

/-- A length satisfies the rule; only rules on lengths that state a natural number limit it. -/
def AdmitsLength (rule : Rule) (length : Nat) : Prop :=
  (rule.kind = .minLength → ∀ least ∈ rule.value.natural?, least ≤ length) ∧
    (rule.kind = .maxLength → ∀ greatest ∈ rule.value.natural?, length ≤ greatest)

theorem side_of_mem_bounds (side : Side) {rules : List Rule} :
    ∀ bound ∈ bounds side rules, bound.side = side := by
  intro bound member
  obtain ⟨rule, -, states⟩ := List.mem_filterMap.mp member
  unfold bound? at states
  split at states
  · obtain ⟨limit, -, rfl⟩ := Option.map_eq_some_iff.mp states
    rfl
  · contradiction

theorem limit_of_mem_bounds {side : Side} {rules : List Rule}
    (defined : ∀ rule ∈ rules, rule.value.number? ≠ some .nan) :
    ∀ bound ∈ bounds side rules, bound.limit ≠ .nan := by
  intro bound member
  obtain ⟨rule, inside, states⟩ := List.mem_filterMap.mp member
  unfold bound? at states
  split at states
  · obtain ⟨limit, found, rfl⟩ := Option.map_eq_some_iff.mp states
    rintro rfl
    exact defined rule inside found
  · contradiction

end Rule

namespace PropertyRules

/-- The bound of a side that a record holds. -/
def bound? (side : Side) (record : PropertyRules) : Option NumberBound :=
  match side with
  | .least => record.minimum.map fun limit =>
      { side, limit, exclusive := record.minimumExclusive }
  | .greatest => record.maximum.map fun limit =>
      { side, limit, exclusive := record.maximumExclusive }

/-- A number satisfies the bounds of a record. -/
def Admits (record : PropertyRules) (number : Binary64) : Prop :=
  ∀ side, ∀ bound ∈ record.bound? side, bound.admits number = true

instance (record : PropertyRules) (number : Binary64) : Decidable (record.Admits number) :=
  inferInstanceAs (Decidable (∀ side, ∀ bound ∈ record.bound? side, bound.admits number = true))

/-- A length satisfies the limits of a record. -/
def AdmitsLength (record : PropertyRules) (length : Nat) : Prop :=
  (∀ least ∈ record.minLength, least ≤ length) ∧ ∀ greatest ∈ record.maxLength, length ≤ greatest

section Absorb

variable (record : PropertyRules) (rule : Rule)

theorem bound?_withMessageOf (side : Side) (record : PropertyRules) :
    (record.withMessageOf rule).bound? side = record.bound? side := by
  cases side <;> rfl

theorem bound?_raise (limit : Binary64) (exclusive : Bool) (side : Side) :
    (record.raise limit exclusive).bound? side = if side = .least then
      tighten (record.bound? side) { side, limit, exclusive } else record.bound? side := by
  cases side <;> cases held : record.minimum <;>
    simp [raise, bound?, held, tighten, NumberBound.isReachedBy, NumberBound.isPassedBy,
      NumberBound.isMetBy, Binary64.same_comm limit]
  all_goals split <;> simp_all

theorem bound?_lower (limit : Binary64) (exclusive : Bool) (side : Side) :
    (record.lower limit exclusive).bound? side = if side = .greatest then
      tighten (record.bound? side) { side, limit, exclusive } else record.bound? side := by
  cases side <;> cases held : record.maximum <;>
    simp [lower, bound?, held, tighten, NumberBound.isReachedBy, NumberBound.isPassedBy,
      NumberBound.isMetBy, Binary64.same_comm limit]
  all_goals split <;> simp_all

/-- A rule tightens the bound of its side and leaves the other one as it is. -/
theorem bound?_absorb (side : Side) : (record.absorb rule).bound? side =
    (rule.bound? side).toList.foldl tighten (record.bound? side) := by
  rw [view_absorb _ (bound?_withMessageOf rule side)]
  cases kind : rule.kind with
  | minimum =>
      cases number : rule.value.number? <;> cases side <;>
        simp [fit?, kind, number, Rule.bound?, Side.kind, bound?_raise]
  | maximum =>
      cases number : rule.value.number? <;> cases side <;>
        simp [fit?, kind, number, Rule.bound?, Side.kind, bound?_lower]
  | minLength | maxLength =>
      cases length : rule.value.natural? <;> cases side <;>
        simp [fit?, kind, length, Rule.bound?, Side.kind, bound?]
  | pattern =>
      cases held : record.pattern <;> cases text : rule.value.text? <;> cases side <;>
        simp [fit?, kind, held, text, Rule.bound?, Side.kind, bound?]
  | required | email | custom =>
      cases side <;> simp [fit?, kind, Rule.bound?, Side.kind, bound?]

/-- A rule on lengths limits the lengths further, and no other rule does. -/
theorem admitsLength_absorb (length : Nat) : (record.absorb rule).AdmitsLength length ↔
    record.AdmitsLength length ∧ rule.AdmitsLength length := by
  have silent (record : PropertyRules) : (record.withMessageOf rule).AdmitsLength length =
      record.AdmitsLength length := rfl
  rw [view_absorb (fun record => record.AdmitsLength length) silent]
  cases kind : rule.kind with
  | minLength =>
      cases least : rule.value.natural? <;> cases held : record.minLength <;>
        simp [fit?, kind, least, held, AdmitsLength, Rule.AdmitsLength]
      all_goals grind
  | maxLength =>
      cases greatest : rule.value.natural? <;> cases held : record.maxLength <;>
        simp [fit?, kind, greatest, held, AdmitsLength, Rule.AdmitsLength]
      all_goals grind
  | minimum =>
      cases number : rule.value.number? with
      | none => simp [fit?, kind, number, Rule.AdmitsLength]
      | some limit =>
          obtain ⟨_, _, raised⟩ := exists_raise record limit !rule.isInclusive
          simp [fit?, kind, number, raised, AdmitsLength, Rule.AdmitsLength]
  | maximum =>
      cases number : rule.value.number? with
      | none => simp [fit?, kind, number, Rule.AdmitsLength]
      | some limit =>
          obtain ⟨_, _, lowered⟩ := exists_lower record limit !rule.isInclusive
          simp [fit?, kind, number, lowered, AdmitsLength, Rule.AdmitsLength]
  | pattern =>
      cases held : record.pattern <;> cases text : rule.value.text? <;>
        simp [fit?, kind, held, text, AdmitsLength, Rule.AdmitsLength]
  | required | email | custom =>
      simp [fit?, kind, AdmitsLength, Rule.AdmitsLength]

variable (rules : List Rule)

theorem bound?_absorbAll (side : Side) : (record.absorbAll rules).bound? side =
    (Rule.bounds side rules).foldl tighten (record.bound? side) := by
  induction rules generalizing record with
  | nil => rfl
  | cons rule rest inductionHypothesis =>
      have first : Rule.bounds side (rule :: rest) =
          (rule.bound? side).toList ++ Rule.bounds side rest := by
        cases states : rule.bound? side <;> simp [Rule.bounds, states]
      rw [absorbAll, List.foldl_cons, ← absorbAll, inductionHypothesis, bound?_absorb, first,
        List.foldl_append]

/-- Each rule limits the lengths, and nothing else does. -/
theorem admitsLength_absorbAll (length : Nat) : (record.absorbAll rules).AdmitsLength length ↔
    record.AdmitsLength length ∧ ∀ rule ∈ rules, rule.AdmitsLength length := by
  induction rules generalizing record with
  | nil => simp [absorbAll]
  | cons rule rest inductionHypothesis =>
      rw [absorbAll, List.foldl_cons, ← absorbAll, inductionHypothesis, admitsLength_absorb,
        List.forall_mem_cons, and_assoc]

end Absorb

end PropertyRules

namespace Rule

variable {rules : List Rule} {number : Binary64}

/-- A number reaches all bounds of some rules, and for each side the last bound whose limit it is,
if there is one, is inclusive. -/
structure LetsThrough (rules : List Rule) (number : Binary64) : Prop where
  reached : ∀ side, ∀ bound ∈ bounds side rules, bound.isReachedBy number = true
  last : ∀ side, ∀ bound ∈ lastAt number (bounds side rules), bound.exclusive = false

/-- Some rules let a number through although it is the limit of an exclusive bound. -/
def Readmits (rules : List Rule) (number : Binary64) : Prop :=
  LetsThrough rules number ∧
    ∃ side, ∃ bound ∈ bounds side rules, bound.isMetBy number = true ∧ bound.exclusive = true

/-- A number reaches all bounds of some rules and is the limit of an exclusive bound, and of an
inclusive bound on every side where it is a limit at all. -/
structure Contests (rules : List Rule) (number : Binary64) : Prop where
  reached : ∀ side, ∀ bound ∈ bounds side rules, bound.isReachedBy number = true
  inclusive : ∀ side, ∀ bound ∈ bounds side rules, bound.isMetBy number = true →
    ∃ other ∈ bounds side rules, other.isMetBy number = true ∧ other.exclusive = false
  exclusive : ∃ side, ∃ bound ∈ bounds side rules,
    bound.isMetBy number = true ∧ bound.exclusive = true

theorem forall_admits_iff : (∀ rule ∈ rules, rule.Admits number) ↔
    ∀ side, ∀ bound ∈ bounds side rules, bound.isReachedBy number = true ∧
      (bound.isMetBy number = true → bound.exclusive = false) := by
  simp only [Admits, NumberBound.admits_iff, bounds, List.mem_filterMap]
  constructor
  · rintro all side bound ⟨rule, member, states⟩
    exact all rule member side bound states
  · intro all rule member side bound states
    exact all side bound ⟨rule, member, states⟩

theorem mem_of_mem_lastAt {bounds : List NumberBound} {bound : NumberBound}
    (last : bound ∈ lastAt number bounds) : bound ∈ bounds ∧ bound.isMetBy number = true :=
  List.mem_filter.mp (List.mem_of_getLast? last)

theorem letsThrough_of_admits (all : ∀ rule ∈ rules, rule.Admits number) :
    LetsThrough rules number := by
  rw [forall_admits_iff] at all
  refine ⟨fun side bound member => (all side bound member).1, ?_⟩
  intro side bound last
  obtain ⟨member, met⟩ := mem_of_mem_lastAt last
  exact (all side bound member).2 met

/-- What is let through satisfies all rules unless it is readmitted. -/
theorem readmits_iff (through : LetsThrough rules number) :
    Readmits rules number ↔ ¬∀ rule ∈ rules, rule.Admits number := by
  rw [Readmits, and_iff_right through, forall_admits_iff]
  constructor
  · rintro ⟨side, bound, member, met, exclusive⟩ all
    have inclusive := (all side bound member).2 met
    rw [exclusive] at inclusive
    contradiction
  · intro fails
    by_contra none
    refine fails fun side bound member => ⟨through.reached side bound member, fun met => ?_⟩
    by_contra exclusive
    exact none ⟨side, bound, member, met, by simpa using exclusive⟩

section Order

variable {others first second : List Rule}

theorem bounds_append (side : Side) :
    bounds side (first ++ second) = bounds side first ++ bounds side second :=
  List.filterMap_append

theorem mem_bounds_of_perm (perm : rules.Perm others) {side : Side} {bound : NumberBound} :
    bound ∈ bounds side rules ↔ bound ∈ bounds side others :=
  (perm.filterMap _).mem_iff

theorem exclusive_of_mem_bounds {inclusive : Bool}
    (uniform : ∀ rule ∈ rules, rule.isInclusive = inclusive) (side : Side) :
    ∀ bound ∈ bounds side rules, bound.exclusive = !inclusive := by
  intro bound member
  obtain ⟨rule, inside, states⟩ := List.mem_filterMap.mp member
  unfold bound? at states
  split at states
  · obtain ⟨limit, -, rfl⟩ := Option.map_eq_some_iff.mp states
    rw [uniform rule inside]
  · contradiction

theorem lastAt_append (number : Binary64) (before behind : List NumberBound) :
    lastAt number (before ++ behind) = (lastAt number behind).or (lastAt number before) := by
  rw [lastAt, List.filter_append, List.getLast?_append]
  rfl

theorem exists_lastAt {bounds : List NumberBound} {bound : NumberBound} (member : bound ∈ bounds)
    (met : bound.isMetBy number = true) : ∃ last, last ∈ lastAt number bounds := by
  have some : bounds.filter (fun bound => bound.isMetBy number) ≠ [] :=
    List.ne_nil_of_mem (List.mem_filter.mpr ⟨member, met⟩)
  exact ⟨_, List.getLast?_eq_some_getLast some⟩

theorem Contests.of_perm (contested : Contests rules number) (perm : rules.Perm others) :
    Contests others number := by
  obtain ⟨reached, inclusive, exclusive⟩ := contested
  simp only [mem_bounds_of_perm perm] at reached inclusive exclusive
  exact ⟨reached, inclusive, exclusive⟩

/-- A number that is not contested is let through in every order or in none. -/
theorem LetsThrough.of_perm (through : LetsThrough rules number) (perm : rules.Perm others)
    (calm : ¬Contests rules number) : LetsThrough others number := by
  refine ⟨?_, ?_⟩
  · intro side bound member
    exact through.reached side bound ((mem_bounds_of_perm perm).mpr member)
  · intro side bound last
    obtain ⟨member, met⟩ := mem_of_mem_lastAt last
    by_contra exclusive
    refine calm ⟨through.reached, ?_, side, bound, (mem_bounds_of_perm perm).mpr member, met,
      by simpa using exclusive⟩
    -- The last bound with the limit is inclusive, since the number is let through.
    intro otherSide other inside meets
    obtain ⟨final, isLast⟩ := exists_lastAt inside meets
    obtain ⟨here, finalMet⟩ := mem_of_mem_lastAt isLast
    exact ⟨final, here, finalMet, through.last otherSide final isLast⟩

/-- A contested number is let through if the inclusive rules come last, and is not if the exclusive
rules do. -/
theorem Contests.order_matters (contested : Contests rules number)
    (perm : (first ++ second).Perm rules) (firsts : ∀ rule ∈ first, rule.isInclusive = false)
    (seconds : ∀ rule ∈ second, rule.isInclusive = true) :
    LetsThrough (first ++ second) number ∧ ¬LetsThrough (second ++ first) number := by
  obtain ⟨reached, inclusive, exclusive⟩ := contested.of_perm perm.symm
  have inFirst := exclusive_of_mem_bounds firsts
  have inSecond := exclusive_of_mem_bounds seconds
  refine ⟨⟨reached, ?_⟩, ?_⟩
  · intro side bound last
    rw [bounds_append, lastAt_append, Option.mem_def, Option.or_eq_some_iff] at last
    rcases last with last | ⟨none, last⟩
    · exact inSecond side bound (mem_of_mem_lastAt last).1
    · obtain ⟨member, met⟩ := mem_of_mem_lastAt last
      obtain ⟨other, inside, meets, open_⟩ :=
        inclusive side bound (by rw [bounds_append]; exact List.mem_append_left _ member) met
      rw [bounds_append] at inside
      rcases List.mem_append.mp inside with here | here
      · rw [inFirst side other here] at open_
        contradiction
      · obtain ⟨final, isLast⟩ := exists_lastAt here meets
        rw [none] at isLast
        contradiction
  · intro through
    obtain ⟨side, bound, inside, met, closed⟩ := exclusive
    rw [bounds_append] at inside
    rcases List.mem_append.mp inside with here | here
    · obtain ⟨final, isLast⟩ := exists_lastAt here met
      have final_inclusive := through.last side final (by
        rw [bounds_append, lastAt_append, Option.mem_def, Option.or_eq_some_iff]
        exact .inl isLast)
      rw [inFirst side final (mem_of_mem_lastAt isLast).1] at final_inclusive
      contradiction
    · rw [inSecond side bound here] at closed
      contradiction

end Order

end Rule

section Records

variable {rules : List Rule} {record : PropertyRules}

theorem admitsLength_iff (member : record ∈ (foldRules rules).records) (length : Nat) :
    record.AdmitsLength length ↔
      ∀ rule ∈ Rule.ofKey record.key rules, rule.AdmitsLength length := by
  conv_lhs => rw [record_eq_absorbAll member]
  rw [PropertyRules.admitsLength_absorbAll]
  simp [PropertyRules.AdmitsLength]

theorem admits_iff_letsThrough (member : record ∈ (foldRules rules).records)
    (defined : ∀ rule ∈ rules, rule.value.number? ≠ some .nan) (number : Binary64) :
    record.Admits number ↔ Rule.LetsThrough (Rule.ofKey record.key rules) number := by
  have own : ∀ rule ∈ Rule.ofKey record.key rules, rule.value.number? ≠ some .nan :=
    fun rule inside => defined rule (List.mem_of_mem_filter inside)
  have kept (side : Side) : record.bound? side =
      (Rule.bounds side (Rule.ofKey record.key rules)).foldl tighten none := by
    conv_lhs => rw [record_eq_absorbAll member]
    rw [PropertyRules.bound?_absorbAll]
    cases side <;> rfl
  have sides (side : Side) := all_admits_kept_iff (Rule.side_of_mem_bounds side)
    (Rule.limit_of_mem_bounds own) number
  simp only [PropertyRules.Admits, kept, sides]
  exact ⟨fun all => ⟨fun side => (all side).1, fun side => (all side).2⟩,
    fun through side => ⟨through.reached side, through.last side⟩⟩

theorem exists_image {others : List Rule} (perm : others.Perm rules)
    (member : record ∈ (foldRules rules).records) :
    ∃ image ∈ (foldRules others).records, image.key = record.key := by
  have known : record.key ∈ (foldRules rules).records.map PropertyRules.key :=
    List.mem_map_of_mem member
  rw [keys_foldRules, List.mem_eraseDups, ← (perm.map _).mem_iff, ← List.mem_eraseDups,
    ← keys_foldRules] at known
  exact List.mem_map.mp known

theorem admits_iff_letsThrough_of_perm {others : List Rule} {image : PropertyRules}
    (perm : others.Perm rules) (inside : image ∈ (foldRules others).records)
    (sameKey : image.key = record.key)
    (defined : ∀ rule ∈ rules, rule.value.number? ≠ some .nan) (number : Binary64) :
    image.Admits number ↔ Rule.LetsThrough (Rule.ofKey record.key others) number := by
  have alsoDefined : ∀ rule ∈ others, rule.value.number? ≠ some .nan :=
    fun rule member => defined rule (perm.mem_iff.mp member)
  rw [admits_iff_letsThrough inside alsoDefined, sameKey]

/-- A contested number is admitted by the record of one order of the rules and refused by that of
another. -/
theorem exists_disagreeing (member : record ∈ (foldRules rules).records)
    (defined : ∀ rule ∈ rules, rule.value.number? ≠ some .nan) {number : Binary64}
    (contested : Rule.Contests (Rule.ofKey record.key rules) number) :
    ∃ ahead behind, ahead.Perm rules ∧ behind.Perm rules ∧
      ∃ image ∈ (foldRules ahead).records, image.key = record.key ∧
        ∃ other ∈ (foldRules behind).records, other.key = record.key ∧
          image.Admits number ∧ ¬other.Admits number := by
  -- The inclusive rules readmit the limit where they come last.
  let exclusive := rules.filter fun rule => !rule.isInclusive
  let inclusive := rules.filter Rule.isInclusive
  have behind : (inclusive ++ exclusive).Perm rules := List.filter_append_perm _ rules
  have ahead : (exclusive ++ inclusive).Perm rules := List.perm_append_comm.trans behind
  obtain ⟨image, inside, key⟩ := exists_image ahead member
  obtain ⟨other, within, otherKey⟩ := exists_image behind member
  have split : (Rule.ofKey record.key exclusive ++ Rule.ofKey record.key inclusive).Perm
      (Rule.ofKey record.key rules) := by
    rw [← Rule.ofKey_append]
    exact ahead.filter _
  obtain ⟨passes, fails⟩ := contested.order_matters split (by grind [Rule.ofKey])
    (by grind [Rule.ofKey])
  rw [← Rule.ofKey_append] at passes fails
  refine ⟨_, _, ahead, behind, image, inside, key, other, within, otherKey, ?_, ?_⟩
  · exact (admits_iff_letsThrough_of_perm ahead inside key defined number).mpr passes
  · exact fun admits =>
      fails ((admits_iff_letsThrough_of_perm behind within otherKey defined number).mp admits)

end Records

/-- There is one record for each key of some rules. It limits lengths as the rules of its key do.
It admits the numbers that satisfy these rules exactly where no number is readmitted, and this does
not depend on the order of the rules exactly where no number is contested. -/
theorem folded_bounds_exact_iff (rules : List Rule)
    (defined : ∀ rule ∈ rules, rule.value.number? ≠ some .nan) :
    (foldRules rules).records.map PropertyRules.key = (rules.map Rule.key).eraseDups ∧
    ∀ record ∈ (foldRules rules).records,
      let own := Rule.ofKey record.key rules
      (∀ length, record.AdmitsLength length ↔ ∀ rule ∈ own, rule.AdmitsLength length) ∧
      ((∀ number, record.Admits number ↔ ∀ rule ∈ own, rule.Admits number) ↔
        ∀ number, ¬Rule.Readmits own number) ∧
      ((∀ others, others.Perm rules → ∀ image ∈ (foldRules others).records,
          image.key = record.key → ∀ number, image.Admits number ↔ record.Admits number) ↔
        ∀ number, ¬Rule.Contests own number) := by
  refine ⟨keys_foldRules rules, ?_⟩
  intro record member own
  have through := admits_iff_letsThrough member defined
  refine ⟨admitsLength_iff member, ?exact, ?order⟩
  case exact =>
    refine forall_congr' fun number => ?_
    rw [through number]
    constructor
    · intro same readmitted
      exact (Rule.readmits_iff readmitted.1).mp readmitted (same.mp readmitted.1)
    · intro calm
      refine ⟨fun passes => ?_, Rule.letsThrough_of_admits⟩
      by_contra fails
      exact calm ((Rule.readmits_iff passes).mpr fails)
  case order =>
    constructor
    · intro same number contested
      obtain ⟨ahead, behind, perm, permBehind, image, inside, key, other, within, otherKey,
        passes, fails⟩ := exists_disagreeing member defined contested
      have agree := (same behind permBehind other within otherKey number).trans
        (same ahead perm image inside key number).symm
      exact fails (agree.mpr passes)
    · intro calm others perm image inside sameKey number
      have own_perm : (Rule.ofKey record.key others).Perm own := perm.filter _
      rw [admits_iff_letsThrough_of_perm perm inside sameKey defined, through number]
      constructor
      · intro passes
        exact passes.of_perm own_perm fun contested => calm number (contested.of_perm own_perm)
      · intro passes
        exact passes.of_perm own_perm.symm (calm number)

/-- A lower bound of five for the total of an order. -/
def totalOfFive (inclusive : Bool) : Rule :=
  Rule.bound "Order" "Total" .minimum (Binary64.ofInt 5) inclusive

@[simp]
theorem key_totalOfFive (inclusive : Bool) : (totalOfFive inclusive).key = ("Order", "Total") :=
  rfl

/-- An exclusive bound behind an inclusive one with the same limit stays in force. -/
theorem exclusiveTotal_stays :
    (∀ rule ∈ [totalOfFive true, totalOfFive false], rule.value.number? ≠ some .nan) ∧
      ∀ record ∈ (foldRules [totalOfFive true, totalOfFive false]).records, ∀ number,
        record.Admits number ↔
          (totalOfFive true).Admits number ∧ (totalOfFive false).Admits number := by
  have defined : ∀ rule ∈ [totalOfFive true, totalOfFive false],
      rule.value.number? ≠ some .nan := by
    decide +kernel
  have least : Rule.bounds .least [totalOfFive true, totalOfFive false] =
      [⟨.least, Binary64.ofInt 5, false⟩, ⟨.least, Binary64.ofInt 5, true⟩] := by
    decide +kernel
  have greatest : Rule.bounds .greatest [totalOfFive true, totalOfFive false] = [] := by
    decide +kernel
  refine ⟨defined, ?_⟩
  intro record member number
  obtain ⟨keys, exact_iff⟩ := folded_bounds_exact_iff _ defined
  have known := List.mem_map_of_mem (f := PropertyRules.key) member
  rw [keys] at known
  have key : record.key = ("Order", "Total") := by simpa using known
  obtain ⟨-, same, -⟩ := exact_iff record member
  rw [key] at same
  have calm (number : Binary64) :
      ¬Rule.Readmits [totalOfFive true, totalOfFive false] number := by
    rintro ⟨through, side, bound, inside, met, -⟩
    cases side with
    | greatest => simp [greatest] at inside
    | least =>
        have limit : bound.limit = Binary64.ofInt 5 := by
          rw [least] at inside
          grind
        have last := through.last .least ⟨.least, Binary64.ofInt 5, true⟩
        rw [NumberBound.isMetBy, limit] at met
        simp [least, lastAt, NumberBound.isMetBy, met] at last
  simpa [Rule.ofKey] using same.mpr calm number

/-- An inclusive bound behind an exclusive one with the same limit lets the limit through, which the
exclusive one alone does not, and neither do both in the other order. -/
theorem inclusiveTotal_readmits :
    (∃ record ∈ (foldRules [totalOfFive false, totalOfFive true]).records,
      record.Admits (Binary64.ofInt 5)) ∧
    ¬(totalOfFive false).Admits (Binary64.ofInt 5) ∧
    ∀ record ∈ (foldRules [totalOfFive true, totalOfFive false]).records,
      ¬record.Admits (Binary64.ofInt 5) := by
  decide +kernel

end TypedClient
