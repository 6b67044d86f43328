/-
This file shows which types an assembled contract holds. The closure of references is exact: what
the contract refers to and some file declares is there, and what was moved is referred to.
-/

import Mathlib.Data.List.Perm.Basic
import TypedClient.Backend.Assembly
import TypedClient.Proofs.Merge
import TypedClient.Proofs.SortedNames

namespace TypedClient.Assembly

/-- A name occurs in a type: as its own name or in one of its arguments. -/
inductive OccursIn (name : String) : SourceType → Prop
  | itself {type : SourceType} (same : type.name = name) : OccursIn name type
  | argument {type argument : SourceType} (member : argument ∈ type.arguments)
      (deeper : OccursIn name argument) : OccursIn name type

mutual

theorem mem_names (name : String) : (type : SourceType) → (name ∈ names type ↔ OccursIn name type)
  | ⟨own, display, scope, isGeneric, arguments, isCollection, isNullable, isEnum, members,
      properties, summary⟩ => by
    rw [names, List.mem_cons, mem_namesOfAll]
    constructor
    · rintro (rfl | ⟨argument, member, deeper⟩)
      · exact .itself rfl
      · exact .argument member deeper
    · rintro (same | ⟨member, deeper⟩)
      · exact .inl same.symm
      · exact .inr ⟨_, member, deeper⟩

theorem mem_namesOfAll (name : String) :
    (types : List SourceType) → (name ∈ namesOfAll types ↔ ∃ type ∈ types, OccursIn name type)
  | [] => by simp [namesOfAll]
  | type :: rest => by
    rw [namesOfAll, List.mem_append, mem_names name type, mem_namesOfAll name rest]
    simp

end

mutual

theorem names_markEnums (enums : List String) :
    (type : SourceType) → names (markEnums enums type) = names type
  | ⟨own, display, scope, isGeneric, arguments, isCollection, isNullable, isEnum, members,
      properties, summary⟩ => by
    have arguments := namesOfAll_markAllEnums enums arguments
    rw [markEnums]
    split <;> simp only [SourceType.asEnum, names, arguments]

theorem namesOfAll_markAllEnums (enums : List String) :
    (types : List SourceType) → namesOfAll (markAllEnums enums types) = namesOfAll types
  | [] => by rw [markAllEnums]
  | type :: rest => by
    rw [markAllEnums, namesOfAll, namesOfAll, names_markEnums enums type,
      namesOfAll_markAllEnums enums rest]

end

@[simp] theorem name_markEnums (enums : List String) (type : SourceType) :
    (markEnums enums type).name = type.name := by
  obtain ⟨name, display, scope, isGeneric, arguments, isCollection, isNullable, isEnum, members,
    properties, summary⟩ := type
  rw [markEnums]
  split <;> rfl

@[simp] theorem name_markDefinition (enums : List String) (type : SourceType) :
    (markDefinition enums type).name = type.name := by
  unfold markDefinition
  split <;> rfl

@[simp] theorem propertyNames_markDefinition (enums : List String) (type : SourceType) :
    propertyNames (markDefinition enums type) = propertyNames type := by
  unfold markDefinition
  split
  · rfl
  · simp [propertyNames, List.flatMap_map, names_markEnums]

theorem take?_eq_none {name : String} {types : List SourceType} :
    take? name types = none ↔ name ∉ types.map SourceType.name := by
  induction types with
  | nil => simp [take?]
  | cons type rest inductionHypothesis =>
      by_cases same : type.name = name
      · simp [take?, same]
      · simp only [take?, beq_iff_eq, same, ↓reduceIte, Option.map_eq_none_iff,
          inductionHypothesis, List.map_cons, List.mem_cons, not_or]
        exact ⟨fun absent => ⟨Ne.symm same, absent⟩, And.right⟩

theorem perm_of_take? {name : String} {types : List SourceType}
    {found : SourceType × List SourceType} (taken : take? name types = some found) :
    found.1.name = name ∧ types.Perm (found.1 :: found.2) := by
  induction types generalizing found with
  | nil => simp [take?] at taken
  | cons type rest inductionHypothesis =>
      by_cases same : type.name = name
      · simp only [take?, beq_iff_eq, same, ↓reduceIte, Option.some.injEq] at taken
        subst taken
        exact ⟨same, .refl _⟩
      · simp only [take?, beq_iff_eq, same, ↓reduceIte, Option.map_eq_some_iff] at taken
        obtain ⟨deeper, inner, rfl⟩ := taken
        obtain ⟨named, others⟩ := inductionHypothesis inner
        exact ⟨named, (others.cons type).trans (.swap ..)⟩

/-- A name that is not pending is passed over. -/
theorem pull_absent {types pending : List SourceType} {name : String} {rest : List String}
    (absent : take? name pending = none) :
    pull types pending (name :: rest) = pull types pending rest := by
  rw [pull]
  split
  · rfl
  · rename_i taken
    rw [absent] at taken
    contradiction

/-- A pending type moves, and the names in it come next. -/
theorem pull_present {types pending : List SourceType} {name : String} {rest : List String}
    {found : SourceType × List SourceType} (present : take? name pending = some found) :
    pull types pending (name :: rest) =
      pull (types ++ [found.1]) found.2 ((propertyNames found.1).reverse ++ rest) := by
  rw [pull]
  split
  · rename_i taken
    rw [present] at taken
    contradiction
  · rename_i taken
    rw [present] at taken
    cases taken
    rfl

/-- What pulling the names of a stack out of `pending` leads to: `moved` are the types that leave,
and `rest` are those that stay. -/
structure Pulled (pending : List SourceType) (stack : List String)
    (moved rest : List SourceType) : Prop where
  partition : pending.Perm (moved ++ rest)
  /-- No name of the stack stays. -/
  covered : ∀ name ∈ stack, name ∉ rest.map SourceType.name
  /-- No name that a moved type refers to stays. -/
  closed : ∀ type ∈ moved, ∀ name ∈ propertyNames type, name ∉ rest.map SourceType.name
  /-- What holds of the stack and follows the references of pending types holds of what moves. -/
  reached : ∀ holds : String → Prop, (∀ name ∈ stack, holds name) →
    (∀ type ∈ pending, holds type.name → ∀ name ∈ propertyNames type, holds name) →
    ∀ type ∈ moved, holds type.name

namespace Pulled

/-- Without names nothing moves. -/
theorem done (pending : List SourceType) : Pulled pending [] [] pending where
  partition := .refl _
  covered := by simp
  closed := by simp
  reached := by simp

theorem not_left {pending moved rest : List SourceType} {name : String} {stack : List String}
    (pulled : Pulled pending stack moved rest) (absent : name ∉ pending.map SourceType.name) :
    name ∉ rest.map SourceType.name := by
  intro member
  have before := (pulled.partition.map SourceType.name).mem_iff (a := name)
  rw [List.map_append, List.mem_append] at before
  exact absent (before.mpr (.inr member))

/-- A name that is not pending changes nothing. -/
theorem skip {pending moved rest : List SourceType} {name : String} {stack : List String}
    (absent : name ∉ pending.map SourceType.name) (pulled : Pulled pending stack moved rest) :
    Pulled pending (name :: stack) moved rest where
  partition := pulled.partition
  covered := by
    intro asked member
    rcases List.mem_cons.mp member with rfl | later
    · exact pulled.not_left absent
    · exact pulled.covered asked later
  closed := pulled.closed
  reached := fun holds start follows => pulled.reached holds
    (fun asked member => start asked (List.mem_cons_of_mem name member)) follows

/-- A type that moves hands its references on to the stack. -/
theorem step {pending others moved rest : List SourceType} {type : SourceType} {name : String}
    {stack : List String} (unique : (pending.map SourceType.name).Nodup)
    (named : type.name = name) (split : pending.Perm (type :: others))
    (pulled : Pulled others ((propertyNames type).reverse ++ stack) moved rest) :
    Pulled pending (name :: stack) (type :: moved) rest where
  partition := split.trans (pulled.partition.cons type)
  covered := by
    have fresh : name ∉ others.map SourceType.name := by
      have distinct := (split.map SourceType.name).nodup_iff.mp unique
      rw [List.map_cons, named] at distinct
      exact (List.nodup_cons.mp distinct).1
    intro asked member
    rcases List.mem_cons.mp member with rfl | later
    · exact pulled.not_left fresh
    · exact pulled.covered asked (List.mem_append_right _ later)
  closed := by
    intro mover member asked reference
    rcases List.mem_cons.mp member with rfl | later
    · exact pulled.covered asked (List.mem_append_left _ (List.mem_reverse.mpr reference))
    · exact pulled.closed mover later asked reference
  reached := by
    intro holds start follows
    have here : holds type.name := named ▸ start name List.mem_cons_self
    have pendingFollows : ∀ other ∈ others, holds other.name →
        ∀ asked ∈ propertyNames other, holds asked := fun other member =>
      follows other (split.mem_iff.mpr (List.mem_cons_of_mem type member))
    have stackHolds : ∀ asked ∈ (propertyNames type).reverse ++ stack, holds asked := by
      intro asked member
      rcases List.mem_append.mp member with reference | later
      · exact follows type (split.mem_iff.mpr List.mem_cons_self) here asked
          (List.mem_reverse.mp reference)
      · exact start asked (List.mem_cons_of_mem name later)
    intro mover member
    rcases List.mem_cons.mp member with rfl | later
    · exact here
    · exact pulled.reached holds stackHolds pendingFollows mover later

end Pulled

/-- A pull ends with the types before it, and behind them the types that moved. -/
theorem pull_pulled (types pending : List SourceType) (stack : List String)
    (unique : (pending.map SourceType.name).Nodup) :
    ∃ moved, (pull types pending stack).1 = types ++ moved ∧
      Pulled pending stack moved (pull types pending stack).2 := by
  fun_induction pull types pending stack with
  | case1 types pending => exact ⟨[], by simp, .done pending⟩
  | case2 types pending name rest taken inductionHypothesis =>
      obtain ⟨moved, behind, pulled⟩ := inductionHypothesis unique
      exact ⟨moved, behind, pulled.skip (take?_eq_none.mp taken)⟩
  | case3 types pending name rest found taken shorter inductionHypothesis =>
      obtain ⟨named, split⟩ := perm_of_take? taken
      have distinct := (split.map SourceType.name).nodup_iff.mp unique
      obtain ⟨moved, behind, pulled⟩ := inductionHypothesis (List.nodup_cons.mp distinct).2
      refine ⟨found.1 :: moved, ?_, pulled.step unique named split⟩
      rw [behind, List.append_assoc, List.singleton_append]

theorem mem_names_table {name : String} {types : List SourceType} :
    name ∈ (table types).map SourceType.name ↔ name ∈ types.map SourceType.name := by
  induction types with
  | nil => rfl
  | cons type rest inductionHypothesis =>
      by_cases again : type.name ∈ rest.map SourceType.name
      · rw [table, if_pos (List.contains_iff_mem.mpr again), inductionHypothesis, List.map_cons,
          List.mem_cons, iff_or_self]
        rintro rfl
        exact again
      · rw [table, if_neg (mt List.contains_iff_mem.mp again), List.map_cons, List.map_cons,
          List.mem_cons, List.mem_cons, inductionHypothesis]

theorem nodup_table (types : List SourceType) : ((table types).map SourceType.name).Nodup := by
  induction types with
  | nil => exact .nil
  | cons type rest inductionHypothesis =>
      by_cases again : type.name ∈ rest.map SourceType.name
      · rwa [table, if_pos (List.contains_iff_mem.mpr again)]
      · rw [table, if_neg (mt List.contains_iff_mem.mp again), List.map_cons, List.nodup_cons,
          mem_names_table]
        exact ⟨again, inductionHypothesis⟩

theorem table_of_nodup {types : List SourceType} (distinct : (types.map SourceType.name).Nodup) :
    table types = types := by
  induction types with
  | nil => rfl
  | cons type rest inductionHypothesis =>
      obtain ⟨once, distinct⟩ := List.nodup_cons.mp distinct
      rw [table, if_neg (mt List.contains_iff_mem.mp once), inductionHypothesis distinct]

theorem mergeSort_values {types : List SourceType}
    (distinct : (types.map SourceType.name).Nodup) (order : TableOrder) :
    (order.values types).mergeSort nameAtMost = types.mergeSort nameAtMost := by
  refine (Text.mergeSort_eq_of_perm ?transitive ?total (order.perm types).symm ?noTies).symm
  case transitive =>
    intro first second third
    exact Text.atMost_trans first.name second.name third.name
  case total =>
    intro first second
    exact Text.atMost_total first.name second.name
  case noTies =>
    intro first inFirst second inSecond before behind
    have named : first.name = second.name :=
      le_antisymm (Text.atMost_iff.mp before) (Text.atMost_iff.mp behind)
    exact List.inj_on_of_nodup_map distinct inFirst inSecond named

/-- The order in which the table gives its types back does not show: what is left over is sorted by
names that differ. -/
theorem closeReferences_order (endpoints : List Endpoint) (types unlisted : List SourceType)
    (roots : List String) (first second : TableOrder) :
    closeReferences endpoints types unlisted roots first =
      closeReferences endpoints types unlisted roots second := by
  obtain ⟨moved, -, pulled⟩ := pull_pulled types (table unlisted)
    (roots ++ endpoints.flatMap endpointNames ++ types.flatMap propertyNames).reverse
    (nodup_table unlisted)
  -- No name is left over twice, since the table has none twice.
  have distinct := (pulled.partition.map SourceType.name).nodup_iff.mp (nodup_table unlisted)
  rw [List.map_append, List.nodup_append'] at distinct
  simp only [closeReferences, mergeSort_values distinct.2.1]

/-- A name occurs in the request, the response or a parameter of an operation. -/
def UsedBy (name : String) (endpoint : Endpoint) : Prop :=
  ∃ type, (endpoint.requestType = some type ∨ endpoint.responseType = some type ∨
    ∃ parameter ∈ endpoint.parameters, parameter.type = type) ∧ OccursIn name type

/-- A name occurs in the type of a property of a definition. -/
def MentionedBy (name : String) (type : SourceType) : Prop :=
  ∃ property ∈ type.properties, OccursIn name property.type

/-- Some file declares a type of a name that belongs to the contract by itself. -/
def Listed (files : List FileAnalysis) (name : String) : Prop :=
  ∃ file ∈ files, ∃ type ∈ file.types, type.name = name

/-- Some file declares a type of a name that belongs to the contract only if it is needed. -/
def Unlisted (files : List FileAnalysis) (name : String) : Prop :=
  ∃ file ∈ files, ∃ type ∈ file.unlisted, type.name = name

/-- Some file has a validator for the type of a name. -/
def Validated (files : List FileAnalysis) (name : String) : Prop :=
  ∃ file ∈ files, ∃ rule ∈ file.rules, rule.typeName = name

/-- A chain of references leads to a name. It starts at an operation, a listed type or a
validator, and goes on through the types that were moved. -/
inductive Reached (files : List FileAnalysis) (endpoints : List Endpoint)
    (listed moved : List SourceType) : String → Prop
  | fromEndpoint {name : String} {endpoint : Endpoint} (member : endpoint ∈ endpoints)
      (used : UsedBy name endpoint) : Reached files endpoints listed moved name
  | fromListed {name : String} {type : SourceType} (member : type ∈ listed)
      (mentioned : MentionedBy name type) : Reached files endpoints listed moved name
  | fromValidator {name : String} (validated : Validated files name) :
      Reached files endpoints listed moved name
  | throughMoved {name : String} {type : SourceType} (member : type ∈ moved)
      (before : Reached files endpoints listed moved type.name)
      (mentioned : MentionedBy name type) : Reached files endpoints listed moved name

/-- Something in a contract refers to a name, or a validator does. -/
def Referenced (files : List FileAnalysis) (contract : Contract) (name : String) : Prop :=
  (∃ endpoint ∈ contract.endpoints, UsedBy name endpoint) ∨
    (∃ type ∈ contract.types, MentionedBy name type) ∨ Validated files name

/-- The names of an operation are those that it uses. -/
theorem mem_endpointNames (name : String) (endpoint : Endpoint) :
    name ∈ endpointNames endpoint ↔ UsedBy name endpoint := by
  simp only [endpointNames, UsedBy, List.mem_flatMap, List.mem_append, Option.mem_toList,
    List.mem_map, mem_names, or_assoc]

theorem mem_propertyNames (name : String) (type : SourceType) :
    name ∈ propertyNames type ↔ MentionedBy name type := by
  simp only [propertyNames, MentionedBy, List.mem_flatMap, mem_names]

end TypedClient.Assembly
