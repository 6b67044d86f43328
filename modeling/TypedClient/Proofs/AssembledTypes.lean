/-
This file shows which types an assembled contract holds and which it leaves out.
-/

import Mathlib.Data.List.Basic
import TypedClient.Proofs.ReferenceClosure

namespace TypedClient.Assembly

section Stages

variable (files : List FileAnalysis)

def ordered : List FileAnalysis :=
  files.mergeSort fun left right => Path.atMost left.path right.path

/-- The contract of the files before types move. -/
def merged : Contract :=
  Contract.firstParts ((ordered files).map fun file =>
    { endpoints := file.endpoints, types := file.types, unlistedTypes := file.unlisted })

def enums : List String :=
  ((merged files).types.filter SourceType.isEnum).map SourceType.name

/-- The operations with their references marked. -/
def markedEndpoints : List Endpoint :=
  (merged files).endpoints.map (markEndpoint (enums files))

/-- The names from which references are followed. -/
def startNames : List String :=
  ((ordered files).flatMap FileAnalysis.rules).map Rule.typeName ++
    (markedEndpoints files).flatMap endpointNames ++ (merged files).types.flatMap propertyNames

theorem table_unlistedTypes : table (merged files).unlistedTypes = (merged files).unlistedTypes :=
  table_of_nodup (Contract.nodup_keys_firstOfEach SourceType.name [] _)

/-- The types that stay and move once all references are followed. -/
def pulledTypes : List SourceType × List SourceType :=
  pull (merged files).types (merged files).unlistedTypes (startNames files).reverse

theorem assemble_endpoints : (assemble files).value.endpoints = markedEndpoints files := by
  simp only [assemble, Contract.merge_value]
  rfl

theorem assemble_types : (assemble files).value.types =
    (pulledTypes files).1.map (markDefinition (enums files)) := by
  rw [pulledTypes, ← table_unlistedTypes]
  simp only [assemble, Contract.merge_value]
  rfl

theorem assemble_unlistedTypes : (assemble files).value.unlistedTypes =
    (pulledTypes files).2.mergeSort nameAtMost := by
  rw [pulledTypes, ← table_unlistedTypes]
  simp only [assemble, Contract.merge_value]
  rfl

/-- The rules are those of the validators and of the decorations in the types. -/
theorem assemble_rules :
    let contract := (assemble files).value
    let folded := foldRules ((ordered files).flatMap FileAnalysis.rules ++
      Validator.decorationRules contract.types)
    contract.validation = folded.records ∧ contract.extraRules = folded.extras := by
  simp only [assemble, Contract.merge_value]
  exact ⟨rfl, rfl⟩

variable {files}

/-- The names among merged types are those that some file declares. -/
theorem mem_names_ordered (select : FileAnalysis → List SourceType) (name : String) :
    name ∈ (Contract.firstOfEach SourceType.name [] ((ordered files).flatMap select)).map
        SourceType.name ↔
      ∃ file ∈ files, ∃ type ∈ select file, type.name = name := by
  rw [Contract.mem_keys_firstOfEach]
  simp only [List.mem_map, List.mem_flatMap, List.not_mem_nil, not_false_eq_true, and_true,
    ordered, List.mem_mergeSort]
  constructor
  · rintro ⟨type, ⟨file, member, inside⟩, same⟩
    exact ⟨file, member, type, inside, same⟩
  · rintro ⟨file, member, type, inside, same⟩
    exact ⟨type, ⟨file, member, inside⟩, same⟩

theorem mem_names_listed (name : String) :
    name ∈ (merged files).types.map SourceType.name ↔ Listed files name := by
  simp only [merged, Contract.firstParts, List.flatMap_map]
  exact mem_names_ordered FileAnalysis.types name

theorem mem_names_unlisted (name : String) :
    name ∈ (merged files).unlistedTypes.map SourceType.name ↔ Unlisted files name := by
  simp only [merged, Contract.firstParts, List.flatMap_map]
  exact mem_names_ordered FileAnalysis.unlisted name

/-- References are followed from validators, operations and listed types. -/
theorem mem_startNames (name : String) :
    name ∈ startNames files ↔ Validated files name ∨
      (∃ endpoint ∈ markedEndpoints files, UsedBy name endpoint) ∨
      ∃ type ∈ (merged files).types, MentionedBy name type := by
  simp only [startNames, Validated, List.mem_append, List.mem_map, List.mem_flatMap, ordered,
    List.mem_mergeSort, mem_endpointNames, mem_propertyNames, or_assoc]
  constructor
  · rintro (⟨rule, ⟨file, member, inside⟩, same⟩ | others)
    · exact .inl ⟨file, member, rule, inside, same⟩
    · exact .inr others
  · rintro (⟨file, member, rule, inside, same⟩ | others)
    · exact .inl ⟨rule, ⟨file, member, inside⟩, same⟩
    · exact .inr others

end Stages

/-- How the types of a contract come from files: `listed` belong to it by themselves, and `moved`
were pulled in behind them. -/
structure Closed (files : List FileAnalysis) (contract : Contract)
    (listed moved : List SourceType) : Prop where
  types : contract.types = listed ++ moved
  listedOnce : (listed.map SourceType.name).Nodup
  listedNames : ∀ name, name ∈ listed.map SourceType.name ↔ Listed files name
  unlistedOnce : (moved.map SourceType.name ++
    contract.unlistedTypes.map SourceType.name).Nodup
  unlistedNames : ∀ name, name ∈ moved.map SourceType.name ++
    contract.unlistedTypes.map SourceType.name ↔ Unlisted files name
  /-- Nothing that is referred to is left out. -/
  complete : ∀ name, Referenced files contract name →
    name ∉ contract.unlistedTypes.map SourceType.name
  /-- Nothing moves that is not referred to. -/
  needed : ∀ type ∈ moved, Reached files contract.endpoints listed moved type.name

theorem mentionedBy_markDefinition {enums : List String} {name : String} {type : SourceType} :
    MentionedBy name (markDefinition enums type) ↔ MentionedBy name type := by
  rw [← mem_propertyNames, ← mem_propertyNames, propertyNames_markDefinition]

/-- Every name at the end of a chain is referred to. -/
theorem Reached.referenced {files : List FileAnalysis} {contract : Contract}
    {listed moved : List SourceType} (types : contract.types = listed ++ moved) {name : String}
    (reached : Reached files contract.endpoints listed moved name) :
    Referenced files contract name := by
  cases reached with
  | fromEndpoint member used => exact .inl ⟨_, member, used⟩
  | fromListed member mentioned =>
      exact .inr (.inl ⟨_, types ▸ List.mem_append_left _ member, mentioned⟩)
  | fromValidator validated => exact .inr (.inr validated)
  | throughMoved member before mentioned =>
      exact .inr (.inl ⟨_, types ▸ List.mem_append_right _ member, mentioned⟩)

theorem names_map_markDefinition (enums : List String) (types : List SourceType) :
    (types.map (markDefinition enums)).map SourceType.name = types.map SourceType.name := by
  simp [Function.comp_def]

section Assembled

variable {files : List FileAnalysis} {moved : List SourceType}
  (behind : (pulledTypes files).1 = (merged files).types ++ moved)

include behind

theorem types_eq_listed_append_moved : (assemble files).value.types =
    (merged files).types.map (markDefinition (enums files)) ++
      moved.map (markDefinition (enums files)) := by
  rw [assemble_types, behind, List.map_append]

variable (pulled : Pulled (merged files).unlistedTypes (startNames files).reverse moved
  (pulledTypes files).2)

include pulled

/-- A name that an assembled contract refers to does not stay behind. -/
theorem not_left_of_referenced {name : String}
    (referenced : Referenced files (assemble files).value name) :
    name ∉ (pulledTypes files).2.map SourceType.name := by
  have started (start : name ∈ startNames files) :
      name ∉ (pulledTypes files).2.map SourceType.name :=
    pulled.covered name (List.mem_reverse.mpr start)
  rcases referenced with operation | ⟨type, member, mentioned⟩ | validated
  · rw [assemble_endpoints] at operation
    exact started ((mem_startNames name).mpr (.inr (.inl operation)))
  · rw [assemble_types, behind] at member
    obtain ⟨original, inside, rfl⟩ := List.mem_map.mp member
    have mentioned := mentionedBy_markDefinition.mp mentioned
    rcases List.mem_append.mp inside with listed | mover
    · exact started ((mem_startNames name).mpr (.inr (.inr ⟨original, listed, mentioned⟩)))
    · exact pulled.closed original mover name ((mem_propertyNames name original).mpr mentioned)
  · exact started ((mem_startNames name).mpr (.inl validated))

/-- A chain of references leads to each type that moved. -/
theorem reached_of_moved : ∀ type ∈ moved,
    Reached files (assemble files).value.endpoints
      ((merged files).types.map (markDefinition (enums files)))
      (moved.map (markDefinition (enums files))) type.name := by
  refine pulled.reached _ ?_ ?_
  · intro name start
    rw [List.mem_reverse, mem_startNames] at start
    rcases start with validated | ⟨endpoint, member, used⟩ | ⟨type, member, mentioned⟩
    · exact .fromValidator validated
    · exact .fromEndpoint (assemble_endpoints files ▸ member) used
    · exact .fromListed (List.mem_map_of_mem member) (mentionedBy_markDefinition.mpr mentioned)
  · intro type pending before name mentions
    have left := not_left_of_referenced behind pulled
      (before.referenced (types_eq_listed_append_moved behind))
    -- A pending type with a name that is referred to has moved.
    have gone : type ∈ moved := by
      rcases List.mem_append.mp (pulled.partition.mem_iff.mp pending) with mover | stays
      · exact mover
      · exact absurd (List.mem_map_of_mem stays) left
    refine .throughMoved (List.mem_map_of_mem gone) ?_
      (mentionedBy_markDefinition.mpr ((mem_propertyNames name type).mp mentions))
    rwa [name_markDefinition]

end Assembled

/-- An assembled contract is closed. -/
theorem closed_assemble (files : List FileAnalysis) :
    ∃ listed moved, Closed files (assemble files).value listed moved := by
  have unique : ((merged files).unlistedTypes.map SourceType.name).Nodup :=
    Contract.nodup_keys_firstOfEach SourceType.name [] _
  obtain ⟨moved, behind, pulled⟩ :=
    pull_pulled (merged files).types (merged files).unlistedTypes (startNames files).reverse unique
  change (pulledTypes files).1 = _ at behind
  change Pulled _ _ moved (pulledTypes files).2 at pulled
  have leftOut : ((assemble files).value.unlistedTypes.map SourceType.name).Perm
      ((pulledTypes files).2.map SourceType.name) := by
    rw [assemble_unlistedTypes]
    exact (List.mergeSort_perm _ _).map _
  have split : (moved.map SourceType.name ++
      (assemble files).value.unlistedTypes.map SourceType.name).Perm
        ((merged files).unlistedTypes.map SourceType.name) := by
    refine (leftOut.append_left _).trans ?_
    rw [← List.map_append]
    exact (pulled.partition.map SourceType.name).symm
  refine ⟨_, _, {
    types := types_eq_listed_append_moved behind
    listedOnce := ?listedOnce
    listedNames := ?listedNames
    unlistedOnce := ?unlistedOnce
    unlistedNames := ?unlistedNames
    complete := ?complete
    needed := ?needed }⟩
  case listedOnce =>
    rw [names_map_markDefinition]
    exact Contract.nodup_keys_firstOfEach SourceType.name [] _
  case listedNames =>
    intro name
    rw [names_map_markDefinition, mem_names_listed]
  case unlistedOnce =>
    rw [names_map_markDefinition]
    exact split.nodup_iff.mpr unique
  case unlistedNames =>
    intro name
    rw [names_map_markDefinition, split.mem_iff, mem_names_unlisted]
  case complete =>
    intro name referenced
    rw [leftOut.mem_iff]
    exact not_left_of_referenced behind pulled referenced
  case needed =>
    intro mover member
    obtain ⟨original, inside, rfl⟩ := List.mem_map.mp member
    rw [name_markDefinition]
    exact reached_of_moved behind pulled original inside

namespace Closed

variable {files : List FileAnalysis} {contract : Contract} {listed moved : List SourceType}

theorem mem_names_types (closed : Closed files contract listed moved) {name : String} :
    name ∈ contract.types.map SourceType.name ↔
      name ∈ listed.map SourceType.name ∨ name ∈ moved.map SourceType.name := by
  rw [closed.types, List.map_append, List.mem_append]

theorem moved_or_left (closed : Closed files contract listed moved) {name : String}
    (unlisted : Unlisted files name) :
    name ∈ moved.map SourceType.name ∨ name ∈ contract.unlistedTypes.map SourceType.name :=
  List.mem_append.mp ((closed.unlistedNames name).mpr unlisted)

theorem mem_names_moved (closed : Closed files contract listed moved) {name : String} :
    name ∈ moved.map SourceType.name ↔ Unlisted files name ∧ Referenced files contract name := by
  constructor
  · intro member
    refine ⟨(closed.unlistedNames name).mp (List.mem_append_left _ member), ?_⟩
    obtain ⟨type, inMoved, rfl⟩ := List.mem_map.mp member
    exact (closed.needed type inMoved).referenced closed.types
  · rintro ⟨unlisted, referenced⟩
    rcases closed.moved_or_left unlisted with mover | left
    · exact mover
    · exact absurd left (closed.complete name referenced)

theorem nodup_names_iff (closed : Closed files contract listed moved) :
    (contract.types.map SourceType.name).Nodup ↔
      ∀ name, ¬(Listed files name ∧ Unlisted files name ∧ Referenced files contract name) := by
  have movedOnce := (List.nodup_append'.mp closed.unlistedOnce).1
  rw [closed.types, List.map_append, List.nodup_append', and_iff_right closed.listedOnce,
    and_iff_right movedOnce]
  constructor
  · rintro apart name ⟨isListed, moves⟩
    exact apart ((closed.listedNames name).mpr isListed) (closed.mem_names_moved.mpr moves)
  · intro apart name inListed inMoved
    exact apart name ⟨(closed.listedNames name).mp inListed, closed.mem_names_moved.mp inMoved⟩

/-- The types of a closed contract have distinct names, which none of those left out has, exactly
where no name is declared in both ways. -/
theorem names_distinct_iff (closed : Closed files contract listed moved) :
    ((contract.types.map SourceType.name).Nodup ∧
      ∀ name ∈ contract.types.map SourceType.name,
        name ∉ contract.unlistedTypes.map SourceType.name) ↔
      ∀ name, ¬(Listed files name ∧ Unlisted files name) := by
  obtain ⟨-, -, movedApart⟩ := List.nodup_append'.mp closed.unlistedOnce
  rw [closed.nodup_names_iff]
  constructor
  · rintro ⟨once, apart⟩ name ⟨isListed, isUnlisted⟩
    have inListed := (closed.listedNames name).mpr isListed
    rcases closed.moved_or_left isUnlisted with mover | left
    · exact once name ⟨isListed, closed.mem_names_moved.mp mover⟩
    · exact apart name (closed.mem_names_types.mpr (.inl inListed)) left
  · intro apart
    refine ⟨fun name both => apart name ⟨both.1, both.2.1⟩, ?_⟩
    intro name member left
    rcases closed.mem_names_types.mp member with inListed | mover
    · exact apart name ⟨(closed.listedNames name).mp inListed,
        (closed.unlistedNames name).mp (List.mem_append_right _ left)⟩
    · exact movedApart mover left

end Closed

/-- The closure of references is exact. Every name that the contract or a validator refers to is
among its types if some file declares it, every type that was moved is at the end of a chain of
references, and no unlisted name gets lost. -/
theorem assembled_references_exact (files : List FileAnalysis) :
    let contract := (assemble files).value
    ∃ listed moved, contract.types = listed ++ moved ∧
      (listed.map SourceType.name).Nodup ∧
      (∀ name, name ∈ listed.map SourceType.name ↔ Listed files name) ∧
      (∀ name, Referenced files contract name → Listed files name ∨ Unlisted files name →
        name ∈ contract.types.map SourceType.name) ∧
      (∀ type ∈ moved, Unlisted files type.name ∧
        Reached files contract.endpoints listed moved type.name) ∧
      ∀ name, Unlisted files name → name ∈ contract.types.map SourceType.name ∨
        name ∈ contract.unlistedTypes.map SourceType.name := by
  intro contract
  obtain ⟨listed, moved, closed⟩ := closed_assemble files
  refine ⟨listed, moved, closed.types, closed.listedOnce, closed.listedNames, ?_, ?_, ?_⟩
  · rintro name referenced (declared | declared)
    · exact closed.mem_names_types.mpr (.inl ((closed.listedNames name).mpr declared))
    · exact closed.mem_names_types.mpr (.inr (closed.mem_names_moved.mpr ⟨declared, referenced⟩))
  · intro type member
    exact ⟨(closed.mem_names_moved.mp (List.mem_map_of_mem member)).1, closed.needed type member⟩
  · intro name unlisted
    exact (closed.moved_or_left unlisted).imp_left fun mover =>
      closed.mem_names_types.mpr (.inr mover)

/-- The types of an assembled contract have distinct names, which none of those left out has,
exactly where no name is declared both as a listed and as an unlisted type. -/
theorem assembled_names_distinct_iff (files : List FileAnalysis) :
    let contract := (assemble files).value
    ((contract.types.map SourceType.name).Nodup ∧
      ∀ name ∈ contract.types.map SourceType.name,
        name ∉ contract.unlistedTypes.map SourceType.name) ↔
      ∀ name, ¬(Listed files name ∧ Unlisted files name) := by
  obtain ⟨listed, moved, closed⟩ := closed_assemble files
  exact closed.names_distinct_iff

/-- Two files that both declare a status: an enumeration, which another type refers to, and a class
with properties. -/
def twoStatusFiles : List FileAnalysis :=
  [ { path := "Orders.cs"
      types := [
        SourceType.enumeration "Status" (some "Shop.Orders") [⟨"Open", 0, none⟩] none,
        SourceType.definition "OrderDto" (some "Shop.Orders") [] [
          { name := "Status", wireName := "status", type := SourceType.reference "Status",
            isNullable := false, isRequired := true }] none] },
    { path := "Status.cs"
      unlisted := [
        SourceType.definition "Status" (some "Shop.Health") [] [
          { name := "Message", wireName := "message", type := SourceType.reference "string",
            isNullable := false, isRequired := false }] none] } ]

/-- A name that is declared in both ways occurs twice. -/
theorem twoStatusFiles_not_distinct :
    let contract := (assemble twoStatusFiles).value
    ¬((contract.types.map SourceType.name).Nodup ∧
      ∀ name ∈ contract.types.map SourceType.name,
        name ∉ contract.unlistedTypes.map SourceType.name) := by
  obtain ⟨listed, moved, closed⟩ := closed_assemble twoStatusFiles
  intro contract distinct
  refine closed.names_distinct_iff.mp distinct "Status"
    ⟨⟨_, List.mem_cons_self, _, List.mem_cons_self, ?_⟩,
      ⟨_, List.mem_cons_of_mem _ List.mem_cons_self, _, List.mem_cons_self, ?_⟩⟩ <;> decide

end TypedClient.Assembly
