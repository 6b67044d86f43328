/-
This file shows which backends have a client: those whose names of one kind have different stems,
as far as no name takes the stem of a module that every client has.
-/

import TypedClient.Proofs.AssembledTypes
import TypedClient.Proofs.DistinctPaths

namespace TypedClient

open Text

namespace Name

/-- Different names have different stems. -/
def StemsDiffer (names : List String) : Prop :=
  ∀ first ∈ names, ∀ second ∈ names, fileStem first = fileStem second → first = second

instance (names : List String) : Decidable (StemsDiffer names) :=
  inferInstanceAs (Decidable (∀ first ∈ names, ∀ second ∈ names, _ → _))

/-- A name that has the stem of an index module is the only one. -/
def IndexAlone (names : List String) : Prop :=
  ∀ name ∈ names, fileStem name = "index" → ∀ other ∈ names, other = name

/-- A name has no other beside it where it is the only one. -/
theorem indexAlone_singleton (name : String) : IndexAlone [name] := by
  intro first inNames _ second alsoInNames
  rw [List.mem_singleton.mp inNames, List.mem_singleton.mp alsoInNames]

/-- No name has the stem of a module that every client has among its types. -/
def StemsFree (names : List String) : Prop :=
  ∀ name ∈ names, fileStem name ≠ Context.resultStem ∧ fileStem name ≠ "index"

/-- The stems of names fit into a directory exactly where they differ, and a name with the stem of
the index is alone. -/
theorem fits_iff {names : List String} (once : names.Nodup) :
    Fits (names.map fileStem) ↔ StemsDiffer names ∧ IndexAlone names := by
  rw [Fits, List.nodup_map_iff_inj_on once, ← StemsDiffer, and_congr_right_iff]
  intro differ
  simp only [List.forall_mem_map]
  constructor
  · intro alone name member index other inNames
    exact differ other inNames name member
      ((alone (index ▸ List.mem_map_of_mem member) other inNames).trans index.symm)
  · intro alone inStems other inNames
    obtain ⟨name, member, index⟩ := List.mem_map.mp inStems
    rw [alone name member index other inNames, index]

/-- The stems of types fit beside that of the outcome type exactly where the names differ, and so
do their stems, also from those that are taken. -/
theorem fits_beside_result_iff {names : List String} :
    Fits (names.map fileStem ++ [Context.resultStem]) ↔
      names.Nodup ∧ StemsDiffer names ∧ StemsFree names := by
  rw [Fits, List.nodup_append']
  constructor
  · rintro ⟨⟨different, -, apart⟩, alone⟩
    refine ⟨different.of_map, List.inj_on_of_nodup_map different, ?_⟩
    intro name member
    have inStems : fileStem name ∈ names.map fileStem := List.mem_map_of_mem member
    constructor
    · intro taken
      exact apart inStems (List.mem_singleton.mpr taken)
    · intro index
      have result := alone (List.mem_append_left _ (index ▸ inStems)) Context.resultStem
        (List.mem_append_right _ List.mem_cons_self)
      exact absurd result (by decide)
  · rintro ⟨once, differ, free⟩
    refine ⟨⟨(List.nodup_map_iff_inj_on once).mpr differ, List.nodup_singleton _, ?_⟩, ?_⟩
    · intro stem inStems taken
      obtain ⟨name, member, rfl⟩ := List.mem_map.mp inStems
      exact (free name member).1 (List.mem_singleton.mp taken)
    · intro index
      rcases List.mem_append.mp index with inStems | result
      · obtain ⟨name, member, same⟩ := List.mem_map.mp inStems
        exact absurd same (free name member).2
      · exact absurd (List.mem_singleton.mp result) (by decide)

end Name

/-- Stems that are only sometimes there fit if they do when they are there. -/
theorem fits_of_wanted {wanted : Bool} {stems : List String}
    (fits : wanted = true → Fits stems) : Fits (if wanted then stems else []) := by
  split
  · rename_i there
    exact fits there
  · simp [Fits]

open Name (StemsDiffer IndexAlone StemsFree)

/-- There is a client for a contract exactly where no type is declared twice, names of one kind
have different stems, and no name takes a stem that is needed otherwise. -/
theorem Package.generate_ok_iff (contract : Contract) (overrides : List (String × String))
    (options : Options) :
    (∃ files, (generate contract overrides options false).value = .ok files) ↔
      ((contract.types.map SourceType.name).Nodup ∧
        StemsDiffer (contract.types.map SourceType.name) ∧
        StemsFree (contract.types.map SourceType.name)) ∧
      (StemsDiffer (contract.endpoints.map Endpoint.group) ∧
        IndexAlone (contract.endpoints.map Endpoint.group)) ∧
      (options.features.validation = true →
        StemsDiffer contract.validatedTypeNames ∧ IndexAlone contract.validatedTypeNames) := by
  rw [generate_ok_iff_fits]
  have types : Fits (moduleStems (Context.ofContract contract overrides options) .types) ↔
      (contract.types.map SourceType.name).Nodup ∧
        StemsDiffer (contract.types.map SourceType.name) ∧
        StemsFree (contract.types.map SourceType.name) := by
    rw [← Name.fits_beside_result_iff, List.map_map]
    rfl
  have groups : Fits (groupStems (Context.ofContract contract overrides options)) ↔
      StemsDiffer (contract.endpoints.map Endpoint.group) ∧
        IndexAlone (contract.endpoints.map Endpoint.group) := by
    have stems : groupStems (Context.ofContract contract overrides options) =
        (contract.endpoints.map Endpoint.group).eraseDups.map Name.fileStem := by
      rw [groupStems, EndpointGroup.ofContract, List.map_map]
      rfl
    rw [stems, Name.fits_iff (nodup_eraseDups _)]
    simp only [StemsDiffer, IndexAlone, List.mem_eraseDups]
  have validated : Fits (contract.validatedTypeNames.map Name.fileStem) ↔
      StemsDiffer contract.validatedTypeNames ∧ IndexAlone contract.validatedTypeNames :=
    Name.fits_iff (nodup_sortedNames _)
  rw [← types, ← groups, ← validated]
  constructor
  · intro fits
    refine ⟨fits .types, fits .api, ?_⟩
    intro wanted
    have schemas := fits .validation
    simp only [moduleStems, Context.ofContract, wanted, ↓reduceIte] at schemas
    exact schemas
  · rintro ⟨typesFit, groupsFit, schemasFit⟩ directory
    cases directory with
    | types => exact typesFit
    | api => exact groupsFit
    | validation => exact fits_of_wanted schemasFit
    | hooks => exact fits_of_wanted fun _ => groupsFit
    | server => exact fits_of_wanted fun _ => groupsFit

namespace Assembly

/-- There is a client for an assembled contract exactly where names of one kind have different
stems, no type that is declared as listed and as unlisted is referred to, no type has the stem of
the outcome type or of an index, and a group or validated type with the stem of an index is the
only one. -/
theorem assembled_client_exists_iff (files : List FileAnalysis)
    (overrides : List (String × String)) (options : Options) :
    let contract := (assemble files).value
    (∃ artifacts, (Package.generate contract overrides options false).value = .ok artifacts) ↔
      (StemsDiffer (contract.types.map SourceType.name) ∧
        StemsDiffer (contract.endpoints.map Endpoint.group) ∧
        (options.features.validation = true → StemsDiffer contract.validatedTypeNames)) ∧
      (∀ name, ¬(Listed files name ∧ Unlisted files name ∧ Referenced files contract name)) ∧
      StemsFree (contract.types.map SourceType.name) ∧
      IndexAlone (contract.endpoints.map Endpoint.group) ∧
      (options.features.validation = true → IndexAlone contract.validatedTypeNames) := by
  intro contract
  obtain ⟨listed, moved, closed⟩ := closed_assemble files
  rw [Package.generate_ok_iff, closed.nodup_names_iff]
  constructor
  · rintro ⟨⟨once, typesDiffer, free⟩, ⟨groupsDiffer, alone⟩, schemas⟩
    exact ⟨⟨typesDiffer, groupsDiffer, fun wanted => (schemas wanted).1⟩, once, free, alone,
      fun wanted => (schemas wanted).2⟩
  · rintro ⟨⟨typesDiffer, groupsDiffer, schemasDiffer⟩, once, free, alone, schemasAlone⟩
    exact ⟨⟨once, typesDiffer, free⟩, ⟨groupsDiffer, alone⟩,
      fun wanted => ⟨schemasDiffer wanted, schemasAlone wanted⟩⟩

def orderType : SourceType :=
  SourceType.definition "OrderDto" (some "Shop") [] [
    { name := "Id", wireName := "id", type := SourceType.reference "int",
      isNullable := false, isRequired := true }] none

/-- An outcome type that the backend declares itself. -/
def outcomeType : SourceType :=
  SourceType.definition "Result" (some "Shop") [SourceType.reference "T"] [
    { name := "IsSuccess", wireName := "isSuccess", type := SourceType.reference "bool",
      isNullable := false, isRequired := false },
    { name := "Value", wireName := "value", type := SourceType.reference "T",
      isNullable := false, isRequired := false }] none

/-- A file with an operation that answers with the outcome of finding an order. -/
def outcomeFile : FileAnalysis :=
  { path := "Orders.cs"
    endpoints := [
      { verb := .get, route := "/api/orders/\x7bid\x7d", container := "OrdersController",
        operation := "GetOrder", group := "Orders", requiresAuth := false, style := .attached
        responseType := some (SourceType.generic "Result" [SourceType.reference "OrderDto"])
        parameters := [
          { name := "id", type := SourceType.reference "int", isRequired := true,
            place := .route }] }]
    types := [orderType]
    unlisted := [outcomeType] }

theorem merged_outcomeFile : merged [outcomeFile] =
    { endpoints := outcomeFile.endpoints, types := [orderType],
      unlistedTypes := [outcomeType] } := by
  rw [merged, ordered, List.mergeSort_singleton]
  rfl

/-- The outcome type moves, since the operation refers to it. -/
theorem pulledTypes_outcomeFile :
    pulledTypes [outcomeFile] = ([orderType, outcomeType], []) := by
  have names : (startNames [outcomeFile]).reverse = ["int", "int", "OrderDto", "Result"] := by
    rw [startNames, markedEndpoints, enums, merged_outcomeFile, ordered,
      List.mergeSort_singleton]
    decide
  have present : take? "Result" [outcomeType] = some (outcomeType, []) := by
    rfl
  have inside : (propertyNames outcomeType).reverse ++ [] = ["T", "bool"] := by
    decide
  rw [pulledTypes, merged_outcomeFile, names]
  rw [pull_absent rfl, pull_absent rfl, pull_absent rfl, pull_present present, inside,
    pull_absent rfl, pull_absent rfl, pull]
  rfl

theorem types_outcomeFile : (assemble [outcomeFile]).value.types = [orderType, outcomeType] := by
  rw [assemble_types, pulledTypes_outcomeFile, enums, merged_outcomeFile]
  rfl

theorem endpoints_outcomeFile :
    (assemble [outcomeFile]).value.endpoints = outcomeFile.endpoints := by
  rw [assemble_endpoints, markedEndpoints, enums, merged_outcomeFile]
  rfl

theorem validated_outcomeFile : (assemble [outcomeFile]).value.validatedTypeNames = [] := by
  have folded : foldRules ([outcomeFile].flatMap FileAnalysis.rules ++
      Validator.decorationRules [orderType, outcomeType]) = {} := by
    rfl
  obtain ⟨records, extras⟩ := assemble_rules [outcomeFile]
  rw [types_outcomeFile, ordered, List.mergeSort_singleton, folded] at records extras
  rw [Contract.validatedTypeNames, records, extras]
  simp [sortedNames, sorted]

/-- A backend that declares the outcome type has no client, although all its names have stems of
their own. -/
theorem outcomeFile_has_no_client :
    let contract := (assemble [outcomeFile]).value
    StemsDiffer (contract.types.map SourceType.name) ∧
      StemsDiffer (contract.endpoints.map Endpoint.group) ∧
      StemsDiffer contract.validatedTypeNames ∧
      ¬∃ artifacts, (Package.generate contract [] {} false).value = .ok artifacts := by
  intro contract
  have types : contract.types.map SourceType.name = ["OrderDto", "Result"] := by
    rw [types_outcomeFile]
    decide
  have groups : contract.endpoints.map Endpoint.group = ["Orders"] := by
    rw [endpoints_outcomeFile]
    rfl
  rw [types, groups, validated_outcomeFile, Package.generate_ok_iff, types]
  refine ⟨by decide +kernel, by decide +kernel, by decide, ?_⟩
  rintro ⟨⟨-, -, free⟩, -⟩
  exact (free "Result" (by decide)).1 (by decide +kernel)

end Assembly

end TypedClient
