/-
This file shows that a generated client is self-contained: what its files import from each other
and export again is there.
-/

import TypedClient.Proofs.AssembledClient
import TypedClient.Proofs.ResolvedImports

namespace TypedClient

open Resolution

/-- The files of a client refer to each other only by what is there. The statements of a module
are all of the lines that import or export again, so that no other reference is in its text. -/
structure SelfContained (files : List Artifact) : Prop where
  imports : ∀ file ∈ files, ∀ statement ∈ file.module.imports,
    Imports.isRelative statement.specifier = true →
      ∃ target ∈ files, resolve? files file.path statement.specifier = some target ∧
        ∀ name ∈ statement.names, ∃ line ∈ target.module.lines, DeclaresExport line name
  reExports : ∀ file ∈ files, ∀ reExport ∈ file.module.reExports,
    ∃ target ∈ files, resolve? files file.path reExport.specifier = some target
  statements : ∀ file ∈ files, ∀ line ∈ file.module.lines, IsStatement line →
    line ∈ file.module.imports.map ImportStatement.text ∨
      line ∈ file.module.reExports.map ReExport.text

/-- A line with an empty line behind it is one of the lines in front of it, or empty. -/
theorem ClientModule.mem_paragraph {lines : List String} {line : String}
    (member : line ∈ paragraph lines) : line ∈ lines ∨ line = "" := by
  unfold paragraph at member
  split at member
  · exact absurd member (by simp)
  · rcases List.mem_append.mp member with inLines | inEnd
    · exact .inl inLines
    · exact .inr (List.mem_singleton.mp inEnd)

namespace ClientModule.Truthful

variable {module : ClientModule} (truthful : module.Truthful)

include truthful

theorem exists_line {name : String} (exported : name ∈ module.exports) :
    ∃ line ∈ module.lines, DeclaresExport line name := by
  obtain ⟨line, inBody, declared⟩ := truthful.exported name exported
  exact ⟨line, List.mem_append_right _ inBody, declared⟩

/-- The lines that import or export again are those of the statements. -/
theorem mem_statements {line : String} (member : line ∈ module.lines) (made : IsStatement line) :
    line ∈ module.imports.map ImportStatement.text ∨
      line ∈ module.reExports.map ReExport.text := by
  have notEmpty : line ≠ "" := by
    rintro rfl
    exact not_isStatement_empty made
  rcases List.mem_append.mp member with inFront | inBody
  · rcases List.mem_append.mp inFront with inImports | inReExports
    · rcases List.mem_append.mp inImports with inDirective | inStatements
      · rcases mem_paragraph inDirective with there | empty
        · exact absurd made (truthful.directive line (Option.mem_toList.mp there))
        · exact absurd empty notEmpty
      · rcases mem_paragraph inStatements with there | empty
        · exact .inl there
        · exact absurd empty notEmpty
    · exact .inr inReExports
  · exact absurd made (truthful.plain line inBody)

end ClientModule.Truthful

namespace Linked

variable {context : Context} (linked : Linked context) {file : Artifact}
  (file_of : FileOf context file)

include linked file_of

theorem imports_resolve : ∀ statement ∈ file.module.imports,
    Imports.isRelative statement.specifier = true →
      Resolves (Package.artifacts context) file.path statement.specifier statement.names := by
  cases file_of with
  | @declaration type declared =>
      unfold Declaration.artifact
      split
      · simp
      · refine Sound.statements ?_
        intro request member
        obtain ⟨property, _, inProperty⟩ := List.mem_flatMap.mp member
        exact linked.sound_ownTypes _ _ _ request inProperty
  | functions grouped => exact (linked.sound_functions _ _).statements
  | hooks grouped wanted made =>
      obtain ⟨package, inQueries, rfl⟩ := Option.map_eq_some_iff.mp made
      exact (linked.sound_hooks grouped inQueries).statements
  | server grouped wanted => exact linked.server_resolves grouped
  | schema wanted made =>
      obtain ⟨_, rfl⟩ := Package.schema_eq_some.mp made
      have sound (importer : ModulePath) :
          Sound (Package.artifacts context) importer [⟨"zod", "z", false⟩] :=
        List.forall_mem_singleton.mpr fun relative => absurd relative (by decide)
      exact (sound _).statements
  | sender => simp [SupportModule.clientArtifact]
  | outcome => simp [SupportModule.outcomeArtifact]
  | directoryIndex populated => simp [Index.directoryArtifact]
  | rootIndex => simp

/-- The modules that each file exports again are there. -/
theorem reExports_resolve : ∀ reExport ∈ file.module.reExports,
    Resolves (Package.artifacts context) file.path reExport.specifier [] := by
  cases file_of with
  | declaration declared =>
      unfold Declaration.artifact
      split <;> simp
  | functions grouped => simp [EndpointGroup.clientArtifact]
  | hooks grouped wanted made =>
      obtain ⟨package, _, rfl⟩ := Option.map_eq_some_iff.mp made
      simp
  | server grouped wanted => simp [EndpointGroup.serverArtifact]
  | schema wanted made =>
      obtain ⟨_, rfl⟩ := Package.schema_eq_some.mp made
      simp
  | sender => simp [SupportModule.clientArtifact]
  | outcome => simp [SupportModule.outcomeArtifact]
  | directoryIndex populated => exact linked.directoryIndex_resolves _
  | rootIndex => exact linked.rootIndex_resolves

end Linked

theorem Linked.selfContained {context : Context} (linked : Linked context) :
    SelfContained (Package.artifacts context) where
  imports := by
    intro file member statement stated relative
    obtain ⟨target, inFiles, resolved, exported⟩ :=
      linked.imports_resolve (Package.fileOf_iff.mpr member) statement stated relative
    refine ⟨target, inFiles, resolved, ?_⟩
    intro name named
    exact (Package.fileOf_iff.mpr inFiles).truthful.exists_line (exported name named)
  reExports := by
    intro file member reExport stated
    obtain ⟨target, inFiles, resolved, _⟩ :=
      linked.reExports_resolve (Package.fileOf_iff.mpr member) reExport stated
    exact ⟨target, inFiles, resolved⟩
  statements := by
    intro file member line inFile
    exact (Package.fileOf_iff.mpr member).truthful.mem_statements inFile

theorem linked_ofContract {contract : Contract} {overrides : List (String × String)}
    {options : Options}
    (types : ∀ type ∈ contract.types, Name.fileStem type.name ≠ "")
    (groups : ∀ endpoint ∈ contract.endpoints, Name.fileStem endpoint.group ≠ "")
    (validated : ∀ name ∈ contract.validatedTypeNames, Name.fileStem name ≠ "")
    (different : ((Package.artifacts (Context.ofContract contract overrides options)).map
      Package.place).Nodup) : Linked (Context.ofContract contract overrides options) where
  different := different
  declared := rfl
  types := types
  groups := by
    intro group member
    obtain ⟨name, inGroups, rfl⟩ := List.mem_map.mp member
    obtain ⟨endpoint, inEndpoints, rfl⟩ := List.mem_map.mp (List.mem_eraseDups.mp inGroups)
    exact groups endpoint inEndpoints
  validated := validated

/-- Each client that is generated is self-contained where no type, group or validated type is
without a name for its file. -/
theorem generated_client_selfContained {contract : Contract} {overrides : List (String × String)}
    {options : Options} {files : List Artifact}
    (types : ∀ type ∈ contract.types, Name.fileStem type.name ≠ "")
    (groups : ∀ endpoint ∈ contract.endpoints, Name.fileStem endpoint.group ≠ "")
    (validated : ∀ name ∈ contract.validatedTypeNames, Name.fileStem name ≠ "")
    (made : (Package.generate contract overrides options false).value = .ok files) :
    SelfContained files := by
  obtain ⟨rfl, different⟩ := Package.generate_eq_ok.mp made
  exact (linked_ofContract types groups validated different).selfContained

/-- A contract with an operation that places an order; the order has a rule. -/
def orderContract : Contract :=
  { endpoints := [
      { verb := .post, route := "/api/orders", container := "OrdersController",
        operation := "PlaceOrder", group := "Orders", requiresAuth := false, style := .attached
        responseType := some (SourceType.generic "Result" [SourceType.reference "OrderDto"])
        parameters := [
          { name := "order", type := SourceType.reference "OrderDto", isRequired := true,
            place := .body }] }]
    types := [Assembly.orderType]
    validation := [{ typeName := "OrderDto", property := "Id", required := true }] }

/-- A client with schemas, hooks and server variants. -/
def orderOptions : Options :=
  { framework := .nextjs, features := { serverVariants := true } }

theorem validated_orderContract : orderContract.validatedTypeNames = ["OrderDto"] := by
  have named : (orderContract.validation.filter fun record => !record.isEmpty).map
      PropertyRules.typeName ++ orderContract.extraRules.map Rule.typeName = ["OrderDto"] := by
    decide
  rw [Contract.validatedTypeNames, named]
  exact List.mergeSort_singleton _

theorem exists_orderClient :
    ∃ files, (Package.generate orderContract [] orderOptions false).value = .ok files := by
  have types : orderContract.types.map SourceType.name = ["OrderDto"] := by
    decide
  rw [Package.generate_ok_iff, types, validated_orderContract]
  have free : Name.StemsFree ["OrderDto"] := by
    simp only [Name.StemsFree, List.forall_mem_singleton]
    decide +kernel
  exact ⟨⟨by decide, by decide, free⟩, ⟨by decide, Name.indexAlone_singleton "Orders"⟩,
    fun _ => ⟨by decide, Name.indexAlone_singleton "OrderDto"⟩⟩

/-- The client for the orders is self-contained. -/
theorem orderClient_selfContained :
    ∃ files, (Package.generate orderContract [] orderOptions false).value = .ok files ∧
      SelfContained files := by
  obtain ⟨files, made⟩ := exists_orderClient
  refine ⟨files, made, generated_client_selfContained ?types ?groups ?validated made⟩
  case types => decide +kernel
  case groups => decide +kernel
  case validated =>
    rw [validated_orderContract]
    decide +kernel

end TypedClient
