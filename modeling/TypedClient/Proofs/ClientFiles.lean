/-
This file lists the files of a client one kind after the other.
-/

import TypedClient.Proofs.DistinctPaths

namespace TypedClient

/-- The files of a client. -/
inductive FileOf (context : Context) : Artifact → Prop
  | declaration {type : SourceType} (declared : type ∈ context.contract.types) :
      FileOf context (Declaration.artifact context type)
  | functions {group : EndpointGroup}
      (grouped : group ∈ EndpointGroup.ofContract context.contract) :
      FileOf context (group.clientArtifact context)
  | hooks {group : EndpointGroup} {artifact : Artifact}
      (grouped : group ∈ EndpointGroup.ofContract context.contract)
      (wanted : context.options.features.bindings = true)
      (made : group.hookArtifact? context = some artifact) : FileOf context artifact
  | server {group : EndpointGroup} (grouped : group ∈ EndpointGroup.ofContract context.contract)
      (wanted : context.options.features.serverVariants = true) :
      FileOf context (group.serverArtifact context)
  | schema {typeName : String} {artifact : Artifact}
      (wanted : context.options.features.validation = true)
      (made : Schema.artifact? context typeName = some artifact) : FileOf context artifact
  | sender : FileOf context (SupportModule.clientArtifact context.options.baseUrl)
  | outcome : FileOf context SupportModule.outcomeArtifact
  | directoryIndex {directory : ClientDirectory}
      (populated : directory ∈ Index.populated (Package.moduleNames context)) :
      FileOf context (Index.directoryArtifact (Package.moduleNames context) directory)
  | rootIndex : FileOf context
      { kind := .index, path := ⟨none, "index"⟩
        module := { reExports := Index.rootExports (Package.moduleNames context) } }

namespace Package

/-- The files that are no index. -/
theorem mem_moduleArtifacts {context : Context} {artifact : Artifact} :
    artifact ∈ moduleArtifacts context ↔
      (∃ type ∈ context.contract.types, Declaration.artifact context type = artifact) ∨
      (∃ group ∈ EndpointGroup.ofContract context.contract,
        artifact ∈ groupArtifacts context group) ∨
      (context.options.features.validation = true ∧
        ∃ typeName, Schema.artifact? context typeName = some artifact) ∨
      artifact = SupportModule.clientArtifact context.options.baseUrl ∨
      artifact = SupportModule.outcomeArtifact := by
  have schemas : (∃ typeName ∈ context.contract.validatedTypeNames,
      Schema.artifact? context typeName = some artifact) ↔
        ∃ typeName, Schema.artifact? context typeName = some artifact := by
    constructor
    · rintro ⟨typeName, _, made⟩
      exact ⟨typeName, made⟩
    · rintro ⟨typeName, made⟩
      exact ⟨typeName, (schema_eq_some.mp made).1, made⟩
  simp only [moduleArtifacts, contractArtifacts, List.mem_append, List.mem_map, List.mem_flatMap,
    List.mem_ite_nil_right, List.mem_filterMap, List.mem_cons, List.not_mem_nil, or_false, schemas,
    or_assoc]

theorem mem_groupArtifacts {context : Context} {group : EndpointGroup} {artifact : Artifact} :
    artifact ∈ groupArtifacts context group ↔
      artifact = group.clientArtifact context ∨
      (context.options.features.bindings = true ∧ group.hookArtifact? context = some artifact) ∨
      (context.options.features.serverVariants = true ∧
        artifact = group.serverArtifact context) := by
  simp only [groupArtifacts, List.mem_append, List.mem_cons, List.not_mem_nil, or_false,
    List.mem_ite_nil_right, Option.mem_toList, or_assoc]

theorem mem_indexArtifacts {context : Context} {artifact : Artifact} :
    artifact ∈ Index.artifacts (moduleNames context) ↔
      (∃ directory ∈ Index.populated (moduleNames context),
        Index.directoryArtifact (moduleNames context) directory = artifact) ∨
      artifact = { kind := .index, path := ⟨none, "index"⟩
                   module := { reExports := Index.rootExports (moduleNames context) } } := by
  simp [Index.artifacts, rootExports_ne_nil]

theorem mem_artifacts {context : Context} {artifact : Artifact} :
    artifact ∈ artifacts context ↔ artifact ∈ moduleArtifacts context ∨
      artifact ∈ Index.artifacts (moduleNames context) := by
  rw [artifacts, List.mem_mergeSort, List.mem_append]
  rfl

/-- The files of a client are the listed ones. -/
theorem fileOf_iff {context : Context} {artifact : Artifact} :
    FileOf context artifact ↔ artifact ∈ artifacts context := by
  rw [mem_artifacts, mem_moduleArtifacts, mem_indexArtifacts]
  constructor
  · intro file
    cases file with
    | declaration declared => exact .inl (.inl ⟨_, declared, rfl⟩)
    | functions grouped =>
        exact .inl (.inr (.inl ⟨_, grouped, mem_groupArtifacts.mpr (.inl rfl)⟩))
    | hooks grouped wanted made =>
        exact .inl (.inr (.inl ⟨_, grouped, mem_groupArtifacts.mpr (.inr (.inl ⟨wanted, made⟩))⟩))
    | server grouped wanted =>
        exact .inl (.inr (.inl ⟨_, grouped, mem_groupArtifacts.mpr (.inr (.inr ⟨wanted, rfl⟩))⟩))
    | schema wanted made => exact .inl (.inr (.inr (.inl ⟨wanted, _, made⟩)))
    | sender => exact .inl (.inr (.inr (.inr (.inl rfl))))
    | outcome => exact .inl (.inr (.inr (.inr (.inr rfl))))
    | directoryIndex populated => exact .inr (.inl ⟨_, populated, rfl⟩)
    | rootIndex => exact .inr (.inr rfl)
  · rintro ((⟨type, declared, rfl⟩ | ⟨group, grouped, member⟩ | ⟨wanted, typeName, made⟩ |
      rfl | rfl) | ⟨directory, populated, rfl⟩ | rfl)
    · exact .declaration declared
    · rcases mem_groupArtifacts.mp member with rfl | ⟨wanted, made⟩ | ⟨wanted, rfl⟩
      · exact .functions grouped
      · exact .hooks grouped wanted made
      · exact .server grouped wanted
    · exact .schema wanted made
    · exact .sender
    · exact .outcome
    · exact .directoryIndex populated
    · exact .rootIndex

end Package

end TypedClient
