/-
This file shows that the modules of a generated client fit together: every relative specifier names
a file of the client, and that file exports the names that are imported from it.
-/

import TypedClient.Proofs.CollectedImports
import TypedClient.Proofs.RequestChecks
import TypedClient.Proofs.Resolution

namespace TypedClient

open Text Resolution

def ImportStatement.names (statement : ImportStatement) : List String :=
  match statement.clause with
  | .names _ names => names
  | .everything _ => []
  | .nothing => []

/-- A specifier in a module names a file that exports some names. -/
def Resolves (files : List Artifact) (importer : ModulePath) (specifier : String)
    (names : List String) : Prop :=
  ∃ target ∈ files, resolve? files importer specifier = some target ∧
    ∀ name ∈ names, name ∈ target.module.exports

/-- What a module asks for is in files that export it. -/
def Sound (files : List Artifact) (importer : ModulePath) (requests : List ImportedName) : Prop :=
  ∀ request ∈ requests, Imports.isRelative request.specifier = true →
    Resolves files importer request.specifier [request.name]

namespace Sound

variable {files : List Artifact} {importer : ModulePath}

/-- The statements behind sound requests are resolved. -/
theorem statements {requests : List ImportedName} (sound : Sound files importer requests) :
    ∀ statement ∈ (Imports.collect requests).statements,
      Imports.isRelative statement.specifier = true →
        Resolves files importer statement.specifier statement.names := by
  intro statement member relative
  rw [Imports.statements_collect] at member
  obtain ⟨specifier, inSpecifiers, rfl⟩ := List.mem_map.mp member
  have relative : Imports.isRelative specifier = true := relative
  -- There is a statement for a specifier only because some name comes from it.
  obtain ⟨first, inRequests, same⟩ := Imports.mem_specifiers.mp inSpecifiers
  obtain ⟨target, inFiles, resolved, _⟩ := sound first inRequests (same ▸ relative)
  rw [same] at resolved
  refine ⟨target, inFiles, resolved, ?_⟩
  intro name inStatement
  obtain ⟨request, inThere, rfl⟩ := List.mem_map.mp (mem_sortedNames.mp inStatement)
  obtain ⟨member, there⟩ := List.mem_filter.mp inThere
  rw [beq_iff_eq] at there
  obtain ⟨other, _, alsoResolved, exported⟩ := sound request member (there ▸ relative)
  rw [there, resolved] at alsoResolved
  cases alsoResolved
  exact exported request.name List.mem_cons_self

end Sound

theorem not_isRelative_queryPackage {framework : Framework} {package : String}
    (made : framework.queryPackage? = some package) : Imports.isRelative package = false := by
  cases framework with
  | vanilla => contradiction
  | react | nextjs | vue | svelte =>
      cases made
      decide

/-- The module that sends requests has a name. -/
theorem isFileName_client : Path.IsFileName "client" :=
  isFileName_stem (Package.isPlain_of_mem_supportStems (by decide)) (by decide)

/-- No file of the root is called like a directory. -/
theorem path_ne_directory (context : Context) (directory : ClientDirectory) :
    ∀ file ∈ Package.artifacts context, file.path ≠ ⟨none, directory.name⟩ := by
  intro file member same
  have inRoot : directory.name ∈ ModulePath.stemsIn none
      ((Package.artifacts context).map Artifact.path) := by
    refine List.mem_map.mpr ⟨file.path, List.mem_filter.mpr ⟨List.mem_map_of_mem member, ?_⟩, ?_⟩
    · rw [same, beq_iff_eq]
    · rw [same]
  have known := (Package.stemsIn_root context).mem_iff.mp inRoot
  revert known
  cases directory <;> decide

/-- A context whose client has all its files at paths of their own, none of them without a name. -/
structure Linked (context : Context) : Prop where
  different : ((Package.artifacts context).map Package.place).Nodup
  /-- The mapping knows the types that the client declares. -/
  declared : context.mapping.declared = context.contract.types.map SourceType.name
  types : ∀ type ∈ context.contract.types, Name.fileStem type.name ≠ ""
  groups : ∀ group ∈ EndpointGroup.ofContract context.contract, group.stem ≠ ""
  validated : ∀ name ∈ context.contract.validatedTypeNames, Name.fileStem name ≠ ""

namespace Linked

variable {context : Context} (linked : Linked context)

include linked

theorem declaration {name stem : String} (found : context.declarationStem? name = some stem) :
    ∃ target ∈ Package.artifacts context, target.path = ClientDirectory.types.path stem ∧
      Path.IsFileName stem ∧ name ∈ target.module.exports := by
  unfold Context.declarationStem? at found
  split at found
  · rename_i isResult
    cases found
    rw [beq_iff_eq] at isResult
    refine ⟨SupportModule.outcomeArtifact, Package.fileOf_iff.mp .outcome, rfl, ?_, ?_⟩
    · exact isFileName_stem (Package.isPlain_of_mem_supportStems (by decide)) (by decide)
    · simp [SupportModule.outcomeArtifact, isResult]
  · split at found
    · rename_i isDeclared
      cases found
      rw [Context.declares, List.contains_iff_mem, linked.declared] at isDeclared
      obtain ⟨type, member, rfl⟩ := List.mem_map.mp isDeclared
      refine ⟨_, Package.fileOf_iff.mp (.declaration member), Package.path_declaration context type,
        isFileName_stem Name.isPlain_of_mem_fileStem (linked.types type member), ?_⟩
      unfold Declaration.artifact
      split <;> simp
    · contradiction

/-- Types are found from a module in any directory. -/
theorem sound_outerTypes (directory : ClientDirectory) (importer : String) (type : ClientType) :
    Sound (Package.artifacts context) (directory.path importer)
      (context.outerTypeImports type) := by
  intro request member _
  obtain ⟨name, _, made⟩ := List.mem_filterMap.mp member
  simp only [List.contains_nil, Bool.false_eq_true, ↓reduceIte, Option.map_eq_some_iff] at made
  obtain ⟨stem, found, rfl⟩ := made
  obtain ⟨target, inFiles, path, named, exported⟩ := linked.declaration found
  exact ⟨target, inFiles, resolve?_other linked.different inFiles directory importer named path,
    List.forall_mem_singleton.mpr exported⟩

/-- Types are found from a module beside them. -/
theorem sound_ownTypes (importer : String) (own : List String) (text : String) :
    Sound (Package.artifacts context) (ClientDirectory.types.path importer)
      (context.typeImports ("./" ++ ·) own text) := by
  intro request member _
  obtain ⟨name, _, made⟩ := List.mem_filterMap.mp member
  split at made
  · contradiction
  · obtain ⟨stem, found, rfl⟩ := Option.map_eq_some_iff.mp made
    obtain ⟨target, inFiles, path, named, exported⟩ := linked.declaration found
    exact ⟨target, inFiles, resolve?_beside linked.different inFiles importer named path,
      List.forall_mem_singleton.mpr exported⟩

/-- The schema that a check uses is found. -/
theorem sound_check (directory : ClientDirectory) (importer : String) {function : ClientFunction}
    {check : ClientFunction.RequestCheck} (checked : function.requestCheck? context = some check) :
    Sound (Package.artifacts context) (directory.path importer) [check.schemaImport] := by
  have validates := (ClientFunction.requestCheck?_eq_some_iff.mp checked).2.1
  rw [Context.validates, Bool.and_eq_true] at validates
  obtain ⟨wanted, rules⟩ := validates
  have known := Package.hasRules_iff.mp rules
  have named := isFileName_stem Name.isPlain_of_mem_fileStem (linked.validated _ known)
  have inFiles := Package.fileOf_iff.mp (.schema wanted (Package.schema_eq_some.mpr ⟨known, rfl⟩))
  refine List.forall_mem_singleton.mpr fun _ => ⟨_, inFiles,
    resolve?_other linked.different inFiles directory importer named rfl, ?_⟩
  simp [ClientFunction.RequestCheck.schemaImport]

theorem sound_function (directory : ClientDirectory) (importer : String)
    (function : ClientFunction) :
    Sound (Package.artifacts context) (directory.path importer) (function.imports context) := by
  intro request member
  rcases List.mem_append.mp member with inTypes | inCheck
  · obtain ⟨type, _, inType⟩ := List.mem_flatMap.mp inTypes
    exact linked.sound_outerTypes directory importer type request inType
  · obtain ⟨check, checked, rfl⟩ := Option.map_eq_some_iff.mp (Option.mem_toList.mp inCheck)
    exact linked.sound_check directory importer checked _ List.mem_cons_self

theorem functions_resolve (directory : ClientDirectory) (importer : String) {group : EndpointGroup}
    (grouped : group ∈ EndpointGroup.ofContract context.contract) {names : List String}
    (exported : ∀ name ∈ names, name ∈ (group.functions context).map ClientFunction.name) :
    Resolves (Package.artifacts context) (directory.path importer)
      (ClientDirectory.api.specifier group.stem) names := by
  have inFiles := Package.fileOf_iff.mp (FileOf.functions grouped)
  have named := isFileName_stem Name.isPlain_of_mem_fileStem (linked.groups group grouped)
  exact ⟨_, inFiles, resolve?_other linked.different inFiles directory importer named rfl, exported⟩

theorem sound_functions (importer : String) (functions : List ClientFunction) :
    Sound (Package.artifacts context) (ClientDirectory.api.path importer)
      (⟨"../client", "apiFetch", false⟩ ::
        functions.flatMap (ClientFunction.imports context)) := by
  have inFiles := Package.fileOf_iff.mp (.sender : FileOf context _)
  have resolved := resolve?_above linked.different inFiles .api importer isFileName_client rfl
  have specifier : "../" ++ "client" = "../client" := by
    decide
  rw [specifier] at resolved
  refine List.forall_mem_cons.mpr ⟨fun _ => ⟨_, inFiles, resolved, ?_⟩, ?_⟩
  · simp [SupportModule.clientArtifact]
  · intro request member
    obtain ⟨function, _, inFunction⟩ := List.mem_flatMap.mp member
    exact linked.sound_function .api importer function request inFunction

/-- The imports of a module of hooks are found. -/
theorem sound_hooks {group : EndpointGroup}
    (grouped : group ∈ EndpointGroup.ofContract context.contract) {package : String}
    (made : context.options.framework.queryPackage? = some package) :
    Sound (Package.artifacts context) (ClientDirectory.hooks.path group.stem)
      ((group.functions context).flatMap
        (ClientFunction.hookImports context group.stem package)) := by
  intro request member
  obtain ⟨function, inGroup, inFunction⟩ := List.mem_flatMap.mp member
  rcases List.mem_append.mp inFunction with inFront | factory
  · rcases List.mem_cons.mp inFront with rfl | inTypes
    · intro _
      exact linked.functions_resolve .hooks group.stem grouped
        (List.forall_mem_singleton.mpr (List.mem_map_of_mem inGroup))
    · obtain ⟨argument, _, inType⟩ := List.mem_flatMap.mp inTypes
      exact linked.sound_outerTypes .hooks group.stem argument.type request inType
  · rw [List.mem_singleton.mp factory]
    intro relative
    rw [not_isRelative_queryPackage made] at relative
    contradiction

/-- The imports of a module of server variants are found. -/
theorem server_resolves {group : EndpointGroup}
    (grouped : group ∈ EndpointGroup.ofContract context.contract) :
    ∀ statement ∈ (group.serverArtifact context).module.imports,
      Imports.isRelative statement.specifier = true →
        Resolves (Package.artifacts context) (ClientDirectory.server.path group.stem)
          statement.specifier statement.names := by
  intro statement member relative
  rcases List.mem_append.mp member with guarded | behind
  · have package : statement.specifier = "server-only" := by
      change statement ∈ (EndpointGroup.serverGuard context.options.framework).2 at guarded
      unfold EndpointGroup.serverGuard at guarded
      split at guarded
      · simp at guarded
      · rw [List.mem_singleton.mp guarded]
    rw [package] at relative
    exact absurd relative (by decide)
  · rcases List.mem_cons.mp behind with rfl | inTypes
    · exact linked.functions_resolve .server group.stem grouped (by simp [ImportStatement.names])
    · have sound : Sound (Package.artifacts context) (ClientDirectory.server.path group.stem)
          ((group.functions context).flatMap fun function =>
            function.signatureTypes.flatMap context.outerTypeImports) := by
        intro request member
        obtain ⟨function, _, inFunction⟩ := List.mem_flatMap.mp member
        obtain ⟨type, _, inType⟩ := List.mem_flatMap.mp inFunction
        exact linked.sound_outerTypes .server group.stem type request inType
      exact sound.statements statement inTypes relative

/-- No module is without a name. -/
theorem nonempty_moduleStems (directory : ClientDirectory) :
    ∀ stem ∈ Package.moduleStems context directory, stem ≠ "" := by
  have groups : ∀ stem ∈ Package.groupStems context, stem ≠ "" :=
    List.forall_mem_map.mpr linked.groups
  cases directory with
  | types =>
      rw [Package.moduleStems, List.forall_mem_append, List.forall_mem_map]
      exact ⟨linked.types, by decide⟩
  | api => exact groups
  | validation =>
      rw [Package.moduleStems]
      split
      · exact List.forall_mem_map.mpr linked.validated
      · simp
  | hooks =>
      rw [Package.moduleStems]
      split
      · exact groups
      · simp
  | server =>
      rw [Package.moduleStems]
      split
      · exact groups
      · simp

theorem directoryIndex_resolves (directory : ClientDirectory) :
    ∀ reExport ∈ (Index.directoryArtifact (Package.moduleNames context) directory).module.reExports,
      Resolves (Package.artifacts context) (directory.path "index") reExport.specifier [] := by
  intro reExport member
  obtain ⟨stem, inIndex, rfl⟩ := List.mem_map.mp member
  have inStems := (Package.mem_indexStems.mp inIndex).1
  obtain ⟨target, inModules, path⟩ := Package.exists_module inStems
  have inFiles := Package.mem_artifacts.mpr (.inl inModules)
  have plain := (Package.proper_artifact inFiles).stem
  rw [path] at plain
  have named := isFileName_stem plain (linked.nonempty_moduleStems directory stem inStems)
  exact ⟨target, inFiles, resolve?_beside linked.different inFiles "index" named path, by simp⟩

theorem directory_resolves {directory : ClientDirectory}
    (populated : directory ∈ Index.populated (Package.moduleNames context)) :
    Resolves (Package.artifacts context) ⟨none, "index"⟩ ("./" ++ directory.name) [] := by
  have inFiles := Package.fileOf_iff.mp (FileOf.directoryIndex populated)
  exact ⟨_, inFiles, resolve?_directory linked.different inFiles "index"
    (fun _ member => Package.proper_artifact member) (path_ne_directory context directory) rfl,
    by simp⟩

/-- The modules that the index of the root exports are found. -/
theorem rootIndex_resolves :
    ∀ reExport ∈ Index.rootExports (Package.moduleNames context),
      Resolves (Package.artifacts context) ⟨none, "index"⟩ reExport.specifier [] := by
  intro reExport member
  rcases List.mem_append.mp member with inOrder | server
  · obtain ⟨stem, shown, rfl⟩ := List.mem_map.mp inOrder
    rcases List.mem_append.mp (mem_sorted.mp shown) with client | directories
    · have onlyClient : stem = "client" := by
        split at client
        · exact List.mem_singleton.mp client
        · simp at client
      subst onlyClient
      have inFiles := Package.fileOf_iff.mp (.sender : FileOf context _)
      exact ⟨_, inFiles, resolve?_beside linked.different inFiles "index" isFileName_client rfl,
        by simp⟩
    · obtain ⟨directory, inFilter, rfl⟩ := List.mem_map.mp directories
      exact linked.directory_resolves (List.mem_filter.mp inFilter).1
  · split at server
    · rename_i populated
      rw [List.mem_singleton.mp server]
      have found := linked.directory_resolves (List.contains_iff_mem.mp populated)
      have specifier : "./" ++ ClientDirectory.server.name = "./server" := by
        decide
      rwa [specifier] at found
    · simp at server

end Linked

end TypedClient
