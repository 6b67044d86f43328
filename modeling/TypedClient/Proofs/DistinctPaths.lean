/-
This file shows for which contracts there is a client: exactly for those whose modules have
different stems in each directory, and no module beside others is called like their index.
-/

import TypedClient.Proofs.ModulePaths
import TypedClient.Proofs.SortedNames

namespace TypedClient

open Text

namespace ModulePath

theorem stemsIn_append (directory : Option String) (left right : List ModulePath) :
    stemsIn directory (left ++ right) = stemsIn directory left ++ stemsIn directory right := by
  simp [stemsIn]

theorem stemsIn_flatMap {Element : Type} (directory : Option String) (elements : List Element)
    (paths : Element → List ModulePath) :
    stemsIn directory (elements.flatMap paths) =
      elements.flatMap fun element => stemsIn directory (paths element) := by
  induction elements with
  | nil => rfl
  | cons element rest inductionHypothesis =>
      simp only [List.flatMap_cons, stemsIn_append, inductionHypothesis]

/-- Modules of one directory keep their stems, and those of another have none there. -/
theorem stemsIn_map_path (directory other : ClientDirectory) (stems : List String) :
    stemsIn (some directory.name) (stems.map other.path) =
      if other = directory then stems else [] := by
  cases directory <;> cases other <;> simp [stemsIn, ClientDirectory.path, ClientDirectory.name,
    List.filter_map, Function.comp_def]

theorem stemsIn_none_map_path (directory : ClientDirectory) (stems : List String) :
    stemsIn none (stems.map directory.path) = [] := by
  simp [stemsIn, ClientDirectory.path, List.filter_map, Function.comp_def]

/-- The index modules of different directories count once for each directory. -/
theorem stemsIn_indexes {directories : List ClientDirectory} (different : directories.Nodup)
    (directory : ClientDirectory) :
    stemsIn (some directory.name) (directories.map (ClientDirectory.path · "index")) =
      if directory ∈ directories then ["index"] else [] := by
  have same (other : ClientDirectory) :
      ((other.path "index").directory == some directory.name) = (other == directory) := by
    cases other <;> cases directory <;> decide
  simp only [stemsIn, List.filter_map, Function.comp_def, same, List.filter_beq,
    List.map_replicate]
  split
  · rename_i member
    rw [List.count_eq_one_of_mem different member]
    rfl
  · rename_i absent
    rw [List.count_eq_zero_of_not_mem absent]
    rfl

theorem stemsIn_perm {left right : List ModulePath} (same : left.Perm right)
    (directory : Option String) : (stemsIn directory left).Perm (stemsIn directory right) :=
  (same.filter _).map _

end ModulePath

/-- Stems fit into a directory with an index module: they differ, and a module with the stem of
the index is alone, for then the directory has no index. -/
def Fits (stems : List String) : Prop :=
  stems.Nodup ∧ ("index" ∈ stems → ∀ stem ∈ stems, stem = "index")

namespace Package

open ModulePath (stemsIn)

def modulePaths (context : Context) : List ModulePath :=
  (moduleArtifacts context).map Artifact.path

def groupStems (context : Context) : List String :=
  (EndpointGroup.ofContract context.contract).map EndpointGroup.stem

/-- The stems of the modules in a directory. -/
def moduleStems (context : Context) : ClientDirectory → List String
  | .types => context.contract.types.map (fun type => Name.fileStem type.name) ++
      [Context.resultStem]
  | .api => groupStems context
  | .validation =>
    if context.options.features.validation then
      context.contract.validatedTypeNames.map Name.fileStem
    else []
  | .hooks => if context.options.emitsBindings then groupStems context else []
  | .server => if context.options.features.serverVariants then groupStems context else []

/-- The types with rules are those whose names are listed as such. -/
theorem hasRules_iff {contract : Contract} {typeName : String} :
    contract.hasRules typeName = true ↔ typeName ∈ contract.validatedTypeNames := by
  rw [Contract.validatedTypeNames, mem_sortedNames]
  simp only [Contract.hasRules, Contract.rulesFor, Contract.extraRulesFor, Bool.or_eq_true,
    List.any_eq_true, List.mem_filter, beq_iff_eq, Bool.not_eq_true', List.isEmpty_eq_false_iff,
    List.mem_append, List.mem_map, List.filter_eq_nil_iff, ne_eq, not_forall, not_not,
    exists_prop]
  constructor
  · rintro (⟨record, ⟨member, named⟩, demands⟩ | others)
    · exact .inl ⟨record, ⟨member, demands⟩, named⟩
    · exact .inr others
  · rintro (⟨record, ⟨member, demands⟩, named⟩ | others)
    · exact .inl ⟨record, ⟨member, named⟩, demands⟩
    · exact .inr others

theorem path_declaration (context : Context) (type : SourceType) :
    (Declaration.artifact context type).path =
      ClientDirectory.types.path (Name.fileStem type.name) := by
  unfold Declaration.artifact
  split <;> rfl

theorem paths_group (context : Context) (group : EndpointGroup) :
    (groupArtifacts context group).map Artifact.path =
      [group.stem].map ClientDirectory.api.path ++
        (if context.options.emitsBindings then [group.stem] else []).map
          ClientDirectory.hooks.path ++
        (if context.options.features.serverVariants then [group.stem] else []).map
          ClientDirectory.server.path := by
  cases bindings : context.options.features.bindings <;>
    cases package : context.options.framework.queryPackage? <;>
    cases server : context.options.features.serverVariants <;>
    simp [groupArtifacts, EndpointGroup.clientArtifact, EndpointGroup.hookArtifact?,
      EndpointGroup.serverArtifact, Options.emitsBindings, bindings, package, server]

/-- A schema is made exactly for a type with rules, at the stem of the type. -/
theorem schema_eq_some {context : Context} {typeName : String} {artifact : Artifact} :
    Schema.artifact? context typeName = some artifact ↔
      typeName ∈ context.contract.validatedTypeNames ∧
        artifact =
          { kind := .schema
            path := ClientDirectory.validation.path (Name.fileStem typeName)
            module :=
              { imports := (Imports.addValue {} "zod" "z").statements
                exports := [Name.schema typeName]
                body := Schema.lines context typeName } } := by
  rw [← hasRules_iff, Schema.artifact?]
  split
  · rename_i rules
    simp only [Option.some.injEq, rules, true_and]
    exact eq_comm
  · rename_i without
    simp [without]

theorem path_schema (context : Context) {typeName : String}
    (member : typeName ∈ context.contract.validatedTypeNames) :
    (Schema.artifact? context typeName).map Artifact.path =
      some (ClientDirectory.validation.path (Name.fileStem typeName)) := by
  rw [schema_eq_some.mpr ⟨member, rfl⟩]
  rfl

/-- The paths of the modules by their directories. -/
theorem modulePaths_eq (context : Context) : modulePaths context =
    (context.contract.types.map fun type => Name.fileStem type.name).map
        ClientDirectory.types.path ++
      (EndpointGroup.ofContract context.contract).flatMap (fun group =>
        [group.stem].map ClientDirectory.api.path ++
        (if context.options.emitsBindings then [group.stem] else []).map
          ClientDirectory.hooks.path ++
        (if context.options.features.serverVariants then [group.stem] else []).map
          ClientDirectory.server.path) ++
      (if context.options.features.validation then
        context.contract.validatedTypeNames.map Name.fileStem else []).map
          ClientDirectory.validation.path ++
      [⟨none, "client"⟩] ++ [Context.resultStem].map ClientDirectory.types.path := by
  have types : context.contract.types.map (Artifact.path ∘ Declaration.artifact context) =
      (context.contract.types.map fun type => Name.fileStem type.name).map
        ClientDirectory.types.path := by
    rw [List.map_map]
    exact List.map_congr_left fun type _ => path_declaration context type
  have schemas : (context.contract.validatedTypeNames.filterMap (Schema.artifact? context)).map
      Artifact.path = (context.contract.validatedTypeNames.map Name.fileStem).map
        ClientDirectory.validation.path := by
    rw [List.map_filterMap, List.map_map, ← List.filterMap_eq_map]
    exact List.filterMap_congr fun typeName member => path_schema context member
  simp only [modulePaths, moduleArtifacts, contractArtifacts, List.map_append, List.map_map,
    List.map_flatMap, paths_group, types]
  cases context.options.features.validation
  · simp [SupportModule.clientArtifact, SupportModule.outcomeArtifact]
  · simp [schemas, SupportModule.clientArtifact, SupportModule.outcomeArtifact]

/-- The stems of the modules in a directory are those of its elements. -/
theorem stemsIn_modulePaths (context : Context) (directory : ClientDirectory) :
    stemsIn (some directory.name) (modulePaths context) = moduleStems context directory := by
  have root : stemsIn (some directory.name) [⟨none, "client"⟩] = [] := by
    simp [stemsIn]
  rw [modulePaths_eq]
  simp only [ModulePath.stemsIn_append, ModulePath.stemsIn_flatMap, ModulePath.stemsIn_map_path,
    root]
  cases directory with
  | types => simp [moduleStems]
  | api => simp [moduleStems, groupStems, List.map_eq_flatMap]
  | validation => simp [moduleStems]
  | hooks =>
      cases emits : context.options.emitsBindings <;>
        simp [moduleStems, groupStems, emits, List.map_eq_flatMap]
  | server =>
      cases wanted : context.options.features.serverVariants <;>
        simp [moduleStems, groupStems, wanted, List.map_eq_flatMap]

theorem exists_module {context : Context} {directory : ClientDirectory} {stem : String}
    (member : stem ∈ moduleStems context directory) :
    ∃ artifact ∈ moduleArtifacts context, artifact.path = directory.path stem := by
  rw [← stemsIn_modulePaths] at member
  obtain ⟨path, inDirectory, rfl⟩ := List.mem_map.mp member
  obtain ⟨inPaths, there⟩ := List.mem_filter.mp inDirectory
  obtain ⟨artifact, inModules, rfl⟩ := List.mem_map.mp inPaths
  refine ⟨artifact, inModules, ?_⟩
  rw [ClientDirectory.path, ← beq_iff_eq.mp there]

/-- The stems of the modules that every client has. -/
def supportStems : List String := ["client", Context.resultStem, "index"]

theorem isPlain_of_mem_supportStems {stem : String} (support : stem ∈ supportStems) :
    ∀ c ∈ stem.toList, IsPlain c := by
  simp only [supportStems, List.mem_cons, List.not_mem_nil, or_false] at support
  rcases support with rfl | rfl | rfl
  all_goals simp [Context.resultStem, IsPlain]

theorem proper_path (directory : ClientDirectory) {stem : String}
    (plain : ∀ c ∈ stem.toList, IsPlain c) : (directory.path stem).Proper where
  directory := by
    intro found same
    exact ⟨directory, (Option.mem_some.mp same).symm⟩
  stem := plain

theorem proper_root {stem : String} (plain : ∀ c ∈ stem.toList, IsPlain c) :
    ModulePath.Proper ⟨none, stem⟩ where
  directory := by simp
  stem := plain

theorem proper_modulePaths (context : Context) :
    ∀ path ∈ modulePaths context, path.Proper := by
  have named (directory : ClientDirectory) (name : String) :
      (directory.path (Name.fileStem name)).Proper :=
    proper_path directory Name.isPlain_of_mem_fileStem
  rw [modulePaths_eq]
  simp only [List.forall_mem_append, List.forall_mem_map, List.forall_mem_flatMap,
    List.forall_mem_singleton, List.mem_ite_nil_right]
  have client : ∀ c ∈ "client".toList, IsPlain c := isPlain_of_mem_supportStems (by decide)
  have result : ∀ c ∈ Context.resultStem.toList, IsPlain c :=
    isPlain_of_mem_supportStems (by decide)
  refine ⟨⟨⟨⟨?types, ?groups⟩, ?schemas⟩, proper_root client⟩, proper_path .types result⟩
  case types => exact fun type _ => named .types type.name
  case groups =>
    intro group _
    refine ⟨⟨named .api group.name, ?hooks⟩, ?server⟩
    case hooks =>
      rintro stem ⟨_, member⟩
      rw [List.mem_singleton.mp member]
      exact named .hooks group.name
    case server =>
      rintro stem ⟨_, member⟩
      rw [List.mem_singleton.mp member]
      exact named .server group.name
  case schemas =>
    rintro stem ⟨_, member⟩
    obtain ⟨typeName, _, rfl⟩ := List.mem_map.mp member
    exact named .validation typeName

/-- The names of the modules, from which their index modules follow. -/
def moduleNames (context : Context) : List (List String) :=
  (moduleArtifacts context).map fun artifact => Path.names artifact.path.text

theorem moduleNames_eq (context : Context) :
    moduleNames context = (modulePaths context).map ModulePath.names := by
  rw [moduleNames, modulePaths, List.map_map]
  apply List.map_congr_left
  intro artifact member
  exact (proper_modulePaths context _ (List.mem_map_of_mem member)).names_text

/-- The modules that an index exports are those of its directory, apart from an index. -/
theorem mem_indexStems {context : Context} {directory : ClientDirectory} {stem : String} :
    stem ∈ Index.stemsIn (moduleNames context) directory ↔
      stem ∈ moduleStems context directory ∧ stem ≠ "index" := by
  rw [← stemsIn_modulePaths, Index.stemsIn, mem_sortedNames, moduleNames_eq]
  simp only [List.filterMap_map, List.mem_filterMap, stemsIn, List.mem_map, List.mem_filter,
    beq_iff_eq, Function.comp_apply]
  have ending (file : String) : Text.beforeEnd? ".ts" (file ++ ".ts") = some file :=
    beforeEnd?_eq_some.mpr rfl
  constructor
  · rintro ⟨⟨_ | found, file⟩, member, listed⟩
    · simp [ModulePath.names] at listed
    · simp only [ModulePath.names, Option.toList_some, List.singleton_append, ending] at listed
      split at listed
      · rename_i there
        obtain ⟨same, other⟩ := Option.filter_eq_some_iff.mp listed
        cases same
        exact ⟨⟨_, ⟨member, congrArg some there⟩, rfl⟩, by simpa using other⟩
      · simp at listed
  · rintro ⟨⟨⟨_, file⟩, ⟨member, rfl⟩, rfl⟩, other⟩
    refine ⟨_, member, ?_⟩
    simpa [ModulePath.names, ending] using other

theorem mem_populated {context : Context} {directory : ClientDirectory} :
    directory ∈ Index.populated (moduleNames context) ↔
      ∃ stem ∈ moduleStems context directory, stem ≠ "index" := by
  have known : directory ∈ Index.directories := by
    cases directory <;> decide
  simp only [Index.populated, List.mem_filter, known, true_and, Bool.not_eq_true',
    List.isEmpty_eq_false_iff_exists_mem, mem_indexStems]

/-- The index of the root is always there, since the module that sends requests is. -/
theorem rootExports_ne_nil (context : Context) : Index.rootExports (moduleNames context) ≠ [] := by
  have client : ["client.ts"] ∈ moduleNames context := by
    refine List.mem_map.mpr ⟨SupportModule.clientArtifact context.options.baseUrl, ?_, ?_⟩
    · simp [moduleArtifacts]
    · have proper : ModulePath.Proper ⟨none, "client"⟩ :=
        proper_root (isPlain_of_mem_supportStems (by decide))
      exact proper.names_text
  have shown : "client" ∈ Text.sorted (["client"] ++ ((Index.populated (moduleNames context)).filter
      fun directory => directory != .server).map ClientDirectory.name) :=
    mem_sorted.mpr List.mem_cons_self
  simp only [Index.rootExports, List.contains_iff_mem, client, ↓reduceIte, ne_eq,
    List.append_eq_nil_iff, List.map_eq_nil_iff, not_and]
  intro none
  rw [none] at shown
  exact absurd shown List.not_mem_nil

/-- The paths of all files. -/
theorem paths_artifacts (context : Context) :
    ((artifacts context).map Artifact.path).Perm
      (modulePaths context ++
        ((Index.populated (moduleNames context)).map (ClientDirectory.path · "index")) ++
        [⟨none, "index"⟩]) := by
  have indexes : (Index.artifacts (moduleNames context)).map Artifact.path =
      ((Index.populated (moduleNames context)).map (ClientDirectory.path · "index")) ++
        [⟨none, "index"⟩] := by
    simp [Index.artifacts, rootExports_ne_nil, Index.directoryArtifact]
  rw [List.append_assoc, ← indexes, modulePaths, ← List.map_append]
  exact (List.mergeSort_perm _ _).map _

theorem proper_artifact {context : Context} {artifact : Artifact}
    (member : artifact ∈ artifacts context) : artifact.path.Proper := by
  have index : ∀ c ∈ "index".toList, IsPlain c := isPlain_of_mem_supportStems (by decide)
  have inPaths := (paths_artifacts context).mem_iff.mp (List.mem_map_of_mem member)
  rcases List.mem_append.mp inPaths with inModules | root
  · rcases List.mem_append.mp inModules with inModules | inIndexes
    · exact proper_modulePaths context _ inModules
    · obtain ⟨directory, _, same⟩ := List.mem_map.mp inIndexes
      exact same ▸ proper_path directory index
  · rw [List.mem_singleton.mp root]
    exact proper_root index

/-- The places of all files differ exactly where their paths do. -/
theorem nodup_places_iff (context : Context) :
    ((artifacts context).map place).Nodup ↔ ((artifacts context).map Artifact.path).Nodup := by
  have places : (artifacts context).map place =
      ((artifacts context).map Artifact.path).map fun path => Path.order path.text := by
    rw [List.map_map]
    rfl
  rw [places]
  refine ⟨List.Nodup.of_map _, fun different => different.map_on ?_⟩
  intro left inLeft right inRight same
  obtain ⟨first, inFirst, rfl⟩ := List.mem_map.mp inLeft
  obtain ⟨second, inSecond, rfl⟩ := List.mem_map.mp inRight
  exact (proper_artifact inFirst).eq_of_order (proper_artifact inSecond) same

/-- The stems of all files of a directory are those of its modules, and behind them that of the
index where there is one. -/
theorem stemsIn_artifacts (context : Context) (directory : ClientDirectory) :
    (stemsIn (some directory.name) ((artifacts context).map Artifact.path)).Perm
      (moduleStems context directory ++
        if ∃ stem ∈ moduleStems context directory, stem ≠ "index" then ["index"] else []) := by
  have different : (Index.populated (moduleNames context)).Nodup :=
    List.Nodup.filter _ (by decide)
  have root : stemsIn (some directory.name) [⟨none, "index"⟩] = [] := by
    simp [stemsIn]
  refine (ModulePath.stemsIn_perm (paths_artifacts context) _).trans ?_
  simp only [ModulePath.stemsIn_append, stemsIn_modulePaths, ModulePath.stemsIn_indexes different,
    mem_populated, root, List.append_nil, List.Perm.refl]

/-- The files of the root are the module that sends requests and the index. -/
theorem stemsIn_root (context : Context) :
    (stemsIn none ((artifacts context).map Artifact.path)).Perm ["client", "index"] := by
  have indexes : stemsIn none ((Index.populated (moduleNames context)).map
      (ClientDirectory.path · "index")) = [] := by
    simp [stemsIn, ClientDirectory.path, List.filter_map, Function.comp_def]
  have root (stem : String) : stemsIn none [⟨none, stem⟩] = [stem] := by
    simp [stemsIn]
  refine (ModulePath.stemsIn_perm (paths_artifacts context) _).trans ?_
  rw [modulePaths_eq]
  simp only [ModulePath.stemsIn_append, ModulePath.stemsIn_flatMap,
    ModulePath.stemsIn_none_map_path, indexes, root]
  simp [List.flatMap_def]

/-- Stems and that of an index where it is needed differ exactly where the stems fit. -/
theorem nodup_index_iff (stems : List String) :
    (stems ++ if ∃ stem ∈ stems, stem ≠ "index" then ["index"] else []).Nodup ↔ Fits stems := by
  split
  · rename_i others
    obtain ⟨other, member, notIndex⟩ := others
    rw [List.nodup_append', Fits]
    constructor
    · rintro ⟨different, -, apart⟩
      exact ⟨different, fun index => absurd (List.mem_singleton_self _) (apart index)⟩
    · rintro ⟨different, alone⟩
      refine ⟨different, List.nodup_singleton _, ?_⟩
      intro stem inStems inIndex
      rw [List.mem_singleton] at inIndex
      subst inIndex
      exact notIndex (alone inStems other member)
  · rename_i alone
    rw [List.append_nil, Fits]
    refine (and_iff_left ?_).symm
    intro _ stem member
    by_contra notIndex
    exact alone ⟨stem, member, notIndex⟩

/-- There is a client exactly where the stems of each directory fit. -/
theorem generate_ok_iff_fits (contract : Contract) (overrides : List (String × String))
    (options : Options) :
    (∃ files, (generate contract overrides options false).value = .ok files) ↔
      ∀ directory,
        Fits (moduleStems (Context.ofContract contract overrides options) directory) := by
  simp only [generate_eq_ok, exists_eq_left', nodup_places_iff]
  have fits (directory : ClientDirectory) := ((stemsIn_artifacts
    (Context.ofContract contract overrides options) directory).nodup_iff).trans (nodup_index_iff _)
  constructor
  · intro different directory
    exact (fits directory).mp (ModulePath.nodup_stemsIn different _)
  · intro all
    apply ModulePath.nodup_of_stemsIn
    intro path member
    obtain ⟨artifact, inFiles, rfl⟩ := List.mem_map.mp member
    cases there : artifact.path.directory with
    | none => exact (stemsIn_root _).nodup_iff.mpr (by decide)
    | some found =>
        obtain ⟨directory, rfl⟩ := (proper_artifact inFiles).directory found there
        exact (fits directory).mpr (all directory)

end Package

end TypedClient
