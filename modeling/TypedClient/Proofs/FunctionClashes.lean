/-
This file shows what the warnings about function names say: there is none exactly where endpoints
with the same client function belong to one group, and then no two files of client functions export
the same name.
-/

import Mathlib.Data.List.Pairwise
import TypedClient.Proofs.AssembledClient
import TypedClient.Proofs.ClientFiles

namespace TypedClient

namespace Endpoint

def functionName (endpoint : Endpoint) : String :=
  Name.function endpoint.verb endpoint.operation

/-- Two endpoints with the same client function belong to one group. -/
def Compatible (first second : Endpoint) : Prop :=
  first.functionName = second.functionName → first.group = second.group

end Endpoint

theorem ClientFunction.name_ofEndpoint (context : Context) (endpoint : Endpoint) :
    (ofEndpoint context endpoint).name = endpoint.functionName := by
  simp only [ofEndpoint, Endpoint.functionName]

/-- A diagnostic warns of a function name that two groups use. -/
def Diagnostic.WarnsOfClash (diagnostic : Diagnostic) : Prop :=
  ∃ clash : Package.FunctionClash, diagnostic = clash.diagnostic

/-- Nothing that is reported about a client warns of a function name. -/
def Package.ReportsNoClash (contract : Contract) (overrides : List (String × String))
    (options : Options) (cancelled : Bool) : Prop :=
  ∀ diagnostic ∈ (generate contract overrides options cancelled).diagnostics,
    ¬diagnostic.WarnsOfClash

namespace EndpointGroup

theorem eq_of_mem_ofContract {contract : Contract} {group : EndpointGroup}
    (member : group ∈ ofContract contract) :
    group = ⟨group.name, contract.endpoints.filter fun endpoint => endpoint.group == group.name⟩ := by
  obtain ⟨name, _, rfl⟩ := List.mem_map.mp member
  rfl

theorem mem_endpoints {contract : Contract} {group : EndpointGroup}
    (member : group ∈ ofContract contract) {endpoint : Endpoint} :
    endpoint ∈ group.endpoints ↔
      endpoint ∈ contract.endpoints ∧ endpoint.group = group.name := by
  rw [eq_of_mem_ofContract member, List.mem_filter, beq_iff_eq]

theorem mem_flatMap_ofContract {contract : Contract} {endpoint : Endpoint} :
    endpoint ∈ (ofContract contract).flatMap endpoints ↔ endpoint ∈ contract.endpoints := by
  rw [List.mem_flatMap]
  constructor
  · rintro ⟨group, member, inside⟩
    exact ((mem_endpoints member).mp inside).1
  · intro inside
    have grouped : ⟨endpoint.group, contract.endpoints.filter fun other =>
        other.group == endpoint.group⟩ ∈ ofContract contract :=
      List.mem_map.mpr ⟨endpoint.group, List.mem_eraseDups.mpr (List.mem_map_of_mem inside), rfl⟩
    exact ⟨_, grouped, (mem_endpoints grouped).mpr ⟨inside, rfl⟩⟩

end EndpointGroup

namespace Package

/-- A name is looked up among those seen before unless it has just been seen. -/
theorem lookup_cons_eq (seen : List (String × String)) (name group later : String) :
    ((name, group) :: seen).lookup later =
      if later = name then some group else seen.lookup later := by
  by_cases same : later = name
  · simp [same]
  · rw [List.lookup_cons, beq_false_of_ne same, if_neg same]

/-- No clash is found exactly where each endpoint is of the group that used its name first, be it
that the name has been seen before or that an endpoint in front has it. -/
theorem clashesFrom_eq_nil {seen : List (String × String)} {endpoints : List Endpoint} :
    clashesFrom seen endpoints = [] ↔
      (∀ endpoint ∈ endpoints, ∀ group, seen.lookup endpoint.functionName = some group →
        endpoint.group = group) ∧ endpoints.Pairwise Endpoint.Compatible := by
  fun_induction clashesFrom seen endpoints with
  | case1 seen => simp
  | case2 seen endpoint rest name group found own inductionHypothesis =>
      rw [inductionHypothesis, List.forall_mem_cons, List.pairwise_cons]
      constructor
      · rintro ⟨known, compatible⟩
        refine ⟨⟨?here, known⟩, ?behind, compatible⟩
        case here =>
          intro owner owned
          rw [← Option.some.inj (found.symm.trans owned)]
          exact (eq_of_beq own).symm
        case behind =>
          intro later member same
          have laterOwned : seen.lookup later.functionName = some group := same ▸ found
          rw [known later member group laterOwned]
          exact (eq_of_beq own).symm
      · rintro ⟨⟨_, known⟩, _, compatible⟩
        exact ⟨known, compatible⟩
  | case3 seen endpoint rest name group found other inductionHypothesis =>
      -- The name belongs to another group, which is a clash at once.
      simp only [reduceCtorEq, List.forall_mem_cons, false_iff, not_and]
      rintro ⟨here, _⟩
      rw [here group found] at other
      simp at other
  | case4 seen endpoint rest name absent inductionHypothesis =>
      -- The endpoint is the first one of its name, so its group owns the name from here on.
      rw [inductionHypothesis, List.forall_mem_cons, List.pairwise_cons]
      constructor
      · rintro ⟨known, compatible⟩
        refine ⟨⟨?here, ?later⟩, ?behind, compatible⟩
        case here =>
          intro owner owned
          exact absurd (absent.symm.trans owned) (by simp)
        case later =>
          intro later member owner owned
          refine known later member owner ?_
          rw [lookup_cons_eq, if_neg]
          · exact owned
          · intro same
            rw [same, absent] at owned
            contradiction
        case behind =>
          intro later member same
          have named : later.functionName = name := same.symm
          exact (known later member endpoint.group (by rw [lookup_cons_eq, if_pos named])).symm
      · rintro ⟨⟨_, known⟩, behind, compatible⟩
        refine ⟨?_, compatible⟩
        intro later member owner owned
        rw [lookup_cons_eq] at owned
        split at owned
        case isTrue same =>
          rw [← Option.some.inj owned]
          exact (behind later member same.symm).symm
        case isFalse => exact known later member owner owned

/-- No clash is found exactly where all endpoints of one function name belong to one group. -/
theorem clashes_eq_nil {contract : Contract} :
    clashes contract = [] ↔
      ∀ first ∈ contract.endpoints, ∀ second ∈ contract.endpoints,
        first.Compatible second := by
  have symmetric : Std.Symm Endpoint.Compatible :=
    ⟨fun _ _ compatible same => (compatible same.symm).symm⟩
  rw [clashes, clashesFrom_eq_nil]
  simp only [List.lookup_nil, reduceCtorEq, false_implies, implies_true, true_and]
  constructor
  · intro compatible first inFirst second inSecond
    exact List.Pairwise.forall_of_forall (fun _ _ _ => rfl) compatible
      (EndpointGroup.mem_flatMap_ofContract.mpr inFirst)
      (EndpointGroup.mem_flatMap_ofContract.mpr inSecond)
  · intro compatible
    refine List.pairwise_of_forall_mem_list ?_
    intro first inFirst second inSecond
    exact compatible first (EndpointGroup.mem_flatMap_ofContract.mp inFirst) second
      (EndpointGroup.mem_flatMap_ofContract.mp inSecond)

/-- What is reported beside clashes is information. -/
theorem reports_eq (context : Context) :
    ∃ others, reports context =
        (clashes context.contract).map FunctionClash.diagnostic ++ others ∧
      ∀ diagnostic ∈ others, diagnostic.severity = .info := by
  have passed (type : ClientType) :
      ∀ diagnostic ∈ TypeMapping.reports type, diagnostic.severity = .info := by
    intro diagnostic member
    obtain ⟨unknown, _, rfl⟩ := List.mem_map.mp member
    rfl
  have functions (function : ClientFunction) :
      ∀ diagnostic ∈ function.reports, diagnostic.severity = .info := by
    intro diagnostic member
    obtain ⟨type, _, inside⟩ := List.mem_flatMap.mp member
    exact passed type diagnostic inside
  have declarations (type : SourceType) :
      ∀ diagnostic ∈ Declaration.reports context type, diagnostic.severity = .info := by
    intro diagnostic member
    unfold Declaration.reports at member
    split at member
    · contradiction
    · obtain ⟨property, _, inside⟩ := List.mem_flatMap.mp member
      exact passed _ diagnostic inside
  have schemas (typeName : String) :
      ∀ diagnostic ∈ Schema.reports context typeName, diagnostic.severity = .info := by
    intro diagnostic member
    unfold Schema.reports at member
    split at member
    · obtain ⟨type, _, inside⟩ := List.mem_flatMap.mp member
      exact passed type diagnostic inside
    · contradiction
  refine ⟨_, by rw [reports, List.append_assoc, List.append_assoc], ?_⟩
  intro diagnostic member
  rcases List.mem_append.mp member with inFunctions | member
  · obtain ⟨function, _, inside⟩ := List.mem_flatMap.mp inFunctions
    exact functions function diagnostic inside
  · rcases List.mem_append.mp member with inTypes | inSchemas
    · obtain ⟨type, _, inside⟩ := List.mem_flatMap.mp inTypes
      exact declarations type diagnostic inside
    · split at inSchemas
      · obtain ⟨typeName, _, inside⟩ := List.mem_flatMap.mp inSchemas
        exact schemas typeName diagnostic inside
      · contradiction

/-- No clash is reported exactly where none is found. -/
theorem reportsNoClash_iff {contract : Contract} {overrides : List (String × String)}
    {options : Options} {cancelled : Bool} :
    ReportsNoClash contract overrides options cancelled ↔ clashes contract = [] := by
  obtain ⟨others, parts, infos⟩ := reports_eq (Context.ofContract contract overrides options)
  have diagnostics : (generate contract overrides options cancelled).diagnostics =
      (clashes contract).map FunctionClash.diagnostic ++ others := parts
  rw [ReportsNoClash, diagnostics]
  constructor
  · intro silent
    by_contra found
    obtain ⟨clash, member⟩ := List.exists_mem_of_ne_nil _ found
    exact silent clash.diagnostic (List.mem_append_left _ (List.mem_map_of_mem member)) ⟨clash, rfl⟩
  · intro none
    rw [none, List.map_nil, List.nil_append]
    rintro _ member ⟨clash, rfl⟩
    exact absurd (infos _ member) (by simp [FunctionClash.diagnostic])

end Package

open Package (ReportsNoClash)

theorem FileOf.exists_group {context : Context} {file : Artifact} (made : FileOf context file)
    (functions : file.kind = .client) :
    ∃ group ∈ EndpointGroup.ofContract context.contract,
      file = group.clientArtifact context ∧
        file.module.exports = group.endpoints.map Endpoint.functionName := by
  cases made with
  | functions grouped =>
      refine ⟨_, grouped, rfl, ?_⟩
      simp only [EndpointGroup.clientArtifact, EndpointGroup.functions, List.map_map,
        Function.comp_def, ClientFunction.name_ofEndpoint]
  | declaration declared =>
      unfold Declaration.artifact at functions
      split at functions <;> contradiction
  | hooks grouped wanted hooks =>
      obtain ⟨package, _, rfl⟩ := Option.map_eq_some_iff.mp hooks
      contradiction
  | schema wanted schema =>
      obtain ⟨_, rfl⟩ := Package.schema_eq_some.mp schema
      contradiction
  | server grouped wanted => contradiction
  | sender => contradiction
  | outcome => contradiction
  | directoryIndex populated => contradiction
  | rootIndex => contradiction

/-- Where all endpoints of one function name belong to one group, a name is exported by one file of
client functions only. -/
theorem FileOf.eq_of_shared_name {context : Context}
    (compatible : ∀ first ∈ context.contract.endpoints, ∀ second ∈ context.contract.endpoints,
      first.Compatible second)
    {left right : Artifact} (leftMade : FileOf context left) (rightMade : FileOf context right)
    (leftKind : left.kind = .client) (rightKind : right.kind = .client) {name : String}
    (inLeft : name ∈ left.module.exports) (inRight : name ∈ right.module.exports) :
    left = right := by
  obtain ⟨leftGroup, leftGrouped, leftSame, leftExports⟩ := leftMade.exists_group leftKind
  obtain ⟨rightGroup, rightGrouped, rightSame, rightExports⟩ := rightMade.exists_group rightKind
  rw [leftExports] at inLeft
  rw [rightExports] at inRight
  obtain ⟨first, inFirst, firstName⟩ := List.mem_map.mp inLeft
  obtain ⟨second, inSecond, secondName⟩ := List.mem_map.mp inRight
  obtain ⟨firstDeclared, firstGroup⟩ := (EndpointGroup.mem_endpoints leftGrouped).mp inFirst
  obtain ⟨secondDeclared, secondGroup⟩ := (EndpointGroup.mem_endpoints rightGrouped).mp inSecond
  have names : leftGroup.name = rightGroup.name := by
    rw [← firstGroup, ← secondGroup]
    exact compatible first firstDeclared second secondDeclared (firstName.trans secondName.symm)
  have groups : leftGroup = rightGroup := by
    rw [EndpointGroup.eq_of_mem_ofContract leftGrouped,
      EndpointGroup.eq_of_mem_ofContract rightGrouped, names]
  rw [leftSame, rightSame, groups]

/-- There is no warning about function names exactly where endpoints of different groups have
different client functions; and without a warning no two files of client functions export the same
name. -/
theorem no_function_clash_iff (contract : Contract) (overrides : List (String × String))
    (options : Options) (cancelled : Bool) :
    let context := Context.ofContract contract overrides options
    (ReportsNoClash contract overrides options cancelled ↔
      ∀ first ∈ contract.endpoints, ∀ second ∈ contract.endpoints,
        (ClientFunction.ofEndpoint context first).name =
          (ClientFunction.ofEndpoint context second).name → first.group = second.group) ∧
    (ReportsNoClash contract overrides options cancelled →
      ∀ files, (Package.generate contract overrides options cancelled).value = .ok files →
        ∀ left ∈ files, ∀ right ∈ files, left.kind = .client → right.kind = .client →
          ∀ name ∈ left.module.exports, name ∈ right.module.exports → left = right) := by
  simp only [ClientFunction.name_ofEndpoint]
  have silent_iff : ReportsNoClash contract overrides options cancelled ↔
      ∀ first ∈ contract.endpoints, ∀ second ∈ contract.endpoints, first.Compatible second :=
    Package.reportsNoClash_iff.trans Package.clashes_eq_nil
  refine ⟨silent_iff, ?_⟩
  intro silent files made left inLeft right inRight leftKind rightKind name leftName rightName
  have finished : cancelled = false := by
    cases cancelled
    · rfl
    · exact absurd made (by simp [Package.generate])
  subst finished
  obtain ⟨rfl, _⟩ := Package.generate_eq_ok.mp made
  have compatible := silent_iff.mp silent
  exact FileOf.eq_of_shared_name compatible (Package.fileOf_iff.mpr inLeft)
    (Package.fileOf_iff.mpr inRight) leftKind rightKind leftName rightName

/-- A contract with one group of two operations that differ in the word of the method only. -/
def twoGettersContract : Contract :=
  { endpoints := [
      { verb := .get, route := "/api/users/{id}", container := "UsersController",
        operation := "User", group := "Users", requiresAuth := false, style := .attached },
      { verb := .get, route := "/api/users/me", container := "UsersController",
        operation := "GetUser", group := "Users", requiresAuth := false, style := .attached }] }

/-- Both operations are in the only group. -/
theorem ofContract_twoGetters :
    EndpointGroup.ofContract twoGettersContract = [⟨"Users", twoGettersContract.endpoints⟩] := by
  simp [EndpointGroup.ofContract, twoGettersContract, List.eraseDups_cons]

theorem exists_twoGettersClient :
    ∃ files, (Package.generate twoGettersContract [] {} false).value = .ok files := by
  have groups : twoGettersContract.endpoints.map Endpoint.group = ["Users", "Users"] := rfl
  have validated : twoGettersContract.validatedTypeNames = [] := by
    simp [Contract.validatedTypeNames, Text.sortedNames, Text.sorted, twoGettersContract]
  rw [Package.generate_ok_iff, validated, groups]
  have free : Name.StemsFree (twoGettersContract.types.map SourceType.name) := by
    simp [Name.StemsFree, twoGettersContract]
  have alone : Name.IndexAlone ["Users", "Users"] := by
    simp [Name.IndexAlone]
  exact ⟨⟨by decide, by decide, free⟩, ⟨by decide, alone⟩,
    fun _ => ⟨by decide, by simp [Name.IndexAlone]⟩⟩

/-- No warning is given although the file of the group declares one function twice. -/
theorem twoGetters_share_function :
    ReportsNoClash twoGettersContract [] {} false ∧
      ∃ files, (Package.generate twoGettersContract [] {} false).value = .ok files ∧
        ∃ file ∈ files, file.kind = .client ∧ file.module.exports = ["getUser", "getUser"] := by
  refine ⟨Package.reportsNoClash_iff.mpr (by decide +kernel), ?_⟩
  obtain ⟨files, made⟩ := exists_twoGettersClient
  refine ⟨files, made, ?_⟩
  obtain ⟨rfl, _⟩ := Package.generate_eq_ok.mp made
  have grouped : ⟨"Users", twoGettersContract.endpoints⟩ ∈
      EndpointGroup.ofContract twoGettersContract := by
    rw [ofContract_twoGetters]
    exact List.mem_cons_self
  have file := @FileOf.functions (Context.ofContract twoGettersContract [] {}) _ grouped
  exact ⟨_, Package.fileOf_iff.mp file, rfl, by decide +kernel⟩

end TypedClient
