/-
This file shows that a client does not depend on the order of what is independent in its contract:
of the types, of rules for different types, and of operations in different groups.
-/

import TypedClient.Proofs.AgreeingContexts
import TypedClient.Proofs.AssembledClient

namespace TypedClient

open Text

namespace Contract

section Keys

variable {Element Key : Type} [BEq Key] {key : Element → Key} {left right : List Element}

/-- Two lists hold the same elements, and those of one key in the same order; so one list becomes
the other by moving elements past elements of other keys. -/
def SameByKey (key : Element → Key) (left right : List Element) : Prop :=
  ∀ own, (left.filter fun element => key element == own) =
    right.filter fun element => key element == own

variable [LawfulBEq Key]

/-- Neighbours with different keys may change places. -/
theorem SameByKey.swap {first second : Element} (different : key first ≠ key second)
    (before behind : List Element) :
    SameByKey key (before ++ first :: second :: behind) (before ++ second :: first :: behind) := by
  intro own
  simp only [List.filter_append, List.filter_cons, beq_iff_eq]
  split <;> split <;> simp_all

/-- Nothing is lost and nothing is added. -/
theorem SameByKey.mem_iff (same : SameByKey key left right) (element : Element) :
    element ∈ left ↔ element ∈ right := by
  have there := congrArg (element ∈ ·) (same (key element))
  simpa only [List.mem_filter, beq_self_eq_true, and_true, eq_iff_iff] using there

/-- Where the keys differ, the element of a key is found wherever it stands. -/
theorem find?_eq_some_iff_mem (distinct : (left.map key).Nodup) {own : Key} {element : Element} :
    (left.find? fun found => key found == own) = some element ↔
      element ∈ left ∧ key element = own := by
  constructor
  · intro found
    exact ⟨List.mem_of_find?_eq_some found, by simpa using List.find?_some found⟩
  · rintro ⟨member, rfl⟩
    cases found : left.find? fun other => key other == key element with
    | none => simpa using List.find?_eq_none.mp found element member
    | some first =>
        have same : key first = key element := by simpa using List.find?_some found
        rw [List.inj_on_of_nodup_map distinct (List.mem_of_find?_eq_some found) member same]

end Keys

/-- A contract is another one up to the order of what is independent: types come in any order,
rules keep their order within each type, and operations keep it within each group. -/
structure Rearranged (contract other : Contract) : Prop where
  types : contract.types.Perm other.types
  validation : SameByKey PropertyRules.typeName contract.validation other.validation
  extraRules : SameByKey Rule.typeName contract.extraRules other.extraRules
  endpoints : SameByKey Endpoint.group contract.endpoints other.endpoints

namespace Rearranged

variable {contract other : Contract}

theorem typeNamed? (rearranged : contract.Rearranged other)
    (distinct : (contract.types.map SourceType.name).Nodup) :
    contract.typeNamed? = other.typeNamed? := by
  have alsoDistinct := (rearranged.types.map SourceType.name).nodup_iff.mp distinct
  funext name
  refine Option.ext fun type => ?_
  rw [Contract.typeNamed?, Contract.typeNamed?, find?_eq_some_iff_mem distinct,
    find?_eq_some_iff_mem alsoDistinct, rearranged.types.mem_iff]

/-- The types with rules do not depend on the order. -/
theorem validatedTypeNames (rearranged : contract.Rearranged other) :
    contract.validatedTypeNames = other.validatedTypeNames := by
  refine sortedNames_congr fun name => ?_
  simp only [List.mem_append, List.mem_map, List.mem_filter, rearranged.validation.mem_iff,
    rearranged.extraRules.mem_iff]

theorem groups (rearranged : contract.Rearranged other) :
    (EndpointGroup.ofContract contract).Perm (EndpointGroup.ofContract other) := by
  have names : (contract.endpoints.map Endpoint.group).eraseDups.Perm
      (other.endpoints.map Endpoint.group).eraseDups :=
    eraseDups_perm fun name => by simp only [List.mem_map, rearranged.endpoints.mem_iff]
  simp only [EndpointGroup.ofContract, rearranged.endpoints _]
  exact names.map _

end Rearranged

end Contract

namespace TypeMapping

variable {mapping other : TypeMapping}

mutual

/-- Mappings that treat a type alike once its arguments are mapped map all types alike. -/
theorem map_congr (same : mapping.finish = other.finish) :
    (type : SourceType) → mapping.map type = other.map type
  | ⟨name, display, scope, isGeneric, arguments, isCollection, isNullable, isEnum, members,
      properties, summary⟩ => by
    rw [map, map, same, mapAll_congr same arguments]

theorem mapAll_congr (same : mapping.finish = other.finish) :
    (types : List SourceType) → mapping.mapAll types = other.mapAll types
  | [] => by
    rw [mapAll, mapAll]
  | type :: rest => by
    rw [mapAll, mapAll, map_congr same type, mapAll_congr same rest]

end

/-- Only the choices and the known names count for a mapping, in any order of the names. -/
theorem finish_congr (overrides : mapping.overrides = other.overrides)
    (enums : ∀ name, name ∈ mapping.enums ↔ name ∈ other.enums)
    (declared : ∀ name, name ∈ mapping.declared ↔ name ∈ other.declared) :
    mapping.finish = other.finish := by
  funext type mapped
  simp only [finish, core, override?, overrides, List.contains_eq_mem, enums, declared]

end TypeMapping

namespace Index

/-- Only which modules there are counts for the index modules. -/
theorem artifacts_congr {left right : List (List String)} (same : left.Perm right) :
    artifacts left = artifacts right := by
  have stems : stemsIn left = stemsIn right := by
    funext directory
    exact sortedNames_congr fun name => (same.filterMap _).mem_iff
  have directories : directoryArtifact left = directoryArtifact right := by
    funext directory
    simp only [directoryArtifact, stems]
  have exports : rootExports left = rootExports right := by
    simp only [rootExports, populated, stems, List.contains_eq_mem, same.mem_iff]
  simp only [artifacts, populated, stems, directories, exports]

end Index

namespace Contract.Rearranged

variable {contract other : Contract} (rearranged : contract.Rearranged other)
  (distinct : (contract.types.map SourceType.name).Nodup) (overrides : List (String × String))
  (options : Options)

include rearranged distinct

/-- The parts of the clients for both contracts depend on the same. -/
theorem agrees : (Context.ofContract contract overrides options).Agrees
    (Context.ofContract other overrides options) := by
  have declared (name : String) : name ∈ contract.types.map SourceType.name ↔
      name ∈ other.types.map SourceType.name := (rearranged.types.map _).mem_iff
  have enums (name : String) :
      name ∈ (contract.types.filter SourceType.isEnum).map SourceType.name ↔
        name ∈ (other.types.filter SourceType.isEnum).map SourceType.name :=
    ((rearranged.types.filter _).map _).mem_iff
  exact
    { options := rfl
      map := funext (TypeMapping.map_congr (TypeMapping.finish_congr rfl enums declared))
      declares := by
        funext name
        simp only [Context.declares, Context.ofContract, List.contains_eq_mem, declared]
      typeNamed? := rearranged.typeNamed? distinct
      rulesFor := funext rearranged.validation
      extraRulesFor := funext rearranged.extraRules }

/-- The files that are no index are the same. -/
theorem moduleArtifacts :
    (Package.moduleArtifacts (Context.ofContract contract overrides options)).Perm
      (Package.moduleArtifacts (Context.ofContract other overrides options)) := by
  have agrees := rearranged.agrees distinct overrides options
  have validated : (Context.ofContract contract overrides options).contract.validatedTypeNames =
      (Context.ofContract other overrides options).contract.validatedTypeNames :=
    rearranged.validatedTypeNames
  rw [Package.moduleArtifacts, Package.moduleArtifacts, Package.contractArtifacts,
    Package.contractArtifacts, agrees.options, agrees.declaration, agrees.groupArtifacts,
    agrees.schema, validated]
  refine ((List.Perm.append ?declarations ?groups).append_right _).append_right _
  case declarations => exact rearranged.types.map _
  case groups => exact rearranged.groups.flatMap_right _

/-- All files are the same. -/
theorem artifacts :
    (Package.artifacts (Context.ofContract contract overrides options)).Perm
      (Package.artifacts (Context.ofContract other overrides options)) := by
  have modules := rearranged.moduleArtifacts distinct overrides options
  have indexes := Index.artifacts_congr
    (modules.map fun artifact => Path.names artifact.path.text)
  refine (List.mergeSort_perm _ _).trans (List.Perm.trans ?_ (List.mergeSort_perm _ _).symm)
  rw [indexes]
  exact modules.append_right _

end Contract.Rearranged

namespace Package

/-- Files at different places come in one order. -/
theorem artifacts_eq_of_perm {context other : Context}
    (same : (artifacts context).Perm (artifacts other))
    (apart : ((artifacts context).map place).Nodup) : artifacts context = artifacts other := by
  have inOrder (context : Context) : (artifacts context).Pairwise fun left right =>
      place left ≤ place right := List.pairwise_map.mp (artifacts_inOrder context)
  apply List.Perm.eq_of_pairwise _ (inOrder context) (inOrder other) same
  intro left right member alsoMember before behind
  exact List.inj_on_of_nodup_map apart member (same.mem_iff.mpr alsoMember)
    (le_antisymm before behind)

/-- There is no client exactly where two files have the same place. -/
theorem generate_eq_error {contract : Contract} {overrides : List (String × String)}
    {options : Options} :
    (∃ error, (generate contract overrides options false).value = .error error) ↔
      ¬((artifacts (Context.ofContract contract overrides options)).map place).Nodup := by
  have made (files : List Artifact) := @generate_eq_ok contract overrides options files
  cases outcome : (generate contract overrides options false).value with
  | error error =>
      simp only [outcome, reduceCtorEq, false_iff, not_and] at made
      simpa using made _ rfl
  | ok files =>
      obtain ⟨rfl, apart⟩ := (made files).mp outcome
      simpa using apart

/-- A client does not depend on the order of what is independent in its contract. If the names of
the types differ, then a contract whose types stand in any order, whose rules keep their order
within each type and whose operations keep it within each group has the same files, or neither
contract has a client. -/
theorem generate_rearranged {contract other : Contract}
    (distinct : (contract.types.map SourceType.name).Nodup)
    (rearranged : contract.Rearranged other) (overrides : List (String × String))
    (options : Options) (cancelled : Bool) :
    (∃ first second,
      (generate contract overrides options cancelled).value = .error first ∧
        (generate other overrides options cancelled).value = .error second) ∨
    ∃ files,
      (generate contract overrides options cancelled).value = .ok files ∧
        (generate other overrides options cancelled).value = .ok files := by
  cases cancelled with
  | true => exact .inl ⟨.cancelled, .cancelled, rfl, rfl⟩
  | false =>
      have same := rearranged.artifacts distinct overrides options
      by_cases apart :
          ((artifacts (Context.ofContract contract overrides options)).map place).Nodup
      case pos =>
        have alsoApart := (same.map place).nodup_iff.mp apart
        have equal := artifacts_eq_of_perm same apart
        exact .inr ⟨_, generate_eq_ok.mpr ⟨rfl, apart⟩,
          generate_eq_ok.mpr ⟨equal.symm, apart⟩⟩
      case neg =>
        have alsoTogether := mt (same.map place).nodup_iff.mpr apart
        obtain ⟨first, failed⟩ := generate_eq_error.mpr apart
        obtain ⟨second, alsoFailed⟩ := generate_eq_error.mpr alsoTogether
        exact .inl ⟨first, second, failed, alsoFailed⟩

/-- An operation that places or lists what a group is named for. -/
def shopEndpoint (verb : Verb) (operation group : String) : Endpoint :=
  { verb, route := "/api/" ++ group, container := group ++ "Controller", operation, group
    requiresAuth := false, style := .attached }

/-- A contract with two types, each with a rule, and with two groups. -/
def shopContract : Contract :=
  { endpoints := [shopEndpoint .post "PlaceOrder" "Orders", shopEndpoint .get "ListUsers" "Users",
      shopEndpoint .get "ListOrders" "Orders"]
    types := [SourceType.reference "OrderDto", SourceType.reference "UserDto"]
    validation := [{ typeName := "OrderDto", property := "Id", required := true },
      { typeName := "UserDto", property := "Email", email := true }] }

def usersFirst : Contract :=
  { endpoints := [shopEndpoint .get "ListUsers" "Users", shopEndpoint .post "PlaceOrder" "Orders",
      shopEndpoint .get "ListOrders" "Orders"]
    types := [SourceType.reference "UserDto", SourceType.reference "OrderDto"]
    validation := [{ typeName := "UserDto", property := "Email", email := true },
      { typeName := "OrderDto", property := "Id", required := true }] }

theorem exists_shopClient :
    ∃ files, (generate shopContract [] {} false).value = .ok files := by
  have validated : shopContract.validatedTypeNames = ["OrderDto", "UserDto"] :=
    List.mergeSort_of_pairwise (by decide)
  have groups : shopContract.endpoints.map Endpoint.group = ["Orders", "Users", "Orders"] := rfl
  have types : shopContract.types.map SourceType.name = ["OrderDto", "UserDto"] := rfl
  rw [generate_ok_iff, validated, groups, types]
  have free : Name.StemsFree ["OrderDto", "UserDto"] := by
    unfold Name.StemsFree
    decide +kernel
  have groupsAlone : Name.IndexAlone ["Orders", "Users", "Orders"] := by
    unfold Name.IndexAlone
    decide +kernel
  have typesAlone : Name.IndexAlone ["OrderDto", "UserDto"] := by
    unfold Name.IndexAlone
    decide +kernel
  exact ⟨⟨by decide, by decide +kernel, free⟩, ⟨by decide +kernel, groupsAlone⟩,
    fun _ => ⟨by decide +kernel, typesAlone⟩⟩

/-- The client for the shop is the same with the users first. -/
theorem usersFirst_same_client :
    (shopContract.types.map SourceType.name).Nodup ∧ shopContract.Rearranged usersFirst ∧
      ∃ files, (generate shopContract [] {} false).value = .ok files ∧
        (generate usersFirst [] {} false).value = .ok files := by
  have distinct : (shopContract.types.map SourceType.name).Nodup := by decide
  have rearranged : shopContract.Rearranged usersFirst :=
    { types := List.Perm.swap _ _ _
      validation := Contract.SameByKey.swap (by decide) [] []
      extraRules := fun _ => rfl
      endpoints :=
        Contract.SameByKey.swap (by decide) [] [shopEndpoint .get "ListOrders" "Orders"] }
  refine ⟨distinct, rearranged, ?_⟩
  obtain ⟨files, made⟩ := exists_shopClient
  rcases generate_rearranged distinct rearranged [] {} false with ⟨_, _, failed, _⟩ | found
  · rw [made] at failed
    contradiction
  · exact found

end Package

end TypedClient
