/-
This file shows which declared types a contract defines where it refers to them. References are
followed only to what discovery keeps: a class, record or struct that neither counts by its name
nor has properties of its own is lost before.
-/

import TypedClient.Proofs.AssembledTypes

namespace TypedClient

namespace TypeDiscovery

theorem mem_included {file : SourceModel} {type : SourceType} :
    type ∈ (discover file).included ↔ type ∈ file.enums ∨
      ∃ container ∈ file.containers, isDataShape container = true ∧
        isContractName container.name = true ∧ definition container = type := by
  simp only [discover, List.mem_append, List.mem_map, List.mem_filter, and_assoc]

theorem mem_unlisted {file : SourceModel} {type : SourceType} :
    type ∈ (discover file).unlisted ↔
      ∃ container ∈ file.containers, isDataShape container = true ∧
        isContractName container.name = false ∧ properties container ≠ [] ∧
          definition container = type := by
  simp only [discover, List.mem_filter, List.mem_map, Bool.not_eq_true', List.isEmpty_eq_false_iff,
    and_assoc]
  constructor
  · rintro ⟨⟨container, member, shape, plain, rfl⟩, some⟩
    exact ⟨container, member, shape, plain, some, rfl⟩
  · rintro ⟨container, member, shape, plain, some, rfl⟩
    exact ⟨⟨container, member, shape, plain, rfl⟩, some⟩

end TypeDiscovery

namespace Assembly

open TypeDiscovery

/-- What source files under their paths add to a contract. -/
def analyses (files : List (String × SourceModel)) : List FileAnalysis :=
  files.map fun file => (Analysis.analyze file.1 file.2).value

/-- A container in some file holds data. -/
def IsShape (files : List (String × SourceModel)) (container : Container) : Prop :=
  ∃ file ∈ files, container ∈ file.2.containers ∧ isDataShape container = true

/-- Discovery keeps a type of a name: an enumeration, or the definition of a container that holds
data and counts by its name or has properties. -/
def IsKept (files : List (String × SourceModel)) (name : String) : Prop :=
  (∃ file ∈ files, ∃ type ∈ file.2.enums, type.name = name) ∨
    ∃ container, IsShape files container ∧ (definition container).name = name ∧
      (isContractName container.name = true ∨ properties container ≠ [])

/-- A name occurs in an operation of a contract or in a property of one of its types. -/
def Mentions (contract : Contract) (name : String) : Prop :=
  (∃ endpoint ∈ contract.endpoints, UsedBy name endpoint) ∨
    ∃ type ∈ contract.types, MentionedBy name type

theorem listed_analyses {files : List (String × SourceModel)} {name : String} :
    Listed (analyses files) name ↔
      ∃ file ∈ files, ∃ type ∈ (discover file.2).included, type.name = name := by
  simp only [Listed, analyses, List.mem_map, exists_exists_and_eq_and]
  rfl

theorem unlisted_analyses {files : List (String × SourceModel)} {name : String} :
    Unlisted (analyses files) name ↔
      ∃ file ∈ files, ∃ type ∈ (discover file.2).unlisted, type.name = name := by
  simp only [Unlisted, analyses, List.mem_map, exists_exists_and_eq_and]
  rfl

/-- What discovery keeps is listed or at hand. -/
theorem isKept_iff {files : List (String × SourceModel)} {name : String} :
    IsKept files name ↔ Listed (analyses files) name ∨ Unlisted (analyses files) name := by
  rw [listed_analyses, unlisted_analyses]
  constructor
  · rintro (⟨file, member, type, declared, named⟩ |
      ⟨container, ⟨file, member, inside, shape⟩, named, reason⟩)
    · exact .inl ⟨file, member, type, mem_included.mpr (.inl declared), named⟩
    · cases counts : isContractName container.name with
      | true =>
          exact .inl ⟨file, member, _,
            mem_included.mpr (.inr ⟨container, inside, shape, counts, rfl⟩), named⟩
      | false =>
          have some : properties container ≠ [] := by
            rw [counts] at reason
            simpa using reason
          exact .inr ⟨file, member, _,
            mem_unlisted.mpr ⟨container, inside, shape, counts, some, rfl⟩, named⟩
  · rintro (⟨file, member, type, included, named⟩ | ⟨file, member, type, unlisted, named⟩)
    · rcases mem_included.mp included with declared | ⟨container, inside, shape, counts, rfl⟩
      · exact .inl ⟨file, member, type, declared, named⟩
      · exact .inr ⟨container, ⟨file, member, inside, shape⟩, named, .inl counts⟩
    · obtain ⟨container, inside, shape, -, some, rfl⟩ := mem_unlisted.mp unlisted
      exact .inr ⟨container, ⟨file, member, inside, shape⟩, named, .inr some⟩

theorem Closed.defines_iff {files : List (String × SourceModel)} {contract : Contract}
    {listed moved : List SourceType} (closed : Closed (analyses files) contract listed moved)
    {name : String} (mentioned : Mentions contract name) :
    (∃ type ∈ contract.types, type.name = name) ↔ IsKept files name := by
  have referenced : Referenced (analyses files) contract name :=
    mentioned.imp_right .inl
  rw [isKept_iff, ← List.mem_map, closed.mem_names_types, closed.listedNames,
    closed.mem_names_moved, and_iff_left referenced]

/-- Every class, record or struct that holds data and is mentioned in a contract has a definition
there, exactly if for each of them discovery keeps a type of its name: an enumeration, or a data
shape that counts by its name or has properties of its own. -/
theorem mentioned_shapes_defined_iff (files : List (String × SourceModel)) :
    let contract := (assemble (analyses files)).value
    (∀ container, IsShape files container → Mentions contract container.name →
        ∃ type ∈ contract.types, type.name = container.name) ↔
      ∀ container, IsShape files container → Mentions contract container.name →
        IsKept files container.name := by
  intro contract
  obtain ⟨listed, moved, closed⟩ := closed_assemble (analyses files)
  constructor
  · intro defined container shape mentioned
    exact (closed.defines_iff mentioned).mp (defined container shape mentioned)
  · intro kept container shape mentioned
    exact (closed.defines_iff mentioned).mpr (kept container shape mentioned)

/-- A class without properties of its own, whose properties are those of its base. -/
def adminClass : Container where
  name := "Admin"
  bases := [.reference "User"]

/-- A file with a method that answers with the class. -/
def adminFile : SourceModel where
  containers := [
    { name := "AdminsController"
      decorations := [{ name := ExportMarker.name }]
      methods := [
        { name := "GetAdmin"
          decorations := [{ name := "HttpGet" }]
          returnType := some (.reference "Admin") }] },
    { name := "User"
      properties := [{ name := "Name", type := .reference "string", modifiers := ["public"] }] },
    adminClass]

/-- The class is mentioned by an operation, but not defined. -/
theorem adminFile_lacks_admin :
    let files := [("Admins.cs", adminFile)]
    let contract := (assemble (analyses files)).value
    IsShape files adminClass ∧ Mentions contract adminClass.name ∧
      ¬∃ type ∈ contract.types, type.name = adminClass.name := by
  intro files contract
  obtain ⟨listed, moved, closed⟩ := closed_assemble (analyses files)
  have shape : IsShape files adminClass :=
    ⟨_, List.mem_singleton_self _, by simp [adminFile], by decide⟩
  have mentioned : Mentions contract adminClass.name := by
    have used : adminClass.name ∈ contract.endpoints.flatMap endpointNames := by
      rw [assemble_endpoints, markedEndpoints, enums, merged, ordered, analyses, List.map_singleton,
        List.mergeSort_singleton]
      decide
    obtain ⟨endpoint, member, occurs⟩ := List.mem_flatMap.mp used
    exact .inl ⟨endpoint, member, (mem_endpointNames _ _).mp occurs⟩
  refine ⟨shape, mentioned, ?_⟩
  rw [closed.defines_iff mentioned, isKept_iff, listed_analyses, unlisted_analyses]
  decide

end Assembly

end TypedClient
