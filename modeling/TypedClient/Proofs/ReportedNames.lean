/-
This file shows which undeclared names of a mapped type are reported. A name that nothing is known
about is reported where it stands alone. In front of arguments it goes to the client all the same,
and nothing is reported.
-/

import TypedClient.Proofs.ReferencedNames

namespace TypedClient.TypeMapping

open ClientType Reference

variable {mapping : TypeMapping} {type : SourceType} {name : String}

/-- An enumeration is known by its name, or by its mark inside the type. -/
def IsKnownEnum (mapping : TypeMapping) (type : SourceType) (name : String) : Prop :=
  name ∈ mapping.enums ∨
    ∃ inner, SourceType.IsWithin inner type ∧ inner.name = name ∧ inner.isEnum = true

/-- A name that no file of the client declares: it is no outcome, no known enumeration and no
declared type. -/
structure IsUndeclared (mapping : TypeMapping) (type : SourceType) (name : String) : Prop where
  noOutcome : name ≠ "Result"
  noEnum : ¬mapping.IsKnownEnum type name
  unlisted : name ∉ mapping.declared

/-- While a type is mapped, a name is reported as one that goes to the client without a rule. -/
def IsReported (mapping : TypeMapping) (type : SourceType) (name : String) : Prop :=
  ∃ display, passedThrough (name, display) ∈ reports (mapping.map type)

/-- A name stands alone in a client type where nothing is known about it and nothing is applied to
it. -/
def StandsAlone (name : String) (type : ClientType) : Prop :=
  ∃ display, IsPart (.unknown name display) type

theorem isReported_iff : mapping.IsReported type name ↔ StandsAlone name (mapping.map type) := by
  constructor
  · rintro ⟨display, report⟩
    obtain ⟨⟨other, otherDisplay⟩, member, same⟩ := List.mem_map.mp report
    obtain rfl : other = name := Option.some.inj (congrArg Diagnostic.declaration same)
    exact ⟨otherDisplay, (mem_unknowns_iff _).mp member⟩
  · rintro ⟨display, alone⟩
    exact ⟨display, List.mem_map_of_mem ((mem_unknowns_iff _).mpr alone)⟩

/-- Without choices of the user, an undeclared name in a mapped type stands alone or in front of
arguments. -/
theorem standsAlone_or_applied (plain : mapping.overrides = [])
    (undeclared : mapping.IsUndeclared type name) {part : ClientType}
    (isPart : IsPart part (mapping.map type)) (own : part.ownName? = some name) :
    StandsAlone name (mapping.map type) ∨ ∃ arguments, part = .application name arguments := by
  cases origin_of_part plain isPart (by simp [own]) with
  | outcome => exact absurd (Option.some.inj own).symm undeclared.noOutcome
  | inner within named =>
      cases named with
      | enumeration known =>
          obtain rfl := Option.some.inj own
          rcases known with marked | listed
          · exact absurd (.inr ⟨_, within, rfl, marked⟩) undeclared.noEnum
          · exact absurd (.inl listed) undeclared.noEnum
      | declared known =>
          obtain rfl := Option.some.inj own
          exact absurd known undeclared.unlisted
      | unknown =>
          obtain rfl := Option.some.inj own
          exact .inl ⟨_, isPart⟩
      | application arguments =>
          obtain rfl := Option.some.inj own
          exact .inr ⟨arguments, rfl⟩

/-- Without choices of the user, every undeclared name that the text of a mapped type over
identifiers refers to is reported exactly if each undeclared name in front of arguments stands alone
too. Only names that are found where they stand count. -/
theorem undeclared_names_reported_iff (plain : mapping.overrides = [])
    (legal : ∀ inner, SourceType.IsWithin inner type → IsIdentifier inner.name.toList) :
    (∀ name ∈ names (mapping.map type).text,
        mapping.IsUndeclared type name → mapping.IsReported type name) ↔
      ∀ name arguments, IsPart (.application name arguments) (mapping.map type) →
        isReferable name = true → mapping.IsUndeclared type name →
          StandsAlone name (mapping.map type) := by
  have found (name : String) : name ∈ names (mapping.map type).text ↔
      name ∈ (mapping.map type).emitted ∧ isReferable name = true := by
    rw [(traceable_map plain legal).names_text, List.mem_eraseDups, List.mem_filter]
  constructor
  · intro reported name arguments isPart referable undeclared
    have emitted := (mem_emitted_iff _).mpr ⟨_, isPart, rfl⟩
    exact isReported_iff.mp (reported name ((found name).mpr ⟨emitted, referable⟩) undeclared)
  · intro applied name member undeclared
    obtain ⟨emitted, referable⟩ := (found name).mp member
    obtain ⟨part, isPart, own⟩ := (mem_emitted_iff _).mp emitted
    apply isReported_iff.mpr
    rcases standsAlone_or_applied plain undeclared isPart own with alone | ⟨arguments, rfl⟩
    · exact alone
    · exact applied name arguments isPart referable undeclared

/-- A page of orders together with a page that says nothing about its content. -/
def twoPages : SourceType :=
  .tuple [.generic "Page" [.reference "Order"], .reference "Page"]

/-- All undeclared names of the pair are reported: pages stand alone in it too. -/
theorem twoPages_reported :
    shopMapping.overrides = [] ∧
      (∀ inner, SourceType.IsWithin inner twoPages → IsIdentifier inner.name.toList) ∧
      (shopMapping.map twoPages).text = "[Page<Order>, Page]" ∧
      ∀ name ∈ names (shopMapping.map twoPages).text,
        shopMapping.IsUndeclared twoPages name → shopMapping.IsReported twoPages name := by
  have single {name : String} (legal : IsIdentifier name.toList) : IsDotted IsIdentifier name :=
    ⟨[name.toList], by simp, by simpa using legal, by simp⟩
  have page : IsDotted IsIdentifier "Page" := single (by decide)
  have order : SourceType.BuiltOver (IsDotted IsIdentifier) (.reference "Order") :=
    .reference (single (by decide))
  have orders := SourceType.BuiltOver.generic page (List.forall_mem_singleton.mpr order)
  have built : SourceType.BuiltOver (IsDotted IsIdentifier) twoPages :=
    .tuple (List.forall_mem_cons.mpr ⟨orders, List.forall_mem_singleton.mpr (.reference page)⟩)
  have legal (inner : SourceType) (within : SourceType.IsWithin inner twoPages) :
      IsIdentifier inner.name.toList :=
    built.name_within (fun _ legal => legal.1) (by decide) (by decide) within
  have emitted : (shopMapping.map twoPages).emitted = ["Page", "Order", "Page"] := by decide
  have unknowns : (shopMapping.map twoPages).unknowns = [("Page", "Page")] := by decide
  have alone : StandsAlone "Page" (shopMapping.map twoPages) := by
    refine ⟨"Page", (mem_unknowns_iff _).mp ?_⟩
    rw [unknowns]
    exact List.mem_singleton_self _
  refine ⟨rfl, legal, by decide, (undeclared_names_reported_iff rfl legal).mpr ?_⟩
  intro name arguments isPart _ undeclared
  have member : name ∈ (shopMapping.map twoPages).emitted :=
    (mem_emitted_iff _).mpr ⟨_, isPart, rfl⟩
  rw [emitted] at member
  by_cases same : name = "Page"
  · exact same ▸ alone
  · obtain rfl : name = "Order" := by simpa [same] using member
    exact absurd (by decide) undeclared.unlisted

def numberPages : SourceType :=
  .generic "PagedResponse" [.reference "int"]

/-- Where nothing is known about pages, those of numbers go to the client by their name, and nothing
is reported. -/
theorem numberPages_unreported :
    ({} : TypeMapping).overrides = [] ∧
      (({} : TypeMapping).map numberPages).text = "PagedResponse<number>" ∧
      ¬∀ name ∈ names (({} : TypeMapping).map numberPages).text,
        ({} : TypeMapping).IsUndeclared numberPages name →
          ({} : TypeMapping).IsReported numberPages name := by
  have text : (({} : TypeMapping).map numberPages).text = "PagedResponse<number>" := by decide
  have found : "PagedResponse" ∈ names "PagedResponse<number>" := by decide
  have silent : reports (({} : TypeMapping).map numberPages) = [] := by decide
  have undeclared : ({} : TypeMapping).IsUndeclared numberPages "PagedResponse" := by
    refine ⟨by decide, ?_, List.not_mem_nil⟩
    rintro (listed | ⟨inner, within, named, marked⟩)
    · contradiction
    · cases within with
      | itself => contradiction
      | argument member deeper =>
          obtain rfl := List.mem_singleton.mp member
          cases deeper with
          | itself => contradiction
          | argument nothing => contradiction
  refine ⟨rfl, text, fun reported => ?_⟩
  rw [text] at reported
  obtain ⟨display, report⟩ := reported "PagedResponse" found undeclared
  rw [silent] at report
  contradiction

end TypedClient.TypeMapping
