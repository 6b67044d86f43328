/-
This file shows where the names in a client type come from: without choices of the user, each part
that has a name of its own is named after a type inside the mapped type, or is an outcome.
-/

import TypedClient.Proofs.MappedTypes

namespace TypedClient

namespace ClientType

mutual

/-- The names that a mapping has put into a type, in the order of the text: enumerations, declared
and unknown types, and the bases of generic types that keep their name. -/
def emitted : ClientType → List String
  | enumeration name => [name]
  | declared name => [name]
  | unknown name _ => [name]
  | application name arguments => name :: emittedByAll arguments
  | array element => element.emitted
  | record value => value.emitted
  | map key value => key.emitted ++ value.emitted
  | set element => element.emitted
  | tuple elements => emittedByAll elements
  | orNull type => type.emitted
  | _ => []

/-- The names that a mapping has put into several types. -/
def emittedByAll : List ClientType → List String
  | [] => []
  | type :: rest => type.emitted ++ emittedByAll rest

end

/-- The names of several types follow each other. -/
theorem emittedByAll_eq (types : List ClientType) :
    emittedByAll types = types.flatMap emitted := by
  induction types with
  | nil => rfl
  | cons type rest inductionHypothesis =>
      rw [emittedByAll, inductionHypothesis, List.flatMap_cons]

/-- The unknown names of several types follow each other. -/
theorem unknownsOfAll_eq (types : List ClientType) :
    unknownsOfAll types = types.flatMap unknowns := by
  induction types with
  | nil => rfl
  | cons type rest inductionHypothesis =>
      rw [unknownsOfAll, inductionHypothesis, List.flatMap_cons]

/-- The types that a type is directly made of. -/
def components : ClientType → List ClientType
  | application _ arguments => arguments
  | array element => [element]
  | record value => [value]
  | map key value => [key, value]
  | set element => [element]
  | tuple elements => elements
  | orNull type => [type]
  | _ => []

/-- The name that a type puts into its text besides those of its components. -/
def ownName? : ClientType → Option String
  | enumeration name => some name
  | declared name => some name
  | unknown name _ => some name
  | application name _ => some name
  | _ => none

theorem emitted_eq (type : ClientType) :
    type.emitted = type.ownName?.toList ++ type.components.flatMap emitted := by
  cases type <;> simp [emitted, ownName?, components, emittedByAll_eq]

mutual

/-- What holds of a client type as soon as it holds of its components holds of every client type. -/
theorem of_components {holds : ClientType → Prop}
    (step : ∀ type : ClientType, (∀ inner ∈ type.components, holds inner) → holds type) :
    (type : ClientType) → holds type
  | chosen _ => step _ (List.forall_mem_nil _)
  | builtin _ => step _ (List.forall_mem_nil _)
  | enumeration _ => step _ (List.forall_mem_nil _)
  | declared _ => step _ (List.forall_mem_nil _)
  | unknown _ _ => step _ (List.forall_mem_nil _)
  | application _ arguments => step _ (all_of_components step arguments)
  | array element => step _ (List.forall_mem_singleton.mpr (of_components step element))
  | record value => step _ (List.forall_mem_singleton.mpr (of_components step value))
  | map key value => step _ (List.forall_mem_cons.mpr ⟨of_components step key,
      List.forall_mem_singleton.mpr (of_components step value)⟩)
  | set element => step _ (List.forall_mem_singleton.mpr (of_components step element))
  | tuple elements => step _ (all_of_components step elements)
  | orNull type => step _ (List.forall_mem_singleton.mpr (of_components step type))

theorem all_of_components {holds : ClientType → Prop}
    (step : ∀ type : ClientType, (∀ inner ∈ type.components, holds inner) → holds type) :
    (types : List ClientType) → ∀ type ∈ types, holds type
  | [] => List.forall_mem_nil _
  | first :: rest =>
    List.forall_mem_cons.mpr ⟨of_components step first, all_of_components step rest⟩

end

/-- A type is a part of another one, at any depth. -/
inductive IsPart (part : ClientType) : ClientType → Prop
  | itself : IsPart part part
  | deeper {whole inner : ClientType} (component : inner ∈ whole.components)
      (inside : IsPart part inner) : IsPart part whole

theorem isPart_iff {part whole : ClientType} :
    IsPart part whole ↔ part = whole ∨ ∃ inner ∈ whole.components, IsPart part inner := by
  constructor
  · intro isPart
    cases isPart with
    | itself => exact .inl rfl
    | deeper component inside => exact .inr ⟨_, component, inside⟩
  · rintro (rfl | ⟨inner, component, inside⟩)
    · exact .itself
    · exact .deeper component inside

theorem mem_emitted_iff {name : String} (type : ClientType) :
    name ∈ type.emitted ↔ ∃ part, IsPart part type ∧ part.ownName? = some name := by
  induction type using of_components with
  | step type inductionHypothesis =>
      rw [emitted_eq, List.mem_append, Option.mem_toList, List.mem_flatMap]
      constructor
      · rintro (own | ⟨inner, component, member⟩)
        · exact ⟨type, .itself, own⟩
        · obtain ⟨part, inside, own⟩ := (inductionHypothesis inner component).mp member
          exact ⟨part, .deeper component inside, own⟩
      · rintro ⟨part, isPart, own⟩
        rcases isPart_iff.mp isPart with rfl | ⟨inner, component, inside⟩
        · exact .inl own
        · exact .inr ⟨inner, component,
            (inductionHypothesis inner component).mpr ⟨part, inside, own⟩⟩

theorem mem_unknowns_iff {name display : String} (type : ClientType) :
    (name, display) ∈ type.unknowns ↔ IsPart (.unknown name display) type := by
  induction type using of_components with
  | step type inductionHypothesis =>
      have unfolded : (name, display) ∈ type.unknowns ↔ .unknown name display = type ∨
          ∃ inner ∈ type.components, (name, display) ∈ inner.unknowns := by
        cases type <;> simp [unknowns, components, unknownsOfAll_eq]
      rw [unfolded, isPart_iff]
      exact or_congr_right (exists_congr fun inner => and_congr_right fun component =>
        inductionHypothesis inner component)

end ClientType

namespace SourceType

/-- A type stands inside another one: it is that type or stands inside one of its arguments. -/
inductive IsWithin (inner : SourceType) : SourceType → Prop
  | itself : IsWithin inner inner
  | argument {type argument : SourceType} (member : argument ∈ type.arguments)
      (deeper : IsWithin inner argument) : IsWithin inner type

theorem BuiltOver.name_within {isPart : List Char → Prop} {type inner : SourceType}
    (words : ∀ part, isPart part → IsWord part) (legalArray : isPart "Array".toList)
    (legalTuple : isPart "ValueTuple".toList) (built : BuiltOver (IsDotted isPart) type)
    (within : IsWithin inner type) : isPart inner.name.toList := by
  have step (type : SourceType) (written : IsWritten isPart type)
      (inside : ∀ argument ∈ type.arguments, ∀ inner, IsWithin inner argument →
        isPart inner.name.toList) (inner : SourceType) (within : IsWithin inner type) :
      isPart inner.name.toList := by
    cases within with
    | itself => exact written.legal
    | argument member deeper => exact inside _ member inner deeper
  exact built.of_arguments words legalArray legalTuple step inner within

end SourceType

namespace TypeMapping

open ClientType

variable {mapping : TypeMapping} {type : SourceType}

/-- The ways to name a part of a client type after a type of the backend. -/
inductive NamedAfter (mapping : TypeMapping) (inner : SourceType) : ClientType → Prop
  | enumeration (known : inner.isEnum = true ∨ inner.name ∈ mapping.enums) :
      NamedAfter mapping inner (.enumeration inner.name)
  | declared (known : inner.name ∈ mapping.declared) :
      NamedAfter mapping inner (.declared inner.name)
  | unknown : NamedAfter mapping inner (.unknown inner.name inner.display)
  | application (arguments : List ClientType) :
      NamedAfter mapping inner (.application inner.name arguments)

/-- Where the name of a part of a mapped type comes from: from a type inside the mapped one, or from
an outcome. -/
inductive Origin (mapping : TypeMapping) (type : SourceType) : ClientType → Prop
  | inner {inner : SourceType} (within : SourceType.IsWithin inner type) {part : ClientType}
      (named : NamedAfter mapping inner part) : Origin mapping type part
  | outcome (arguments : List ClientType) : Origin mapping type (.application "Result" arguments)

/-- What stands inside an argument stands inside the type. -/
theorem Origin.of_argument {argument : SourceType} (member : argument ∈ type.arguments)
    {part : ClientType} (origin : Origin mapping argument part) : Origin mapping type part := by
  cases origin with
  | inner within named => exact .inner (.argument member within) named
  | outcome arguments => exact .outcome arguments

theorem isPart_of_withNull {result part : ClientType} (isPart : IsPart part result.withNull)
    (named : part.ownName? ≠ none) : IsPart part result := by
  unfold ClientType.withNull at isPart
  simp only at isPart
  split at isPart
  · exact isPart
  · rcases isPart_iff.mp isPart with rfl | ⟨inner, component, inside⟩
    · exact absurd rfl named
    · obtain rfl := List.mem_singleton.mp component
      exact inside

/-- What is made of a type is named after it, or it is an outcome, where it has a name and is not
what one of the arguments is mapped to. Its components are the mapped arguments and types of the
language. -/
theorem named_of_made {result : ClientType} (made : Made mapping type result) :
    (∃ argument ∈ type.arguments, result = mapping.map argument) ∨
      (result.ownName? ≠ none → Origin mapping type result) ∧
        ∀ inner ∈ result.components, (∃ text, inner = .builtin text) ∨
          ∃ argument ∈ type.arguments, inner = mapping.map argument := by
  cases made with
  | carried wrapped => exact .inl ⟨_, SourceType.mem_of_carried? wrapped, rfl⟩
  | builtin => exact .inr (by simp [ownName?, components])
  | enumeration known =>
      exact .inr ⟨fun _ => .inner .itself (.enumeration known), by simp [components]⟩
  | declared known =>
      exact .inr ⟨fun _ => .inner .itself (.declared known), by simp [components]⟩
  | unknown => exact .inr ⟨fun _ => .inner .itself .unknown, by simp [components]⟩
  | emptyOutcome => exact .inr ⟨fun _ => .outcome _, by simp [components]⟩
  | emptyArray => exact .inr (by simp [ownName?, components])
  | array member => exact .inr (by simpa [ownName?, components] using .inr ⟨_, member, rfl⟩)
  | outcome member =>
      exact .inr ⟨fun _ => .outcome _, by simpa [components] using .inr ⟨_, member, rfl⟩⟩
  | record member => exact .inr (by simpa [ownName?, components] using .inr ⟨_, member, rfl⟩)
  | map keyMember valueMember =>
      refine .inr ⟨by simp [ownName?], List.forall_mem_cons.mpr ⟨.inr ⟨_, keyMember, rfl⟩, ?_⟩⟩
      exact List.forall_mem_singleton.mpr (.inr ⟨_, valueMember, rfl⟩)
  | set member => exact .inr (by simpa [ownName?, components] using .inr ⟨_, member, rfl⟩)
  | tuple =>
      refine .inr ⟨by simp [ownName?], List.forall_mem_map.mpr fun argument member => ?_⟩
      exact .inr ⟨argument, member, rfl⟩
  | application =>
      refine .inr ⟨fun _ => .inner .itself (.application _),
        List.forall_mem_map.mpr fun argument member => ?_⟩
      exact .inr ⟨argument, member, rfl⟩

/-- Without choices of the user, every part of a mapped type that has a name is named after a type
inside the mapped one, or it is an outcome. -/
theorem origin_of_part (plain : mapping.overrides = []) {part : ClientType}
    (isPart : IsPart part (mapping.map type)) (named : part.ownName? ≠ none) :
    Origin mapping type part := by
  induction type using SourceType.of_arguments generalizing part with
  | step type inductionHypothesis =>
      have core : IsPart part (mapping.core type (type.arguments.map mapping.map)) := by
        rw [map_eq, finish] at isPart
        split at isPart
        · exact isPart_of_withNull isPart named
        · exact isPart
      rcases named_of_made (made_core plain) with ⟨argument, member, same⟩ | ⟨own, components⟩
      · rw [same] at core
        exact (inductionHypothesis argument member core named).of_argument member
      · rcases isPart_iff.mp core with rfl | ⟨inner, component, inside⟩
        · exact own named
        · rcases components inner component with ⟨text, rfl⟩ | ⟨argument, member, rfl⟩
          · rcases isPart_iff.mp inside with rfl | ⟨deeper, nothing, -⟩
            · exact absurd rfl named
            · contradiction
          · exact (inductionHypothesis argument member inside named).of_argument member

/-- Without choices of the user, a mapping puts only the names inside a type into it, and that of
outcomes. -/
theorem name_of_mem_emitted (plain : mapping.overrides = []) {name : String}
    (member : name ∈ (mapping.map type).emitted) :
    name = "Result" ∨ ∃ inner, SourceType.IsWithin inner type ∧ inner.name = name := by
  obtain ⟨part, isPart, own⟩ := (mem_emitted_iff _).mp member
  cases origin_of_part plain isPart (by simp [own]) with
  | outcome => exact .inl (Option.some.inj own).symm
  | inner within named =>
      refine .inr ⟨_, within, ?_⟩
      cases named <;> exact Option.some.inj own

end TypeMapping

end TypedClient
