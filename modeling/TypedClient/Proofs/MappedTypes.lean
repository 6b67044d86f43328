/-
This file lists the ways in which a mapping without choices of the user makes a client type, so that
what all client types have in common follows by cases.
-/

import Mathlib.Data.List.Basic
import TypedClient.Proofs.TypeDisplay

namespace TypedClient

/-- The type that a wrapper stands for: its argument, or the successful one among the possible
answers of an operation. -/
def SourceType.carried? (type : SourceType) : Option SourceType :=
  if Builtin.isErasedWrapper type.name then type.arguments.head?
  else if Builtin.isResultUnion type.name then
    (type.arguments.find? fun answer => Builtin.isErasedWrapper answer.name).or type.arguments.head?
  else none

theorem SourceType.mem_of_carried? {type inner : SourceType}
    (carried : type.carried? = some inner) : inner ∈ type.arguments := by
  unfold carried? at carried
  split at carried
  · exact List.mem_of_mem_head? carried
  split at carried
  · rcases Option.or_eq_some_iff.mp carried with successful | ⟨-, first⟩
    · exact List.mem_of_find?_eq_some successful
    · exact List.mem_of_mem_head? first
  · contradiction

namespace SourceType

mutual

theorem of_arguments {holds : SourceType → Prop}
    (step : ∀ type, (∀ argument ∈ type.arguments, holds argument) → holds type) :
    (type : SourceType) → holds type
  | ⟨_, _, _, _, arguments, _, _, _, _, _, _⟩ => step _ (all_of_arguments step arguments)

theorem all_of_arguments {holds : SourceType → Prop}
    (step : ∀ type, (∀ argument ∈ type.arguments, holds argument) → holds type) :
    (types : List SourceType) → ∀ type ∈ types, holds type
  | [] => List.forall_mem_nil _
  | first :: rest =>
    List.forall_mem_cons.mpr ⟨of_arguments step first, all_of_arguments step rest⟩

end

/-- What all ways to write a type have in common: the name is legal, nothing is marked as an
enumeration, and collections are known by their names. -/
structure IsWritten (isPart : List Char → Prop) (type : SourceType) : Prop where
  legal : isPart type.name.toList
  unmarked : type.isEnum = false
  collection : type.isCollection = collectionNames.contains type.name

theorem isWritten_reference {isPart : List Char → Prop} {name : String}
    (dotted : IsDotted isPart name) (words : ∀ part, isPart part → IsWord part) :
    IsWritten isPart (reference name) where
  legal := reference_name dotted words
  unmarked := by rw [reference]
  collection := by rw [reference]

/-- A null mark changes neither the name of a type nor its arguments. -/
theorem IsWritten.nullable {isPart : List Char → Prop} {type : SourceType}
    (written : IsWritten isPart type) :
    IsWritten isPart type.nullable ∧ type.nullable.arguments = type.arguments := by
  unfold SourceType.nullable
  split
  · exact ⟨written, rfl⟩
  · exact ⟨⟨written.legal, written.unmarked, written.collection⟩, rfl⟩

/-- Arguments change neither the name of a type nor whether it is a collection. -/
theorem IsWritten.applied {isPart : List Char → Prop} {type : SourceType}
    (written : IsWritten isPart type) (display : String) (isGeneric : Bool)
    (arguments : List SourceType) :
    IsWritten isPart { type with display, isGeneric, arguments } :=
  ⟨written.legal, written.unmarked, written.collection⟩

/-- What holds of a type as soon as it holds of its arguments holds of every type over dotted
names. -/
theorem BuiltOver.of_arguments {isPart : List Char → Prop} {holds : SourceType → Prop}
    (words : ∀ part, isPart part → IsWord part) (legalArray : isPart "Array".toList)
    (legalTuple : isPart "ValueTuple".toList)
    (step : ∀ type, IsWritten isPart type → (∀ argument ∈ type.arguments, holds argument) →
      holds type)
    {type : SourceType} (built : BuiltOver (IsDotted isPart) type) : holds type := by
  suffices parts : IsWritten isPart type ∧ ∀ argument ∈ type.arguments, holds argument from
    step type parts.1 parts.2
  -- The induction is on the form and the arguments: a null mark changes neither of them.
  induction built with
  | reference dotted =>
      exact ⟨isWritten_reference dotted words, List.forall_mem_nil _⟩
  | @generic name arguments dotted _ inductionHypothesis =>
      refine ⟨(isWritten_reference dotted words).applied _ _ _, ?_⟩
      intro argument member
      obtain ⟨written, inside⟩ := inductionHypothesis argument member
      exact step argument written inside
  | @array element _ inductionHypothesis =>
      have known : true = collectionNames.contains "Array" := by decide
      have inside := step element inductionHypothesis.1 inductionHypothesis.2
      exact ⟨⟨legalArray, rfl, known⟩, List.forall_mem_singleton.mpr inside⟩
  | tuple _ inductionHypothesis =>
      have known : false = collectionNames.contains "ValueTuple" := by decide
      refine ⟨⟨legalTuple, rfl, known⟩, ?_⟩
      intro element member
      obtain ⟨written, inside⟩ := inductionHypothesis element member
      exact step element written inside
  | @nullable type _ inductionHypothesis =>
      obtain ⟨written, same⟩ := inductionHypothesis.1.nullable
      rw [same]
      exact ⟨written, inductionHypothesis.2⟩

end SourceType

namespace TypeMapping

variable {mapping : TypeMapping} {type : SourceType}

theorem map_eq (type : SourceType) :
    mapping.map type = mapping.finish type (type.arguments.map mapping.map) := by
  have all (types : List SourceType) : mapping.mapAll types = types.map mapping.map := by
    induction types with
    | nil => rfl
    | cons type rest inductionHypothesis => rw [mapAll, inductionHypothesis, List.map_cons]
  cases type
  rw [map, all]

/-- The successful one among the possible answers is mapped from the type that is carried. -/
theorem success?_eq (bare : Builtin.isErasedWrapper type.name = false)
    (union : Builtin.isResultUnion type.name = true) :
    success? type.arguments (type.arguments.map mapping.map) = type.carried?.map mapping.map := by
  have pairs : type.arguments.zip (type.arguments.map mapping.map) =
      type.arguments.map fun answer => (answer, mapping.map answer) := by
    have both := List.zip_map' (f := id) (g := mapping.map) (l := type.arguments)
    rwa [List.map_id] at both
  simp [success?, pairs, List.find?_map, SourceType.carried?, bare, union, Option.map_or,
    Function.comp_def]

def fixedTexts : List String :=
  ["string", "number", "boolean", "Blob", "File", "File[]", "void", "any"]

theorem mem_fixedTexts {name text : String} (fixed : Builtin.primitive? name = some text) :
    text ∈ fixedTexts := by
  unfold Builtin.primitive? at fixed
  split_ifs at fixed
  all_goals
    obtain rfl := Option.some.inj fixed
    decide

/-- The ways to make the client type of a type, apart from null. -/
inductive Made (mapping : TypeMapping) (type : SourceType) : ClientType → Prop
  | builtin {text : String} (fixed : text ∈ fixedTexts) : Made mapping type (.builtin text)
  | enumeration (known : type.isEnum = true ∨ type.name ∈ mapping.enums) :
      Made mapping type (.enumeration type.name)
  | declared (known : type.name ∈ mapping.declared) : Made mapping type (.declared type.name)
  | unknown : Made mapping type (.unknown type.name type.display)
  | emptyOutcome : Made mapping type (.application "Result" [.builtin Builtin.voidText])
  | emptyArray : Made mapping type (.array (.builtin Builtin.anyText))
  | array {element : SourceType} (member : element ∈ type.arguments) :
      Made mapping type (.array (mapping.map element))
  | carried {inner : SourceType} (wrapped : type.carried? = some inner) :
      Made mapping type (mapping.map inner)
  | outcome {value : SourceType} (member : value ∈ type.arguments) :
      Made mapping type (.application "Result" [mapping.map value])
  | record {value : SourceType} (member : value ∈ type.arguments) :
      Made mapping type (.record (mapping.map value))
  | map {key value : SourceType} (keyMember : key ∈ type.arguments)
      (valueMember : value ∈ type.arguments) :
      Made mapping type (.map (mapping.map key) (mapping.map value))
  | set {element : SourceType} (member : element ∈ type.arguments) :
      Made mapping type (.set (mapping.map element))
  | tuple (filled : type.arguments ≠ []) :
      Made mapping type (.tuple (type.arguments.map mapping.map))
  | application : Made mapping type (.application type.name (type.arguments.map mapping.map))

/-- A collection is an array, apart from arrays of bytes. -/
theorem made_collection :
    Made mapping type (collection type (type.arguments.map mapping.map)) := by
  cases same : type.arguments with
  | nil =>
      simp only [collection, same, List.map_nil]
      exact .emptyArray
  | cons element others =>
      simp only [collection, same, List.map_cons]
      split
      · exact .builtin (by decide)
      · exact .array (same ▸ List.mem_cons_self)

/-- A generic type is a wrapper, has a form of its own or keeps its name. -/
theorem made_applied : Made mapping type (applied type (type.arguments.map mapping.map)) := by
  cases same : type.arguments with
  | nil =>
      have plain : Made mapping type (.application type.name (type.arguments.map mapping.map)) :=
        .application
      rwa [same] at plain
  | cons first others =>
      have here : first ∈ type.arguments := same ▸ List.mem_cons_self
      have whole : mapping.map first :: others.map mapping.map =
          type.arguments.map mapping.map := by rw [same, List.map_cons]
      simp only [List.map_cons, applied]
      -- The cases follow the order in which the forms are tried.
      split
      case isTrue wrapper =>
        apply Made.carried
        simp [SourceType.carried?, wrapper, same]
      case isFalse notWrapper =>
        have bare := Bool.eq_false_iff.mpr notWrapper
        split
        · exact .outcome here
        split
        case isTrue union =>
          rw [whole, success?_eq bare union]
          cases carried : type.carried? with
          | some inner => exact .carried carried
          | none => simp [SourceType.carried?, bare, union, same] at carried
        case isFalse =>
          split
          case h_1 second _ single =>
            obtain ⟨value, rest, split, rfl, -⟩ := List.map_eq_cons_iff.mp single
            have there : value ∈ type.arguments := by simp [same, split]
            unfold dictionary
            split
            · exact .record there
            · exact .map here there
          case h_2 =>
            split
            · exact .set here
            rw [whole]
            split
            · exact .tuple (same ▸ List.cons_ne_nil first others)
            · exact .application

/-- What a type is by its form is made in one of the ways. -/
theorem made_of_byForm {result : ClientType}
    (form : byForm? type (type.arguments.map mapping.map) = some result) :
    Made mapping type result := by
  unfold byForm? at form
  split at form
  · obtain rfl := Option.some.inj form
    exact made_collection
  split at form
  · split at form
    · obtain rfl := Option.some.inj form
      exact .emptyOutcome
    split at form
    · obtain rfl := Option.some.inj form
      exact .builtin (by decide)
    · contradiction
  · obtain rfl := Option.some.inj form
    exact made_applied

/-- Without choices of the user, the client type of a type apart from null is made in one of the
ways. -/
theorem made_core (plain : mapping.overrides = []) :
    Made mapping type (mapping.core type (type.arguments.map mapping.map)) := by
  have unchosen : mapping.override? type = none := by simp [override?, plain]
  simp only [core, unchosen]
  split
  case h_1 text fixed => exact .builtin (mem_fixedTexts fixed)
  case h_2 =>
    split
    case isTrue known =>
      apply Made.enumeration
      simpa using known
    split
    case h_1 result form => exact made_of_byForm form
    case h_2 =>
      split
      case isTrue known => exact .declared (by simpa using known)
      case isFalse => exact .unknown

end TypeMapping

end TypedClient
