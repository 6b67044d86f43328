/-
This file shows what a return type says about the answer of an operation: the type that is left when
its wrappers are taken off one after the other, if that type says anything.
-/

import Mathlib.Logic.Relation
import TypedClient.Backend.Response

namespace TypedClient

/-- A type is a part of another: that type itself, or a part of one of its arguments. -/
inductive SourceType.IsPart (part : SourceType) : SourceType → Prop
  | whole : IsPart part part
  | argument {type argument : SourceType} (member : argument ∈ type.arguments)
      (deeper : IsPart part argument) : IsPart part type

theorem SourceType.forall_isPart_generic {holds : SourceType → Prop} {name : String}
    {arguments : List SourceType} :
    (∀ part : SourceType, part.IsPart (generic name arguments) → holds part) ↔
      holds (generic name arguments) ∧ ∀ argument ∈ arguments, ∀ part : SourceType,
        part.IsPart argument → holds part := by
  constructor
  · intro all
    exact ⟨all _ .whole, fun _ member part deeper => all part (.argument member deeper)⟩
  · rintro ⟨whole, deeper⟩ part (_ | ⟨member, inner⟩)
    · exact whole
    · exact deeper _ member part inner

/-- A plain reference is its only part. -/
theorem SourceType.forall_isPart_reference {holds : SourceType → Prop} {name : String} :
    (∀ part : SourceType, part.IsPart (reference name) → holds part) ↔
      holds (reference name) := by
  constructor
  · intro all
    exact all _ .whole
  · rintro whole part (_ | ⟨member, -⟩)
    · exact whole
    · exact absurd member List.not_mem_nil

namespace Response

open Builtin

/-- The type inside the outermost wrapper: the only argument of a type that merely carries it, or the
first possible answer that carries a type. -/
def inside? (type : SourceType) : Option SourceType :=
  match isErasedWrapper type.name, type.arguments with
  | true, [inner] => some inner
  | _, _ =>
    if isResultUnion type.name then
      type.arguments.find? fun argument =>
        isErasedWrapper argument.name && !argument.arguments.isEmpty
    else none

/-- A type is left when some wrappers are taken off another. -/
def IsInside (inner outer : SourceType) : Prop :=
  Relation.ReflTransGen (fun type inside => inside? type = some inside) outer inner

/-- A type has no wrapper to take off, and lists no possible answers. -/
def IsBare (type : SourceType) : Prop :=
  inside? type = none ∧ isResultUnion type.name = false

theorem mem_of_inside? {type inner : SourceType} (inside : inside? type = some inner) :
    inner ∈ type.arguments := by
  unfold inside? at inside
  split at inside
  case h_1 only =>
    cases inside
    simp [only]
  case h_2 =>
    split at inside
    · exact List.mem_of_find?_eq_some inside
    · contradiction

theorem sizeOf_lt_of_inside? {type inner : SourceType} (inside : inside? type = some inner) :
    sizeOf inner < sizeOf type := by
  have member := mem_of_inside? inside
  obtain ⟨name, display, scope, isGeneric, arguments, isCollection, isNullable, isEnum, members,
    properties, summary⟩ := type
  have smaller : sizeOf inner < sizeOf arguments := List.sizeOf_lt_of_mem member
  simp only [SourceType.mk.sizeOf_spec]
  omega

theorem IsInside.isPart {inner outer : SourceType} (inside : IsInside inner outer) :
    inner.IsPart outer := by
  induction inside using Relation.ReflTransGen.head_induction_on with
  | refl => exact .whole
  | head step _ inductionHypothesis => exact .argument (mem_of_inside? step) inductionHypothesis

theorem peelAll_eq (types : List SourceType) : peelAll types = types.map peel := by
  induction types with
  | nil => rfl
  | cons type rest inductionHypothesis => rw [peelAll, inductionHypothesis, List.map_cons]

/-- The successful one among the possible answers is peeled further. -/
theorem successful?_eq (arguments : List SourceType) :
    successful? arguments (arguments.map peel) =
      (arguments.find? fun argument =>
        isErasedWrapper argument.name && !argument.arguments.isEmpty).bind peel := by
  have pairs : arguments.zip (arguments.map peel) =
      arguments.map fun argument => (argument, peel argument) := by
    have both := List.zip_map' (f := id) (g := peel) (l := arguments)
    rwa [List.map_id] at both
  rw [successful?, pairs, List.find?_map, Option.bind_map]
  rfl

/-- A type is peeled by peeling what is inside its outermost wrapper. -/
theorem peel_eq (type : SourceType) :
    peel type = match inside? type with
      | some inner => peel inner
      | none => if isResultUnion type.name then none else some type := by
  obtain ⟨name, display, scope, isGeneric, arguments, isCollection, isNullable, isEnum, members,
    properties, summary⟩ := type
  rw [peel, peelAll_eq]
  have others (shown : SourceType) :
      (if isResultUnion name then successful? arguments (arguments.map peel) else some shown) =
        match (if isResultUnion name then
            arguments.find? fun argument =>
              isErasedWrapper argument.name && !argument.arguments.isEmpty
          else none) with
        | some inner => peel inner
        | none => if isResultUnion name then none else some shown := by
    rw [successful?_eq]
    split
    · cases List.find? _ arguments <;> rfl
    · rfl
  cases wrapper : isErasedWrapper name
  · simp only [inside?, wrapper]
    exact others _
  · rcases arguments with _ | ⟨inner, _ | ⟨second, rest⟩⟩
    · simp only [inside?, wrapper]
      exact others _
    · simp [inside?, wrapper]
    · simp only [inside?, wrapper]
      exact others _

/-- What a type is peeled to is left of it and has no wrapper to take off. -/
theorem inside_of_peel {type answer : SourceType} (peeled : peel type = some answer) :
    IsInside answer type ∧ IsBare answer := by
  rw [peel_eq] at peeled
  cases inside : inside? type with
  | some inner =>
      rw [inside] at peeled
      have smaller := sizeOf_lt_of_inside? inside
      obtain ⟨further, bare⟩ := inside_of_peel peeled
      exact ⟨.head inside further, bare⟩
  | none =>
      rw [inside] at peeled
      dsimp only at peeled
      split at peeled
      case isTrue => contradiction
      case isFalse single =>
        cases peeled
        exact ⟨.refl, inside, by simpa using single⟩
termination_by sizeOf type

/-- What is left of a type and has no wrapper to take off is what the type is peeled to. -/
theorem peel_of_inside {type answer : SourceType} (inside : IsInside answer type)
    (bare : IsBare answer) : peel type = some answer := by
  induction inside using Relation.ReflTransGen.head_induction_on with
  | refl =>
      rw [peel_eq, bare.1, bare.2]
      rfl
  | head step _ inductionHypothesis =>
      rw [peel_eq, step]
      exact inductionHypothesis

/-- A return type gives the answer that is left of it without a wrapper to take off, if that
answer says anything. -/
theorem ofReturnType?_eq_some_iff {type answer : SourceType} :
    ofReturnType? type = some answer ↔
      IsInside answer type ∧ IsBare answer ∧ isInformative answer = true := by
  rw [ofReturnType?, Option.filter_eq_some_iff, ← and_assoc]
  exact and_congr_left fun _ =>
    ⟨inside_of_peel, fun ⟨inside, bare⟩ => peel_of_inside inside bare⟩

/-- An answer of known meaning is binary content, and none of the backend's plumbing. -/
theorem foreign_of_isInformative {type : SourceType} (informative : isInformative type = true) :
    isInfrastructure type.name = false ∧
      (primitive? type.name = none ∨ isBinary type = true) ∧
      (type.arguments = [] → isEmptyResult type.name = false) := by
  have plumbing : ∀ name ∈ infrastructureNames, primitive? name = some anyText := by
    decide
  unfold isInformative at informative
  split at informative
  case isTrue => contradiction
  case isFalse full =>
    have meaning : isBinary type = true ∨ primitive? type.name = none := by
      simpa using informative
    refine ⟨?_, meaning.symm, by simpa using full⟩
    rw [← Bool.not_eq_true]
    intro infrastructure
    have opaque' := plumbing type.name (by simpa [isInfrastructure] using infrastructure)
    simp [isBinary, opaque', anyText] at meaning

/-- A type says what an answer is: it is no wrapper, no list of possible answers and no answer
without content, it does not belong to the backend's plumbing, and only binary content among the
types with a fixed meaning counts. -/
structure IsStripped (type : SourceType) : Prop where
  unwrapped : isErasedWrapper type.name = false
  single : isResultUnion type.name = false
  full : type.arguments = [] → isEmptyResult type.name = false
  foreign : isInfrastructure type.name = false
  telling : primitive? type.name = none ∨ isBinary type = true

/-- The wrappers that are not known for answers without content when they have no argument. -/
def unmarkedWrappers : List String :=
  ["Nullable", "Optional", "Created", "CreatedAtRoute", "AcceptedAtRoute"]

/-- A wrapper without an argument is an answer without content unless it is not known for that. -/
theorem isEmptyResult_of_isErasedWrapper {name : String} (wrapper : isErasedWrapper name = true) :
    isEmptyResult name = true ∨ name ∈ unmarkedWrappers := by
  have table : ∀ known ∈ ["Nullable", "Optional", "Task", "ValueTask", "ActionResult", "Ok",
      "Created", "CreatedAtRoute", "Accepted", "AcceptedAtRoute"],
      isEmptyResult known = true ∨ known ∈ unmarkedWrappers := by
    decide
  exact table name (by simpa [isErasedWrapper] using wrapper)

theorem arguments_of_isBare {type : SourceType} (bare : IsBare type)
    (wrapper : isErasedWrapper type.name = true) (single : type.arguments.length ≤ 1) :
    type.arguments = [] := by
  match same : type.arguments, single with
  | [], _ => rfl
  | [inner], _ =>
      have inside : inside? type = some inner := by
        simp [inside?, wrapper, same]
      rw [bare.1] at inside
      contradiction

/-- Where each wrapper has one argument at most, the answer that a return type gives is a part of
it and gives itself. It says what the answer is unless it is a wrapper without an argument that is
not known for answers without content. -/
theorem answer_stripped_iff {type answer : SourceType}
    (single : ∀ part : SourceType, part.IsPart type → isErasedWrapper part.name = true →
      part.arguments.length ≤ 1)
    (found : ofReturnType? type = some answer) :
    answer.IsPart type ∧ ofReturnType? answer = some answer ∧
      (IsStripped answer ↔ ¬(answer.arguments = [] ∧ answer.name ∈ unmarkedWrappers)) := by
  obtain ⟨inside, bare, informative⟩ := ofReturnType?_eq_some_iff.mp found
  obtain ⟨foreign, telling, full⟩ := foreign_of_isInformative informative
  refine ⟨inside.isPart, ofReturnType?_eq_some_iff.mpr ⟨.refl, bare, informative⟩, ?_⟩
  have wrappers : ∀ name ∈ unmarkedWrappers, isErasedWrapper name = true := by
    decide
  constructor
  · rintro stripped ⟨-, known⟩
    have wrapper := wrappers answer.name known
    rw [stripped.unwrapped] at wrapper
    contradiction
  · intro other
    refine ⟨?_, bare.2, full, foreign, telling⟩
    rw [← Bool.not_eq_true]
    intro wrapper
    have alone := arguments_of_isBare bare wrapper (single answer inside.isPart wrapper)
    rcases isEmptyResult_of_isErasedWrapper wrapper with empty | known
    · rw [full alone] at empty
      contradiction
    · exact other ⟨alone, known⟩

/-- A task that answers with one of several results. -/
def userTask : SourceType :=
  .generic "Task" [.generic "Results" [.reference "NotFound", .generic "Ok" [.reference "User"]]]

/-- The answer of the task is what its successful result carries. -/
theorem userTask_gives_user :
    let answer := SourceType.reference "User"
    ofReturnType? userTask = some answer ∧ answer.IsPart userTask ∧
      ofReturnType? answer = some answer ∧ IsStripped answer := by
  have found : ofReturnType? userTask = some (.reference "User") := by
    rfl
  have single : ∀ part : SourceType, part.IsPart userTask → isErasedWrapper part.name = true →
      part.arguments.length ≤ 1 := by
    simp only [userTask, SourceType.forall_isPart_generic, List.forall_mem_cons,
      SourceType.forall_isPart_reference, List.not_mem_nil, false_imp_iff, implies_true,
      and_true]
    decide
  obtain ⟨part, again, stripped⟩ := answer_stripped_iff single found
  exact ⟨found, part, again, stripped.mpr (by decide)⟩

/-- A task that only says that something was created gives that wrapper for an answer. -/
theorem createdTask_gives_wrapper :
    let answer := SourceType.reference "Created"
    ofReturnType? (.generic "Task" [answer]) = some answer ∧ ¬IsStripped answer := by
  refine ⟨by rfl, fun stripped => ?_⟩
  have wrapper := stripped.unwrapped
  revert wrapper
  decide

end Response

end TypedClient
