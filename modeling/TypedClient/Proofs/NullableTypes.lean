/-
This file shows that null is allowed once at most in the text of a mapped type: a type is one
member, or one member and null, however many of the wrappers around it allow null, and array
brackets stand behind no union that is not in parentheses.
-/

import Mathlib.Logic.Relation
import TypedClient.Proofs.MappedTypes
import TypedClient.Proofs.TypeTexts

namespace TypedClient

open Text Brackets

namespace Brackets

variable {cs : List Char}

/-- A character that stands in brackets has a closing bracket behind it. -/
theorem Nested.closes_behind {separator : Char} (plain : opens separator = false)
    (unclosed : closes separator = false) (nested : Nested (· ≠ separator) cs)
    {front behind : List Char} (same : cs = front ++ separator :: behind) :
    ∃ c ∈ behind, closes c = true := by
  -- The condition has to be a variable for the induction: within brackets it is another one.
  generalize means : (fun c => c ≠ separator) = outside at nested
  induction nested generalizing front with
  | nil => simp at same
  | @plain _ c rest _ _ allowed _ inductionHypothesis =>
      cases front with
      | nil =>
          obtain ⟨rfl, -⟩ := List.cons.inj same
          subst means
          exact absurd rfl allowed
      | cons d front => exact inductionHypothesis (List.cons.inj same).2 means
  | @pair _ opening closing inside rest partner _ _ _ after =>
      obtain ⟨opened, -, closed⟩ := opens_of_partners partner
      cases front with
      | nil =>
          obtain ⟨rfl, -⟩ := List.cons.inj same
          rw [plain] at opened
          contradiction
      | cons d front =>
          rcases List.append_eq_append_iff.mp (List.cons.inj same).2 with
            ⟨between, -, tail⟩ | ⟨between, -, tail⟩
          · cases between with
            | nil =>
                obtain ⟨rfl, -⟩ := List.cons.inj tail
                rw [unclosed] at closed
                contradiction
            | cons e between => exact after (List.cons.inj tail).2 means
          · cases between with
            | nil =>
                obtain ⟨rfl, -⟩ := List.cons.inj tail
                rw [unclosed] at closed
                contradiction
            | cons e between =>
                obtain ⟨-, rfl⟩ := List.cons.inj tail
                exact ⟨closing, by simp, closed⟩

/-- Behind a type nothing stands, or a comma or a closing bracket. -/
def EndsType (behind : List Char) : Prop :=
  ∀ c ∈ behind.head?, c = ',' ∨ closes c = true

/-- Every bar is that of `| null`, and the type ends behind it. -/
def BarsAddNull (cs : List Char) : Prop :=
  ∀ front behind, cs = front ++ '|' :: behind →
    ∃ rest, behind = " null".toList ++ rest ∧ EndsType rest

/-- Array brackets stand directly behind no member of a union: between a bar and array brackets the
union has been closed by a bracket, or a comma has ended the type. -/
def UnionsEnclosed (cs : List Char) : Prop :=
  ∀ front member behind, cs = front ++ '|' :: (member ++ '[' :: ']' :: behind) →
    ¬Nested (· ≠ ',') member

/-- A nested text begins with no closing bracket, and with what is allowed outside if it begins with
no bracket. -/
theorem Nested.head {outside : Char → Prop} (nested : Nested outside cs) :
    ∀ c ∈ cs.head?, closes c = false ∧ (opens c = true ∨ outside c) := by
  intro c first
  cases nested with
  | nil => simp at first
  | plain _ unclosed allowed _ =>
      obtain rfl := Option.some.inj first
      exact ⟨unclosed, .inr allowed⟩
  | pair partner _ _ =>
      obtain rfl := Option.some.inj first
      have all : ∀ pair ∈ partners, closes pair.1 = false := by decide
      exact ⟨all _ partner, .inl (opens_of_partners partner).1⟩

/-- What stands behind characters that open nothing is nested as the whole is. -/
theorem Nested.behind {outside : Char → Prop} {front : List Char}
    (unopened : ∀ c ∈ front, opens c = false) (nested : Nested outside (front ++ cs)) :
    Nested outside cs := by
  induction front with
  | nil => exact nested
  | cons c front inductionHypothesis =>
      obtain ⟨here, later⟩ := List.forall_mem_cons.mp unopened
      rw [List.cons_append] at nested
      generalize means : c :: (front ++ cs) = whole at nested
      cases nested with
      | nil => contradiction
      | plain _ _ _ behind =>
          obtain ⟨-, rfl⟩ := List.cons.inj means
          exact inductionHypothesis later behind
      | pair partner _ _ =>
          obtain ⟨rfl, -⟩ := List.cons.inj means
          rw [(opens_of_partners partner).1] at here
          contradiction

theorem plain_null : ∀ c ∈ " null".toList, opens c = false ∧ closes c = false := by
  simp [opens, closes]

/-- Where each bar only adds null, array brackets stand behind no bare union. -/
theorem BarsAddNull.unionsEnclosed (bars : BarsAddNull cs) : UnionsEnclosed cs := by
  intro front member behind same nested
  have notEnded : ¬EndsType ('[' :: ']' :: behind) := by
    intro ends
    have first := ends '[' rfl
    revert first
    decide
  obtain ⟨rest, split, ends⟩ := bars front (member ++ '[' :: ']' :: behind) same
  rcases List.append_eq_append_iff.mp split with ⟨between, null, brackets⟩ | ⟨between, rfl, rfl⟩
  · -- The brackets stand at the end of the word for null, or in the middle of it.
    cases between with
    | nil => exact notEnded (brackets ▸ ends)
    | cons c between =>
        obtain ⟨rfl, -⟩ := List.cons.inj brackets
        have absent : '[' ∉ " null".toList := by decide
        rw [null] at absent
        simp at absent
  · -- The member ends with the word for null, or goes on with what ends the type.
    cases between with
    | nil => exact notEnded ends
    | cons c between =>
        have nestedRest := nested.behind fun d member => (plain_null d member).1
        obtain ⟨unclosed, allowed⟩ := nestedRest.head c rfl
        rcases ends c rfl with rfl | closed
        · simp [opens] at allowed
        · rw [closed] at unclosed
          contradiction

namespace BarsAddNull

variable {behind : List Char}

theorem of_notMem (absent : '|' ∉ cs) : BarsAddNull cs := by
  rintro front behind rfl
  exact absurd (by simp) absent

/-- Texts follow each other if no bar of the first one stands outside of its brackets, or the second
one ends a type. -/
theorem append (bars : BarsAddNull cs) (after : BarsAddNull behind)
    (ended : Nested (· ≠ '|') cs ∨ EndsType behind) : BarsAddNull (cs ++ behind) := by
  intro front following same
  rcases List.append_eq_append_iff.mp same with ⟨between, rfl, inBehind⟩ | ⟨between, inFirst, rest⟩
  · exact after between following inBehind
  · cases between with
    | nil => exact after [] following (by simpa using rest.symm)
    | cons c between =>
        obtain ⟨rfl, tail⟩ := List.cons.inj rest
        obtain ⟨rest, null, ends⟩ := bars front between inFirst
        refine ⟨rest ++ behind, by rw [tail, null]; simp, ?_⟩
        cases rest with
        | cons d rest => exact ends
        | nil =>
            rcases ended with nested | closed
            · obtain ⟨d, member, closing⟩ := nested.closes_behind (by decide) (by decide) inFirst
              rw [null, List.append_nil] at member
              rw [(plain_null d member).2] at closing
              contradiction
            · exact closed

/-- Another character in front changes nothing. -/
theorem cons (bars : BarsAddNull cs) {c : Char} (other : c ≠ '|') : BarsAddNull (c :: cs) := by
  intro front following same
  cases front with
  | nil => exact absurd (List.cons.inj same).1 other
  | cons d front => exact bars front following (List.cons.inj same).2

/-- The mark of null has one bar, and nothing stands behind it. -/
theorem orNull : BarsAddNull " | null".toList := by
  have mark : BarsAddNull ('|' :: " null".toList) := by
    intro front following same
    cases front with
    | nil =>
        refine ⟨[], ?_, by simp [EndsType]⟩
        rw [List.append_nil]
        exact (List.cons.inj same).2.symm
    | cons c front =>
        have absent : '|' ∉ " null".toList := by simp
        rw [(List.cons.inj same).2] at absent
        simp at absent
  exact mark.cons (by decide)

end BarsAddNull

end Brackets

namespace ClientType

/-- A nestable type in whose text each bar only adds null. -/
structure AddsNull (type : ClientType) : Prop extends Nestable type where
  bars : BarsAddNull type.text.toList

namespace AddsNull

variable {type other : ClientType} {types : List ClientType}

theorem of_identifier (legal : IsIdentifier type.text.toList) : AddsNull type :=
  ⟨.of_identifier legal, .of_notMem legal.2⟩

/-- Which bars add null depends only on the text. -/
theorem congr (adds : AddsNull type) (same : other.text = type.text) : AddsNull other :=
  ⟨adds.toNestable.congr same, same ▸ adds.bars⟩

/-- In a list that a bracket closes each bar only adds null if it does so in the members. -/
theorem bars_intercalate (adds : ∀ type ∈ types, AddsNull type) {closing : Char}
    (closed : closes closing = true) :
    BarsAddNull ([',', ' '].intercalate (types.map fun type => type.text.toList) ++ [closing]) := by
  have last : EndsType [closing] := by simp [EndsType, closed]
  induction types with
  | nil =>
      apply BarsAddNull.of_notMem
      rintro bar
      obtain rfl := List.mem_singleton.mp bar
      contradiction
  | cons first rest inductionHypothesis =>
      obtain ⟨here, later⟩ := List.forall_mem_cons.mp adds
      have behind := inductionHypothesis later
      cases rest with
      | nil =>
          simp only [List.map_nil, List.intercalate_nil, List.nil_append] at behind
          simpa using here.bars.append behind (.inr last)
      | cons second rest =>
          have comma (behind : List Char) : EndsType (',' :: behind) := by simp [EndsType]
          rw [List.map_cons, List.map_cons, List.intercalate_cons_cons, List.append_assoc,
            List.append_assoc]
          apply here.bars.append _ (.inr (comma _))
          exact (behind.cons (by decide)).cons (by decide)

/-- A generic application to types that each only add null does so too. -/
theorem application {name : String} (legal : IsIdentifier name.toList)
    (adds : ∀ type ∈ types, AddsNull type) : AddsNull (.application name types) := by
  refine ⟨.application legal fun type member => (adds type member).toNestable, ?_⟩
  rw [toList_text_application]
  have inside := bars_intercalate adds (show closes '>' = true by decide)
  have front : BarsAddNull name.toList := .of_notMem legal.2
  exact front.append (inside.cons (by decide)) (.inl (legal.nested (by decide)))

theorem tuple (adds : ∀ type ∈ types, AddsNull type) : AddsNull (.tuple types) := by
  refine ⟨.tuple fun type member => (adds type member).toNestable, ?_⟩
  rw [toList_text_tuple]
  exact (bars_intercalate adds (by decide)).cons (by decide)

/-- An array puts its element in parentheses where null is added, so that the brackets stand behind
a closing bracket. -/
theorem array (adds : AddsNull type) : AddsNull (.array type) := by
  refine ⟨adds.toNestable.array, ?_⟩
  rw [toList_text_array]
  have brackets : BarsAddNull ['[', ']'] := .of_notMem (by decide)
  cases union : isUnionText type.text with
  | false =>
      have bare : inParentheses type.text = type.text := by simp [inParentheses, union]
      rw [bare]
      exact adds.bars.append brackets (.inl (adds.single union))
  | true =>
      have around : (inParentheses type.text).toList ++ ['[', ']'] =
          '(' :: (type.text.toList ++ [')', '[', ']']) := by simp [inParentheses, union]
      have closing : BarsAddNull [')', '[', ']'] := brackets.cons (by decide)
      rw [around]
      apply BarsAddNull.cons _ (by decide)
      exact adds.bars.append closing (.inr (by simp [EndsType, closes]))

theorem orNull (adds : AddsNull type) (single : isUnionText type.text = false) :
    AddsNull (.orNull type) := by
  refine ⟨adds.toNestable.orNull single, ?_⟩
  rw [toList_text_orNull]
  exact adds.bars.append .orNull (.inl (adds.single single))

end AddsNull

/-- A type that is no union and in whose text each bar only adds null. -/
structure IsSingle (type : ClientType) : Prop extends AddsNull type where
  alone : isUnionText type.text = false

namespace IsSingle

variable {type other : ClientType} {types : List ClientType}

theorem of_nested (adds : AddsNull type) (nested : Nested (· ≠ '|') type.text.toList) :
    IsSingle type :=
  ⟨adds, Reference.isUnion_of_nested adds.tight nested⟩

/-- Being single depends only on the text. -/
theorem congr (single : IsSingle type) (same : other.text = type.text) : IsSingle other :=
  ⟨single.toAddsNull.congr same, same ▸ single.alone⟩

theorem of_identifier (legal : IsIdentifier type.text.toList) : IsSingle type :=
  of_nested (.of_identifier legal) (legal.nested (by decide))

theorem application {name : String} (legal : IsIdentifier name.toList)
    (adds : ∀ type ∈ types, AddsNull type) : IsSingle (.application name types) := by
  apply of_nested (.application legal adds)
  exact Nestable.nested_application legal (fun type member => (adds type member).toNestable)
    (by decide)

theorem tuple (adds : ∀ type ∈ types, AddsNull type) : IsSingle (.tuple types) :=
  of_nested (.tuple adds) (Nestable.nested_tuple fun type member => (adds type member).toNestable)

theorem array (adds : AddsNull type) : IsSingle (.array type) :=
  of_nested adds.array adds.toNestable.single_array

theorem record (adds : AddsNull type) : IsSingle (.record type) := by
  have key : AddsNull (.builtin "string") := .of_identifier (by decide)
  apply congr (application (by decide) _) (text_record type)
  exact List.forall_mem_cons.mpr ⟨key, List.forall_mem_singleton.mpr adds⟩

theorem map (keys : AddsNull type) (values : AddsNull other) : IsSingle (.map type other) := by
  apply congr (application (by decide) _) (text_map type other)
  exact List.forall_mem_cons.mpr ⟨keys, List.forall_mem_singleton.mpr values⟩

theorem set (adds : AddsNull type) : IsSingle (.set type) := by
  apply congr (application (by decide) _) (text_set type)
  exact List.forall_mem_singleton.mpr adds

theorem of_fixed {text : String} (fixed : text ∈ TypeMapping.fixedTexts) :
    IsSingle (.builtin text) := by
  have known : ∀ text ∈ TypeMapping.fixedTexts, text = "File[]" ∨ IsIdentifier text.toList := by
    decide
  rcases known text fixed with rfl | legal
  · have file : IsSingle (.builtin "File") := of_identifier (by decide)
    have single : isUnionText "File" = false := by decide
    apply congr (array file.toAddsNull)
    simp [ClientType.text, inParentheses, single]
  · exact of_identifier legal

end IsSingle

/-- A type of the client that comes from a type of the backend: no union, or null in addition to no
union where that is asked for. The types of any and of no value take no null. -/
def IsMarked (asked : Prop) (type : ClientType) : Prop :=
  ∃ own : ClientType, IsSingle own ∧
    ((type = own ∧ (asked → own.text = Builtin.anyText ∨ own.text = Builtin.voidText)) ∨
      (type = .orNull own ∧ asked ∧ own.text ≠ Builtin.anyText ∧ own.text ≠ Builtin.voidText))

namespace IsMarked

variable {asked : Prop} {type : ClientType}

theorem of_single (single : IsSingle type) (unasked : ¬asked) : IsMarked asked type :=
  ⟨type, single, .inl ⟨rfl, fun wanted => absurd wanted unasked⟩⟩

/-- Marks depend only on whether null is asked for. -/
theorem of_iff {other : Prop} (marked : IsMarked asked type) (same : asked ↔ other) :
    IsMarked other type :=
  propext same ▸ marked

/-- Null is asked for once more, and is there once. -/
theorem withNull (marked : IsMarked asked type) : IsMarked True type.withNull := by
  obtain ⟨own, single, ⟨same, takesNone⟩ | ⟨same, -, notAny, notVoid⟩⟩ := marked
  · rw [same]
    by_cases taken : own.text = Builtin.anyText ∨ own.text = Builtin.voidText
    · have kept : own.withNull = own := by simp [ClientType.withNull, taken]
      exact ⟨own, single, .inl ⟨kept, fun _ => taken⟩⟩
    · have different := not_or.mp taken
      have added : own.withNull = .orNull own := by
        simp [ClientType.withNull, different.1, different.2, single.alone]
      exact ⟨own, single, .inr ⟨added, trivial, different.1, different.2⟩⟩
  · have union : isUnionText (ClientType.orNull own).text = true := by
      rw [isUnionText, isUnion, single.unionMembers_orNull single.alone]
      rfl
    have kept : type.withNull = .orNull own := by simp [same, ClientType.withNull, union]
    exact ⟨own, single, .inr ⟨kept, trivial, notAny, notVoid⟩⟩

theorem addsNull (marked : IsMarked asked type) : AddsNull type := by
  obtain ⟨own, single, ⟨rfl, -⟩ | ⟨rfl, -⟩⟩ := marked
  · exact single.toAddsNull
  · exact single.orNull single.alone

/-- The text of a marked type has one member, or one member and null where null is asked for and the
member takes it. -/
theorem unionMembers (marked : IsMarked asked type) :
    ∃ member : String,
      (Brackets.unionMembers type.text.toList = [member.toList] ∨
        Brackets.unionMembers type.text.toList = [member.toList, "null".toList]) ∧
      (Brackets.unionMembers type.text.toList = [member.toList, "null".toList] ↔
        asked ∧ member ≠ Builtin.anyText ∧ member ≠ Builtin.voidText) := by
  obtain ⟨own, single, ⟨rfl, takesNone⟩ | ⟨rfl, wanted, notAny, notVoid⟩⟩ := marked
  · have alone : Brackets.unionMembers type.text.toList = [type.text.toList] :=
      pieces_of_nested (by decide) (single.single single.alone) single.tight
    refine ⟨type.text, .inl alone, ?_⟩
    rw [alone]
    constructor
    · simp
    · rintro ⟨wanted, notAny, notVoid⟩
      rcases takesNone wanted with any | void
      · exact absurd any notAny
      · exact absurd void notVoid
  · have both := single.unionMembers_orNull single.alone
    exact ⟨own.text, .inr both, fun _ => ⟨wanted, notAny, notVoid⟩, fun _ => both⟩

end IsMarked

end ClientType

namespace Builtin

/-- A name that wraps another type and does not occur in the client itself. -/
def IsWrapper (name : String) : Prop :=
  isErasedWrapper name = true ∨ isResultUnion name = true

instance : DecidablePred IsWrapper := fun name =>
  inferInstanceAs (Decidable (isErasedWrapper name = true ∨ isResultUnion name = true))

/-- A wrapper is no collection and has no fixed meaning. -/
theorem IsWrapper.bare {name : String} (wrapper : IsWrapper name) :
    primitive? name = none ∧ SourceType.collectionNames.contains name = false := by
  have all : ∀ name ∈ ["Nullable", "Optional", "Task", "ValueTask", "ActionResult", "Ok", "Created",
      "CreatedAtRoute", "Accepted", "AcceptedAtRoute", "Results"],
      primitive? name = none ∧ SourceType.collectionNames.contains name = false := by decide
  apply all
  rcases wrapper with erased | union
  · exact List.mem_append_left ["Results"] (List.contains_iff_mem.mp erased)
  · obtain rfl := eq_of_beq union
    decide

end Builtin

namespace SourceType

theorem isWrapper_of_carried? {type inner : SourceType} (carried : type.carried? = some inner) :
    Builtin.IsWrapper type.name := by
  unfold carried? at carried
  split at carried
  case isTrue erased => exact .inl erased
  case isFalse =>
    split at carried
    case isTrue union => exact .inr union
    case isFalse => contradiction

/-- A type allows null if it says so itself, or if a type does that wrappers around it are erased
to. -/
def AllowsNull (type : SourceType) : Prop :=
  ∃ inner, Relation.ReflTransGen (fun outer inner => carried? outer = some inner) type inner ∧
    inner.isNullable = true

theorem allowsNull_iff (type : SourceType) :
    AllowsNull type ↔
      type.isNullable = true ∨ ∃ inner, type.carried? = some inner ∧ AllowsNull inner := by
  constructor
  · rintro ⟨last, erased, marked⟩
    rcases erased.cases_head with rfl | ⟨inner, carried, further⟩
    · exact .inl marked
    · exact .inr ⟨inner, carried, last, further, marked⟩
  · rintro (marked | ⟨inner, carried, last, further, marked⟩)
    · exact ⟨type, .refl, marked⟩
    · exact ⟨last, .head carried further, marked⟩

end SourceType

namespace TypeMapping

open ClientType

variable {mapping : TypeMapping} {type : SourceType}

/-- What is made of a type with a legal name is single, unless the type is a wrapper. -/
theorem single_of_made {result : ClientType} (legal : IsIdentifier type.name.toList)
    (bare : type.carried? = none)
    (adds : ∀ argument ∈ type.arguments, AddsNull (mapping.map argument))
    (made : Made mapping type result) : IsSingle result := by
  have nothing : IsSingle (.builtin Builtin.voidText) := .of_fixed (by decide)
  have anything : IsSingle (.builtin Builtin.anyText) := .of_fixed (by decide)
  cases made with
  | builtin fixed => exact .of_fixed fixed
  | enumeration => exact .of_identifier legal
  | declared => exact .of_identifier legal
  | unknown => exact .of_identifier legal
  | emptyOutcome =>
      exact .application (by decide) (List.forall_mem_singleton.mpr nothing.toAddsNull)
  | emptyArray => exact .array anything.toAddsNull
  | array member => exact .array (adds _ member)
  | carried wrapped =>
      rw [bare] at wrapped
      contradiction
  | outcome member =>
      exact .application (by decide) (List.forall_mem_singleton.mpr (adds _ member))
  | record member => exact .record (adds _ member)
  | map keyMember valueMember => exact .map (adds _ keyMember) (adds _ valueMember)
  | set member => exact .set (adds _ member)
  | tuple _ => exact .tuple (List.forall_mem_map.mpr adds)
  | application => exact .application legal (List.forall_mem_map.mpr adds)

theorem core_of_carried {inner : SourceType} (plain : mapping.overrides = [])
    (unwrapped : ∀ name ∈ mapping.enums, ¬Builtin.IsWrapper name)
    (unmarked : type.isEnum = false)
    (collection : type.isCollection = SourceType.collectionNames.contains type.name)
    (carried : type.carried? = some inner) :
    mapping.core type (type.arguments.map mapping.map) = mapping.map inner := by
  have unchosen : mapping.override? type = none := by simp [override?, plain]
  have wrapper := SourceType.isWrapper_of_carried? carried
  obtain ⟨noPrimitive, noCollection⟩ := wrapper.bare
  have noEnumeration : mapping.enums.contains type.name = false := by
    rw [Bool.eq_false_iff, Ne, List.contains_iff_mem]
    intro member
    exact unwrapped type.name member wrapper
  obtain ⟨first, others, same⟩ := List.exists_cons_of_ne_nil
    (List.ne_nil_of_mem (SourceType.mem_of_carried? carried))
  have result : applied type (type.arguments.map mapping.map) = mapping.map inner := by
    cases erased : Builtin.isErasedWrapper type.name with
    | true =>
        obtain rfl : first = inner := by simpa [SourceType.carried?, erased, same] using carried
        simp [applied, same, erased]
    | false =>
        have union := wrapper.resolve_left (by simp [erased])
        have noOutcome : Builtin.isOutcome type.name = false := by
          rw [eq_of_beq union]
          decide
        have successful : success? type.arguments (type.arguments.map mapping.map) =
            type.carried?.map mapping.map := success?_eq erased union
        rw [carried, same] at successful
        simp_all [applied]
  have uncollected : type.isCollection = false := collection.trans noCollection
  have filled : type.arguments.isEmpty = false := by simp [same]
  have form : byForm? type (type.arguments.map mapping.map) = some (mapping.map inner) := by
    simp [byForm?, uncollected, filled, result]
  simp only [core, unchosen, noPrimitive, unmarked, noEnumeration, Bool.or_self, form,
    Bool.false_eq_true, ↓reduceIte]

/-- A type is mapped to a type that allows null once where the type allows null, as long as its
arguments are. -/
theorem isMarked_of_arguments (plain : mapping.overrides = [])
    (unwrapped : ∀ name ∈ mapping.enums, ¬Builtin.IsWrapper name)
    (written : SourceType.IsWritten IsIdentifier type)
    (arguments : ∀ argument ∈ type.arguments,
      IsMarked argument.AllowsNull (mapping.map argument)) :
    IsMarked type.AllowsNull (mapping.map type) := by
  have allows := type.allowsNull_iff
  have own : IsMarked (∃ inner, type.carried? = some inner ∧ inner.AllowsNull)
      (mapping.core type (type.arguments.map mapping.map)) := by
    cases carried : type.carried? with
    | none =>
        have single := single_of_made written.legal carried
          (fun argument member => (arguments argument member).addsNull) (made_core plain)
        exact .of_single single (by simp)
    | some inner =>
        rw [core_of_carried plain unwrapped written.unmarked written.collection carried]
        exact (arguments inner (SourceType.mem_of_carried? carried)).of_iff (by simp)
  rw [map_eq, finish]
  cases marked : type.isNullable with
  | true =>
      simp only [↓reduceIte]
      exact own.withNull.of_iff (by simp [allows, marked])
  | false =>
      simp only [Bool.false_eq_true, ↓reduceIte]
      exact own.of_iff (by simp [allows, marked])

/-- Without choices of the user, and as long as no enumeration has the name of a wrapper, the
brackets of a mapped type match, its text is one member or one member and null, the latter exactly
where the type allows null and the member takes it, and no array brackets stand behind a union that
is not in parentheses. -/
theorem null_once_map (plain : mapping.overrides = [])
    (unwrapped : ∀ name ∈ mapping.enums, ¬Builtin.IsWrapper name)
    (built : SourceType.BuiltOver (IsDotted IsIdentifier) type) :
    Nested (fun _ => True) (mapping.map type).text.toList ∧
      (∃ member : String,
        (unionMembers (mapping.map type).text.toList = [member.toList] ∨
          unionMembers (mapping.map type).text.toList = [member.toList, "null".toList]) ∧
        (unionMembers (mapping.map type).text.toList = [member.toList, "null".toList] ↔
          type.AllowsNull ∧ member ≠ Builtin.anyText ∧ member ≠ Builtin.voidText)) ∧
      UnionsEnclosed (mapping.map type).text.toList := by
  have step (type : SourceType) (written : SourceType.IsWritten IsIdentifier type)
      (arguments : ∀ argument ∈ type.arguments,
        IsMarked argument.AllowsNull (mapping.map argument)) :
      IsMarked type.AllowsNull (mapping.map type) :=
    isMarked_of_arguments plain unwrapped written arguments
  have marked : IsMarked type.AllowsNull (mapping.map type) :=
    built.of_arguments (fun _ legal => legal.1) (by decide) (by decide) step
  have adds := marked.addsNull
  exact ⟨adds.nested.anywhere, marked.unionMembers, adds.bars.unionsEnclosed⟩

/-- A mapping for a client that declares orders and knows that statuses are an enumeration. -/
def orderMapping : TypeMapping :=
  { enums := ["Status"], declared := ["Order"] }

/-- The answer of a task: perhaps a list of orders, any of which may be missing. -/
def lateOrders : SourceType :=
  .generic "Task" [.nullable (.generic "ActionResult"
    [.nullable (.array (.nullable (.reference "Shop.Order")))])]

/-- Null is asked for twice around the list of orders, and is allowed once. -/
theorem null_once_lateOrders :
    orderMapping.overrides = [] ∧
      (∀ name ∈ orderMapping.enums, ¬Builtin.IsWrapper name) ∧
      SourceType.BuiltOver (IsDotted IsIdentifier) lateOrders ∧
      Nested (fun _ => True) "(Order | null)[] | null".toList ∧
      (∃ member : String,
        (unionMembers "(Order | null)[] | null".toList = [member.toList] ∨
          unionMembers "(Order | null)[] | null".toList = [member.toList, "null".toList]) ∧
        (unionMembers "(Order | null)[] | null".toList = [member.toList, "null".toList] ↔
          lateOrders.AllowsNull ∧ member ≠ Builtin.anyText ∧ member ≠ Builtin.voidText)) ∧
      UnionsEnclosed "(Order | null)[] | null".toList := by
  have plain : orderMapping.overrides = [] := rfl
  have unwrapped : ∀ name ∈ orderMapping.enums, ¬Builtin.IsWrapper name := by decide
  have single {name : String} (legal : IsIdentifier name.toList) : IsDotted IsIdentifier name :=
    ⟨[name.toList], by simp, by simpa using legal, by simp⟩
  have order : IsDotted IsIdentifier "Shop.Order" :=
    ⟨["Shop".toList, "Order".toList], by decide, by decide, by decide⟩
  have orders : SourceType.BuiltOver (IsDotted IsIdentifier)
      (.nullable (.array (.nullable (.reference "Shop.Order")))) :=
    .nullable (.array (.nullable (.reference order)))
  have answer := SourceType.BuiltOver.generic
    (single (show IsIdentifier "ActionResult".toList by decide))
    (List.forall_mem_singleton.mpr orders)
  have built : SourceType.BuiltOver (IsDotted IsIdentifier) lateOrders :=
    .generic (single (by decide)) (List.forall_mem_singleton.mpr (.nullable answer))
  have text : (orderMapping.map lateOrders).text = "(Order | null)[] | null" := by decide
  have found := null_once_map plain unwrapped built
  rw [text] at found
  exact ⟨plain, unwrapped, built, found⟩

end TypeMapping

end TypedClient
