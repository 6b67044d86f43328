/-
This file shows that the display of a type says all about it: a type that is built from qualified
names in any nesting is read back from its display, and goes to the client the same either way.
-/

import TypedClient.Client.Mapping
import TypedClient.Proofs.NestedText

namespace TypedClient

open Text

namespace Text

/-- The last space follows a comma. -/
def Spaced (cs : List Char) : Prop :=
  ∀ front behind, cs = front ++ ' ' :: behind → ' ' ∉ behind → ∃ before, front = before ++ [',']

namespace Spaced

theorem of_notMem {cs : List Char} (absent : ' ' ∉ cs) : Spaced cs := by
  rintro front behind rfl -
  exact absurd (by simp) absent

theorem separator : Spaced [',', ' '] := by
  intro front behind same _
  cases front with
  | nil => simp at same
  | cons c rest =>
      obtain ⟨rfl, after⟩ := List.cons.inj same
      cases rest with
      | nil => exact ⟨[], rfl⟩
      | cons d rest => simp at after

/-- Spaced texts stand behind each other. -/
theorem append {first second : List Char} (start : Spaced first) (stop : Spaced second) :
    Spaced (first ++ second) := by
  intro front behind same last
  rcases List.append_eq_append_iff.mp same with ⟨between, rfl, inSecond⟩ | ⟨between, rfl, inFirst⟩
  · obtain ⟨before, rfl⟩ := stop between behind inSecond last
    exact ⟨first ++ before, by simp⟩
  · cases between with
    | nil =>
        obtain ⟨before, empty⟩ := stop [] behind (by simpa using inFirst.symm) last
        exact absurd empty.symm (by simp)
    | cons c between =>
        obtain ⟨rfl, rfl⟩ := List.cons.inj inFirst
        exact start front between rfl fun member => last (List.mem_append_left _ member)

theorem prepend {cs : List Char} (spaced : Spaced cs) (some : ' ' ∈ cs) (front : List Char) :
    Spaced (front ++ cs) := by
  intro start behind same last
  rcases List.append_eq_append_iff.mp same with ⟨between, rfl, inside⟩ | ⟨between, rfl, inFront⟩
  · obtain ⟨before, rfl⟩ := spaced between behind inside last
    exact ⟨front ++ before, by simp⟩
  · cases between with
    | nil =>
        obtain ⟨before, empty⟩ := spaced [] behind (by simpa using inFront.symm) last
        exact absurd empty.symm (by simp)
    | cons c between =>
        obtain ⟨rfl, rfl⟩ := List.cons.inj inFront
        exact absurd (List.mem_append_right _ some) last

theorem intercalate {texts : List (List Char)} (spaced : ∀ text ∈ texts.getLast?, Spaced text) :
    Spaced ([',', ' '].intercalate texts) := by
  induction texts with
  | nil => exact of_notMem (by simp)
  | cons first rest inductionHypothesis =>
      cases rest with
      | nil => simpa using spaced
      | cons second rest =>
          have later := inductionHypothesis (by simpa using spaced)
          rw [List.intercalate_cons_cons, List.append_assoc]
          exact (separator.append later).prepend (by simp) first

theorem enclosed {opening closing : Char} (plain : opening ≠ ' ' ∧ closing ≠ ' ')
    {texts : List (List Char)} (spaced : ∀ text ∈ texts.getLast?, Spaced text) :
    Spaced (opening :: ([',', ' '].intercalate texts ++ [closing])) := by
  have start : Spaced [opening] := .of_notMem (by simp [plain.1.symm])
  have stop : Spaced [closing] := .of_notMem (by simp [plain.2.symm])
  exact start.append ((intercalate spaced).append stop)

end Spaced

end Text

/-- A word of characters that have no meaning of their own in the text of a type. -/
def IsWord (word : List Char) : Prop :=
  word ≠ [] ∧ ∀ c ∈ word, isBlank c = false ∧ Brackets.opens c = false ∧
    Brackets.closes c = false ∧ c ∉ ['.', ',', '?', ':']

instance : DecidablePred IsWord :=
  fun word => @instDecidableAnd _ _ inferInstance (List.decidableBAll _ word)

/-- A name whose parts between points are of a given kind. -/
def IsDotted (isPart : List Char → Prop) (name : String) : Prop :=
  ∃ parts, parts ≠ [] ∧ (∀ part ∈ parts, isPart part) ∧ name.toList = ['.'].intercalate parts

theorem IsDotted.mono {isPart wider : List Char → Prop} {name : String}
    (dotted : IsDotted isPart name) (wide : ∀ part, isPart part → wider part) :
    IsDotted wider name := by
  obtain ⟨parts, some, known, same⟩ := dotted
  exact ⟨parts, some, fun part member => wide part (known part member), same⟩

namespace IsDotted

variable {name : String}

theorem unmarked (dotted : IsDotted IsWord name) :
    ∀ c ∈ name.toList, isBlank c = false ∧ Brackets.opens c = false ∧
      Brackets.closes c = false ∧ c ∉ [',', '?', ':'] := by
  obtain ⟨parts, -, words, same⟩ := dotted
  rw [same]
  refine forall_mem_intercalate
    (by simp [isBlank, Brackets.opens, Brackets.closes]) fun part member c inside => ?_
  obtain ⟨unblank, unopened, unclosed, plain⟩ := (words part member).2 c inside
  exact ⟨unblank, unopened, unclosed, fun marked => plain (List.mem_cons_of_mem _ marked)⟩

theorem toList_ne_nil (dotted : IsDotted IsWord name) : name.toList ≠ [] := by
  obtain ⟨parts, some, words, same⟩ := dotted
  obtain ⟨part, others, rfl⟩ := List.exists_cons_of_ne_nil some
  obtain ⟨c, inside⟩ := List.exists_mem_of_ne_nil _ (words part List.mem_cons_self).1
  rw [same]
  exact List.ne_nil_of_mem (mem_intercalate List.mem_cons_self inside)

theorem tight (dotted : IsDotted IsWord name) : Tight name.toList :=
  .of_unblank dotted.toList_ne_nil fun c member => (dotted.unmarked c member).1

theorem notMem_of_bracket (dotted : IsDotted IsWord name) {c : Char}
    (bracket : Brackets.opens c = true ∨ Brackets.closes c = true) : c ∉ name.toList := by
  intro member
  obtain ⟨-, unopened, unclosed, -⟩ := dotted.unmarked c member
  simp [unopened, unclosed] at bracket

end IsDotted

theorem Text.Spaced.of_dotted {name : String} (dotted : IsDotted IsWord name) :
    Spaced name.toList :=
  .of_notMem fun member => absurd (dotted.unmarked ' ' member).1 (by decide)

namespace SourceType

/-- The types that the five ways to write a type build from names of a given kind. -/
inductive BuiltOver (isName : String → Prop) : SourceType → Prop
  | reference {name : String} (known : isName name) : BuiltOver isName (reference name)
  | generic {name : String} {arguments : List SourceType} (known : isName name)
      (built : ∀ argument ∈ arguments, BuiltOver isName argument) :
      BuiltOver isName (generic name arguments)
  | array {element : SourceType} (built : BuiltOver isName element) :
      BuiltOver isName (array element)
  | tuple {elements : List SourceType} (built : ∀ element ∈ elements, BuiltOver isName element) :
      BuiltOver isName (tuple elements)
  | nullable {type : SourceType} (built : BuiltOver isName type) : BuiltOver isName type.nullable

/-- A text without colons has no global qualifier. -/
theorem dropGlobal_of_notMem {cs : List Char} (absent : ':' ∉ cs) : dropGlobal cs = cs := by
  rw [dropGlobal]
  cases cs.length with
  | zero => rfl
  | succ steps =>
      have unqualified : dropStart? "global::".toList cs = none := by
        refine Option.eq_none_iff_forall_not_mem.mpr fun behind member => ?_
        rw [dropStart?_eq_some.mp member] at absent
        exact absent (List.mem_append_left _ (by decide))
      rw [dropGlobal.go, unqualified]

theorem dropGlobal_of_dotted {name : String} (dotted : IsDotted IsWord name) :
    dropGlobal (trim name.toList) = name.toList := by
  have absent : ':' ∉ name.toList := fun member => (dotted.unmarked _ member).2.2.2 (by decide)
  rw [dotted.tight.trim, dropGlobal_of_notMem absent]

theorem reference_display {name : String} (dotted : IsDotted IsWord name) :
    (reference name).display = name := by
  simp [reference, dropGlobal_of_dotted dotted]

theorem reference_name {isPart : List Char → Prop} {name : String} (dotted : IsDotted isPart name)
    (words : ∀ part, isPart part → IsWord part) : isPart (reference name).name.toList := by
  have full := dropGlobal_of_dotted (dotted.mono words)
  obtain ⟨parts, some, known, same⟩ := dotted
  have nested : ∀ part ∈ parts, Brackets.Nested (· ≠ '.') part := by
    refine fun part member => .of_plain fun c inside => ?_
    obtain ⟨-, unopened, unclosed, unmarked⟩ := (words part (known part member)).2 c inside
    exact ⟨unopened, unclosed, fun point => unmarked (by simp [point])⟩
  rw [same] at full
  have own : (reference name).name.toList = (Brackets.qualified (['.'].intercalate parts)).2 := by
    simp [reference, same, full]
  rw [own]
  exact known _ (Brackets.qualified_mem some nested)

/-- What a display of a type is like: tight, without colons and with its commas in brackets. -/
structure IsDisplay (cs : List Char) : Prop extends Brackets.IsArgument cs where
  uncolored : ':' ∉ cs

namespace IsDisplay

variable {cs : List Char}

theorem of_dotted {name : String} (dotted : IsDotted IsWord name) : IsDisplay name.toList where
  tight := dotted.tight
  nested := .of_plain fun c member => by
    obtain ⟨-, unopened, unclosed, unmarked⟩ := dotted.unmarked c member
    exact ⟨unopened, unclosed, fun comma => unmarked (by simp [comma])⟩
  uncolored := fun member => (dotted.unmarked ':' member).2.2.2 (by decide)

theorem append (first : IsDisplay cs) {behind : List Char} (second : IsDisplay behind) :
    IsDisplay (cs ++ behind) where
  tight := first.tight.enclose second.tight []
  nested := first.nested.append second.nested
  uncolored := by simp [first.uncolored, second.uncolored]

theorem questionMark : IsDisplay ['?'] where
  tight := .singleton (by decide)
  nested := .of_plain (by simp [Brackets.opens, Brackets.closes])
  uncolored := by decide

/-- Displays in brackets, with commas between them, make a display. -/
theorem enclosed {opening closing : Char} (partner : (opening, closing) ∈ Brackets.partners)
    {texts : List (List Char)} (displays : ∀ text ∈ texts, IsDisplay text) :
    IsDisplay (opening :: ([',', ' '].intercalate texts ++ [closing])) := by
  have bracket : opening ≠ ':' ∧ closing ≠ ':' := by
    have all : ∀ pair ∈ Brackets.partners, pair.1 ≠ ':' ∧ pair.2 ≠ ':' := by decide
    exact all (opening, closing) partner
  have uncolored : ∀ c ∈ [',', ' '].intercalate texts, c ≠ ':' :=
    forall_mem_intercalate (by simp) fun text member c inside same =>
      (displays text member).uncolored (same ▸ inside)
  refine ⟨⟨?tight, ?nested⟩, ?uncolored⟩
  case tight => exact Brackets.tight_of_partners partner _
  case nested => exact .enclosed partner (Brackets.IsArgument.nested_intercalate fun text member =>
    (displays text member).toIsArgument)
  case uncolored =>
    intro member
    simp only [List.mem_cons, List.mem_append, List.not_mem_nil, or_false] at member
    rcases member with same | inside | same
    · exact bracket.1 same.symm
    · exact uncolored ':' inside rfl
    · exact bracket.2 same.symm

/-- Square brackets with commas may stand behind a display. -/
theorem brackets (commas : Nat) : IsDisplay ('[' :: (List.replicate commas ',' ++ [']'])) where
  tight := Brackets.tight_of_partners (by decide) _
  nested := by
    have commas : Brackets.Nested (· ≠ ']') (List.replicate commas ',') :=
      .of_plain (by simp [Brackets.opens, Brackets.closes])
    exact .enclosed (by decide) commas
  uncolored := by simp

/-- A display is what the reader looks at: nothing is trimmed, cut off or dropped. -/
theorem normalized (display : IsDisplay cs) :
    dropGlobal (Brackets.balancedStart (trim cs)) = cs := by
  rw [display.tight.trim, Brackets.balancedStart_of_nested display.nested,
    dropGlobal_of_notMem display.uncolored]

theorem isEmpty_eq_false (display : IsDisplay cs) : cs.isEmpty = false := by
  simpa using display.tight.some

end IsDisplay

/-- No name stands behind the type of a tuple element whose last space follows a comma. -/
theorem elementType_of_spaced {cs : List Char} (spaced : Spaced cs) : elementType cs = cs := by
  rw [elementType]
  split
  case h_2 => rfl
  case h_1 type name cut =>
    obtain ⟨same, last⟩ := cutLast?_eq_some.mp cut
    obtain ⟨before, rfl⟩ := spaced type name same last
    have comma : endsWith [','] (before ++ [',']) = true := by
      rw [endsWith, dropEnd?_eq_some.mpr rfl]
      rfl
    simp [comma]

section Reading

variable {cs : List Char} {texts : List (List Char)}

/-- A question mark behind a display is read as null. -/
theorem ofDisplayWithin_nullable (display : IsDisplay cs) (depth : Nat) :
    ofDisplayWithin (depth + 1) (cs ++ ['?']) = (ofDisplayWithin depth cs).nullable := by
  have marked : IsDisplay (cs ++ ['?']) := display.append .questionMark
  simp only [ofDisplayWithin, marked.normalized, marked.isEmpty_eq_false, dropEnd?_eq_some.mpr rfl]
  rfl

/-- Square brackets with commas behind a display are read as an array. -/
theorem ofDisplayWithin_array (display : IsDisplay cs) (depth commas : Nat) :
    ofDisplayWithin (depth + 1) (cs ++ '[' :: (List.replicate commas ',' ++ [']'])) =
      array (ofDisplayWithin depth cs) := by
  have marked := display.append (.brackets commas)
  have unmarked : dropEnd? ['?'] (cs ++ '[' :: (List.replicate commas ',' ++ [']'])) = none :=
    dropEnd?_eq_none rfl (by simp [List.getLast?_append, getLast?_enclosed])
  have element : arrayElement? (cs ++ '[' :: (List.replicate commas ',' ++ [']'])) = some cs := by
    have inside : dropEnd? [']'] (cs ++ '[' :: (List.replicate commas ',' ++ [']'])) =
        some (cs ++ '[' :: List.replicate commas ',') := dropEnd?_eq_some.mpr (by simp)
    have cut : cutLast? '[' (cs ++ '[' :: List.replicate commas ',') =
        some (cs, List.replicate commas ',') := cutLast?_eq_some.mpr ⟨rfl, by simp⟩
    have rank : (List.replicate commas ',').all (fun c => c == ',' || isBlank c) = true :=
      List.all_eq_true.mpr fun c member => by rw [List.eq_of_mem_replicate member]; rfl
    rw [arrayElement?, inside, Option.bind_eq_bind, Option.bind_some, cut]
    exact if_pos rank
  simp only [ofDisplayWithin, marked.normalized, marked.isEmpty_eq_false, unmarked, element]
  rfl

/-- Displays between parentheses are read as the elements of a tuple. -/
theorem ofDisplayWithin_tuple (displays : ∀ text ∈ texts, IsDisplay text) (depth : Nat) :
    ofDisplayWithin (depth + 1) ('(' :: ([',', ' '].intercalate texts ++ [')'])) =
      tuple ((texts.map elementType).map (ofDisplayWithin depth)) := by
  have marked : IsDisplay ('(' :: ([',', ' '].intercalate texts ++ [')'])) :=
    .enclosed (by decide) displays
  generalize joined : [',', ' '].intercalate texts = inside at marked
  have last := getLast?_enclosed '(' ')' inside
  have unmarked : dropEnd? ['?'] ('(' :: (inside ++ [')'])) = none :=
    dropEnd?_eq_none rfl (by simp [last])
  have noArray : arrayElement? ('(' :: (inside ++ [')'])) = none := by
    rw [arrayElement?, dropEnd?_eq_none rfl (by simp [last])]
    rfl
  have between : tupleInside? ('(' :: (inside ++ [')'])) = some inside := by
    simp [tupleInside?, dropStart?, dropEnd?_eq_some.mpr]
  have elements : Brackets.arguments inside = texts := by
    rw [← joined]
    exact Brackets.IsArgument.arguments_intercalate fun text member =>
      (displays text member).toIsArgument
  simp only [ofDisplayWithin, marked.normalized, marked.isEmpty_eq_false, unmarked, noArray,
    between, elements, List.map_map]
  rfl

theorem tupleInside?_of_dotted {name : String} (dotted : IsDotted IsWord name)
    (behind : List Char) : tupleInside? (name.toList ++ behind) = none := by
  obtain ⟨c, rest, same⟩ := List.exists_cons_of_ne_nil dotted.toList_ne_nil
  have other : '(' ≠ c := fun opening =>
    dotted.notMem_of_bracket (c := '(') (by decide) (by rw [same, opening]; simp)
  simp [tupleInside?, same, dropStart?, other]

/-- A dotted name with displays between angle brackets is read as a generic type. -/
theorem ofDisplayWithin_generic {name : String} (dotted : IsDotted IsWord name)
    (displays : ∀ text ∈ texts, IsDisplay text) (depth : Nat) :
    ofDisplayWithin (depth + 1) (name.toList ++ '<' :: ([',', ' '].intercalate texts ++ ['>'])) =
      generic name (texts.map (ofDisplayWithin depth)) := by
  have angles : IsDisplay ('<' :: ([',', ' '].intercalate texts ++ ['>'])) :=
    .enclosed (by decide) displays
  have marked := (IsDisplay.of_dotted dotted).append angles
  have each : ∀ text ∈ texts, Brackets.IsArgument text := fun text member =>
    (displays text member).toIsArgument
  have nested := Brackets.IsArgument.nested_intercalate each
  have arguments := Brackets.IsArgument.arguments_intercalate each
  generalize [',', ' '].intercalate texts = inside at marked nested arguments ⊢
  have last : (name.toList ++ '<' :: (inside ++ ['>'])).getLast? = some '>' := by
    rw [List.getLast?_append, getLast?_enclosed]
    rfl
  have unmarked : dropEnd? ['?'] (name.toList ++ '<' :: (inside ++ ['>'])) = none :=
    dropEnd?_eq_none rfl (by simp [last])
  have noArray : arrayElement? (name.toList ++ '<' :: (inside ++ ['>'])) = none := by
    rw [arrayElement?, dropEnd?_eq_none rfl (by simp [last])]
    rfl
  have noTuple := tupleInside?_of_dotted dotted ('<' :: (inside ++ ['>']))
  have parts := Brackets.application?_eq dotted.tight (dotted.notMem_of_bracket (by decide)) nested
  simp only [ofDisplayWithin, marked.normalized, marked.isEmpty_eq_false, unmarked, noArray,
    noTuple, parts, arguments]
  simp

/-- A dotted name is read as a reference. -/
theorem ofDisplayWithin_reference {name : String} (dotted : IsDotted IsWord name) (depth : Nat) :
    ofDisplayWithin (depth + 1) name.toList = reference name := by
  have display := IsDisplay.of_dotted dotted
  have unmarked : dropEnd? ['?'] name.toList = none := dropEnd?_eq_none rfl fun last =>
    (dotted.unmarked _ (List.mem_of_getLast? last)).2.2.2 (by decide)
  have noArray : arrayElement? name.toList = none := by
    have unclosed : dropEnd? [']'] name.toList = none := dropEnd?_eq_none rfl fun last =>
      dotted.notMem_of_bracket (by decide) (List.mem_of_getLast? last)
    rw [arrayElement?, unclosed]
    rfl
  have noTuple := tupleInside?_of_dotted dotted []
  rw [List.append_nil] at noTuple
  have noArguments := Brackets.application?_eq_none dotted.tight
    (dotted.notMem_of_bracket (by decide))
  simp only [ofDisplayWithin, display.normalized, display.isEmpty_eq_false, unmarked, noArray,
    noTuple, noArguments]
  simp

end Reading

section Writing

/-- The characters of joined displays. -/
theorem toList_displayList (types : List SourceType) :
    (displayList types).toList =
      [',', ' '].intercalate (types.map fun type => type.display.toList) := by
  rw [displayList, String.toList_intercalate, List.map_map]
  rfl

theorem toList_display_generic {name : String} (dotted : IsDotted IsWord name)
    (arguments : List SourceType) :
    (generic name arguments).display.toList = name.toList ++
      '<' :: ([',', ' '].intercalate (arguments.map fun type => type.display.toList) ++ ['>']) := by
  simp [generic, reference_display dotted, toList_displayList]

theorem toList_display_array (element : SourceType) :
    (array element).display.toList = element.display.toList ++ ['[', ']'] := by
  simp [array]

theorem toList_display_tuple (elements : List SourceType) :
    (tuple elements).display.toList =
      '(' :: ([',', ' '].intercalate (elements.map fun type => type.display.toList) ++ [')']) := by
  simp [tuple, toList_displayList]

theorem nullable_of_isNullable {type : SourceType} (already : type.isNullable = true) :
    type.nullable = type := by
  simp [nullable, already]

theorem toList_display_nullable {type : SourceType} (strict : type.isNullable = false) :
    type.nullable.display.toList = type.display.toList ++ ['?'] := by
  simp [nullable, strict]

end Writing

namespace BuiltOver

/-- The display of a type over dotted names is tight, and its brackets match. -/
theorem isDisplay {type : SourceType} (built : BuiltOver (IsDotted IsWord) type) :
    IsDisplay type.display.toList := by
  induction built with
  | reference dotted =>
      rw [reference_display dotted]
      exact .of_dotted dotted
  | generic dotted _ inductionHypothesis =>
      rw [toList_display_generic dotted]
      exact (IsDisplay.of_dotted dotted).append
        (.enclosed (by decide) (List.forall_mem_map.mpr inductionHypothesis))
  | array _ inductionHypothesis =>
      rw [toList_display_array]
      exact inductionHypothesis.append (.brackets 0)
  | tuple _ inductionHypothesis =>
      rw [toList_display_tuple]
      exact .enclosed (by decide) (List.forall_mem_map.mpr inductionHypothesis)
  | @nullable type _ inductionHypothesis =>
      cases already : type.isNullable with
      | true => rwa [nullable_of_isNullable already]
      | false =>
          rw [toList_display_nullable already]
          exact inductionHypothesis.append .questionMark

/-- The last space in the display of a type over dotted names follows a comma. -/
theorem spaced {type : SourceType} (built : BuiltOver (IsDotted IsWord) type) :
    Spaced type.display.toList := by
  induction built with
  | reference dotted =>
      rw [reference_display dotted]
      exact .of_dotted dotted
  | generic dotted _ inductionHypothesis =>
      rw [toList_display_generic dotted]
      exact (Spaced.of_dotted dotted).append (.enclosed (by decide) fun text member =>
        List.forall_mem_map.mpr inductionHypothesis text (List.mem_of_getLast? member))
  | array _ inductionHypothesis =>
      rw [toList_display_array]
      exact inductionHypothesis.append (.of_notMem (by decide))
  | tuple _ inductionHypothesis =>
      rw [toList_display_tuple]
      exact .enclosed (by decide) fun text member =>
        List.forall_mem_map.mpr inductionHypothesis text (List.mem_of_getLast? member)
  | @nullable type _ inductionHypothesis =>
      cases already : type.isNullable with
      | true => rwa [nullable_of_isNullable already]
      | false =>
          rw [toList_display_nullable already]
          exact inductionHypothesis.append (.of_notMem (by decide))

theorem map_ofDisplayWithin {types : List SourceType} {depth : Nat}
    (found : ∀ type ∈ types, type.display.toList.length < depth →
      ofDisplayWithin depth type.display.toList = type)
    (enough : ([',', ' '].intercalate (types.map fun type => type.display.toList)).length < depth) :
    (types.map fun type => type.display.toList).map (ofDisplayWithin depth) = types := by
  rw [List.map_map]
  refine (List.map_congr_left fun type member => ?_).trans (List.map_id types)
  have inside : type.display.toList ∈ types.map fun type => type.display.toList :=
    List.mem_map.mpr ⟨type, member, rfl⟩
  exact found type member (Nat.lt_of_le_of_lt (length_le_length_intercalate inside) enough)

/-- The reader finds a type over dotted names in its display, where it may look deep enough. -/
theorem ofDisplayWithin_display {type : SourceType} (built : BuiltOver (IsDotted IsWord) type)
    {depth : Nat} (enough : type.display.toList.length < depth) :
    ofDisplayWithin depth type.display.toList = type := by
  -- Each form takes away at least one character, so one level is left for the types inside.
  induction built generalizing depth with
  | reference dotted =>
      obtain ⟨depth, rfl⟩ := Nat.exists_eq_add_one_of_ne_zero (Nat.ne_zero_of_lt enough)
      rw [reference_display dotted, ofDisplayWithin_reference dotted]
  | generic dotted built inductionHypothesis =>
      obtain ⟨depth, rfl⟩ := Nat.exists_eq_add_one_of_ne_zero (Nat.ne_zero_of_lt enough)
      have displays := List.forall_mem_map.mpr fun argument member =>
        (built argument member).isDisplay
      rw [toList_display_generic dotted] at enough ⊢
      rw [ofDisplayWithin_generic dotted displays, map_ofDisplayWithin
        (fun argument member => inductionHypothesis argument member) (by simp at enough; omega)]
  | @array element built inductionHypothesis =>
      obtain ⟨depth, rfl⟩ := Nat.exists_eq_add_one_of_ne_zero (Nat.ne_zero_of_lt enough)
      rw [toList_display_array] at enough ⊢
      have read := ofDisplayWithin_array built.isDisplay depth 0
      rwa [inductionHypothesis (by simp at enough ⊢; omega)] at read
  | @tuple elements built inductionHypothesis =>
      obtain ⟨depth, rfl⟩ := Nat.exists_eq_add_one_of_ne_zero (Nat.ne_zero_of_lt enough)
      have displays := List.forall_mem_map.mpr fun element member =>
        (built element member).isDisplay
      have types : (elements.map fun type => type.display.toList).map elementType =
          elements.map fun type => type.display.toList := by
        rw [List.map_map]
        exact List.map_congr_left fun element member =>
          elementType_of_spaced (built element member).spaced
      rw [toList_display_tuple] at enough ⊢
      rw [ofDisplayWithin_tuple displays, types, map_ofDisplayWithin
        (fun element member => inductionHypothesis element member) (by simp at enough; omega)]
  | @nullable type built inductionHypothesis =>
      cases already : type.isNullable with
      | true =>
          rw [nullable_of_isNullable already] at enough ⊢
          exact inductionHypothesis enough
      | false =>
          obtain ⟨depth, rfl⟩ := Nat.exists_eq_add_one_of_ne_zero (Nat.ne_zero_of_lt enough)
          rw [toList_display_nullable already] at enough ⊢
          rw [ofDisplayWithin_nullable built.isDisplay,
            inductionHypothesis (by simp at enough ⊢; omega)]

end BuiltOver

/-- A type over dotted names is read back from its display, and a mapping sends its display where it
sends the type. -/
theorem ofDisplay_display {type : SourceType} (built : BuiltOver (IsDotted IsWord) type) :
    ofDisplay type.display = type ∧
      ∀ mapping : TypeMapping, mapping.mapDisplay type.display = mapping.map type := by
  have same : ofDisplay type.display = type :=
    built.ofDisplayWithin_display (by rw [String.length_toList]; omega)
  exact ⟨same, fun mapping => by rw [TypeMapping.mapDisplay, same]⟩

/-- A pair of a list of numbers that may be null and an array of empty tuples, all of which may be
null too. -/
def optionalPair : SourceType :=
  (tuple [generic "System.Collections.Generic.List" [(reference "int").nullable],
    array (tuple [])]).nullable

/-- The optional pair is read back from its display. -/
theorem optionalPair_read_back :
    optionalPair.display = "(System.Collections.Generic.List<int?>, ()[])?" ∧
      BuiltOver (IsDotted IsWord) optionalPair ∧
      ofDisplay "(System.Collections.Generic.List<int?>, ()[])?" = optionalPair ∧
      ∀ mapping : TypeMapping,
        mapping.mapDisplay "(System.Collections.Generic.List<int?>, ()[])?" =
          mapping.map optionalPair := by
  have display : optionalPair.display = "(System.Collections.Generic.List<int?>, ()[])?" := by
    decide
  have list : IsDotted IsWord "System.Collections.Generic.List" :=
    ⟨["System".toList, "Collections".toList, "Generic".toList, "List".toList], by decide,
      by decide, by decide⟩
  have number : IsDotted IsWord "int" := ⟨["int".toList], by decide, by decide, by decide⟩
  have numbers : BuiltOver (IsDotted IsWord)
      (generic "System.Collections.Generic.List" [(reference "int").nullable]) :=
    .generic list (List.forall_mem_singleton.mpr (.nullable (.reference number)))
  have empties : BuiltOver (IsDotted IsWord) (array (tuple [])) :=
    .array (.tuple (List.forall_mem_nil _))
  have built : BuiltOver (IsDotted IsWord) optionalPair :=
    .nullable (.tuple (List.forall_mem_cons.mpr ⟨numbers, List.forall_mem_singleton.mpr empties⟩))
  have known := ofDisplay_display built
  rw [display] at known
  exact ⟨display, built, known⟩

end SourceType

end TypedClient
