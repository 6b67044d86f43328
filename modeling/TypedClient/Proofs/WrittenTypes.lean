/-
This file defines types as they are written, with or without names for the elements of tuples, and
shows what their texts have in common with displays. A type means the same without the names.
-/

import TypedClient.Proofs.TypeDisplay

namespace TypedClient

open Text

/-- A type as it is written; the elements of a tuple may have names. -/
inductive WrittenType
  | name (word : String)
  | generic (word : String) (arguments : List WrittenType)
  | array (commas : Nat) (element : WrittenType)
  | nullable (type : WrittenType)
  | tuple (elements : List (WrittenType × Option String))

namespace WrittenType

mutual

def text : WrittenType → List Char
  | name word => word.toList
  | generic word arguments =>
    word.toList ++ '<' :: ([',', ' '].intercalate (argumentTexts arguments) ++ ['>'])
  | array commas element => element.text ++ '[' :: (List.replicate commas ',' ++ [']'])
  | nullable type => type.text ++ ['?']
  | tuple elements => '(' :: ([',', ' '].intercalate (elementTexts elements) ++ [')'])

def argumentTexts : List WrittenType → List (List Char)
  | [] => []
  | argument :: rest => argument.text :: argumentTexts rest

/-- The characters of tuple elements with their names. -/
def elementTexts : List (WrittenType × Option String) → List (List Char)
  | [] => []
  | (type, none) :: rest => type.text :: elementTexts rest
  | (type, some label) :: rest => (type.text ++ ' ' :: label.toList) :: elementTexts rest

end

def display (type : WrittenType) : String :=
  String.ofList type.text

mutual

/-- The same type without the names of tuple elements. -/
def unnamed : WrittenType → WrittenType
  | name word => name word
  | generic word arguments => generic word (argumentsUnnamed arguments)
  | array commas element => array commas element.unnamed
  | nullable type => nullable type.unnamed
  | tuple elements => tuple (elementsUnnamed elements)

/-- The same arguments without the names of tuple elements. -/
def argumentsUnnamed : List WrittenType → List WrittenType
  | [] => []
  | argument :: rest => argument.unnamed :: argumentsUnnamed rest

/-- The same tuple elements without names. -/
def elementsUnnamed : List (WrittenType × Option String) → List (WrittenType × Option String)
  | [] => []
  | (type, _) :: rest => (type.unnamed, none) :: elementsUnnamed rest

end

mutual

def meaning : WrittenType → SourceType
  | name word => .reference word
  | generic word arguments => .generic word (argumentMeanings arguments)
  | array _ element => .array element.meaning
  | nullable type => type.meaning.nullable
  | tuple elements => .tuple (elementMeanings elements)

def argumentMeanings : List WrittenType → List SourceType
  | [] => []
  | argument :: rest => argument.meaning :: argumentMeanings rest

def elementMeanings : List (WrittenType × Option String) → List SourceType
  | [] => []
  | (type, _) :: rest => type.meaning :: elementMeanings rest

end

/-- The characters of a tuple element with its name. -/
def elementText (element : WrittenType × Option String) : List Char :=
  match element.2 with
  | none => element.1.text
  | some label => element.1.text ++ ' ' :: label.toList

/-- Names and labels are made of words. -/
inductive IsWritten : WrittenType → Prop
  | name {word : String} (dotted : IsDotted IsWord word) : IsWritten (.name word)
  | generic {word : String} {arguments : List WrittenType} (dotted : IsDotted IsWord word)
      (each : ∀ argument ∈ arguments, IsWritten argument) : IsWritten (.generic word arguments)
  | array {commas : Nat} {element : WrittenType} (inside : IsWritten element) :
      IsWritten (.array commas element)
  | nullable {type : WrittenType} (inside : IsWritten type) : IsWritten (.nullable type)
  | tuple {elements : List (WrittenType × Option String)}
      (each : ∀ element ∈ elements, IsWritten element.1)
      (labels : ∀ element ∈ elements, ∀ label ∈ element.2, IsWord label.toList) :
      IsWritten (.tuple elements)

/-- The last space of a type stands in front of the name of a tuple element. -/
inductive EndsNamed : WrittenType → Prop
  | generic {word : String} {front : List WrittenType} {last : WrittenType}
      (inside : EndsNamed last) : EndsNamed (.generic word (front ++ [last]))
  | array {commas : Nat} {element : WrittenType} (inside : EndsNamed element) :
      EndsNamed (.array commas element)
  | nullable {type : WrittenType} (inside : EndsNamed type) : EndsNamed (.nullable type)
  | tuple {front : List (WrittenType × Option String)} {last : WrittenType}
      (inside : EndsNamed last) : EndsNamed (.tuple (front ++ [(last, none)]))
  | named (front : List (WrittenType × Option String)) (last : WrittenType) (label : String) :
      EndsNamed (.tuple (front ++ [(last, some label)]))

/-- No element of a tuple that has no name ends with one that has. -/
inductive Clear : WrittenType → Prop
  | name (word : String) : Clear (.name word)
  | generic {word : String} {arguments : List WrittenType}
      (each : ∀ argument ∈ arguments, Clear argument) : Clear (.generic word arguments)
  | array {commas : Nat} {element : WrittenType} (inside : Clear element) :
      Clear (.array commas element)
  | nullable {type : WrittenType} (inside : Clear type) : Clear (.nullable type)
  | tuple {elements : List (WrittenType × Option String)}
      (each : ∀ element ∈ elements, Clear element.1)
      (whole : ∀ element ∈ elements, element.2 = none → ¬EndsNamed element.1) :
      Clear (.tuple elements)

section Equations

theorem argumentTexts_eq (arguments : List WrittenType) :
    argumentTexts arguments = arguments.map text := by
  induction arguments with
  | nil => rfl
  | cons argument rest inductionHypothesis => rw [argumentTexts, inductionHypothesis]; rfl

theorem elementTexts_eq (elements : List (WrittenType × Option String)) :
    elementTexts elements = elements.map elementText := by
  induction elements with
  | nil => rfl
  | cons element rest inductionHypothesis =>
      obtain ⟨type, _ | label⟩ := element <;> (rw [elementTexts, inductionHypothesis]; rfl)

/-- Arguments lose their names one by one. -/
theorem argumentsUnnamed_eq (arguments : List WrittenType) :
    argumentsUnnamed arguments = arguments.map unnamed := by
  induction arguments with
  | nil => rfl
  | cons argument rest inductionHypothesis => rw [argumentsUnnamed, inductionHypothesis]; rfl

/-- Tuple elements lose their names one by one. -/
theorem elementsUnnamed_eq (elements : List (WrittenType × Option String)) :
    elementsUnnamed elements = elements.map fun element => (element.1.unnamed, none) := by
  induction elements with
  | nil => rfl
  | cons element rest inductionHypothesis =>
      obtain ⟨type, label⟩ := element
      rw [elementsUnnamed, inductionHypothesis]
      rfl

theorem argumentMeanings_eq (arguments : List WrittenType) :
    argumentMeanings arguments = arguments.map meaning := by
  induction arguments with
  | nil => rfl
  | cons argument rest inductionHypothesis => rw [argumentMeanings, inductionHypothesis]; rfl

theorem elementMeanings_eq (elements : List (WrittenType × Option String)) :
    elementMeanings elements = elements.map fun element => element.1.meaning := by
  induction elements with
  | nil => rfl
  | cons element rest inductionHypothesis =>
      obtain ⟨type, label⟩ := element
      rw [elementMeanings, inductionHypothesis]
      rfl

end Equations

section Texts

theorem text_generic (word : String) (arguments : List WrittenType) :
    (generic word arguments).text =
      word.toList ++ '<' :: ([',', ' '].intercalate (arguments.map text) ++ ['>']) := by
  rw [text, argumentTexts_eq]

theorem text_tuple (elements : List (WrittenType × Option String)) :
    (tuple elements).text =
      '(' :: ([',', ' '].intercalate (elements.map elementText) ++ [')']) := by
  rw [text, elementTexts_eq]

theorem isDotted_of_isWord {label : String} (word : IsWord label.toList) : IsDotted IsWord label :=
  ⟨[label.toList], by simp, by simpa using word, by simp⟩

/-- A display with a name behind it is like a display. -/
theorem isDisplay_elementText {element : WrittenType × Option String}
    (inside : SourceType.IsDisplay element.1.text)
    (labels : ∀ label ∈ element.2, IsWord label.toList) :
    SourceType.IsDisplay (elementText element) := by
  unfold elementText
  split
  case h_1 => exact inside
  case h_2 label named =>
    have known := SourceType.IsDisplay.of_dotted (isDotted_of_isWord (labels label named))
    have space : Brackets.Nested (· ≠ ',') [' '] :=
      .of_plain (by simp [Brackets.opens, Brackets.closes])
    exact {
      tight := inside.tight.enclose known.tight [' ']
      nested := inside.nested.append (space.append known.nested)
      uncolored := by simp [inside.uncolored, known.uncolored] }

/-- What is written is tight, and its brackets match. -/
theorem IsWritten.isDisplay {type : WrittenType} (written : IsWritten type) :
    SourceType.IsDisplay type.text := by
  induction written with
  | name dotted => exact .of_dotted dotted
  | generic dotted _ inductionHypothesis =>
      rw [text_generic]
      exact (SourceType.IsDisplay.of_dotted dotted).append
        (.enclosed (by decide) (List.forall_mem_map.mpr inductionHypothesis))
  | array _ inductionHypothesis => exact inductionHypothesis.append (.brackets _)
  | nullable _ inductionHypothesis => exact inductionHypothesis.append .questionMark
  | tuple _ labels inductionHypothesis =>
      rw [text_tuple]
      exact .enclosed (by decide) (List.forall_mem_map.mpr fun element member =>
        isDisplay_elementText (inductionHypothesis element member) (labels element member))

end Texts

section Names

/-- No tuple element has a name. -/
inductive Bare : WrittenType → Prop
  | name (word : String) : Bare (.name word)
  | generic {word : String} {arguments : List WrittenType}
      (each : ∀ argument ∈ arguments, Bare argument) : Bare (.generic word arguments)
  | array {commas : Nat} {element : WrittenType} (inside : Bare element) :
      Bare (.array commas element)
  | nullable {type : WrittenType} (inside : Bare type) : Bare (.nullable type)
  | tuple {elements : List (WrittenType × Option String)}
      (each : ∀ element ∈ elements, Bare element.1)
      (unlabeled : ∀ element ∈ elements, element.2 = none) : Bare (.tuple elements)

/-- Without names nothing ends with a named element. -/
theorem EndsNamed.not_bare {type : WrittenType} (ends : EndsNamed type) : ¬Bare type := by
  intro bare
  induction ends with
  | @generic _ _ last _ inductionHypothesis =>
      cases bare with
      | generic each => exact inductionHypothesis (each last (by simp))
  | array _ inductionHypothesis =>
      cases bare with
      | array inside => exact inductionHypothesis inside
  | nullable _ inductionHypothesis =>
      cases bare with
      | nullable inside => exact inductionHypothesis inside
  | @tuple _ last _ inductionHypothesis =>
      cases bare with
      | tuple each => exact inductionHypothesis (each (last, none) (by simp))
  | named front last label =>
      cases bare with
      | tuple _ unlabeled => exact absurd (unlabeled (last, some label) (by simp)) (by simp)

/-- A type without names is clear. -/
theorem Bare.clear {type : WrittenType} (bare : Bare type) : Clear type := by
  induction bare with
  | name word => exact .name word
  | generic _ inductionHypothesis => exact .generic inductionHypothesis
  | array _ inductionHypothesis => exact .array inductionHypothesis
  | nullable _ inductionHypothesis => exact .nullable inductionHypothesis
  | tuple each _ inductionHypothesis =>
      exact .tuple inductionHypothesis fun element member _ ends =>
        ends.not_bare (each element member)

/-- Without its names a type is still written, has no names and means the same. -/
theorem IsWritten.unnamed {type : WrittenType} (written : IsWritten type) :
    IsWritten type.unnamed ∧ Bare type.unnamed ∧ type.unnamed.meaning = type.meaning := by
  induction written with
  | name dotted => exact ⟨.name dotted, .name _, rfl⟩
  | generic dotted _ inductionHypothesis =>
      rw [WrittenType.unnamed, argumentsUnnamed_eq]
      refine ⟨.generic dotted (List.forall_mem_map.mpr fun argument member =>
          (inductionHypothesis argument member).1),
        .generic (List.forall_mem_map.mpr fun argument member =>
          (inductionHypothesis argument member).2.1), ?_⟩
      rw [meaning, meaning, argumentMeanings_eq, argumentMeanings_eq, List.map_map]
      exact congrArg _ (List.map_congr_left fun argument member =>
        (inductionHypothesis argument member).2.2)
  | array _ inductionHypothesis =>
      obtain ⟨written, bare, same⟩ := inductionHypothesis
      exact ⟨.array written, .array bare, congrArg SourceType.array same⟩
  | nullable _ inductionHypothesis =>
      obtain ⟨written, bare, same⟩ := inductionHypothesis
      exact ⟨.nullable written, .nullable bare, congrArg SourceType.nullable same⟩
  | tuple _ _ inductionHypothesis =>
      rw [WrittenType.unnamed, elementsUnnamed_eq]
      refine ⟨.tuple (List.forall_mem_map.mpr fun element member =>
          (inductionHypothesis element member).1) (List.forall_mem_map.mpr (by simp)),
        .tuple (List.forall_mem_map.mpr fun element member =>
          (inductionHypothesis element member).2.1) (List.forall_mem_map.mpr (by simp)), ?_⟩
      rw [meaning, meaning, elementMeanings_eq, elementMeanings_eq, List.map_map]
      exact congrArg _ (List.map_congr_left fun element member =>
        (inductionHypothesis element member).2.2)

end Names

end WrittenType

end TypedClient
