/-
This file shows how the texts of client types nest: the brackets of a text match whatever is
written around it, and a bar stands outside of all brackets only where null is allowed in addition.
-/

import TypedClient.Proofs.TypeDisplay
import TypedClient.Proofs.TypeShapes

namespace TypedClient

open Text Brackets

/-- A word that has no bar either, as every identifier of the backend. -/
def IsIdentifier (word : List Char) : Prop :=
  IsWord word ∧ '|' ∉ word

instance : DecidablePred IsIdentifier :=
  fun word => inferInstanceAs (Decidable (IsWord word ∧ '|' ∉ word))

namespace IsIdentifier

variable {word : List Char}

theorem tight (legal : IsIdentifier word) : Tight word := by
  apply Tight.of_unblank legal.1.1
  intro c member
  exact (legal.1.2 c member).1

/-- An identifier has no brackets and bars. -/
theorem plain (legal : IsIdentifier word) :
    ∀ c ∈ word, opens c = false ∧ closes c = false ∧ c ≠ '|' := by
  intro c member
  obtain ⟨-, unopened, unclosed, -⟩ := legal.1.2 c member
  refine ⟨unopened, unclosed, ?_⟩
  rintro rfl
  exact legal.2 member

/-- An identifier is a nested text without commas and bars. -/
theorem nested (legal : IsIdentifier word) {separator : Char} (known : separator ∈ [',', '|']) :
    Nested (· ≠ separator) word := by
  apply Nested.of_plain
  intro c member
  obtain ⟨-, unopened, unclosed, unmarked⟩ := legal.1.2 c member
  refine ⟨unopened, unclosed, ?_⟩
  rintro rfl
  rcases List.mem_cons.mp known with rfl | bar
  · exact unmarked (by decide)
  · obtain rfl := List.mem_singleton.mp bar
    exact legal.2 member

end IsIdentifier

namespace ClientType

/-- The texts of several types follow each other. -/
theorem texts_eq (types : List ClientType) : texts types = types.map text := by
  induction types with
  | nil => rfl
  | cons type rest inductionHypothesis => rw [texts, inductionHypothesis, List.map_cons]

/-- The characters of the text of a generic application. -/
theorem toList_text_application (name : String) (arguments : List ClientType) :
    (application name arguments).text.toList = name.toList ++
      '<' :: ([',', ' '].intercalate (arguments.map fun type => type.text.toList) ++ ['>']) := by
  simp [text, texts_eq, String.toList_intercalate, Function.comp_def]

theorem toList_text_tuple (elements : List ClientType) :
    (tuple elements).text.toList =
      '[' :: ([',', ' '].intercalate (elements.map fun type => type.text.toList) ++ [']']) := by
  simp [text, texts_eq, String.toList_intercalate, Function.comp_def]

theorem toList_text_array (element : ClientType) :
    (array element).text.toList = (inParentheses element.text).toList ++ ['[', ']'] := by
  simp [text]

theorem toList_text_orNull (type : ClientType) :
    (orNull type).text.toList = type.text.toList ++ " | null".toList := by
  rw [text, String.toList_append]

theorem text_record (value : ClientType) :
    (record value).text = (application "Record" [.builtin "string", value]).text := by
  rw [← String.toList_inj]
  simp [text, texts]

theorem text_map (key value : ClientType) :
    (map key value).text = (application "Map" [key, value]).text := by
  rw [← String.toList_inj]
  simp [text, texts]

theorem text_set (element : ClientType) :
    (set element).text = (application "Set" [element]).text := by
  rw [← String.toList_inj]
  simp [text, texts]

/-- A type whose text may stand in other types. A bar stands outside of the brackets of the text
only in a union. -/
structure Nestable (type : ClientType) : Prop extends IsArgument type.text.toList where
  single : isUnionText type.text = false → Nested (· ≠ '|') type.text.toList

namespace Nestable

variable {type other : ClientType} {types : List ClientType}

theorem of_identifier (legal : IsIdentifier type.text.toList) : Nestable type where
  tight := legal.tight
  nested := legal.nested (by decide)
  single _ := legal.nested (by decide)

/-- Being nestable depends only on the text. -/
theorem congr (nestable : Nestable type) (same : other.text = type.text) : Nestable other where
  tight := same ▸ nestable.tight
  nested := same ▸ nestable.nested
  single := same ▸ nestable.single

/-- The brackets of a generic application match, and it is no union. -/
theorem nested_application {name : String} (legal : IsIdentifier name.toList)
    (nestable : ∀ type ∈ types, Nestable type) {separator : Char}
    (known : separator ∈ [',', '|']) :
    Nested (· ≠ separator) (.application name types : ClientType).text.toList := by
  rw [toList_text_application]
  apply (legal.nested known).append
  apply Nested.enclosed (by decide)
  apply IsArgument.nested_intercalate
  exact List.forall_mem_map.mpr fun type member => (nestable type member).toIsArgument

theorem application {name : String} (legal : IsIdentifier name.toList)
    (nestable : ∀ type ∈ types, Nestable type) : Nestable (.application name types) where
  tight := by
    rw [toList_text_application]
    exact legal.tight.enclose (tight_of_partners (by decide) _) []
  nested := nested_application legal nestable (by decide)
  single _ := nested_application legal nestable (by decide)

/-- The brackets of a tuple match, and nothing stands outside of them. -/
theorem nested_tuple (nestable : ∀ type ∈ types, Nestable type) {outside : Char → Prop} :
    Nested outside (.tuple types : ClientType).text.toList := by
  rw [toList_text_tuple]
  apply Nested.enclosed (by decide)
  apply IsArgument.nested_intercalate
  exact List.forall_mem_map.mpr fun type member => (nestable type member).toIsArgument

theorem tuple (nestable : ∀ type ∈ types, Nestable type) : Nestable (.tuple types) where
  tight := by
    rw [toList_text_tuple]
    exact tight_of_partners (by decide) _
  nested := nested_tuple nestable
  single _ := nested_tuple nestable

/-- In parentheses, where it needs them, a nestable type is no union. -/
theorem inParentheses (nestable : Nestable type) :
    IsArgument (inParentheses type.text).toList ∧
      Nested (· ≠ '|') (ClientType.inParentheses type.text).toList := by
  cases union : isUnionText type.text with
  | false =>
      have bare : ClientType.inParentheses type.text = type.text := by
        simp [ClientType.inParentheses, union]
      rw [bare]
      exact ⟨nestable.toIsArgument, nestable.single union⟩
  | true =>
      have around : (ClientType.inParentheses type.text).toList =
          '(' :: (type.text.toList ++ [')']) := by simp [ClientType.inParentheses, union]
      rw [around]
      exact ⟨⟨tight_of_partners (by decide) _, .enclosed (by decide) nestable.nested⟩,
        .enclosed (by decide) nestable.nested⟩

theorem single_array (nestable : Nestable type) :
    Nested (· ≠ '|') (ClientType.array type).text.toList := by
  rw [toList_text_array]
  exact nestable.inParentheses.2.append (.brackets (by decide))

theorem array (nestable : Nestable type) : Nestable (.array type) where
  tight := by
    rw [toList_text_array]
    exact nestable.inParentheses.1.tight.enclose (tight_of_partners (by decide) []) []
  nested := by
    rw [toList_text_array]
    exact nestable.inParentheses.1.nested.append (.brackets (by decide))
  single _ := nestable.single_array

theorem unionMembers_orNull (nestable : Nestable type) (single : isUnionText type.text = false) :
    unionMembers (ClientType.orNull type).text.toList = [type.text.toList, "null".toList] := by
  rw [toList_text_orNull]
  exact Reference.unionMembers_orNull nestable.tight (nestable.single single)

theorem orNull (nestable : Nestable type) (single : isUnionText type.text = false) :
    Nestable (.orNull type) where
  tight := by
    rw [toList_text_orNull]
    exact nestable.tight.enclose (Reference.tight_of_isName (by decide)) " | ".toList
  nested := by
    rw [toList_text_orNull]
    exact nestable.nested.append (.of_plain (by simp [opens, closes]))
  single alone := by
    rw [isUnionText, isUnion, nestable.unionMembers_orNull single] at alone
    contradiction

end Nestable

end ClientType

end TypedClient
