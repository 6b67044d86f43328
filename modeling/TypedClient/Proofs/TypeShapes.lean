/-
This file shows how the name finder takes the text of a client type apart: each way to write a type
around other types gives those types back.
-/

import Mathlib
import TypedClient.Client.Reference
import TypedClient.Proofs.NestedText

namespace TypedClient.Reference

open Text Brackets

section Name

variable {cs : List Char}

/-- The characters of a name are letters, digits and underscores. -/
theorem allowed_of_isName (legal : isName cs = true) :
    ∀ c ∈ cs, (startsName c || c.isDigit) = true := by
  cases cs with
  | nil => simp
  | cons first rest =>
      simp only [isName, Bool.and_eq_true, List.all_eq_true] at legal
      exact legal.2

theorem ascii_of_isName (legal : isName cs = true) : ∀ c ∈ cs, c.toNat < 128 := by
  intro c member
  have allowed := allowed_of_isName legal c member
  simp only [startsName, Char.isAlpha, Char.isUpper, Char.isLower, Char.isDigit, Bool.or_eq_true,
    Bool.and_eq_true, beq_iff_eq, decide_eq_true_eq, UInt32.le_iff_toNat_le, ge_iff_le] at allowed
  change (((65 ≤ c.toNat ∧ c.toNat ≤ 90) ∨ (97 ≤ c.toNat ∧ c.toNat ≤ 122)) ∨ c = '_') ∨
    (48 ≤ c.toNat ∧ c.toNat ≤ 57) at allowed
  rcases allowed with ((upper | lower) | rfl) | digit
  · omega
  · omega
  · decide
  · omega

/-- A character of a name is no blank, no bracket and no separator. -/
theorem unmarked_of_isName (legal : isName cs = true) :
    ∀ c ∈ cs, isBlank c = false ∧ opens c = false ∧ closes c = false ∧
      c ∉ ['.', ',', '?', ':', '|'] := by
  intro c member
  have codes : ∀ code < 128, (startsName (Char.ofNat code) || (Char.ofNat code).isDigit) = true →
      isBlank (Char.ofNat code) = false ∧ opens (Char.ofNat code) = false ∧
        closes (Char.ofNat code) = false ∧ Char.ofNat code ∉ ['.', ',', '?', ':', '|'] := by
    decide +kernel
  have known := codes c.toNat (ascii_of_isName legal c member)
  rw [Char.ofNat_toNat] at known
  exact known (allowed_of_isName legal c member)

theorem tight_of_isName (legal : isName cs = true) : Tight cs := by
  refine .of_unblank ?_ fun c member => (unmarked_of_isName legal c member).1
  rintro rfl
  exact Bool.false_ne_true legal

theorem nested_of_isName (legal : isName cs = true) {separator : Char}
    (known : separator ∈ ['.', ',', '?', ':', '|']) : Nested (· ≠ separator) cs := by
  refine .of_plain fun c member => ?_
  obtain ⟨-, unopened, unclosed, unmarked⟩ := unmarked_of_isName legal c member
  exact ⟨unopened, unclosed, fun same => unmarked (same ▸ known)⟩

end Name

section Shape

variable {cs : List Char} {outside : Char → Prop}

/-- A tight text whose brackets match is what the finder looks at. -/
theorem normalized (tight : Tight cs) (nested : Nested outside cs) :
    balancedStart (trim cs) = cs := by
  rw [tight.trim, balancedStart_of_nested nested]

/-- A text without bars outside of its brackets is no union. -/
theorem isUnion_of_nested (tight : Tight cs) (nested : Nested (· ≠ '|') cs) :
    isUnion cs = false := by
  simp [isUnion, unionMembers, pieces_of_nested (by decide) nested tight]

theorem shape_of_union (tight : Tight cs) (nested : Nested outside cs)
    (union : isUnion cs = true) : shape cs = .parts (unionMembers cs) := by
  simp [shape, normalized tight nested, tight.some, union]

/-- What is no union is looked at as an array, as a type in parentheses, as a tuple and as a generic
application, in this order. -/
theorem shape_of_nested (tight : Tight cs) (nested : Nested (· ≠ '|') cs) :
    shape cs = match dropEnd? ['[', ']'] cs with
      | some element => .parts [element]
      | none =>
        match inside? '(' ')' cs with
        | some inner => .parts [inner]
        | none =>
          match inside? '[' ']' cs with
          | some elements => .parts (Brackets.arguments elements)
          | none =>
            match application? cs with
            | some (base, arguments) => .parts (base :: Brackets.arguments arguments)
            | none => .atom cs := by
  have filled : ¬cs.isEmpty = true := by simpa using tight.some
  have single : ¬isUnion cs = true := by simp [isUnion_of_nested tight nested]
  simp only [shape, normalized tight nested]
  exact (if_neg filled).trans (if_neg single)

theorem unionMembers_orNull (tight : Tight cs) (nested : Nested (· ≠ '|') cs) :
    unionMembers (cs ++ " | null".toList) = [cs, "null".toList] := by
  have blank : Nested (· ≠ '|') [' '] := .of_plain (by simp [opens, closes])
  have trimmed : trim (cs ++ [' ']) = cs := tight.trim_concat (by decide)
  have split : cs ++ " | null".toList = (cs ++ [' ']) ++ '|' :: (' ' :: "null".toList) := by
    simp
  have null : isName "null".toList = true := by decide
  have last : pieces '|' "null".toList = ["null".toList] :=
    pieces_of_nested (by decide) (nested_of_isName null (by decide)) (tight_of_isName null)
  have some : trim (cs ++ [' ']) ≠ [] := by
    rw [trimmed]
    exact tight.some
  rw [unionMembers, split, pieces_append_cons (by decide) (nested.append blank) some, trimmed,
    pieces_cons_blank (by decide), last]

theorem isUnion_orNull (tight : Tight cs) (nested : Nested (· ≠ '|') cs) :
    isUnion (cs ++ " | null".toList) = true := by
  rw [isUnion, unionMembers_orNull tight nested]
  rfl

/-- A type that allows null in addition is taken apart into the type and null. -/
theorem shape_orNull (tight : Tight cs) (nested : Nested (· ≠ '|') cs) :
    shape (cs ++ " | null".toList) = .parts [cs, "null".toList] := by
  have whole : Nested (fun _ => True) (cs ++ " | null".toList) :=
    nested.anywhere.append (.of_plain (by simp [opens, closes]))
  have null : Tight "null".toList := tight_of_isName (by decide)
  have tightWhole : Tight (cs ++ " | null".toList) := tight.enclose null " | ".toList
  rw [shape_of_union tightWhole whole (isUnion_orNull tight nested),
    unionMembers_orNull tight nested]

/-- An array type is taken apart into its element type. -/
theorem shape_array (tight : Tight cs) (nested : Nested (· ≠ '|') cs) :
    shape (cs ++ ['[', ']']) = .parts [cs] := by
  have brackets : Tight ['[', ']'] := .of_unblank (by simp) (by simp [isBlank])
  have tightWhole : Tight (cs ++ ['[', ']']) := tight.enclose brackets []
  have whole : Nested (· ≠ '|') (cs ++ ['[', ']']) :=
    nested.append (.brackets (by decide))
  rw [shape_of_nested tightWhole whole, dropEnd?_eq_some.mpr rfl]

/-- What stands between two characters is found. -/
theorem inside?_enclosed (opening closing : Char) (cs : List Char) :
    inside? opening closing (opening :: (cs ++ [closing])) = some cs := by
  have front : dropStart? [opening] (opening :: (cs ++ [closing])) = some (cs ++ [closing]) :=
    dropStart?_eq_some.mpr rfl
  rw [inside?, front, Option.bind_some, dropEnd?_eq_some.mpr rfl]

/-- Nothing stands behind an opening character where the text begins with another one. -/
theorem inside?_eq_none {opening closing : Char} (other : cs.head? ≠ some opening) :
    inside? opening closing cs = none := by
  have front : dropStart? [opening] cs = none := by
    refine Option.eq_none_iff_forall_not_mem.mpr fun rest member => other ?_
    rw [dropStart?_eq_some.mp member]
    rfl
  rw [inside?, front, Option.bind_none]

theorem shape_parentheses (nested : Nested outside cs) :
    shape ('(' :: (cs ++ [')'])) = .parts [cs] := by
  have tight := tight_of_partners (show ('(', ')') ∈ partners by decide) cs
  have whole : Nested (· ≠ '|') ('(' :: (cs ++ [')'])) := .enclosed (by decide) nested
  have noArray : dropEnd? ['[', ']'] ('(' :: (cs ++ [')'])) = none :=
    dropEnd?_eq_none rfl (by simp [getLast?_enclosed])
  rw [shape_of_nested tight whole, noArray, inside?_enclosed]

variable {texts : List (List Char)}

/-- A tuple type is taken apart into its element types. -/
theorem shape_tuple (filled : texts ≠ []) (arguments : ∀ text ∈ texts, IsArgument text) :
    shape ('[' :: ([',', ' '].intercalate texts ++ [']'])) = .parts texts := by
  have nested := IsArgument.nested_intercalate arguments
  have elements := IsArgument.arguments_intercalate arguments
  generalize [',', ' '].intercalate texts = inside at nested elements ⊢
  have inhabited : inside ≠ [] := by
    rintro rfl
    exact filled elements.symm
  have tight := tight_of_partners (show ('[', ']') ∈ partners by decide) inside
  have whole : Nested (· ≠ '|') ('[' :: (inside ++ [']'])) := .enclosed (by decide) nested
  -- The list of the elements is not empty and does not end with an opening bracket.
  have noArray : dropEnd? ['[', ']'] ('[' :: (inside ++ [']'])) = none := by
    refine Option.eq_none_iff_forall_not_mem.mpr fun rest member => ?_
    have split : ('[' :: inside) ++ [']'] = (rest ++ ['[']) ++ [']'] := by
      simpa using dropEnd?_eq_some.mp member
    have last : inside.getLast? = some '[' := by
      obtain ⟨c, others, rfl⟩ := List.exists_cons_of_ne_nil inhabited
      have same := congrArg List.getLast? (List.append_cancel_right split)
      simpa using same
    exact absurd (nested.getLast_unopened '[' last) (by decide)
  rw [shape_of_nested tight whole, noArray, inside?_eq_none (by simp), inside?_enclosed]
  exact congrArg Shape.parts elements

theorem notMem_of_unopened (unopened : ∀ c ∈ cs, opens c = false) {c : Char}
    (bracket : opens c = true) : c ∉ cs := by
  intro member
  rw [unopened c member] at bracket
  contradiction

theorem inside?_of_unopened {base : List Char} (some : base ≠ [])
    (unopened : ∀ c ∈ base, opens c = false) {opening closing : Char}
    (bracket : opens opening = true) (behind : List Char) :
    inside? opening closing (base ++ behind) = none := by
  refine inside?_eq_none fun front => ?_
  cases base with
  | nil => exact some rfl
  | cons c rest =>
      obtain rfl : c = opening := by simpa using front
      exact notMem_of_unopened unopened bracket List.mem_cons_self

variable {base : List Char}

/-- A generic application is taken apart into its base and its arguments. -/
theorem shape_application (tight : Tight base)
    (plain : ∀ c ∈ base, opens c = false ∧ closes c = false ∧ c ≠ '|')
    (arguments : ∀ text ∈ texts, IsArgument text) :
    shape (base ++ '<' :: ([',', ' '].intercalate texts ++ ['>'])) = .parts (base :: texts) := by
  have unopened : ∀ c ∈ base, opens c = false := fun c member => (plain c member).1
  have unangled : '<' ∉ base := notMem_of_unopened unopened (by decide)
  have nested := IsArgument.nested_intercalate arguments
  have found := IsArgument.arguments_intercalate arguments
  generalize [',', ' '].intercalate texts = inside at nested found ⊢
  have tightWhole : Tight (base ++ '<' :: (inside ++ ['>'])) :=
    tight.enclose (.singleton (by decide)) ('<' :: inside)
  have whole : Nested (· ≠ '|') (base ++ '<' :: (inside ++ ['>'])) :=
    (Nested.of_plain plain).append (.enclosed (by decide) nested)
  have noArray : dropEnd? ['[', ']'] (base ++ '<' :: (inside ++ ['>'])) = none := by
    refine dropEnd?_eq_none rfl ?_
    simp [List.getLast?_append, getLast?_enclosed]
  have parts := application?_eq tight unangled nested
  rw [shape_of_nested tightWhole whole, noArray,
    inside?_of_unopened tight.some unopened (by decide),
    inside?_of_unopened tight.some unopened (by decide), parts]
  exact congrArg (fun arguments => Shape.parts (base :: arguments)) found

/-- A text without brackets and bars is not taken apart. -/
theorem shape_plain (tight : Tight base)
    (plain : ∀ c ∈ base, opens c = false ∧ closes c = false ∧ c ≠ '|') :
    shape base = .atom base := by
  have unopened : ∀ c ∈ base, opens c = false := fun c member => (plain c member).1
  have noArray : dropEnd? ['[', ']'] base = none := by
    refine dropEnd?_eq_none rfl fun last => ?_
    have unclosed := (plain ']' (List.mem_of_getLast? last)).2.1
    contradiction
  have bare (opening closing : Char) (bracket : opens opening = true) :
      inside? opening closing base = none := by
    simpa using inside?_of_unopened tight.some unopened bracket []
  have unangled : '<' ∉ base := notMem_of_unopened unopened (by decide)
  rw [shape_of_nested tight (.of_plain plain), noArray, bare '(' ')' (by decide),
    bare '[' ']' (by decide), application?_eq_none tight unangled]

end Shape

end TypedClient.Reference
