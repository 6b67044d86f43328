/-
This file shows what the pieces of a text are: cuts lose nothing but the separators, a word in front
or behind is found exactly where it stands, and trimming keeps a part of the text.
-/

import TypedClient.Text.Blank
import TypedClient.Text.Piece

namespace TypedClient.Text

section Split

variable {isCut : Char → Bool}

theorem forall_mem_consToFirst {holds : Char → Prop} {c : Char} {pieces : List (List Char)}
    (here : holds c) (inside : ∀ piece ∈ pieces, ∀ d ∈ piece, holds d) :
    ∀ piece ∈ consToFirst c pieces, ∀ d ∈ piece, holds d := by
  cases pieces with
  | nil => simpa [consToFirst] using here
  | cons first rest =>
      obtain ⟨inFirst, inRest⟩ := List.forall_mem_cons.mp inside
      exact List.forall_mem_cons.mpr ⟨List.forall_mem_cons.mpr ⟨here, inFirst⟩, inRest⟩

/-- There is always a piece. -/
theorem splitWhere_ne_nil (cs : List Char) : splitWhere isCut cs ≠ [] := by
  cases cs with
  | nil => simp [splitWhere]
  | cons c rest =>
      rw [splitWhere]
      split
      · simp
      · cases splitWhere isCut rest <;> simp [consToFirst]

/-- A text without separators is one piece. -/
theorem splitWhere_of_uncut {cs : List Char} (uncut : ∀ c ∈ cs, isCut c = false) :
    splitWhere isCut cs = [cs] := by
  induction cs with
  | nil => rfl
  | cons c rest inductionHypothesis =>
      obtain ⟨here, later⟩ := List.forall_mem_cons.mp uncut
      simp [splitWhere, here, inductionHypothesis later, consToFirst]

/-- The first piece ends at the first separator. -/
theorem splitWhere_append_cons {cs : List Char} (uncut : ∀ c ∈ cs, isCut c = false)
    {separator : Char} (cut : isCut separator = true) (rest : List Char) :
    splitWhere isCut (cs ++ separator :: rest) = cs :: splitWhere isCut rest := by
  induction cs with
  | nil => simp [splitWhere, cut]
  | cons c before inductionHypothesis =>
      obtain ⟨here, later⟩ := List.forall_mem_cons.mp uncut
      simp [splitWhere, here, inductionHypothesis later, consToFirst]

/-- No separator is left in a piece. -/
theorem uncut_of_mem_splitWhere (cs : List Char) :
    ∀ piece ∈ splitWhere isCut cs, ∀ c ∈ piece, isCut c = false := by
  induction cs with
  | nil => simp [splitWhere]
  | cons c rest inductionHypothesis =>
      rw [splitWhere]
      split
      · exact List.forall_mem_cons.mpr ⟨by simp, inductionHypothesis⟩
      · rename_i uncut
        exact forall_mem_consToFirst ((Bool.not_eq_true _).mp uncut) inductionHypothesis

end Split

/-- The pieces with the separator between them are the text again. -/
theorem intercalate_splitAt (separator : Char) (cs : List Char) :
    [separator].intercalate (splitAt separator cs) = cs := by
  induction cs with
  | nil => rfl
  | cons c rest inductionHypothesis =>
      rw [splitAt, splitWhere]
      obtain ⟨piece, pieces, cut⟩ := List.exists_cons_of_ne_nil
        (@splitWhere_ne_nil (· == separator) rest)
      rw [splitAt, cut] at inductionHypothesis
      rw [cut]
      split
      · rename_i here
        rw [List.intercalate_cons_cons, inductionHypothesis, eq_of_beq here]
        rfl
      · cases pieces with
        | nil => simpa [consToFirst] using inductionHypothesis
        | cons second pieces =>
            rw [consToFirst, List.intercalate_cons_cons]
            rw [List.intercalate_cons_cons] at inductionHypothesis
            simpa using inductionHypothesis

/-- What holds of all elements of some pieces and of a separator holds of all elements of the joined
list. -/
theorem forall_mem_intercalate {Element : Type} {holds : Element → Prop}
    {separator : List Element} (between : ∀ element ∈ separator, holds element)
    {pieces : List (List Element)} (inside : ∀ piece ∈ pieces, ∀ element ∈ piece, holds element) :
    ∀ element ∈ separator.intercalate pieces, holds element := by
  induction pieces with
  | nil => simp
  | cons first rest inductionHypothesis =>
      obtain ⟨inFirst, inRest⟩ := List.forall_mem_cons.mp inside
      cases rest with
      | nil => simpa using inFirst
      | cons second rest =>
          rw [List.intercalate_cons_cons]
          intro element member
          rcases List.mem_append.mp member with front | behind
          · rcases List.mem_append.mp front with here | here
            · exact inFirst element here
            · exact between element here
          · exact inductionHypothesis inRest element behind

theorem mem_intercalate {Element : Type} {separator : List Element}
    {pieces : List (List Element)} {piece : List Element} (member : piece ∈ pieces)
    {element : Element} (inside : element ∈ piece) :
    element ∈ separator.intercalate pieces := by
  induction pieces with
  | nil => simp at member
  | cons first rest inductionHypothesis =>
      cases rest with
      | nil => simp_all
      | cons second rest =>
          rw [List.intercalate_cons_cons, List.append_assoc, List.mem_append, List.mem_append]
          rcases List.mem_cons.mp member with rfl | later
          · exact .inl inside
          · exact .inr (.inr (inductionHypothesis later))

/-- A word is found in front exactly where the text begins with it. -/
theorem dropStart?_eq_some {expected cs rest : List Char} :
    dropStart? expected cs = some rest ↔ cs = expected ++ rest := by
  induction expected generalizing cs with
  | nil => simp [dropStart?]
  | cons e expected inductionHypothesis =>
      cases cs with
      | nil => simp [dropStart?]
      | cons c cs =>
          by_cases same : e = c
          · simp [dropStart?, same, inductionHypothesis]
          · simp [dropStart?, same, Ne.symm same]

/-- A word is found behind exactly where the text ends with it. -/
theorem dropEnd?_eq_some {expected cs rest : List Char} :
    dropEnd? expected cs = some rest ↔ cs = rest ++ expected := by
  simp only [dropEnd?, Option.map_eq_some_iff, dropStart?_eq_some]
  constructor
  · rintro ⟨behind, same, rfl⟩
    rw [← List.reverse_reverse cs, same, List.reverse_append, List.reverse_reverse]
  · rintro rfl
    exact ⟨rest.reverse, by simp⟩

/-- A text has a given end exactly where that end stands behind some beginning. -/
theorem beforeEnd?_eq_some {expected text rest : String} :
    beforeEnd? expected text = some rest ↔ text = rest ++ expected := by
  simp only [beforeEnd?, Option.map_eq_some_iff, dropEnd?_eq_some]
  constructor
  · rintro ⟨before, same, rfl⟩
    rw [← String.toList_inj, same]
    simp
  · rintro rfl
    exact ⟨rest.toList, by simp⟩

/-- A text of which a part was dropped in front does not begin with what was dropped. -/
theorem head_dropWhile {test : Char → Bool} {cs : List Char} :
    ∀ c ∈ (cs.dropWhile test).head?, test c = false := by
  have stopped := List.head?_dropWhile_not test cs
  cases found : (cs.dropWhile test).head? with
  | none => simp
  | some c => simpa [found] using stopped

theorem trim_sublist (cs : List Char) : (trim cs).Sublist cs := by
  have back (word : List Char) : (trimEnd word).Sublist word := by
    have dropped := (List.dropWhile_sublist isBlank (l := word.reverse)).reverse
    rwa [List.reverse_reverse] at dropped
  exact (back _).trans (List.dropWhile_sublist isBlank)

end TypedClient.Text
