/-
This file shows what camel case does to a name: the words of the name are its letters and numerals
in their order, and of an ASCII name only the case of letters changes.
-/

import Mathlib
import TypedClient.Proofs.CaseForms

namespace TypedClient.Text

section Words

theorem flatten_consToFirst (c : Char) (pieces : List (List Char)) :
    (consToFirst c pieces).flatten = c :: pieces.flatten := by
  cases pieces <;> rfl

/-- A cut takes away the separators and nothing else. -/
theorem flatten_splitWhere (isCut : Char → Bool) (cs : List Char) :
    (splitWhere isCut cs).flatten = cs.filter fun c => !isCut c := by
  induction cs with
  | nil => rfl
  | cons c rest inductionHypothesis =>
      rw [splitWhere]
      split
      · rename_i cut
        simp [cut, inductionHypothesis]
      · rename_i uncut
        simp [uncut, flatten_consToFirst, inductionHypothesis]

/-- The words of a piece make up the piece. -/
theorem flatten_humps (state : WordState) (cs : List Char) : (humps state cs).flatten = cs := by
  fun_induction humps state cs with
  | case1 => rfl
  | case2 => rfl
  | case3 state c next rest following _ inductionHypothesis => simp [inductionHypothesis]
  | case4 state c next rest following _ _ inductionHypothesis =>
      simp [flatten_consToFirst, inductionHypothesis]
  | case5 state c next rest following _ _ inductionHypothesis =>
      simp [flatten_consToFirst, inductionHypothesis]

theorem flatten_words (name : List Char) :
    (words name).flatten = name.filter isLetterOrNumeral := by
  have pieces : ((splitWhere (fun c => !isLetterOrNumeral c) name).flatMap (humps .start)).flatten =
      (splitWhere (fun c => !isLetterOrNumeral c) name).flatten := by
    induction splitWhere (fun c => !isLetterOrNumeral c) name with
    | nil => rfl
    | cons piece rest inductionHypothesis =>
        rw [List.flatMap_cons, List.flatten_append, flatten_humps, inductionHypothesis,
          List.flatten_cons]
  rw [words, List.flatten_filter_not_isEmpty, pieces, flatten_splitWhere]
  simp

/-- A name that goes on with separators only has the words of its beginning. -/
theorem words_append_separators {name separators : List Char}
    (letters : ∀ c ∈ name, isLetterOrNumeral c = true)
    (cuts : ∀ c ∈ separators, isLetterOrNumeral c = false) :
    words (name ++ separators) = words name := by
  have uncut : ∀ c ∈ name, (!isLetterOrNumeral c) = false := by
    simpa using letters
  have none (cs : List Char) (cuts : ∀ c ∈ cs, isLetterOrNumeral c = false) :
      (splitWhere (fun c => !isLetterOrNumeral c) cs).flatMap (humps .start) = [] := by
    induction cs with
    | nil => rfl
    | cons c rest inductionHypothesis =>
        obtain ⟨here, later⟩ := List.forall_mem_cons.mp cuts
        simp [splitWhere, here, inductionHypothesis later, humps]
  cases separators with
  | nil => rw [List.append_nil]
  | cons separator rest =>
      obtain ⟨here, later⟩ := List.forall_mem_cons.mp cuts
      have cut : (!isLetterOrNumeral separator) = true := by
        simpa using here
      rw [words, splitWhere_append_cons uncut cut, List.flatMap_cons, none rest later,
        words, splitWhere_of_uncut uncut]
      rfl

end Words

/-- All characters of a text are ASCII. -/
def Ascii (cs : List Char) : Prop :=
  ∀ c ∈ cs, c.toNat < 0x80

instance (cs : List Char) : Decidable (Ascii cs) :=
  List.decidableBAll _ cs

section Case

variable {word : List Char}

/-- An ASCII word in lower case has its letters in lower case. -/
theorem lowerWord_of_ascii (ascii : Ascii word) : lowerWord word = word.map Char.toLower := by
  fun_induction lowerWord word with
  | case1 => rfl
  | case2 c sigma =>
      have same : c = 'Σ' := by simpa using sigma
      subst same
      exact absurd (ascii 'Σ' List.mem_cons_self) (by decide)
  | case3 c =>
      simp [lowerForm, ascii c List.mem_cons_self]
  | case4 c rest _ inductionHypothesis =>
      obtain ⟨here, later⟩ := List.forall_mem_cons.mp ascii
      simp [lowerForm, here, inductionHypothesis later]

/-- A capital first letter changes a word in its case only. -/
theorem map_toLower_capitalWord (ascii : Ascii word) :
    (capitalWord word).map Char.toLower = word.map Char.toLower := by
  cases word with
  | nil => rfl
  | cons c rest =>
      obtain ⟨here, later⟩ := List.forall_mem_cons.mp ascii
      simp [capitalWord, upperForm, here, lowerWord_of_ascii later, Function.comp_def]

end Case

section LowerCamel

variable {name : String}

theorem ascii_of_mem_words (ascii : Ascii name.toList) {word : List Char}
    (member : word ∈ words name.toList) : Ascii word := by
  intro c inside
  have inWords : c ∈ (words name.toList).flatten := List.mem_flatten_of_mem member inside
  rw [flatten_words] at inWords
  exact ascii c (List.mem_of_mem_filter inWords)

/-- Camel case changes the letters and numerals of an ASCII name in their case only. -/
theorem map_toLower_lowerCamel (ascii : Ascii name.toList) :
    (lowerCamel name).toList.map Char.toLower =
      (name.toList.filter isLetterOrNumeral).map Char.toLower := by
  have asciiWords (word : List Char) (member : word ∈ words name.toList) : Ascii word :=
    ascii_of_mem_words ascii member
  rw [← flatten_words, lowerCamel]
  revert asciiWords
  cases words name.toList with
  | nil => simp
  | cons first rest =>
      intro asciiWords
      obtain ⟨here, later⟩ := List.forall_mem_cons.mp asciiWords
      have capitals : (rest.flatMap capitalWord).map Char.toLower =
          rest.flatten.map Char.toLower := by
        induction rest with
        | nil => rfl
        | cons word others inductionHypothesis =>
            obtain ⟨inWord, inOthers⟩ := List.forall_mem_cons.mp later
            rw [List.flatMap_cons, List.map_append, map_toLower_capitalWord inWord,
              inductionHypothesis (List.forall_mem_cons.mpr ⟨here, inOthers⟩) inOthers,
              List.flatten_cons, List.map_append]
      simp [lowerWord_of_ascii here, Function.comp_def, capitals]

end LowerCamel

end TypedClient.Text
