/-
This file shows that the words of a name consist of letters and numerals, and that these turn into
no sign of ASCII when their case is changed.
-/

import Mathlib.Data.List.Basic
import TypedClient.Proofs.Pieces
import TypedClient.Text.Words

namespace TypedClient.Text

/-- A character of ASCII that is neither a letter nor a digit, nor the null character. -/
def IsSign (c : Char) : Prop :=
  0 < c.toNat ∧ c.toNat < 0x80 ∧ c.isAlphanum = false

instance (c : Char) : Decidable (IsSign c) :=
  inferInstanceAs (Decidable (_ ∧ _))

theorem not_isSign_of_le {c : Char} (beyond : 0x80 ≤ c.toNat) : ¬IsSign c :=
  fun sign => Nat.not_le.mpr sign.2.1 beyond

theorem isLetterOrNumeral_of_ascii {c : Char} (ascii : c.toNat < 0x80) :
    isLetterOrNumeral c = c.isAlphanum := by
  simp [isLetterOrNumeral, isLetter, isNumeral, ascii, Char.isAlphanum]

/-- An ASCII letter or digit is one in either case. -/
theorem isAlphanum_of_ascii {c : Char} (ascii : c.toNat < 0x80)
    (letter : isLetterOrNumeral c = true) :
    c.toLower.isAlphanum = true ∧ c.toUpper.isAlphanum = true := by
  have table : ∀ code < 0x80, (Char.ofNat code).isAlphanum = true →
      (Char.ofNat code).toLower.isAlphanum = true ∧
        (Char.ofNat code).toUpper.isAlphanum = true := by
    decide +kernel
  have entry := table c.toNat ascii
  rw [Char.ofNat_toNat] at entry
  rw [isLetterOrNumeral_of_ascii ascii] at letter
  exact entry letter

/-- Case mappings give characters beyond ASCII, or single letters. -/
def MissesSigns (shifts : List CodeShift) : Prop :=
  ∀ entry ∈ shifts, 0x80 ≤ entry.run.first + entry.shift ∨
    entry.run.first = entry.run.last ∧
      (Char.ofNat (entry.run.first + entry.shift).toNat).isAlphanum = true

instance (shifts : List CodeShift) : Decidable (MissesSigns shifts) :=
  inferInstanceAs (Decidable (∀ entry ∈ shifts, _))

theorem missesSigns_lowerShifts : MissesSigns lowerShifts := by
  decide +kernel

theorem missesSigns_upperShifts : MissesSigns upperShifts := by
  decide +kernel

/-- The value of a character that is given by its code point, unless that is the null character. -/
theorem toNat_ofNat_of_pos {code : Nat} (positive : 0 < (Char.ofNat code).toNat) :
    (Char.ofNat code).toNat = code := by
  by_cases valid : code.isValidChar
  · rw [Char.ofNat, dif_pos valid]
    rfl
  · rw [Char.ofNat, dif_neg valid] at positive
    contradiction

theorem not_isSign_moveBy {shifts : List CodeShift} (misses : MissesSigns shifts) {c : Char}
    (letter : ¬IsSign c) : ¬IsSign (moveBy shifts c) := by
  unfold moveBy
  split
  case h_1 entry found =>
    have inside := List.find?_some found
    simp only [CodeRun.holds, Bool.and_eq_true, decide_eq_true_eq] at inside
    rintro ⟨least, greatest, other⟩
    rcases misses entry (List.mem_of_find?_eq_some found) with beyond | ⟨single, alphanumeric⟩
    · rw [toNat_ofNat_of_pos least] at greatest
      omega
    · have only : c.toNat = entry.run.first := by omega
      rw [only, alphanumeric] at other
      contradiction
  case h_2 => exact letter

theorem not_isSign_of_letter {c : Char} (letter : isLetterOrNumeral c = true) : ¬IsSign c := by
  rintro ⟨-, ascii, other⟩
  rw [isLetterOrNumeral_of_ascii ascii, other] at letter
  contradiction

/-- The lower case form of a letter or numeral has no signs. -/
theorem not_isSign_of_mem_lowerForm {c d : Char} (letter : isLetterOrNumeral c = true)
    (member : d ∈ lowerForm c) : ¬IsSign d := by
  unfold lowerForm at member
  split at member
  case isTrue ascii =>
    rw [List.mem_singleton.mp member]
    rintro ⟨-, -, other⟩
    rw [(isAlphanum_of_ascii ascii letter).1] at other
    contradiction
  case isFalse =>
    split at member
    case isTrue =>
      rcases List.mem_cons.mp member with rfl | mark
      · decide
      · rw [List.mem_singleton.mp mark]
        exact not_isSign_of_le (by decide)
    case isFalse =>
      rw [List.mem_singleton.mp member]
      exact not_isSign_moveBy missesSigns_lowerShifts (not_isSign_of_letter letter)

/-- The upper case form of a letter or numeral has no signs. -/
theorem not_isSign_of_mem_upperForm {c d : Char} (letter : isLetterOrNumeral c = true)
    (member : d ∈ upperForm c) : ¬IsSign d := by
  unfold upperForm at member
  split at member
  case isTrue ascii =>
    rw [List.mem_singleton.mp member]
    rintro ⟨-, -, other⟩
    rw [(isAlphanum_of_ascii ascii letter).2] at other
    contradiction
  case isFalse =>
    split at member
    case h_1 entry found =>
      have long : ∀ entry ∈ longUppers, ∀ code ∈ entry.2, ¬IsSign (Char.ofNat code) := by
        decide +kernel
      obtain ⟨code, inEntry, rfl⟩ := List.mem_map.mp member
      exact long entry (List.mem_of_find?_eq_some found) code inEntry
    case h_2 =>
      rw [List.mem_singleton.mp member]
      exact not_isSign_moveBy missesSigns_upperShifts (not_isSign_of_letter letter)

section Words

variable {word : List Char}

theorem not_isSign_of_mem_lowerWord (letters : ∀ c ∈ word, isLetterOrNumeral c = true) :
    ∀ d ∈ lowerWord word, ¬IsSign d := by
  fun_induction lowerWord word with
  | case1 => simp
  | case2 => exact List.forall_mem_singleton.mpr (not_isSign_of_le (by decide))
  | case3 c =>
      exact fun d member => not_isSign_of_mem_lowerForm (letters c List.mem_cons_self) member
  | case4 c rest _ inductionHypothesis =>
      obtain ⟨here, later⟩ := List.forall_mem_cons.mp letters
      exact List.forall_mem_append.mpr
        ⟨fun d member => not_isSign_of_mem_lowerForm here member, inductionHypothesis later⟩

theorem not_isSign_of_mem_capitalWord (letters : ∀ c ∈ word, isLetterOrNumeral c = true) :
    ∀ d ∈ capitalWord word, ¬IsSign d := by
  cases word with
  | nil => simp [capitalWord]
  | cons c rest =>
      obtain ⟨here, later⟩ := List.forall_mem_cons.mp letters
      exact List.forall_mem_append.mpr
        ⟨fun d member => not_isSign_of_mem_upperForm here member, not_isSign_of_mem_lowerWord later⟩

theorem forall_mem_humps {holds : Char → Prop} (state : WordState) {cs : List Char}
    (all : ∀ c ∈ cs, holds c) : ∀ word ∈ humps state cs, ∀ c ∈ word, holds c := by
  fun_induction humps state cs with
  | case1 => simp
  | case2 => simpa using all
  | case3 state c next rest following ends inductionHypothesis =>
      obtain ⟨here, later⟩ := List.forall_mem_cons.mp all
      exact List.forall_mem_cons.mpr ⟨by simpa using here, inductionHypothesis later⟩
  | case4 state c next rest following _ _ inductionHypothesis =>
      obtain ⟨here, later⟩ := List.forall_mem_cons.mp all
      exact List.forall_mem_cons.mpr
        ⟨by simp, forall_mem_consToFirst here (inductionHypothesis later)⟩
  | case5 state c next rest following _ _ inductionHypothesis =>
      obtain ⟨here, later⟩ := List.forall_mem_cons.mp all
      exact forall_mem_consToFirst here (inductionHypothesis later)

theorem letter_of_mem_words {name : List Char} (member : word ∈ words name) :
    ∀ c ∈ word, isLetterOrNumeral c = true := by
  obtain ⟨piece, inPieces, inPiece⟩ := List.mem_flatMap.mp (List.mem_filter.mp member).1
  refine forall_mem_humps .start ?_ word inPiece
  intro c inside
  simpa using uncut_of_mem_splitWhere name piece inPieces c inside

theorem not_isSign_of_mem_lowerCamel {name : String} :
    ∀ c ∈ (lowerCamel name).toList, ¬IsSign c := by
  have letters (word : List Char) (member : word ∈ words name.toList) :=
    letter_of_mem_words member
  rw [lowerCamel]
  revert letters
  cases words name.toList with
  | nil => simp
  | cons first rest =>
      intro letters
      obtain ⟨here, later⟩ := List.forall_mem_cons.mp letters
      rw [String.toList_ofList]
      refine List.forall_mem_append.mpr ⟨not_isSign_of_mem_lowerWord here, fun c member => ?_⟩
      obtain ⟨word, inRest, inWord⟩ := List.mem_flatMap.mp member
      exact not_isSign_of_mem_capitalWord (later word inRest) c inWord

end Words

end TypedClient.Text
