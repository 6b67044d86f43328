/-
This file shows that the stem of a generated file is a plain name: it holds neither a slash nor a
point.
-/

import TypedClient.Client.Name
import TypedClient.Proofs.CaseForms

namespace TypedClient.Text

/-- A character that has no meaning in a path. -/
def IsPlain (c : Char) : Prop :=
  c ≠ '/' ∧ c ≠ '.'

instance (c : Char) : Decidable (IsPlain c) :=
  inferInstanceAs (Decidable (_ ∧ _))

/-- Slash and point are signs. -/
theorem isPlain_of_not_isSign {c : Char} (noSign : ¬IsSign c) : IsPlain c := by
  constructor
  · rintro rfl
    exact noSign (by decide)
  · rintro rfl
    exact noSign (by decide)

end TypedClient.Text

namespace TypedClient.Name

open Text

/-- The stem of a file holds neither a slash nor a point. -/
theorem isPlain_of_mem_fileStem {name : String} : ∀ c ∈ (fileStem name).toList, IsPlain c := by
  rw [fileStem, hyphenated, String.toList_ofList]
  refine forall_mem_intercalate (by simp [IsPlain]) ?_
  intro piece member
  obtain ⟨word, inWords, rfl⟩ := List.mem_map.mp member
  exact fun c inside =>
    isPlain_of_not_isSign (not_isSign_of_mem_lowerWord (letter_of_mem_words inWords) c inside)

end TypedClient.Name
