/-
This file describes the two spellings of a status, a number and a member of `StatusCodes`: a number
passes for success from 200 to 299, a member of `StatusCodes` always.
-/

import Mathlib
import TypedClient.Backend.Response
import TypedClient.Proofs.Pieces
import TypedClient.Proofs.WholeNumbers

namespace TypedClient.Response

open Text Literal

/-- What stands in front of the digits in a member of `StatusCodes`. -/
def memberStart : List Char :=
  "StatusCodes.Status".toList

/-- A status is a row of decimal digits. -/
def isNumber (status : String) : Bool :=
  !status.toList.isEmpty && status.toList.all Char.isDigit

/-- A status is the member of `StatusCodes` for a row of decimal digits. -/
def isMember (status : String) : Bool :=
  (dropStart? memberStart status.toList).any fun behind => behind.head?.any Char.isDigit

def isSpelled (status : String) : Bool :=
  isNumber status || isMember status

/-- The number of a status in either spelling. -/
def codeOf (status : String) : Nat :=
  digitsValue
    (((dropStart? memberStart status.toList).getD status.toList).takeWhile Char.isDigit)

/-- A number stands for success. -/
def isSuccessCode (code : Nat) : Bool :=
  200 ≤ code && code < 300

theorem number_cases {status : String} (number : isNumber status = true) :
    status.toList ≠ [] ∧ (∀ c ∈ status.toList, c.isDigit = true) ∧
      codeOf status = digitsValue status.toList := by
  simp only [isNumber, Bool.and_eq_true, Bool.not_eq_true', List.isEmpty_eq_false_iff,
    List.all_eq_true] at number
  obtain ⟨some, decimal⟩ := number
  have bare : dropStart? memberStart status.toList = none := by
    refine Option.eq_none_iff_forall_ne_some.mpr ?_
    intro behind found
    have letter := decimal 'S' (dropStart?_eq_some.mp found ▸ List.mem_cons_self)
    contradiction
  refine ⟨some, decimal, ?_⟩
  rw [codeOf, bare, Option.getD_none, List.takeWhile_eq_self_iff.mpr decimal]

theorem member_cases {status : String} (member : isMember status = true) :
    ∃ behind, status.toList = memberStart ++ behind := by
  obtain ⟨behind, found, -⟩ := (Option.any_eq_true _ _).mp member
  exact ⟨behind, dropStart?_eq_some.mp found⟩

theorem numberChars?_of_letter (rest : List Char) : numberChars? ('S' :: rest) = none := by
  have front : trim ('S' :: rest) = ['S'] ++ trimEnd rest :=
    trim_append_of_unblank (List.cons_ne_nil _ _) (List.forall_mem_singleton.mpr (by decide)) rest
  rw [numberChars?, front, List.singleton_append, List.filter_cons_of_pos (by decide)]
  generalize (trimEnd rest).filter (· != '_') = behind
  have body : unsignedNumber? ('S' :: behind) =
      Binary64.read? ('S' :: dropEndWhile isNumberSuffix behind) := by
    rw [← dropEndWhile_cons_of_kept (by decide)]
    rfl
  refine body.trans ?_
  simp [Binary64.read?, Binary64.readUnsigned?]

/-- The number of a status in digits is compared exactly. -/
theorem isSuccess_of_number {status : String} (number : isNumber status = true) :
    isSuccess status = isSuccessCode (codeOf status) := by
  obtain ⟨some, decimal, code⟩ := number_cases number
  have compared (bound : Nat) (small : bound < 2 ^ 53) :
      (Binary64.ofDecimal false status.toList 0).less (Binary64.ofInt bound) =
        decide (codeOf status < bound) := by
    rw [Bool.eq_iff_iff, Binary64.ofDecimal_less_iff decimal small, code, decide_eq_true_iff]
  have least := compared 200 (by decide)
  have limit := compared 300 (by decide)
  simp only [Nat.cast_ofNat] at least limit
  simp only [isSuccess, trim_of_digits decimal, numberChars?_of_digits some decimal]
  rw [least, limit, isSuccessCode]
  simp only [← decide_not, Nat.not_lt]

/-- A member of `StatusCodes` passes for success, whatever its number: the digit is sought behind
the first `Status`, which is the beginning of `StatusCodes` itself. -/
theorem isSuccess_of_member {status : String} (member : isMember status = true) :
    isSuccess status = true := by
  obtain ⟨behind, whole⟩ := member_cases member
  have unblank : (memberStart.all fun c => !isBlank c) = true := by decide
  have trimmed : trim status.toList = memberStart ++ trimEnd behind := by
    rw [whole]
    refine trim_append_of_unblank (by decide) ?_ behind
    simpa using List.all_eq_true.mp unblank
  have noNumber : numberChars? (memberStart ++ trimEnd behind) = none :=
    numberChars?_of_letter ("tatusCodes.Status".toList ++ trimEnd behind)
  have cut : cutFirst? "Status".toList (memberStart ++ trimEnd behind) =
      some ([], 'C' :: ("odes.Status".toList ++ trimEnd behind)) := rfl
  rw [isSuccess, trimmed]
  simp only [noNumber, cut]
  rfl

theorem isSuccess_of_spelled {status : String} (spelled : isSpelled status = true) :
    isSuccess status = (isMember status || isSuccessCode (codeOf status)) := by
  by_cases member : isMember status = true
  · rw [isSuccess_of_member member, member, Bool.true_or]
  · have number : isNumber status = true := by
      simpa [isSpelled, member] using spelled
    rw [isSuccess_of_number number, Bool.eq_false_iff.mpr member, Bool.false_or]

/-- A status in one of its spellings is no `typeof` expression. -/
theorem typeOperand?_of_spelled {status : String} (spelled : isSpelled status = true) :
    typeOperand? status = none := by
  have first : ∃ c rest, status.toList = c :: rest ∧ isBlank c = false ∧ c ≠ 't' := by
    rcases Bool.or_eq_true_iff.mp spelled with number | member
    · obtain ⟨some, decimal, -⟩ := number_cases number
      obtain ⟨c, rest, whole⟩ := List.exists_cons_of_ne_nil some
      have plain : ∀ c : Char, c.isDigit = true → isBlank c = false ∧ c ≠ 't' :=
        holds_of_isDigit (by decide)
      exact ⟨c, rest, whole, plain c (decimal c (whole ▸ List.mem_cons_self))⟩
    · obtain ⟨behind, whole⟩ := member_cases member
      exact ⟨'S', _, whole, by decide⟩
  obtain ⟨c, rest, whole, unblank, different⟩ := first
  have front : trim (c :: rest) = [c] ++ trimEnd rest :=
    trim_append_of_unblank (List.cons_ne_nil _ _) (List.forall_mem_singleton.mpr unblank) rest
  have missing : dropStart? "typeof(".toList ([c] ++ trimEnd rest) = none := by
    simp [dropStart?, Ne.symm different]
  rw [typeOperand?, whole, front, between?, missing]
  rfl

/-- Two argument texts are the same, or spell one status. -/
def SameStatus (left right : String) : Prop :=
  left = right ∨ (isSpelled left = true ∧ isSpelled right = true ∧ codeOf left = codeOf right)

namespace SameStatus

variable {left right : String}

/-- Two spellings of a status have one number. -/
theorem codeOf_eq (same : SameStatus left right) : codeOf left = codeOf right := by
  rcases same with rfl | ⟨-, -, code⟩
  · rfl
  · exact code

theorem isSpelled_right (same : SameStatus left right) (spelled : isSpelled left = true) :
    isSpelled right = true := by
  rcases same with rfl | ⟨-, other, -⟩
  · exact spelled
  · exact other

theorem typeOperand?_eq (same : SameStatus left right) : typeOperand? left = typeOperand? right := by
  rcases same with rfl | ⟨first, second, -⟩
  · rfl
  · rw [typeOperand?_of_spelled first, typeOperand?_of_spelled second]

end SameStatus

end TypedClient.Response
