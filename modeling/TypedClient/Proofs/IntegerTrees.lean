/-
This file defines integer expressions with their values in two's-complement arithmetic of 64 bits,
and shows that the constants that are read from text have the same values.
-/

import Mathlib
import TypedClient.Literal.Constant

namespace TypedClient

open Literal

namespace ConstantOperator

/-- The result of the operation on 64 bits; bits that leave them are lost. -/
def onBits (operator : ConstantOperator) (left right : BitVec 64) : BitVec 64 :=
  match operator with
  | bitOr => left ||| right
  | bitXor => left ^^^ right
  | bitAnd => left &&& right
  | shiftLeft => left <<< right.toNat
  | shiftRight => left.sshiftRight right.toNat
  | add => left + right
  | subtract => left - right
  | multiply => left * right

/-- Tells whether the shift amount is outside 0 to 63, or the exact result needs more bits. -/
def fails (operator : ConstantOperator) (left right : BitVec 64) : Bool :=
  match operator with
  | bitOr | bitXor | bitAnd => false
  | shiftLeft | shiftRight => right.toInt < 0 || 63 < right.toInt
  | add => left.saddOverflow right
  | subtract => left.ssubOverflow right
  | multiply => left.smulOverflow right

end ConstantOperator

/-- An integer expression. -/
inductive IntegerTree
  | literal (value : Fin (2 ^ 53))
  | name (text : String)
  | negate (operand : IntegerTree)
  | plus (operand : IntegerTree)
  | complement (operand : IntegerTree)
  | cast (type : String) (operand : IntegerTree)
  | binary (operator : ConstantOperator) (left right : IntegerTree)
  deriving DecidableEq, Repr

namespace IntegerTree

variable (lookup : String → Option (BitVec 64))

/-- The value of an expression in which a name stands for what `lookup` knows. -/
def value? : IntegerTree → Option (BitVec 64)
  | literal value => some (BitVec.ofNat 64 value)
  | name text => lookup text
  | negate operand => do
    let value ← operand.value?
    if value.negOverflow then none else some (-value)
  | plus operand => operand.value?
  | complement operand => operand.value?.map (~~~ ·)
  | cast _ operand => operand.value?
  | binary operator left right => do
    let leftValue ← left.value?
    let rightValue ← right.value?
    if operator.fails leftValue rightValue then none
    else some (operator.onBits leftValue rightValue)

/-- The expression and all expressions within it. -/
def parts : IntegerTree → List IntegerTree
  | literal value => [literal value]
  | name text => [name text]
  | negate operand => negate operand :: operand.parts
  | plus operand => plus operand :: operand.parts
  | complement operand => complement operand :: operand.parts
  | cast type operand => cast type operand :: operand.parts
  | binary operator left right => binary operator left right :: (left.parts ++ right.parts)

/-- An expression is at fault if it has no value although its operands have values. -/
inductive IsFault : IntegerTree → Prop
  | unresolved {text : String} (unknown : lookup text = none) : IsFault (name text)
  | negation {operand : IntegerTree} {value : BitVec 64}
      (known : operand.value? lookup = some value)
      (overflow : value.negOverflow = true) : IsFault (negate operand)
  | operation {operator : ConstantOperator} {left right : IntegerTree}
      {leftValue rightValue : BitVec 64} (leftKnown : left.value? lookup = some leftValue)
      (rightKnown : right.value? lookup = some rightValue)
      (fails : operator.fails leftValue rightValue = true) : IsFault (binary operator left right)

variable {lookup}

theorem IsFault.value?_eq_none {tree : IntegerTree} (fault : IsFault lookup tree) :
    tree.value? lookup = none := by
  cases fault with
  | unresolved unknown => exact unknown
  | negation known overflow => simp [value?, known, overflow]
  | operation leftKnown rightKnown fails => simp [value?, leftKnown, rightKnown, fails]

/-- A negation has no value if its operand has none or the exact result needs more bits. -/
theorem value?_negate_eq_none_iff {operand : IntegerTree} :
    (negate operand).value? lookup = none ↔
      operand.value? lookup = none ∨ IsFault lookup (negate operand) := by
  constructor
  · intro missing
    cases known : operand.value? lookup with
    | none => exact .inl rfl
    | some value => exact .inr (.negation known (by simpa [value?, known] using missing))
  · rintro (missing | fault)
    · simp [value?, missing]
    · exact fault.value?_eq_none

/-- An operation has no value if an operand has none or the operation fails. -/
theorem value?_binary_eq_none_iff {operator : ConstantOperator} {left right : IntegerTree} :
    (binary operator left right).value? lookup = none ↔
      (left.value? lookup = none ∨ right.value? lookup = none) ∨
        IsFault lookup (binary operator left right) := by
  constructor
  · intro missing
    cases leftKnown : left.value? lookup with
    | none => exact .inl (.inl rfl)
    | some leftValue =>
        cases rightKnown : right.value? lookup with
        | none => exact .inl (.inr rfl)
        | some rightValue =>
            exact .inr (.operation leftKnown rightKnown
              (by simpa [value?, leftKnown, rightKnown] using missing))
  · rintro ((missing | missing) | fault)
    · simp [value?, missing]
    · simp [value?, missing]
    · exact fault.value?_eq_none

/-- An expression has no value exactly if a part of it is at fault. -/
theorem value?_eq_none_iff (tree : IntegerTree) :
    tree.value? lookup = none ↔ ∃ part ∈ tree.parts, IsFault lookup part := by
  have sound (part : IntegerTree) : IsFault lookup part → part.value? lookup = none :=
    IsFault.value?_eq_none
  induction tree with
  | literal value =>
      have faultless : ¬ IsFault lookup (literal value) := nofun
      simp [value?, parts, faultless]
  | name text =>
      have fault : IsFault lookup (name text) ↔ lookup text = none := ⟨sound _, .unresolved⟩
      simp [value?, parts, fault]
  | negate operand inductionHypothesis =>
      simp [value?_negate_eq_none_iff, inductionHypothesis, parts, or_comm]
  | plus operand inductionHypothesis =>
      have faultless : ¬ IsFault lookup (plus operand) := nofun
      simp [value?, inductionHypothesis, parts, faultless]
  | complement operand inductionHypothesis =>
      have faultless : ¬ IsFault lookup (complement operand) := nofun
      simp [value?, inductionHypothesis, parts, faultless]
  | cast type operand inductionHypothesis =>
      have faultless : ¬ IsFault lookup (cast type operand) := nofun
      simp [value?, inductionHypothesis, parts, faultless]
  | binary operator left right leftHypothesis rightHypothesis =>
      simp [value?_binary_eq_none_iff, leftHypothesis, rightHypothesis, parts, or_and_right,
        exists_or, or_comm]

end IntegerTree

/-- A result is in range unless it needs more than 64 bits. -/
theorem inInt64?_eq {exact : Int} {rounded : BitVec 64} {overflow : Bool}
    (outside : overflow = true ↔ exact < -2 ^ 63 ∨ 2 ^ 63 ≤ exact)
    (same : ¬ overflow = true → rounded.toInt = exact) :
    inInt64? exact = if overflow then none else some rounded.toInt := by
  have range : (leastInt64 ≤ exact && exact ≤ greatestInt64) = !overflow := by
    rw [Bool.eq_iff_iff, Bool.not_eq_true', ← Bool.not_eq_true, outside, Bool.and_eq_true,
      decide_eq_true_eq, decide_eq_true_eq, leastInt64, greatestInt64]
    omega
  rw [inInt64?, range]
  cases overflow with
  | true => rfl
  | false => exact congrArg some (same Bool.false_ne_true).symm

/-- A negation is computed on the bits. -/
theorem inInt64?_neg (value : BitVec 64) :
    inInt64? (-value.toInt) = if value.negOverflow then none else some (-value).toInt := by
  refine inInt64?_eq ?_ BitVec.toInt_neg_of_not_negOverflow
  have lower := value.le_toInt
  have upper := value.toInt_lt
  simp only [BitVec.negOverflow, beq_iff_eq]
  omega

theorem toInt_complement (value : BitVec 64) : (~~~value).toInt = -value.toInt - 1 := by
  have small := value.isLt
  rw [BitVec.toInt_eq_toNat_cond, BitVec.toInt_eq_toNat_cond, BitVec.toNat_not]
  split <;> split <;> omega

namespace ConstantOperator

/-- An amount from 0 to 63 is the count that the bits stand for. -/
theorem toNat_toInt_of_amount {amount : BitVec 64} (natural : 0 ≤ amount.toInt) :
    amount.toInt.toNat = amount.toNat := by
  have small := amount.isLt
  rw [BitVec.toInt_eq_toNat_cond] at natural ⊢
  split at natural <;> omega

/-- A shift to the left is computed on the bits. -/
theorem shiftLeft?_toInt (value amount : BitVec 64) :
    shiftLeft? value.toInt amount.toInt =
      if amount.toInt < 0 || 63 < amount.toInt then none
      else some (value <<< amount.toNat).toInt := by
  by_cases inside : 0 ≤ amount.toInt ∧ amount.toInt < 64
  · have count := toNat_toInt_of_amount inside.1
    have shifted :
        (value <<< amount.toNat).toInt = wrap (value.toInt * Nat.pow 2 amount.toNat) := by
      rw [BitVec.toInt_shiftLeft, Nat.shiftLeft_eq, wrap, BitVec.toInt_eq_toNat_bmod,
        Nat.cast_mul]
      exact Int.bmod_mul_bmod.symm
    rw [shiftLeft?, if_pos (by simpa using inside), if_neg (by simp; omega), shifted, count]
  · rw [shiftLeft?, if_neg (by simpa using inside), if_pos (by simp; omega)]

/-- A shift to the right is computed on the bits and keeps the sign. -/
theorem shiftRight?_toInt (value amount : BitVec 64) :
    shiftRight? value.toInt amount.toInt =
      if amount.toInt < 0 || 63 < amount.toInt then none
      else some (value.sshiftRight amount.toNat).toInt := by
  by_cases inside : 0 ≤ amount.toInt ∧ amount.toInt < 64
  · have count := toNat_toInt_of_amount inside.1
    have shifted : (value.sshiftRight amount.toNat).toInt =
        value.toInt.fdiv (Nat.pow 2 amount.toNat) := by
      rw [BitVec.toInt_sshiftRight, Int.shiftRight_eq_div_pow,
        Int.fdiv_eq_ediv_of_nonneg _ (Int.natCast_nonneg _)]
      rfl
    rw [shiftRight?, if_pos (by simpa using inside), if_neg (by simp; omega), shifted, count]
  · rw [shiftRight?, if_neg (by simpa using inside), if_pos (by simp; omega)]

/-- An operation is computed on the bits. -/
theorem apply_toInt (operator : ConstantOperator) (left right : BitVec 64) :
    operator.apply left.toInt right.toInt =
      if operator.fails left right then none else some (operator.onBits left right).toInt := by
  cases operator with
  | bitOr | bitXor | bitAnd => simp [apply, bitwise, fails, onBits, BitVec.ofInt_toInt]
  | shiftLeft => exact shiftLeft?_toInt left right
  | shiftRight => exact shiftRight?_toInt left right
  | add =>
      exact inInt64?_eq (by simp [fails, BitVec.saddOverflow, or_comm])
        BitVec.toInt_add_of_not_saddOverflow
  | subtract =>
      exact inInt64?_eq (by simp [fails, BitVec.ssubOverflow, or_comm])
        BitVec.toInt_sub_of_not_ssubOverflow
  | multiply =>
      exact inInt64?_eq (by simp [fails, BitVec.smulOverflow, or_comm])
        BitVec.toInt_mul_of_not_smulOverflow

end ConstantOperator

namespace IntegerTree

variable {lookup : String → Option (BitVec 64)}

/-- The constant that is read for an expression; plus signs and casts leave no trace. -/
def constant : IntegerTree → Constant
  | literal value => .number value
  | name text => .name text
  | negate operand => .negate operand.constant
  | plus operand => operand.constant
  | complement operand => .complement operand.constant
  | cast _ operand => operand.constant
  | binary operator left right => .binary operator left.constant right.constant

/-- The constant of an expression has the value of the expression. -/
theorem value?_constant (tree : IntegerTree) :
    tree.constant.value? (fun text => (lookup text).map BitVec.toInt) =
      (tree.value? lookup).map BitVec.toInt := by
  induction tree with
  | literal value =>
      have small : (value : Nat) < 2 ^ 53 := value.isLt
      have kept : (BitVec.ofNat 64 value).toInt = value := by
        rw [BitVec.toInt_eq_toNat_cond, BitVec.toNat_ofNat]
        omega
      simp [constant, Constant.value?, value?, kept]
  | name text => rfl
  | negate operand inductionHypothesis =>
      simp only [constant, Constant.value?, value?, inductionHypothesis]
      cases operand.value? lookup with
      | none => rfl
      | some value => simp [inInt64?_neg, apply_ite]
  | plus operand inductionHypothesis => exact inductionHypothesis
  | complement operand inductionHypothesis =>
      simp only [constant, Constant.value?, value?, inductionHypothesis]
      cases operand.value? lookup with
      | none => rfl
      | some value => exact congrArg some (toInt_complement value).symm
  | cast type operand inductionHypothesis => exact inductionHypothesis
  | binary operator left right leftHypothesis rightHypothesis =>
      simp only [constant, Constant.value?, value?, leftHypothesis, rightHypothesis]
      cases left.value? lookup with
      | none => rfl
      | some leftValue =>
          cases right.value? lookup with
          | none => rfl
          | some rightValue => simp [ConstantOperator.apply_toInt, apply_ite]

end IntegerTree

end TypedClient
