/-
This file defines the numbers of the binary64 format. A finite number is a sign and a whole count
of the smallest positive number of the format, so order and wholeness are facts about integers.
-/

import TypedClient.Number.Range

namespace TypedClient

/-- A number of the binary64 format. -/
inductive Binary64
  | nan
  | infinite (negative : Bool)
  /-- The number with the given sign whose size is `units` times `2 ^ -1074`. -/
  | finite (negative : Bool) (units : Nat)
  deriving DecidableEq, Repr, Inhabited

namespace Binary64

/-- How many units make one. -/
def unitsOfOne : Nat := Nat.pow 2 1074

/-- The first count of units that is too large for a finite number. -/
def unitLimit : Nat := Nat.pow 2 (1024 + 1074)

/-- The distance between neighbouring numbers around a count of units. -/
def spacing (units : Nat) : Nat := Nat.pow 2 (units.log2 - 52)

/-- The whole number nearest to a quotient; a tie goes to the even neighbour. -/
def nearestQuotient (numerator denominator : Nat) : Nat :=
  let quotient := numerator / denominator
  let twiceRest := 2 * (numerator % denominator)
  if twiceRest > denominator || (twiceRest == denominator && quotient % 2 == 1) then quotient + 1
  else quotient

/-- The number nearest to a signed quotient; a tie goes to the even neighbour. -/
def ofQuotient (negative : Bool) (numerator denominator : Nat) : Binary64 :=
  let scaled := numerator * unitsOfOne
  let gap := spacing (scaled / denominator)
  let units := nearestQuotient scaled (denominator * gap) * gap
  if units < unitLimit then .finite negative units else .infinite negative

/-- The number nearest to an integer. -/
def ofInt (value : Int) : Binary64 :=
  ofQuotient (decide (value < 0)) value.natAbs 1

/-- The number of opposite sign. -/
def negate : Binary64 → Binary64
  | nan => nan
  | infinite negative => infinite !negative
  | finite negative units => finite (!negative) units

/-- Tells whether the number is neither infinite nor undefined. -/
def isFinite : Binary64 → Bool
  | finite _ _ => true
  | _ => false

/-- Tells whether the number has no fractional part; only finite numbers can be whole. -/
def isWhole : Binary64 → Bool
  | finite _ units => units % unitsOfOne == 0
  | _ => false

/-- The integer part, taken toward zero; zero where there is none. -/
def truncate : Binary64 → Int
  | finite negative units =>
    let size : Int := units / unitsOfOne
    if negative then -size else size
  | _ => 0

/-- The integer part, clamped to the signed integers of 64 bits. -/
def toClampedInt : Binary64 → Int
  | nan => 0
  | infinite negative => if negative then leastInt64 else greatestInt64
  | number@(finite _ _) => max leastInt64 (min greatestInt64 number.truncate)

/-- The place of a number in the order; undefined numbers have none. -/
def place? : Binary64 → Option Int
  | nan => none
  | infinite negative => some (if negative then -(unitLimit : Int) else unitLimit)
  | finite negative units => some (if negative then -(units : Int) else units)

/-- Tells whether one number is less than another; nothing is less than or greater than an
undefined number. -/
def less (left right : Binary64) : Bool :=
  match left.place?, right.place? with
  | some leftPlace, some rightPlace => decide (leftPlace < rightPlace)
  | _, _ => false

/-- Tells whether two numbers are equal as numbers; both zeros are one number. -/
def same (left right : Binary64) : Bool :=
  match left.place?, right.place? with
  | some leftPlace, some rightPlace => decide (leftPlace = rightPlace)
  | _, _ => false

end Binary64

end TypedClient
