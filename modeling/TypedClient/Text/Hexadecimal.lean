/-
This file reads hexadecimal digits.
-/

namespace TypedClient.Text

/-- The value of a hexadecimal digit. -/
def hexValue? (c : Char) : Option Nat :=
  if c.isDigit then some (c.toNat - '0'.toNat)
  else if 'a' ≤ c ∧ c ≤ 'f' then some (c.toNat - 'a'.toNat + 10)
  else if 'A' ≤ c ∧ c ≤ 'F' then some (c.toNat - 'A'.toNat + 10)
  else none

/-- The value of a row of digits to a base of at most sixteen. -/
def numberTo? (base : Nat) (digits : List Char) : Option Nat := do
  let values ← digits.mapM hexValue?
  if values.all (· < base) then some (values.foldl (fun value digit => base * value + digit) 0)
  else none

end TypedClient.Text
