/-
This file defines the range of the signed integers of 64 bits.
-/

namespace TypedClient

/-- The least signed integer of 64 bits. -/
def leastInt64 : Int := -9223372036854775808

/-- The greatest signed integer of 64 bits. -/
def greatestInt64 : Int := 9223372036854775807

/-- An integer, provided that it is one of the signed integers of 64 bits. -/
def inInt64? (value : Int) : Option Int :=
  if leastInt64 ≤ value && value ≤ greatestInt64 then some value else none

end TypedClient
