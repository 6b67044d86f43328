/-
This file reads a type from its display text. Text with a bracket that has no partner counts only
up to that bracket.
-/

import TypedClient.SourceType.Basic

namespace TypedClient.SourceType

open Text

/-- The type text of a tuple element, without the name that may follow its type. -/
def elementType (element : List Char) : List Char :=
  match cutLast? ' ' element with
  | some (type, _) => if endsWith [','] type || type.isEmpty then element else type
  | none => element

/-- The element text of an array type: what stands before its last pair of square brackets, where
only commas and blanks stand between them. -/
def arrayElement? (display : List Char) : Option (List Char) := do
  let inside ← dropEnd? [']'] display
  let (element, rank) ← cutLast? '[' inside
  if rank.all fun c => c == ',' || isBlank c then some element else none

/-- The text between the parentheses around a tuple type. -/
def tupleInside? (display : List Char) : Option (List Char) := do
  let inside ← dropStart? ['('] display
  dropEnd? [')'] inside

/-- Reads a type of at most the given nesting. -/
def ofDisplayWithin : Nat → List Char → SourceType
  | 0, _ => reference "object"
  | depth + 1, text =>
    let display := dropGlobal (Brackets.balancedStart (trim text))
    if display.isEmpty then reference "object"
    else match dropEnd? ['?'] display with
    | some inner => (ofDisplayWithin depth inner).nullable
    | none =>
      match arrayElement? display with
      | some element => array (ofDisplayWithin depth element)
      | none =>
        match tupleInside? display with
        | some inside =>
          tuple ((Brackets.arguments inside).map fun element =>
            ofDisplayWithin depth (elementType element))
        | none =>
          match Brackets.application? display with
          | some (base, inside) =>
            generic (String.ofList base) ((Brackets.arguments inside).map (ofDisplayWithin depth))
          | none => reference (String.ofList display)

/-- Reads a type from its display text; each step takes away at least one character. -/
def ofDisplay (display : String) : SourceType :=
  ofDisplayWithin (display.length + 1) display.toList

end TypedClient.SourceType
