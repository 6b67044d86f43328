/-
This file takes type texts apart without cutting through brackets. The four kinds of brackets
count alike.
-/

import TypedClient.Text.Blank
import TypedClient.Text.Piece

namespace TypedClient.Brackets

open Text

def opens (c : Char) : Bool :=
  c == '<' || c == '(' || c == '[' || c == '{'

def closes (c : Char) : Bool :=
  c == '>' || c == ')' || c == ']' || c == '}'

/-- The depth behind a character; a bracket that closes nothing leaves depth zero as it is. -/
def depthAfter (depth : Nat) (c : Char) : Nat :=
  if opens c then depth + 1 else if closes c then depth - 1 else depth

/-- The pieces between the separators at depth zero, with all their blanks. -/
def splitOutside (separator : Char) : Nat → List Char → List (List Char)
  | _, [] => [[]]
  | depth, c :: rest =>
    if depth == 0 && c == separator then [] :: splitOutside separator 0 rest
    else consToFirst c (splitOutside separator (depthAfter depth c) rest)

/-- The trimmed pieces between the separators at depth zero that are not empty. -/
def pieces (separator : Char) (cs : List Char) : List (List Char) :=
  ((splitOutside separator 0 cs).map trim).filter (fun piece => !piece.isEmpty)

def arguments (cs : List Char) : List (List Char) :=
  pieces ',' cs

def unionMembers (cs : List Char) : List (List Char) :=
  pieces '|' cs

/-- Tells whether a type is a union of several members. -/
def isUnion (cs : List Char) : Bool :=
  (unionMembers cs).length > 1

/-- The text up to the angle bracket that closes the one in front, and the text behind it. -/
def closeAngle? : Nat → List Char → Option (List Char × List Char)
  | _, [] => none
  | depth, c :: rest =>
    if c == '<' then (closeAngle? (depth + 1) rest).map fun parts => (c :: parts.1, parts.2)
    else if c == '>' then
      if depth == 0 then some ([], rest)
      else (closeAngle? (depth - 1) rest).map fun parts => (c :: parts.1, parts.2)
    else (closeAngle? depth rest).map fun parts => (c :: parts.1, parts.2)

/-- The base and the argument text of a generic application that is all of the given text. -/
def application? (cs : List Char) : Option (List Char × List Char) := do
  let (base, behind) ← cutFirst? ['<'] (trim cs)
  let (inside, rest) ← closeAngle? 0 behind
  if rest.isEmpty then some (trim base, inside) else none

/-- The place of the first bracket without a partner. `stack` holds the places of the brackets that
are open, the innermost one first. -/
def firstUnmatched? (stack : List Nat) (place : Nat) : List Char → Option Nat
  | [] => stack.getLast?
  | c :: rest =>
    if opens c then firstUnmatched? (place :: stack) (place + 1) rest
    else if closes c then
      match stack with
      | [] => some place
      | _ :: outer => firstUnmatched? outer (place + 1) rest
    else firstUnmatched? stack (place + 1) rest

/-- The text before its first bracket without a partner, or all of it. -/
def balancedStart (cs : List Char) : List Char :=
  match firstUnmatched? [] 0 cs with
  | some place => trimEnd (cs.take place)
  | none => cs

/-- The qualifier before the last point at depth zero, and the name behind it. -/
def qualified (cs : List Char) : Option (List Char) × List Char :=
  match (splitOutside '.' 0 cs).reverse with
  | [] => (none, cs)
  | [_] => (none, cs)
  | name :: qualifiers => (some (List.intercalate ['.'] qualifiers.reverse), name)

end TypedClient.Brackets
