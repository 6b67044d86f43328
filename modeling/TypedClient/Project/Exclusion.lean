/-
This file excludes endpoints and types from a contract by patterns. A star in a pattern stands for
any text within a line, and the case of letters does not count.
-/

import TypedClient.Contract
import TypedClient.Text.Case
import TypedClient.Text.Piece

namespace TypedClient

namespace Pattern

/-- The characters that have a meaning of their own in a regular expression. -/
def metaCharacters : List Char :=
  "\\.+*?()|[]\x7b\x7d^$#&-~".toList

/-- A text as a regular expression for itself. -/
def escape (cs : List Char) : List Char :=
  cs.flatMap fun c => if metaCharacters.contains c then ['\\', c] else [c]

/-- Pieces as a regular expression in which anything may stand between them. -/
def anyBetween (pieces : List (List Char)) : List Char :=
  ['.', '*'].intercalate (pieces.map escape)

/-- The regular expression of a pattern. It is meant for a text as a whole. -/
def expression (pattern : String) : List Char :=
  anyBetween (Text.splitAt '*' pattern.toList)

/-- What remains of a text after each of its beginnings without a line break. -/
def lineRests : List Char → List (List Char)
  | [] => [[]]
  | c :: rest => (c :: rest) :: (if c == '\n' then [] else lineRests rest)

/-- Tells whether a text begins with a letter in either case, and what follows is accepted. -/
def letterThen (letter : Char) (accepts : List Char → Bool) : List Char → Bool
  | [] => false
  | c :: rest => Text.foldCase letter == Text.foldCase c && accepts rest

/-- Tells whether a regular expression stands for all of a text. Only escaped characters, letters
and runs of any characters are made use of; nothing stands for another expression. -/
def matchesChars : List Char → List Char → Bool
  | [], text => text.isEmpty
  | '.' :: '*' :: rest, text => (lineRests text).any (matchesChars rest)
  | '\\' :: mark :: rest, text =>
    metaCharacters.contains mark && letterThen mark (matchesChars rest) text
  | letter :: rest, text =>
    !metaCharacters.contains letter && letterThen letter (matchesChars rest) text

/-- Tells whether a pattern stands for a text. -/
def holds (pattern text : String) : Bool :=
  matchesChars (expression pattern) text.toList

end Pattern

/-- Patterns for what to leave out of a contract. -/
structure Exclusions where
  endpoints : List String := []
  types : List String := []
  deriving DecidableEq, Repr, Inhabited

namespace Exclusions

/-- Tells whether nothing is excluded. -/
def isEmpty (exclusions : Exclusions) : Bool :=
  exclusions.endpoints.isEmpty && exclusions.types.isEmpty

/-- Tells whether a route is excluded. -/
def excludesRoute (exclusions : Exclusions) (route : String) : Bool :=
  exclusions.endpoints.any fun pattern => Pattern.holds pattern route

/-- Tells whether a type is excluded. -/
def excludesType (exclusions : Exclusions) (name : String) : Bool :=
  exclusions.types.any fun pattern => Pattern.holds pattern name

/-- A contract without what is excluded. The rules of an excluded type go with it. -/
def apply (exclusions : Exclusions) (contract : Contract) : Contract :=
  let keeps (name : String) : Bool := !exclusions.excludesType name
  { endpoints := contract.endpoints.filter fun endpoint =>
      !exclusions.excludesRoute endpoint.route
    types := contract.types.filter fun type => keeps type.name
    validation := contract.validation.filter fun record => keeps record.typeName
    extraRules := contract.extraRules.filter fun rule => keeps rule.typeName
    unlistedTypes := contract.unlistedTypes.filter fun type => keeps type.name }

end Exclusions

end TypedClient
