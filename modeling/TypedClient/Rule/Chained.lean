/-
This file reads rules from the calls of a fluent validator, such as a selection of a property
followed by demands on it.
-/

import TypedClient.Decoration
import TypedClient.Literal.Basic
import TypedClient.Rule.Basic
import TypedClient.Text.Letter

namespace TypedClient

open Text

namespace Rule

/-- A length that a text states: a whole number that is not negative, at most 2 ^ 64 - 1. -/
def length? (text : String) : Option Nat := do
  let number ← Literal.number? text
  if number.less (.finite false 0) || !number.isWhole then none
  else some (min 18446744073709551615 number.truncate.toNat)

def bound (typeName property : String) (kind : RuleKind) (value : Binary64) (inclusive : Bool) :
    Rule :=
  { typeName, property, kind, value := Json.ofFloat value,
    metadata := [("inclusive", .bool inclusive)] }

def length (typeName property : String) (kind : RuleKind) (value : Nat) : Rule :=
  { typeName, property, kind, value := .int value }

def lengths (typeName property : String) (least greatest : Nat) : List Rule :=
  [length typeName property .minLength least, length typeName property .maxLength greatest]

def flag (typeName property : String) (kind : RuleKind) : Rule :=
  { typeName, property, kind, value := .bool true }

end Rule

namespace ChainCall

/-- The length that an argument states. -/
def length? (call : ChainCall) (index : Nat) : Option Nat :=
  call.arguments[index]?.bind Rule.length?

/-- The number that an argument states. -/
def number? (call : ChainCall) (index : Nat) : Option Binary64 :=
  call.arguments[index]?.bind Literal.number?

/-- The text that an argument states. -/
def text? (call : ChainCall) (index : Nat) : Option String :=
  call.arguments[index]?.bind Literal.string?

/-- The rules that one call demands of a property. -/
def rules (typeName property : String) (call : ChainCall) : List Rule :=
  let oneLength (kind : RuleKind) : List Rule :=
    ((call.length? 0).map (Rule.length typeName property kind)).toList
  let oneBound (kind : RuleKind) (inclusive : Bool) : List Rule :=
    ((call.number? 0).map (Rule.bound typeName property kind · inclusive)).toList
  let twoBounds (inclusive : Bool) : List Rule :=
    match call.number? 0, call.number? 1 with
    | some least, some greatest =>
      [Rule.bound typeName property .minimum least inclusive,
        Rule.bound typeName property .maximum greatest inclusive]
    | _, _ => []
  match call.name with
  | "NotEmpty" => [Rule.flag typeName property .required]
  | "NotNull" => [Rule.flag typeName property .required]
  | "MinimumLength" => oneLength .minLength
  | "MaximumLength" => oneLength .maxLength
  | "Length" =>
    match call.length? 0, call.length? 1 with
    | some least, some greatest => Rule.lengths typeName property least greatest
    | some exact, none =>
      if call.arguments.length == 1 then Rule.lengths typeName property exact exact else []
    | _, _ => []
  | "GreaterThan" => oneBound .minimum false
  | "GreaterThanOrEqualTo" => oneBound .minimum true
  | "LessThan" => oneBound .maximum false
  | "LessThanOrEqualTo" => oneBound .maximum true
  | "InclusiveBetween" => twoBounds true
  | "ExclusiveBetween" => twoBounds false
  | "EmailAddress" => [Rule.flag typeName property .email]
  | "Matches" =>
    ((call.text? 0).map fun pattern =>
      { typeName, property, kind := .pattern, value := .text pattern : Rule }).toList
  | "Must" => [custom]
  | "MustAsync" => [custom]
  | "Custom" => [custom]
  | "CustomAsync" => [custom]
  | _ => []
where
  /-- A check of the backend, which is known by the name of the call. -/
  custom : Rule := { typeName, property, kind := .custom, value := .text call.name }

/-- Tells whether the call selects what the following calls speak of. -/
def isSelection (call : ChainCall) : Bool :=
  ["RuleFor", "RuleForEach", "RuleSet"].contains call.name

end ChainCall

namespace Rule

/-- Tells whether a segment of a member path is a name. -/
def isMemberName (segment : List Char) : Bool :=
  !segment.isEmpty && segment.all fun c => isLetterOrNumeral c || c == '_'

/-- The member path that a function selects from its only parameter. -/
def selectedProperty? (function : String) : Option String := do
  let (parameter, body) ← cutFirst? "=>".toList function.toList
  let name := trim (dropEndWhile (· == ')') ((trim parameter).dropWhile (· == '(')))
  let path ← (dropStart? name (trim body)).bind (dropStart? ['.'])
  if (splitAt '.' path).all isMemberName then some (String.ofList path) else none

/-- Takes one more call of a segment in: a message goes to the last rule, and a message that
cannot be read takes the last rule with it. -/
def addCall (typeName property : String) (rules : List Rule) (call : ChainCall) : List Rule :=
  if call.name == "WithMessage" then
    match call.text? 0, rules.getLast? with
    | some message, some last => rules.dropLast ++ [{ last with message := some message }]
    | _, _ => rules.dropLast
  else rules ++ call.rules typeName property

def ofPropertyCalls (typeName property : String) (calls : List ChainCall) : List Rule :=
  calls.foldl (addCall typeName property) []

def ofSegment (typeName : String) (selection : ChainCall) (calls : List ChainCall) : List Rule :=
  if selection.name == "RuleFor" then
    match selection.arguments[0]?.bind selectedProperty? with
    | some property => ofPropertyCalls typeName property calls
    | none => []
  else []

/-- The rules that the calls of a validator chain demand of the properties of a type. A selection
speaks for the calls behind it up to the next selection; what stands before the first one does not
count. -/
def ofChain (typeName : String) : List ChainCall → List Rule
  | [] => []
  | call :: rest =>
    if call.isSelection then
      ofSegment typeName call (rest.takeWhile fun next => !next.isSelection) ++
        ofChain typeName rest
    else ofChain typeName rest

end Rule

end TypedClient
