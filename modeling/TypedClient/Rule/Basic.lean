/-
This file defines validation rules of single properties, and the record of all the rules of one
property that have a fixed shape.
-/

import TypedClient.Json

namespace TypedClient

/-- What a rule demands. -/
inductive RuleKind
  | required
  | minLength
  | maxLength
  | minimum
  | maximum
  | email
  | pattern
  /-- A check of the backend that has no counterpart in a client. -/
  | custom
  deriving DecidableEq, Repr, Inhabited

/-- One demand on a property of a type. -/
structure Rule where
  typeName : String
  property : String
  kind : RuleKind
  value : Json := .null
  metadata : List (String × Json) := []
  message : Option String := none
  deriving Repr, Inhabited

namespace Rule

/-- Tells whether the value of a numeric bound is allowed itself, as it is by default. -/
def isInclusive (rule : Rule) : Bool :=
  (((rule.metadata.find? fun entry => entry.1 == "inclusive").map Prod.snd).bind
    Json.bool?).getD true

def key (rule : Rule) : String × String :=
  (rule.typeName, rule.property)

end Rule

/-- The rules of one property that have a fixed shape. -/
structure PropertyRules where
  typeName : String
  property : String
  required : Bool := false
  minLength : Option Nat := none
  maxLength : Option Nat := none
  minimum : Option Binary64 := none
  minimumExclusive : Bool := false
  maximum : Option Binary64 := none
  maximumExclusive : Bool := false
  pattern : Option String := none
  email : Bool := false
  message : Option String := none
  deriving Repr, Inhabited

namespace PropertyRules

/-- Tells whether the record demands nothing. -/
def isEmpty (record : PropertyRules) : Bool :=
  !record.required && record.minLength.isNone && record.maxLength.isNone &&
    record.minimum.isNone && record.maximum.isNone && record.pattern.isNone && !record.email

/-- The type and the property that a record speaks of. -/
def key (record : PropertyRules) : String × String :=
  (record.typeName, record.property)

end PropertyRules

end TypedClient
