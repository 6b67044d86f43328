/-
This file writes the checks of one property in the expressions of a schema.
-/

import TypedClient.Client.Function

namespace TypedClient

/-- The kind of values that a check begins with. -/
inductive ValueKind
  | text
  | number
  | truth
  | sequence
  | anything
  deriving DecidableEq, Repr, Inhabited

namespace ValueKind

/-- The kind of the values of a client type; nothing is known without a type. -/
def ofType (type : Option ClientType) : ValueKind :=
  match type with
  | none => anything
  | some known =>
    let plain := ClientFunction.withoutNull known.text
    if plain == "string" then text
    else if plain == "number" then number
    else if plain == "boolean" then truth
    else if Text.endsWith ['[', ']'] plain.toList then sequence
    else anything

/-- The expression that accepts all values of a kind. -/
def start : ValueKind → String
  | text => "z.string()"
  | number => "z.number()"
  | truth => "z.boolean()"
  | sequence => "z.array(z.any())"
  | anything => "z.any()"

/-- Tells whether values of the kind have a length. -/
def hasLength : ValueKind → Bool
  | text => true
  | sequence => true
  | _ => false

end ValueKind

/-- An expression of a schema: what it begins with, and the calls that follow. -/
structure SchemaExpression where
  start : String
  calls : List String := []
  deriving DecidableEq, Repr, Inhabited

namespace SchemaExpression

def call (expression : SchemaExpression) (text : String) : SchemaExpression :=
  { expression with calls := expression.calls ++ [text] }

def text (expression : SchemaExpression) : String :=
  expression.start ++ String.join (expression.calls.map ("." ++ ·))

/-- The expression with a call that only numbers have; where nothing is known about the values,
the expression begins anew with numbers. -/
def numberCall (kind : ValueKind) (expression : SchemaExpression) (text : String) :
    SchemaExpression :=
  (if kind == .anything then { start := "z.coerce.number()" } else expression).call text

/-- The expression with a call that only texts have; where nothing is known about the values, the
expression begins anew with texts. -/
def textCall (kind : ValueKind) (expression : SchemaExpression) (text : String) :
    SchemaExpression :=
  (if kind == .anything then { start := "z.string()" } else expression).call text

end SchemaExpression

namespace PropertyCheck

/-- The text of a number: an integer below 10 ^ 15 in digits, and all else in the shortest form
without an exponent. -/
def numberText (value : Binary64) : String :=
  if value.isWhole && decide (value.truncate.natAbs < 1000000000000000) then intText value.truncate
  else value.positional

def furtherArgument (message : Option String) : String :=
  match message with
  | some text => ", " ++ Json.quoted text
  | none => ""

/-- A message as the only argument of a call. -/
def onlyArgument (message : Option String) : String :=
  match message with
  | some text => Json.quoted text
  | none => ""

/-- The calls for the length of a value; a required value is not empty. -/
def lengthCalls (record : PropertyRules) : List String :=
  let message := furtherArgument record.message
  let least := record.minLength.getD 0
  (if record.required && least == 0 then ["min(1" ++ message ++ ")"] else []) ++
    (if least > 0 then ["min(" ++ intText least ++ message ++ ")"] else []) ++
    (record.maxLength.map fun most => "max(" ++ intText most ++ message ++ ")").toList

/-- The calls for the bounds of a number. -/
def boundCalls (record : PropertyRules) : List String :=
  let message := furtherArgument record.message
  let one (name : String) (bound : Binary64) : String :=
    name ++ "(" ++ numberText bound ++ message ++ ")"
  (record.minimum.map (one (if record.minimumExclusive then "gt" else "gte"))).toList ++
    (record.maximum.map (one (if record.maximumExclusive then "lt" else "lte"))).toList

/-- The patterns of a property: the one of its record and those that fit no record. -/
def patterns (record : PropertyRules) (extras : List Rule) : List String :=
  record.pattern.toList ++
    (extras.filter fun rule => rule.kind == .pattern).filterMap fun rule => rule.value.text?

/-- The calls for the form of a text. -/
def textCalls (record : PropertyRules) (extras : List Rule) : List String :=
  (if record.email then ["email(" ++ onlyArgument record.message ++ ")"] else []) ++
    (patterns record extras).map fun pattern =>
      "regex(new RegExp(" ++ Json.quoted pattern ++ ")" ++ furtherArgument record.message ++ ")"

/-- The call at the end for a value that need not be given. -/
def absenceCall (property : Option SourceProperty) : String :=
  if property.all PropertyOf.isNullable then "nullish()" else "optional()"

/-- The expression that checks a property against its rules. -/
def expression (type : Option ClientType) (property : Option SourceProperty)
    (record : PropertyRules) (extras : List Rule) : SchemaExpression :=
  let kind := ValueKind.ofType type
  let withLengths : SchemaExpression :=
    { start := kind.start, calls := if kind.hasLength then lengthCalls record else [] }
  let withBounds :=
    if kind == .number || kind == .anything then
      (boundCalls record).foldl (SchemaExpression.numberCall kind) withLengths
    else withLengths
  let withForm :=
    if kind == .text || kind == .anything then
      (textCalls record extras).foldl (SchemaExpression.textCall kind) withBounds
    else withBounds
  if record.required then
    if kind == .anything then
      withForm.call ("refine((value) => value !== undefined && value !== null" ++
        furtherArgument record.message ++ ")")
    else withForm
  else withForm.call (absenceCall property)

end PropertyCheck

end TypedClient
