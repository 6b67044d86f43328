/-
This file writes contracts as JSON documents. What a contract leaves empty is left out, except
where a reader needs to see it.
-/

import TypedClient.Contract

namespace TypedClient

abbrev DocumentMembers := List (String × Json)

namespace Document

/-- A member that is left out if there is nothing to write. -/
def optional {Content : Type} (name : String) (write : Content → Json) :
    Option Content → DocumentMembers
  | some content => [(name, write content)]
  | none => []

/-- A list that is left out if it is empty. -/
def unlessEmpty (name : String) (elements : List Json) : DocumentMembers :=
  if elements.isEmpty then [] else [(name, .list elements)]

/-- A list of texts that is left out if it is empty. -/
def texts (name : String) (elements : List String) : DocumentMembers :=
  unlessEmpty name (elements.map .text)

end Document

open Document (optional unlessEmpty texts)

def DecorationArgument.document (argument : DecorationArgument) : Json :=
  .object (optional "name" .text argument.name ++ [("value", .text argument.value)])

def Decoration.document (decoration : Decoration) : Json :=
  .object ([("name", .text decoration.name)] ++ texts "type_args" decoration.typeArguments ++
    unlessEmpty "arguments" (decoration.arguments.map DecorationArgument.document))

def EnumMember.document (member : EnumMember) : Json :=
  .object ([("name", .text member.name), ("value", .int member.value)] ++
    optional "summary" .text member.summary)

namespace SourceType

mutual

def document : SourceType → Json
  | ⟨name, display, scope, isGeneric, arguments, isCollection, isNullable, isEnum, members,
      properties, summary⟩ =>
    .object ([("name", .text name), ("full_name", .text display)] ++
      optional "namespace" .text scope ++ [("is_generic", .bool isGeneric)] ++
      unlessEmpty "generic_args" (documents arguments) ++
      [("is_collection", .bool isCollection), ("is_nullable", .bool isNullable),
        ("is_enum", .bool isEnum)] ++
      unlessEmpty "enum_members" (members.map EnumMember.document) ++
      unlessEmpty "properties" (propertyDocuments properties) ++
      optional "summary" .text summary)

def documents : List SourceType → List Json
  | [] => []
  | type :: types => type.document :: documents types

/-- A property as a document. -/
def propertyDocument : PropertyOf SourceType → Json
  | ⟨name, wireName, type, isNullable, isRequired, decorations, summary⟩ =>
    .object ([("name", .text name), ("json_name", .text wireName), ("type_info", type.document),
        ("is_nullable", .bool isNullable), ("is_required", .bool isRequired)] ++
      unlessEmpty "annotations" (decorations.map Decoration.document) ++
      optional "summary" .text summary)

def propertyDocuments : List (PropertyOf SourceType) → List Json
  | [] => []
  | property :: properties => propertyDocument property :: propertyDocuments properties

end

end SourceType

def ParameterPlace.word : ParameterPlace → String
  | route => "route"
  | query => "query"
  | body => "body"
  | header => "header"
  | form => "form"

def Parameter.document (parameter : Parameter) : Json :=
  .object [("name", .text parameter.name), ("type_info", parameter.type.document),
    ("is_required", .bool parameter.isRequired), ("source", .text parameter.place.word)]

def DeclarationStyle.word : DeclarationStyle → String
  | attached => "method_attached"
  | registered => "fluent_registration"

/-- An operation as a document. -/
def Endpoint.document (endpoint : Endpoint) : Json :=
  .object ([("verb", .text endpoint.verb.wire), ("route", .text endpoint.route),
      ("container", .text endpoint.container), ("operation", .text endpoint.operation)] ++
    optional "request_type" SourceType.document endpoint.requestType ++
    optional "response_type" SourceType.document endpoint.responseType ++
    unlessEmpty "parameters" (endpoint.parameters.map Parameter.document) ++
    [("requires_auth", .bool endpoint.requiresAuth)] ++ texts "tags" endpoint.tags ++
    [("group", .text endpoint.group), ("upload", .bool endpoint.isUpload),
      ("download", .bool endpoint.isDownload)] ++
    optional "summary" .text endpoint.summary ++ [("idiom", .text endpoint.style.word)] ++
    optional "source" .text endpoint.source)

/-- The word for a kind in documents. -/
def RuleKind.word : RuleKind → String
  | required => "required"
  | minLength => "min_length"
  | maxLength => "max_length"
  | minimum => "minimum"
  | maximum => "maximum"
  | email => "email"
  | pattern => "pattern"
  | custom => "custom"

def Rule.document (rule : Rule) : Json :=
  .object ([("type_name", .text rule.typeName), ("property", .text rule.property),
      ("kind", .text rule.kind.word), ("value", rule.value)] ++
    (if rule.metadata.isEmpty then [] else [("metadata", .object rule.metadata)]) ++
    optional "message" .text rule.message)

/-- The rules of a property as a document. -/
def PropertyRules.document (record : PropertyRules) : Json :=
  let count (value : Nat) : Json := .int value
  .object ([("type_name", .text record.typeName), ("property", .text record.property),
      ("required", .bool record.required)] ++
    optional "min_length" count record.minLength ++
    optional "max_length" count record.maxLength ++
    optional "minimum" Json.ofFloat record.minimum ++
    [("minimum_exclusive", .bool record.minimumExclusive)] ++
    optional "maximum" Json.ofFloat record.maximum ++
    [("maximum_exclusive", .bool record.maximumExclusive)] ++
    optional "pattern" .text record.pattern ++ [("email", .bool record.email)] ++
    optional "message" .text record.message)

def Contract.document (contract : Contract) : Json :=
  .object ([("endpoints", .list (contract.endpoints.map Endpoint.document)),
      ("types", .list (contract.types.map SourceType.document)),
      ("validation", .list (contract.validation.map PropertyRules.document))] ++
    unlessEmpty "extra_rules" (contract.extraRules.map Rule.document) ++
    unlessEmpty "unlisted_types" (contract.unlistedTypes.map SourceType.document))

end TypedClient
