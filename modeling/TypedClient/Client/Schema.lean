/-
This file renders schemas that check requests of the types with rules. Only properties with rules
are listed; all others pass.
-/

import TypedClient.Client.PropertyCheck
import TypedClient.Client.RuleTree

namespace TypedClient

/-- An entry of a schema. -/
inductive SchemaEntry
  /-- A remark about rules that the schema cannot check. -/
  | remark (subject : String)
  /-- The check of a property with the type that it is based on. -/
  | check (key : String) (type : Option ClientType) (expression : SchemaExpression)
  /-- The checks of an object that a property holds; `absence` tells how it may be missing. -/
  | object (key : String) (absence : String) (entries : List SchemaEntry)
  deriving Repr, Inhabited

namespace SchemaEntry

mutual

def draw (draft : Draft) : SchemaEntry → Draft
  | remark subject => draft.line ("// checked on the server: " ++ subject)
  | check key _ expression => draft.line (Name.propertyKey key ++ ": " ++ expression.text ++ ",")
  | object key absence entries =>
    let opened := (draft.openBlock (Name.propertyKey key ++ ": z")).openBlock ".object(\x7b"
    (((drawAll opened entries).closeBlock "\x7d)").line
      (".passthrough()" ++ absence ++ ",")).dedent

def drawAll (draft : Draft) : List SchemaEntry → Draft
  | [] => draft
  | entry :: rest => drawAll (draw draft entry) rest

end

mutual

def types : SchemaEntry → List ClientType
  | remark _ => []
  | check _ type _ => type.toList
  | object _ _ entries => typesOfAll entries

def typesOfAll : List SchemaEntry → List ClientType
  | [] => []
  | entry :: rest => entry.types ++ typesOfAll rest

end

end SchemaEntry

namespace Schema

def propertyNamed? (owner : Option SourceType) (name : String) : Option SourceProperty :=
  owner.bind fun type => type.properties.find? fun property => property.name == name

/-- The key of a property in a request; without a declaration it follows from its name. -/
def keyOf (property : Option SourceProperty) (name : String) : String :=
  match property with
  | some found => found.wireName
  | none => Text.lowerCamel name

/-- The entries for the rules at a property itself. -/
def ownEntries (context : Context) (typeName name : String) (property : Option SourceProperty)
    (record : Option PropertyRules) : List SchemaEntry :=
  match record with
  | none => []
  | some rules =>
    let extras := (context.contract.extraRulesFor typeName).filter fun rule =>
      rule.property == rules.property
    let customs := extras.filter fun rule => rule.kind == .custom
    let type := property.map fun found => context.map found.type
    customs.map (fun rule => .remark (rule.value.text?.getD "custom")) ++
      [.check (keyOf property name) type (PropertyCheck.expression type property rules extras)]

def objectType? (context : Context) (property : Option SourceProperty) : Option SourceType :=
  property.bind fun found =>
    if found.type.isCollection then none
    else (context.contract.typeNamed? found.type.name).filter fun type => !type.isEnum

/-- How an object may be missing. -/
def absence (property : Option SourceProperty) (record : Option PropertyRules) : String :=
  if record.any PropertyRules.required then ""
  else if property.any fun found => !found.isNullable then ".optional()"
  else ".nullish()"

mutual

/-- The entries for the rules at a property and below it. -/
def entries (context : Context) (typeName : String) (owner : Option SourceType) (name : String) :
    RuleTree → List SchemaEntry
  | .node record children =>
    let property := propertyNamed? owner name
    if children.isEmpty then ownEntries context typeName name property record
    else match objectType? context property with
      | some inner =>
        [.object (keyOf property name) (absence property record)
          (entriesOfAll context typeName (some inner) children)]
      | none =>
        (RuleTree.pathsOfAll children).map SchemaEntry.remark ++
          ownEntries context typeName name property record

/-- The entries for several properties of a type. -/
def entriesOfAll (context : Context) (typeName : String) (owner : Option SourceType) :
    List (String × RuleTree) → List SchemaEntry
  | [] => []
  | (name, tree) :: rest =>
    entries context typeName owner name tree ++ entriesOfAll context typeName owner rest

end

def entriesFor (context : Context) (typeName : String) : List SchemaEntry :=
  entriesOfAll context typeName (context.contract.typeNamed? typeName)
    (RuleTree.ofRecords (context.contract.rulesFor typeName)).children

def lines (context : Context) (typeName : String) : List String :=
  let opened := (Draft.openBlock {} ("export const " ++ Name.schema typeName ++ " = z")).openBlock
    ".object(\x7b"
  let filled := SchemaEntry.drawAll opened (entriesFor context typeName)
  (((filled.closeBlock "\x7d)").line ".passthrough();").dedent).lines

/-- The file of the schema of a type, where the type has rules. -/
def artifact? (context : Context) (typeName : String) : Option Artifact :=
  if context.contract.hasRules typeName then
    some
      { kind := .schema
        path := ClientDirectory.validation.path (Name.fileStem typeName)
        module :=
          { imports := (Imports.addValue {} "zod" "z").statements
            exports := [Name.schema typeName]
            body := lines context typeName } }
  else none

def reports (context : Context) (typeName : String) : List Diagnostic :=
  if context.contract.hasRules typeName then
    (SchemaEntry.typesOfAll (entriesFor context typeName)).flatMap TypeMapping.reports
  else []

end Schema

end TypedClient
