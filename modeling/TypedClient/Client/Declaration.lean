/-
This file renders the types of a contract: interfaces and enumerations, one module each.
-/

import TypedClient.Client.Context

namespace TypedClient

namespace Declaration

def enumLines (type : SourceType) : List String :=
  let opened := (Draft.comment {} type.summary).openBlock ("export enum " ++ type.name ++ " \x7b")
  let members := type.members.foldl (fun draft member =>
    (draft.comment member.summary).line (member.name ++ " = " ++ intText member.value ++ ","))
    opened
  (members.closeBlock "\x7d").lines

/-- The name of an interface with its generic parameters. -/
def header (type : SourceType) : String :=
  if type.arguments.isEmpty then type.name
  else type.name ++ "<" ++ ", ".intercalate type.parameterNames ++ ">"

def optionalMark (property : SourceProperty) : String :=
  if !property.isRequired && property.isNullable then "?" else ""

def propertyLine (context : Context) (property : SourceProperty) : String :=
  Name.propertyKey property.wireName ++ optionalMark property ++ ": " ++
    (context.map property.type).text ++ ";"

def interfaceLines (context : Context) (type : SourceType) : List String :=
  let opened := (Draft.comment {} type.summary).openBlock
    ("export interface " ++ header type ++ " \x7b")
  let members := type.properties.foldl (fun draft property =>
    (draft.comment property.summary).line (propertyLine context property)) opened
  (members.closeBlock "\x7d").lines

/-- The imports of the module of an interface: the declared types of its properties, apart from
its generic parameters and itself. -/
def interfaceImports (context : Context) (type : SourceType) : List ImportedName :=
  type.properties.flatMap fun property =>
    context.typeImports ("./" ++ ·) (type.parameterNames ++ [type.name])
      (context.map property.type).text

/-- The file that declares a type. -/
def artifact (context : Context) (type : SourceType) : Artifact :=
  let path := ClientDirectory.types.path (Name.fileStem type.name)
  if type.isEnum then
    { kind := .enumeration, path
      module := { exports := [type.name], body := enumLines type } }
  else
    { kind := .type, path
      module :=
        { imports := (Imports.collect (interfaceImports context type)).statements
          exports := [type.name]
          body := interfaceLines context type } }

/-- What is to report about the types of the properties of an interface. -/
def reports (context : Context) (type : SourceType) : List Diagnostic :=
  if type.isEnum then []
  else type.properties.flatMap fun property =>
    TypeMapping.reports (context.map property.type)

end Declaration

end TypedClient
