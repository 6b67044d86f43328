/-
This file collects the imports of a generated module, name by name, in a table of the modules that
names come from.
-/

import TypedClient.Text.Order

namespace TypedClient

/-- What an import statement brings in. -/
inductive ImportClause
  /-- Names in braces, perhaps only as types. -/
  | names (typeOnly : Bool) (names : List String)
  /-- All exports under one name. -/
  | everything (localName : String)
  /-- Nothing; the module is only loaded. -/
  | nothing
  deriving DecidableEq, Repr, Inhabited

/-- An import statement. -/
structure ImportStatement where
  specifier : String
  clause : ImportClause
  deriving DecidableEq, Repr, Inhabited

namespace ImportStatement

def text (statement : ImportStatement) : String :=
  let quotedSpecifier := "'" ++ statement.specifier ++ "';"
  match statement.clause with
  | .names typeOnly names =>
    (if typeOnly then "import type" else "import") ++ " \x7b " ++ ", ".intercalate names ++
      " \x7d from " ++ quotedSpecifier
  | .everything localName => "import * as " ++ localName ++ " from " ++ quotedSpecifier
  | .nothing => "import " ++ quotedSpecifier

end ImportStatement

/-- A name that a module asks for from another. -/
structure ImportedName where
  specifier : String
  name : String
  typeOnly : Bool
  deriving DecidableEq, Repr, Inhabited

/-- A text behind others, unless it is among them. -/
def addedOnce (texts : List String) (text : String) : List String :=
  if texts.contains text then texts else texts ++ [text]

/-- What has been asked for from one module: its names in the order in which they were first asked
for, and whether all of them were asked for as types only. -/
structure ImportedModule where
  specifier : String
  names : List String := []
  typeOnly : Bool := true
  deriving DecidableEq, Repr, Inhabited

namespace ImportedModule

/-- One more name is asked for. A name that is needed as a value narrows the whole statement. -/
def ask (module : ImportedModule) (asked : ImportedName) : ImportedModule :=
  { module with
    names := addedOnce module.names asked.name
    typeOnly := module.typeOnly && asked.typeOnly }

def statement (module : ImportedModule) : ImportStatement :=
  ⟨module.specifier, .names module.typeOnly (Text.sorted module.names)⟩

end ImportedModule

/-- The imports of a module: the modules that names come from, in the order of their specifiers, and
the modules that are only loaded. -/
structure Imports where
  modules : List ImportedModule := []
  loaded : List String := []
  deriving DecidableEq, Repr, Inhabited

namespace Imports

/-- Asks one of the modules for a name. A module that is new takes its place in the order. -/
def ask (asked : ImportedName) : List ImportedModule → List ImportedModule
  | [] => [ImportedModule.ask { specifier := asked.specifier } asked]
  | module :: rest =>
    if module.specifier == asked.specifier then module.ask asked :: rest
    else if Text.atMost asked.specifier module.specifier then
      ImportedModule.ask { specifier := asked.specifier } asked :: module :: rest
    else module :: ask asked rest

def add (imports : Imports) (asked : ImportedName) : Imports :=
  { imports with modules := ask asked imports.modules }

def addType (imports : Imports) (specifier name : String) : Imports :=
  imports.add ⟨specifier, name, true⟩

def addValue (imports : Imports) (specifier name : String) : Imports :=
  imports.add ⟨specifier, name, false⟩

/-- Adds a module that is only loaded. -/
def addLoaded (imports : Imports) (specifier : String) : Imports :=
  { imports with loaded := addedOnce imports.loaded specifier }

def collect (requests : List ImportedName) : Imports :=
  requests.foldl add {}

def isEmpty (imports : Imports) : Bool :=
  imports.modules.isEmpty && imports.loaded.isEmpty

/-- Tells whether a specifier names a module by its relative path. -/
def isRelative (specifier : String) : Bool :=
  specifier.toList.head? == some '.'

/-- Packages come before relative modules, and nothing else is said about two modules. -/
def packageFirst (left right : ImportedModule) : Bool :=
  !isRelative left.specifier || isRelative right.specifier

/-- The import statements: first the modules that are only loaded, then one statement for each
module that names come from. Sorting packages to the front keeps the order within both kinds. -/
def statements (imports : Imports) : List ImportStatement :=
  imports.loaded.map (fun specifier => ⟨specifier, .nothing⟩) ++
    (imports.modules.mergeSort packageFirst).map ImportedModule.statement

def lines (imports : Imports) : List String :=
  imports.statements.map ImportStatement.text

end Imports

end TypedClient
