/-
This file chooses the names in the generated client: functions, files, hooks, schemas, local
identifiers and object keys.
-/

import TypedClient.Endpoint
import TypedClient.Text.Words

namespace TypedClient.Name

open Text

/-- The words that cannot be names of functions or variables. -/
def reserved : List String :=
  ["break", "case", "catch", "class", "const", "continue", "debugger", "default", "delete", "do",
    "else", "enum", "export", "extends", "false", "finally", "for", "function", "if", "import",
    "in", "instanceof", "new", "null", "return", "super", "switch", "this", "throw", "true",
    "try", "typeof", "var", "void", "while", "with", "yield", "let", "static", "implements",
    "interface", "package", "private", "protected", "public", "await"]

/-- Tells whether the name of an operation begins with the word of its method, and not with a
longer word. -/
def namesVerb (verb : Verb) (operation : String) : Bool :=
  let word := verb.word.toList
  let beginning := operation.toList.take word.length
  beginning.map Char.toLower == word.map Char.toLower &&
    ((operation.toList.drop word.length).head?.all fun c => c.isUpper || c.isDigit)

/-- The name of the client function of an operation: method and operation in camel case, with the
method only once. -/
def function (verb : Verb) (operation : String) : String :=
  lowerCamel (if namesVerb verb operation then operation else verb.word ++ operation)

def fileStem (name : String) : String :=
  hyphenated name

def hook (functionName : String) : String :=
  "use" ++ upperCamel functionName

def schema (typeName : String) : String :=
  lowerCamel typeName ++ "Schema"

/-- A local identifier for a name in a request. -/
def identifier (name : String) : String :=
  let camel := lowerCamel name
  let safe := if camel.toList.head?.all Char.isDigit then "_" ++ camel else camel
  if reserved.contains safe then safe ++ "_" else safe

/-- Tells whether a character may begin an identifier. -/
def startsIdentifier (c : Char) : Bool :=
  c.isAlpha || c == '_' || c == '$'

/-- Tells whether a text is an identifier of ASCII characters. -/
def isIdentifier (name : String) : Bool :=
  match name.toList with
  | [] => false
  | c :: rest => startsIdentifier c && rest.all fun d => startsIdentifier d || d.isDigit

/-- The characters that stand for one character inside single quotes. -/
def quoteChar (c : Char) : List Char :=
  if c == '\\' then ['\\', '\\']
  else if c == '\'' then ['\\', '\'']
  else if c == '\n' then ['\\', 'n']
  else if c == '\r' then ['\\', 'r']
  else [c]

def quote (text : String) : String :=
  String.ofList ('\'' :: (text.toList.flatMap quoteChar ++ ['\'']))

/-- The key of an object for a name, in quotes only where they are needed. -/
def propertyKey (name : String) : String :=
  if isIdentifier name then name else quote name

end TypedClient.Name
