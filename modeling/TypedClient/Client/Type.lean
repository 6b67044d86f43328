/-
This file defines the types of the generated client and their text.
-/

import TypedClient.Client.Builtin
import TypedClient.SourceType.Brackets

namespace TypedClient

/-- A type of the generated client. -/
inductive ClientType
  /-- A type whose text the user has chosen. -/
  | chosen (text : String)
  /-- A type of the language itself. -/
  | builtin (text : String)
  /-- An enumeration. -/
  | enumeration (name : String)
  /-- A type that the client declares. -/
  | declared (name : String)
  /-- A type that nothing is known about; `display` is its text in the backend. -/
  | unknown (name display : String)
  /-- A generic type that keeps its name. -/
  | application (name : String) (arguments : List ClientType)
  | array (element : ClientType)
  | record (value : ClientType)
  | map (key value : ClientType)
  | set (element : ClientType)
  | tuple (elements : List ClientType)
  | orNull (type : ClientType)
  deriving Repr, Inhabited

namespace ClientType

/-- Tells whether a type text is a union of several members. -/
def isUnionText (text : String) : Bool :=
  Brackets.isUnion text.toList

def inParentheses (text : String) : String :=
  if isUnionText text then "(" ++ text ++ ")" else text

mutual

def text : ClientType → String
  | chosen text => text
  | builtin text => text
  | enumeration name => name
  | declared name => name
  | unknown name _ => name
  | application name arguments => name ++ "<" ++ ", ".intercalate (texts arguments) ++ ">"
  | array element => inParentheses element.text ++ "[]"
  | record value => "Record<string, " ++ value.text ++ ">"
  | map key value => "Map<" ++ key.text ++ ", " ++ value.text ++ ">"
  | set element => "Set<" ++ element.text ++ ">"
  | tuple elements => "[" ++ ", ".intercalate (texts elements) ++ "]"
  | orNull type => type.text ++ " | null"

def texts : List ClientType → List String
  | [] => []
  | type :: rest => type.text :: texts rest

end

/-- The type where null is allowed too. Types that allow null anyway stay as they are, and so do
unions. -/
def withNull (type : ClientType) : ClientType :=
  let text := type.text
  if text == Builtin.anyText || text == Builtin.voidText || isUnionText text then type
  else orNull type

mutual

/-- The names at any depth that nothing is known about, each with its text in the backend. -/
def unknowns : ClientType → List (String × String)
  | unknown name display => [(name, display)]
  | application _ arguments => unknownsOfAll arguments
  | array element => element.unknowns
  | record value => value.unknowns
  | map key value => key.unknowns ++ value.unknowns
  | set element => element.unknowns
  | tuple elements => unknownsOfAll elements
  | orNull type => type.unknowns
  | _ => []

def unknownsOfAll : List ClientType → List (String × String)
  | [] => []
  | type :: rest => type.unknowns ++ unknownsOfAll rest

end

end ClientType

end TypedClient
