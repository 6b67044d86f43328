/-
This file defines the decorations of a declaration and the calls of a fluent chain. Both keep
their arguments as expression text.
-/

import TypedClient.Text.Piece

namespace TypedClient

/-- One argument of a decoration: the text of its value, and its name where it has one. -/
structure DecorationArgument where
  name : Option String
  value : String
  deriving DecidableEq, Repr, Inhabited

/-- A decoration of a declaration. -/
structure Decoration where
  name : String
  typeArguments : List String := []
  arguments : List DecorationArgument := []
  deriving DecidableEq, Repr, Inhabited

namespace Decoration

/-- The values of the arguments without a name, in order. -/
def positional (decoration : Decoration) : List String :=
  decoration.arguments.filterMap fun argument =>
    if argument.name.isNone then some argument.value else none

/-- The value of the first argument of a name, whatever the case of its letters. -/
def named? (decoration : Decoration) (name : String) : Option String :=
  (decoration.arguments.find? fun argument =>
    argument.name.any (Text.sameIgnoringCase · name)).map DecorationArgument.value

end Decoration

/-- One call of a fluent chain. -/
structure ChainCall where
  name : String
  typeArguments : List String := []
  arguments : List String := []
  deriving DecidableEq, Repr, Inhabited

end TypedClient
