/-
This file defines the values of a TOML document and the rules by which keys and headers add to its
tables. A table is written in one piece or grows, and how it came about decides what may still be
added to it.
-/

import TypedClient.Toml.Moment

namespace TypedClient.Toml

/-- How a table came about. -/
inductive TableForm
  /-- The table is a value between braces, and nothing can be added to it. -/
  | closed
  /-- The table has a header of its own. -/
  | headed
  /-- The table is named only within longer headers. -/
  | implied
  /-- The table is named only within keys that have several parts. -/
  | dotted
  deriving DecidableEq, Repr, Inhabited

/-- A value; the members of a table keep their order. -/
inductive Value
  | text (value : String)
  | integer (value : Int)
  | float (value : Binary64)
  | bool (value : Bool)
  | moment (value : Moment)
  /-- An array that stands between brackets. -/
  | list (elements : List Value)
  /-- An array of tables that have headers. -/
  | tables (elements : List (TableForm × List (String × Value)))
  | table (form : TableForm) (members : List (String × Value))
  deriving Repr, Inhabited

abbrev Members := List (String × Value)

namespace Members

/-- Members in which a key has a new value; a new key goes to the end. -/
def set (key : String) (value : Value) : Members → Members
  | [] => [(key, value)]
  | (name, old) :: rest =>
    if name == key then (name, value) :: rest else (name, old) :: set key value rest

abbrev Formed := TableForm × Members

/-- Changes the table that a path leads to. Tables on the way that do not exist yet get the form
`missing`. Behind an array of tables the path goes on in its last table. Within a dotted key a
table with a header of its own cannot be entered. -/
def changeAt (missing : TableForm) (change : Formed → Option Formed) :
    List String → Formed → Option Formed
  | [], table => change table
  | key :: path, (form, members) =>
    match members.lookup key with
    | none => do
      let (inner, content) ← changeAt missing change path (missing, [])
      some (form, members.set key (.table inner content))
    | some (.table inner content) =>
      if inner == .closed || (missing == .dotted && inner == .headed) then none
      else do
        let (after, added) ← changeAt missing change path (inner, content)
        some (form, members.set key (.table after added))
    | some (.tables elements) =>
      match elements.getLast? with
      | none => none
      | some last => do
        let changed ← changeAt missing change path last
        some (form, members.set key (.tables (elements.dropLast ++ [changed])))
    | some _ => none

/-- Adds a value under a key that is new. Where the key had further parts in front, the table has to
be one that only such keys have named; otherwise it must not be one. -/
def addValue (isPath : Bool) (key : String) (value : Value) (table : Formed) : Option Formed :=
  if (table.1 == .dotted) != isPath then none
  else if (table.2.lookup key).isSome then none
  else some (table.1, table.2 ++ [(key, value)])

/-- Adds a value under a key with several parts. -/
def addEntry (table : Formed) (path : List String) (key : String) (value : Value) :
    Option Formed :=
  changeAt .dotted (addValue (!path.isEmpty) key value) path table

end Members

end TypedClient.Toml
