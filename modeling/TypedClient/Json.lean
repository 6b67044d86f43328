/-
This file defines JSON values and their printed form. Numbers are either integers or numbers of
the binary64 format, and the two stay apart.
-/

import TypedClient.Number.Decimal

namespace TypedClient

/-- A JSON value; the members of an object keep their order. -/
inductive Json
  | null
  | bool (value : Bool)
  | int (value : Int)
  | float (value : Binary64)
  | text (value : String)
  | list (elements : List Json)
  | object (members : List (String × Json))
  deriving Repr, Inhabited

namespace Json

/-- A float where it is finite, and null otherwise. -/
def ofFloat (value : Binary64) : Json :=
  if value.isFinite then float value else null

/-- The value as an unsigned integer of 64 bits; only integers have one. -/
def natural? : Json → Option Nat
  | int value => if value < 0 then none else some value.toNat
  | _ => none

/-- The value as a number of the binary64 format; an integer is rounded to the nearest one. -/
def number? : Json → Option Binary64
  | int value => some (Binary64.ofInt value)
  | float value => some value
  | _ => none

def text? : Json → Option String
  | text value => some value
  | _ => none

def bool? : Json → Option Bool
  | bool value => some value
  | _ => none

/-- A digit of a hexadecimal number. -/
def hexDigit (value : Nat) : Char :=
  (Nat.toDigits 16 (value % 16)).headD '0'

/-- The characters that stand for one character inside a JSON string. -/
def escapeChar (c : Char) : List Char :=
  if c == '"' then ['\\', '"']
  else if c == '\\' then ['\\', '\\']
  else if c == '\n' then ['\\', 'n']
  else if c == '\r' then ['\\', 'r']
  else if c == '\t' then ['\\', 't']
  else if c.toNat == 8 then ['\\', 'b']
  else if c.toNat == 12 then ['\\', 'f']
  else if c.toNat < 32 then ['\\', 'u', '0', '0', hexDigit (c.toNat / 16), hexDigit c.toNat]
  else [c]

def quoted (value : String) : String :=
  String.ofList ('"' :: (value.toList.flatMap escapeChar ++ ['"']))

/-- The blanks in front of a line at a level of nesting. -/
def indentation (level : Nat) : String :=
  String.ofList (List.replicate (2 * level) ' ')

/-- Lines between an opening and a closing bracket, one level deeper than the brackets. -/
def block (level : Nat) (opening closing : String) (lines : List String) : String :=
  if lines.isEmpty then opening ++ closing
  else
    let inner := lines.map (indentation (level + 1) ++ ·)
    opening ++ "\n" ++ ",\n".intercalate inner ++ "\n" ++ indentation level ++ closing

mutual

/-- The printed form of a value with one element a line. -/
def prettyAt (level : Nat) : Json → String
  | null => "null"
  | bool value => if value then "true" else "false"
  | int value => intText value
  | float value => value.jsonText
  | text value => quoted value
  | list elements => block level "[" "]" (prettyElements (level + 1) elements)
  | object members => block level "\x7b" "\x7d" (prettyMembers (level + 1) members)

def prettyElements (level : Nat) : List Json → List String
  | [] => []
  | element :: rest => prettyAt level element :: prettyElements level rest

/-- The printed forms of the members of an object. -/
def prettyMembers (level : Nat) : List (String × Json) → List String
  | [] => []
  | (key, value) :: rest =>
    (quoted key ++ ": " ++ prettyAt level value) :: prettyMembers level rest

end

/-- The printed form of a value with one element a line and two blanks a level. -/
def pretty (value : Json) : String :=
  prettyAt 0 value

end Json

end TypedClient
