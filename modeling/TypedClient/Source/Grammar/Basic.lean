/-
This file defines what a reader of one kind of text needs from the others.
-/

import TypedClient.Source.Code
import TypedClient.Source.Cursor
import TypedClient.Source.Declaration

namespace TypedClient.Source

/-- A type and the text in which it is written. -/
structure WrittenType where
  text : String
  type : SourceType
  deriving Inhabited

/-- The readers for what is nested in a text. -/
structure Grammar where
  type : Reader WrittenType
  /-- Expressions; without `allowsFunctions` an arrow at their end is not part of them. -/
  expressionIn : (allowsFunctions : Bool) → Reader Code
  /-- Operands, which hold no operator but those at their ends. -/
  operandIn : (allowsFunctions : Bool) → Reader Code
  pattern : Reader Code
  statement : Reader Code
  declaration : Reader Declaration
  deriving Inhabited

namespace Grammar

/-- The grammar that reads nothing. -/
def unreadable : Grammar :=
  ⟨Reader.fail, fun _ => Reader.fail, fun _ => Reader.fail, Reader.fail, Reader.fail, Reader.fail⟩

def expression (inner : Grammar) : Reader Code :=
  inner.expressionIn true

end Grammar

/-- Code that is written from an offset on and has the given parts. -/
def Reader.compound (start : Nat) (parts : List Code) : Reader Code := do
  return .compound (← textFrom start) parts

end TypedClient.Source
