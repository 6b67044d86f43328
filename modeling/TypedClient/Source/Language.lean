/-
This file reads source files: the grammar of nested texts, and the model of a file.
-/

import TypedClient.Number.Decimal
import TypedClient.Source.Grammar.Declaration
import TypedClient.Source.Scan

namespace TypedClient.Source

/-- The grammar for texts that are nested at most so many times. -/
def Grammar.ofDepth : Nat → Grammar
  | 0 => .unreadable
  | depth + 1 =>
    let inner := ofDepth depth
    { type := inner.typeOf
      expressionIn := fun allowsFunctions => inner.wholeExpression allowsFunctions
      operandIn := fun allowsFunctions => inner.wholeOperand allowsFunctions
      pattern := inner.wholePattern
      statement := inner.wholeStatement
      declaration := inner.wholeDeclaration }

def Grammar.file (grammar : Grammar) : Reader (List Declaration) := do
  let declarations ← Reader.many grammar.fileItem
  Reader.finished
  return declarations

/-- A source file that cannot be read. -/
structure ReadError where
  path : Option String
  line : Nat
  deriving DecidableEq, Repr, Inhabited

def ReadError.message (error : ReadError) : String :=
  error.path.getD "<source>" ++ ": syntax error at line " ++ intText error.line

def lineAt (cs : List Char) (offset : Nat) : Nat :=
  (cs.take offset).count '\n' + 1

/-- The declarations in a text, or the offset at which it cannot be read. Every nested text starts
behind a token, so that the number of tokens bounds the depth. -/
def declarations (cs : List Char) : Except Nat (List Declaration) := do
  let found ← tokens cs
  let cursor : Cursor := { source := cs.toArray, tokens := found, left := found.length }
  let (declarations, _) ← (Grammar.ofDepth (found.length + 2)).file cursor
  return declarations

def read (path : Option String) (text : String) : Except ReadError SourceModel :=
  match declarations text.toList with
  | .ok declarations => .ok (Declaration.model path declarations)
  | .error offset => .error ⟨path, lineAt text.toList offset⟩

end TypedClient.Source
