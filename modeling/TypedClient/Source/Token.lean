/-
This file defines the tokens of a source text.
-/

namespace TypedClient.Source

/-- What stands between two tokens besides blanks. -/
inductive Gap
  | comment (text : String)
  /-- A directive that the declarations do not depend on, such as the start of a region. -/
  | directive
  deriving DecidableEq, Repr, Inhabited

/-- The kinds of tokens. -/
inductive TokenKind
  /-- A name or a keyword. -/
  | word
  /-- A number, a character or a string without holes. -/
  | literal
  | symbol
  /-- A line that starts, divides or ends a conditional part. -/
  | condition
  /-- The start of a string with holes. -/
  | quoteStart
  | holeStart
  | holeEnd
  | quoteEnd
  deriving DecidableEq, Repr, Inhabited

/-- A token and its place, counted in characters. -/
structure Token where
  kind : TokenKind
  text : String
  start : Nat
  stop : Nat
  /-- What stands between the token and the one before it. -/
  gaps : List Gap := []
  deriving DecidableEq, Repr, Inhabited

namespace Token

/-- Tells whether a token is a symbol of the given text. -/
def isSymbol (token : Token) (text : String) : Bool :=
  token.kind == .symbol && token.text == text

/-- Tells whether a token is the given word. -/
def isWord (token : Token) (text : String) : Bool :=
  token.kind == .word && token.text == text

/-- The words for types that the language itself defines. -/
def predefinedTypes : List String :=
  ["bool", "byte", "char", "decimal", "double", "float", "int", "long", "object", "sbyte",
    "short", "string", "uint", "ulong", "ushort", "void"]

/-- The words that are never names. -/
def reservedWords : List String :=
  predefinedTypes ++
    ["abstract", "as", "base", "break", "case", "catch", "checked", "class", "const", "continue",
      "default", "delegate", "do", "else", "enum", "event", "explicit", "extern", "false",
      "finally", "fixed", "for", "foreach", "goto", "if", "implicit", "in", "interface",
      "internal", "is", "lock", "namespace", "new", "null", "operator", "out", "override",
      "params", "private", "protected", "public", "readonly", "ref", "return", "sealed",
      "sizeof", "stackalloc", "static", "struct", "switch", "this", "throw", "true", "try",
      "typeof", "unchecked", "unsafe", "using", "virtual", "volatile", "while"]

/-- Tells whether a token can be a name. -/
def isName (token : Token) : Bool :=
  token.kind == .word && !reservedWords.contains token.text

end Token

end TypedClient.Source
