/-
This file reads route templates: paths with parameter tokens in braces, such as the token for an
identifier with a constraint behind a colon.
-/

import TypedClient.Text.Blank
import TypedClient.Text.Piece

namespace TypedClient

open Text

/-- A parameter token of a route with its text, braces included. -/
structure RouteToken where
  text : String
  name : String
  constraint : Option String
  deriving DecidableEq, Repr, Inhabited

namespace RouteToken

/-- Tells whether the token takes the rest of the path, slashes included. -/
def isCatchAll (token : RouteToken) : Bool :=
  startsWith "\x7b*".toList token.text.toList

end RouteToken

/-- A part of a route: text that stands for itself, or a parameter token. -/
inductive RoutePart
  | plain (text : String)
  | token (token : RouteToken)
  deriving DecidableEq, Repr, Inhabited

namespace RoutePart

def text : RoutePart → String
  | plain text => text
  | token found => found.text

def consPlain (cs : List Char) (parts : List RoutePart) : List RoutePart :=
  match parts with
  | plain following :: rest => plain (String.ofList (cs ++ following.toList)) :: rest
  | _ => plain (String.ofList cs) :: parts

end RoutePart

/-- A parameter token with the range of bytes that it takes in the route. What follows from a route
is built from its parts, which hold the texts themselves. Who knows the route alone needs the ranges
to take it apart. -/
structure RouteParameter where
  name : String
  constraint : Option String
  start : Nat
  stop : Nat
  deriving DecidableEq, Repr, Inhabited

namespace Route

/-- A path without blanks and slashes at its ends. -/
def bare (path : List Char) : List Char :=
  dropEndWhile (· == '/') ((trim path).dropWhile (· == '/'))

/-- Joins paths by single slashes behind a slash; empty paths do not count. -/
def joinAll (paths : List (List Char)) : List Char :=
  '/' :: List.intercalate ['/'] ((paths.map bare).filter fun path => !path.isEmpty)

def join (group member : String) : String :=
  String.ofList (joinAll [group.toList, member.toList])

/-- The text up to the brace that closes a token, and the text behind it. `depth` counts the
braces that were opened inside the token. -/
def closeToken? : Nat → List Char → Option (List Char × List Char)
  | _, [] => none
  | depth, c :: rest =>
    if c == '{' then (closeToken? (depth + 1) rest).map fun parts => (c :: parts.1, parts.2)
    else if c == '}' then
      match depth with
      | 0 => some ([], rest)
      | outer + 1 => (closeToken? outer rest).map fun parts => (c :: parts.1, parts.2)
    else (closeToken? depth rest).map fun parts => (c :: parts.1, parts.2)

/-- The name and the constraint of a token; marks of a catch-all or optional token are no part of
the name. -/
def tokenOf (body : List Char) : RouteToken :=
  let (name, constraint) := match cutFirst? [':'] body with
    | some (before, behind) => (before, some (String.ofList behind))
    | none => (body, none)
  { text := String.ofList ('{' :: (body ++ ['}']))
    name := String.ofList (dropEndWhile (· == '?') ((trim name).dropWhile (· == '*')))
    constraint }

/-- The parts of a route of at most `steps` characters. Two opening braces in a row stand for
themselves, and so does a token without a name. -/
def partsWithin : Nat → List Char → List RoutePart
  | 0, _ => []
  | _, [] => []
  | steps + 1, '{' :: '{' :: rest => RoutePart.consPlain ['{', '{'] (partsWithin steps rest)
  | steps + 1, '{' :: rest =>
    match closeToken? 0 rest with
    | none => [.plain (String.ofList ('{' :: rest))]
    | some (body, behind) =>
      let token := tokenOf body
      if token.name.isEmpty then
        RoutePart.consPlain token.text.toList (partsWithin steps behind)
      else .token token :: partsWithin steps behind
  | steps + 1, c :: rest => RoutePart.consPlain [c] (partsWithin steps rest)

def parts (route : String) : List RoutePart :=
  partsWithin (route.length + 1) route.toList

/-- The tokens among the parts with the byte ranges that they take when the parts begin at the
given byte. -/
def parametersFrom (start : Nat) : List RoutePart → List RouteParameter
  | [] => []
  | .plain text :: rest => parametersFrom (start + text.utf8ByteSize) rest
  | .token token :: rest =>
    let stop := start + token.text.utf8ByteSize
    ⟨token.name, token.constraint, start, stop⟩ :: parametersFrom stop rest

def parameters (route : String) : List RouteParameter :=
  parametersFrom 0 (parts route)

def tokens (route : String) : List RouteToken :=
  (parts route).filterMap fun part => match part with
    | .token token => some token
    | .plain _ => none

end Route

end TypedClient
