/-
This file reads the rules of ignore files and decides by them which entries of a disk are ignored.
A rule counts for the directory that its file belongs to and for all below it.
-/

import TypedClient.Disk.Basic
import TypedClient.Ignore.Glob
import TypedClient.Text.Blank
import TypedClient.Text.Piece

namespace TypedClient

/-- A rule of an ignore file. -/
structure IgnoreRule where
  pattern : List Glob.Part
  /-- The rule keeps what it names, and does not ignore it. -/
  keeps : Bool
  onlyDirectories : Bool
  deriving Repr

/-- What rules say about an entry. -/
inductive Verdict
  | ignored
  | kept
  deriving DecidableEq, Repr, Inhabited

namespace IgnoreRule

/-- A pattern that matches at any depth unless it names directories itself. -/
def atAnyDepth (pattern : List Char) : List Char :=
  let stars := ['*', '*', '/']
  if pattern.contains '/' || pattern == ['*', '*'] then pattern else stars ++ pattern

/-- A pattern that ends in any directories stands only for what is inside of them. -/
def insideOnly (pattern : List Char) : List Char :=
  if Text.endsWith ['/', '*', '*'] pattern then pattern ++ ['/', '*'] else pattern

/-- The pattern without a slash at its end, and whether there was one. -/
def cutEndSlash (pattern : List Char) : List Char × Bool :=
  match Text.dropEnd? ['/'] pattern with
  | none => (pattern, false)
  | some front => ((Text.dropEnd? ['\\'] front).getD front, true)

/-- The rule of a line that is neither blank nor a comment. An exclamation mark in front makes a
rule that keeps, and a slash in front one for the directory of the file only. -/
def ofPattern? (line : List Char) : Option IgnoreRule :=
  let isEscaped := Text.startsWith ['\\', '!'] line || Text.startsWith ['\\', '#'] line
  let keeps := line.head? == some '!'
  let body := if isEscaped || keeps then line.drop 1 else line
  let isAnchored := !isEscaped && body.head? == some '/'
  let (pattern, onlyDirectories) := cutEndSlash (if isAnchored then body.drop 1 else body)
  let placed := insideOnly (if isAnchored then pattern else atAnyDepth pattern)
  (Glob.read? (Glob.bytes (String.ofList placed))).map fun parts =>
    ⟨parts, keeps, onlyDirectories⟩

/-- The rule of a line. Blanks at the end do not count unless a backslash stands in front. -/
def ofLine? (line : List Char) : Option IgnoreRule :=
  let trimmed := if Text.endsWith ['\\', ' '] line then line else Text.trimEnd line
  if line.head? == some '#' || trimmed.isEmpty then none else ofPattern? trimmed

/-- The lines of a file up to the first one that is no text. -/
def lines : Content → List (List Char)
  | .text value => Text.splitAt '\n' value.toList
  | .binary bytes => ((textLines (bytes.splitOn 10)).map String.toList)
where
  /-- The texts of lines of bytes up to the first one that is no text. -/
  textLines : List (List UInt8) → List String
    | [] => []
    | line :: rest =>
      match Content.ofBytes line with
      | .text value => value :: textLines rest
      | .binary _ => []

def ofContent (content : Content) : List IgnoreRule :=
  match lines content with
  | [] => []
  | first :: rest =>
    ((first.dropWhile fun c => c.toNat == 0xfeff) :: rest).filterMap ofLine?

/-- What the last rule that matches says about a path under the directory of the rules. -/
def verdict? (rules : List IgnoreRule) (names : List String) (isDirectory : Bool) :
    Option Verdict :=
  let path := Glob.bytes ("/".intercalate names)
  let matching := rules.filter fun rule =>
    (isDirectory || !rule.onlyDirectories) && Glob.holds rule.pattern path
  matching.getLast?.map fun rule => if rule.keeps then .kept else .ignored

end IgnoreRule

namespace Disk

def directoriesAbove (location : Location) : List Location :=
  (List.range location.length).reverse.map location.take

/-- What the ignore files of a name say about a location. The nearest one that says something
counts. -/
def verdictOf? (disk : Disk) (file : List String) (directories : List Location)
    (location : Location) : Option Verdict :=
  directories.findSome? fun directory => do
    let content ← disk.content? (directory ++ file)
    IgnoreRule.verdict? (IgnoreRule.ofContent content) (location.drop directory.length)
      (disk.isDirectoryAt location)

/-- The directories above a location up to the root of the repository that it lies in; none outside
of a repository. -/
def repositoryAbove (disk : Disk) (location : Location) : List Location :=
  let directories := directoriesAbove location
  match directories.findIdx? fun directory => (disk.get? (directory ++ [".git"])).isSome with
  | none => []
  | some index => directories.take (index + 1)

/-- What all ignore files say about a location. -/
def ignoreVerdict? (disk : Disk) (location : Location) : Option Verdict :=
  let repository := disk.repositoryAbove location
  (disk.verdictOf? [".ignore"] (directoriesAbove location) location).or
    ((disk.verdictOf? [".gitignore"] repository location).or
      (disk.verdictOf? [".git", "info", "exclude"] repository location))

end Disk

end TypedClient
