/-
This file reads and changes a disk through paths. A path is followed component by component, and
every component but the last has to be a directory.
-/

import TypedClient.Disk.Basic
import TypedClient.Path

namespace TypedClient

/-- Why an access to a disk fails. -/
inductive FileError
  | notFound
  | alreadyExists
  | notDirectory
  | isDirectory
  /-- The bytes of the file are no text. -/
  | notText
  deriving DecidableEq, Repr, Inhabited

/-- The text of an error. -/
def FileError.message : FileError → String
  | notFound => "No such file or directory (os error 2)"
  | alreadyExists => "File exists (os error 17)"
  | notDirectory => "Not a directory (os error 20)"
  | isDirectory => "Is a directory (os error 21)"
  | notText => "stream did not contain valid UTF-8"

def FileError.readingText (error : FileError) (path : String) : String :=
  "failed to read " ++ path ++ ": " ++ error.message

/-- A computation that may change a disk. An error does not undo the changes in front of it. -/
abbrev DiskAction (Error Result : Type) := EStateM Error Disk Result

namespace Disk

/-- Follows the pieces of a path from a location. Nothing has to lie at the last one. -/
def follow (disk : Disk) : Location → List String → Except FileError Location
  | location, [] => .ok location
  | location, piece :: rest =>
    match disk.get? location with
    | none => .error .notFound
    | some (.file _) => .error .notDirectory
    | some .directory =>
      if piece == "" || piece == "." then disk.follow location rest
      else if piece == ".." then disk.follow location.dropLast rest
      else disk.follow (location ++ [piece]) rest

def locate (disk : Disk) (path : String) : Except FileError Location :=
  if path.isEmpty then .error .notFound
  else
    let start := if Path.isAbsolute path then [] else disk.here
    disk.follow start ((Text.splitAt '/' path.toList).map String.ofList)

def entryAt (disk : Disk) (path : String) : Except FileError Entry := do
  match disk.get? (← disk.locate path) with
  | some entry => .ok entry
  | none => .error .notFound

/-- Tells whether a path leads to an entry. -/
def contains (disk : Disk) (path : String) : Bool :=
  (disk.entryAt path).toOption.isSome

/-- Tells whether a path leads to a directory. -/
def isDirectory (disk : Disk) (path : String) : Bool :=
  (disk.entryAt path).toOption == some .directory

/-- The text of the file that a path leads to. -/
def read (disk : Disk) (path : String) : Except FileError String := do
  match ← disk.entryAt path with
  | .directory => .error .isDirectory
  | .file (.binary _) => .error .notText
  | .file (.text value) => .ok value

def withoutEndSlash (path : String) : String :=
  String.ofList (path.toList.reverse.dropWhile (· == '/')).reverse

/-- The location that a new file at a path gets. -/
def fileLocation (disk : Disk) (path : String) : Except FileError Location :=
  match disk.locate path with
  | .ok location => if disk.isDirectoryAt location then .error .isDirectory else .ok location
  | .error .notFound =>
    if path.toList.getLast? == some '/' && (disk.locate (withoutEndSlash path)).toOption.isSome then
      .error .isDirectory
    else .error .notFound
  | .error error => .error error

def directoryLocation (disk : Disk) (path : String) : Except FileError Location := do
  let location ← disk.locate (if path.toList.all (· == '/') then path else withoutEndSlash path)
  if (disk.get? location).isSome then .error .alreadyExists else .ok location

end Disk

namespace DiskAction

/-- Fails or goes on with the result of a look at the disk. -/
def ofExcept {Error Result : Type} : Except Error Result → DiskAction Error Result
  | .ok result => pure result
  | .error error => throw error

/-- Writes a file. The directory that it lies in has to exist. -/
def writeFile (path : String) (content : Content) : DiskAction FileError Unit := do
  let location ← ofExcept ((← get).fileLocation path)
  modify fun disk => disk.put location (.file content)

def makeDirectory (path : String) : DiskAction FileError Unit := do
  let location ← ofExcept ((← get).directoryLocation path)
  modify fun disk => disk.put location .directory

/-- Makes a directory unless there is one, after at most `steps` directories above it. -/
def makeDirectoriesFrom : Nat → String → DiskAction FileError Unit
  | 0, _ => throw .notFound
  | steps + 1, path => do
    if path.isEmpty then return
    match (← get).directoryLocation path with
    | .ok location => modify fun disk => disk.put location .directory
    | .error .notFound =>
      makeDirectoriesFrom steps ((Path.parent? path).getD "")
      unless (← get).isDirectory path do makeDirectory path
    | .error error => unless (← get).isDirectory path do throw error

def makeDirectories (path : String) : DiskAction FileError Unit :=
  makeDirectoriesFrom (path.length + 1) path

def remove (path : String) : DiskAction FileError Unit := do
  let disk ← get
  let location ← ofExcept (disk.locate path)
  if (disk.get? location).isNone then throw .notFound
  set (disk.remove location)

end DiskAction

end TypedClient
