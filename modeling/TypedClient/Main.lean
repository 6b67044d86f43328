/-
This file runs the program. It looks at those parts of the file system that the command can reach,
lets the command work on them, and carries out what has changed.
-/

import TypedClient.Disk.Change
import TypedClient.Project.CommandLine

namespace TypedClient.Terminal

/-- A look at the file system. -/
abbrev Look := StateT Disk IO

def pathOf (location : Location) : String :=
  "/" ++ "/".intercalate location

/-- What lies at a location of the file system. -/
def entryOf (location : Location) : IO (Option Entry) := do
  let path := pathOf location
  try
    match (← (← IO.FS.realPath path).metadata).type with
    | .dir => return some .directory
    | .file => return some (.file (Content.ofBytes (← IO.FS.readBinFile path).toList))
    | _ => return none
  catch _ => return none

def lookAt (location : Location) : Look Unit := do
  if ((← get).get? location).isNone then
    if let some entry ← entryOf location then
      modify fun disk => disk.put location entry

/-- Looks at the locations that a path leads through. -/
def lookAlong (path : String) : Look Unit := do
  let disk ← get
  let pieces := (Text.splitAt '/' path.toList).map String.ofList
  let mut location := if Path.isAbsolute path then [] else disk.here
  for piece in pieces do
    if piece == ".." then location := location.dropLast
    else if piece != "" && piece != "." then location := location ++ [piece]
    lookAt location

/-- Looks at the ignore files of a directory. -/
def lookAtRules (directory : Location) : Look Unit := do
  for names in [[".ignore"], [".gitignore"], [".git"], [".git", "info"],
      [".git", "info", "exclude"]] do
    lookAt (directory ++ names)

/-- Looks at the source files under a directory. -/
partial def lookAtSources (directory : Location) : Look Unit := do
  lookAtRules directory
  for entry in ← (← IO.FS.realPath (pathOf directory)).readDir do
    let location := directory ++ [entry.fileName]
    match (← entry.path.symlinkMetadata).type with
    | .dir =>
      lookAt location
      unless SourceSearch.passesOver (← get) location do lookAtSources location
    | .file => if SourceSearch.isSourceName entry.fileName then lookAt location
    | _ => pure ()

/-- Looks at the source files at or under a root. -/
def lookAtRoot (root : String) : Look Unit := do
  lookAlong root
  if let .ok location := (← get).locate root then
    for directory in Disk.directoriesAbove location do lookAtRules directory
    if (← get).isDirectoryAt location then lookAtSources location

partial def lookUnder (location : Location) : Look Unit := do
  lookAt location
  if (← get).isDirectoryAt location then
    for entry in ← (← IO.FS.realPath (pathOf location)).readDir do
      lookUnder (location ++ [entry.fileName])

/-- Looks at all that a command can reach. -/
def lookFor (command : Command) : Look Unit := do
  match command with
  | .help _ => return
  | .version => return
  | .generate options | .inspect options =>
    lookAlong options.settingsPath
    if let .ok project := Project.load (← get) options.settingsPath then
      project.roots.forM lookAtRoot
      lookAlong project.output
      if let .ok output := (← get).locate project.output then
        Delivery.ownedNames.forM fun name => lookUnder (output ++ [name])

def carryOut : DiskChange → IO Unit
  | .remove location => do
    match ← entryOf location with
    | some .directory => IO.FS.removeDirAll (pathOf location)
    | _ => IO.FS.removeFile (pathOf location)
  | .makeDirectory location => IO.FS.createDirAll (pathOf location)
  | .write location (.text value) => IO.FS.writeFile (pathOf location) value
  | .write location (.binary bytes) =>
    IO.FS.writeBinFile (pathOf location) (ByteArray.mk bytes.toArray)

/-- The location that relative paths start from. -/
def here : IO Location := do
  let directory := (← IO.currentDir).toString
  return (Text.splitAt '/' directory.toList).filterMap fun piece =>
    if piece.isEmpty then none else some (String.ofList piece)

/-- Does what the words of a command line say. -/
def run (words : List String) : IO Outcome := do
  match Command.read words with
  | none => return .badUsage
  | some command =>
    let (_, before) ← (lookFor command).run (Disk.bare (← here))
    let (outcome, after) := command.run before
    (before.changes after).forM carryOut
    return outcome

end TypedClient.Terminal

/-- The program. -/
def main (words : List String) : IO UInt32 := do
  let outcome ← TypedClient.Terminal.run words
  for diagnostic in TypedClient.Diagnostic.sorted outcome.diagnostics do
    IO.eprintln diagnostic.display
  IO.print outcome.output
  if let some complaint := outcome.complaint then IO.eprintln complaint
  return UInt32.ofNat outcome.exitCode
