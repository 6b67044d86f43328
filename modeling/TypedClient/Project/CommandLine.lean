/-
This file defines the command line of the program: which commands there are, how their arguments
are read, and what they do to a disk and answer.
-/

import TypedClient.Contract.Document
import TypedClient.Project.Build

namespace TypedClient

/-- A part of the command line that has a help text of its own. -/
inductive HelpTopic
  | program
  | generate
  | inspect
  | help
  deriving DecidableEq, Repr, Inhabited

namespace HelpTopic

/-- The lines of the help text of a topic. -/
def lines : HelpTopic → List String
  | program =>
    ["Generate a typed TypeScript client from an ASP.NET Core backend",
      "",
      "Usage: clientgen <COMMAND>",
      "",
      "Commands:",
      "  generate  Extract the backend and write the client package",
      "  inspect   Print the extracted IR as JSON",
      "  help      Print this message or the help of the given subcommand(s)",
      "",
      "Options:",
      "  -h, --help     Print help",
      "  -V, --version  Print version"]
  | generate =>
    ["Extract the backend and write the client package",
      "",
      "Usage: clientgen generate [OPTIONS]",
      "",
      "Options:",
      "      --config <CONFIG>  Path to clientgen.toml [default: clientgen.toml]",
      "      --strict           Fail on warnings",
      "      --dry-run          Show what would be written without writing it",
      "      --clean            Remove previously generated output first",
      "  -h, --help             Print help"]
  | inspect =>
    ["Print the extracted IR as JSON",
      "",
      "Usage: clientgen inspect [OPTIONS]",
      "",
      "Options:",
      "      --config <CONFIG>  Path to clientgen.toml [default: clientgen.toml]",
      "  -h, --help             Print help"]
  | help =>
    ["Print this message or the help of the given subcommand(s)",
      "",
      "Usage: clientgen help [COMMAND]...",
      "",
      "Arguments:",
      "  [COMMAND]...  Print help for the subcommand(s)"]

def text (topic : HelpTopic) : String :=
  String.join (topic.lines.map (· ++ "\n"))

end HelpTopic

/-- The options of a command, as far as they have been given. -/
structure CommandOptions where
  settings : Option String := none
  strict : Bool := false
  dryRun : Bool := false
  clean : Bool := false
  deriving DecidableEq, Repr, Inhabited

def CommandOptions.settingsPath (options : CommandOptions) : String :=
  options.settings.getD Project.settingsFile

/-- What the program is asked to do. -/
inductive Command
  | generate (options : CommandOptions)
  | inspect (options : CommandOptions)
  | help (topic : HelpTopic)
  | version
  deriving DecidableEq, Repr, Inhabited

namespace Command

/-- Tells whether a word asks for help. Letters behind the short form do not count. -/
def asksForHelp (word : String) : Bool :=
  word == "--help" || Text.startsWith ['-', 'h'] word.toList

/-- Tells whether a word is an option and cannot be the value of one in front. A single hyphen is
no option. -/
def isOption (word : String) : Bool :=
  word.toList.head? == some '-' && word != "-"

/-- Options with the path of a settings file, which may be given once and may not be empty. -/
def withSettings (options : CommandOptions) (path : String) : Option CommandOptions :=
  if options.settings.isSome || path.isEmpty then none
  else some { options with settings := some path }

/-- Options with one that has no value, which may be given once. -/
def withFlag (options : CommandOptions) : String → Option CommandOptions
  | "--strict" => if options.strict then none else some { options with strict := true }
  | "--dry-run" => if options.dryRun then none else some { options with dryRun := true }
  | "--clean" => if options.clean then none else some { options with clean := true }
  | _ => none

/-- Reads the words behind the name of a command. `hasFlags` tells whether the command has options
without values. -/
def readOptions (topic : HelpTopic) (hasFlags : Bool) (make : CommandOptions → Command)
    (options : CommandOptions) : List String → Option Command
  | [] => some (make options)
  | ["--"] => some (make options)
  | "--config" :: path :: rest =>
    if isOption path then none
    else (withSettings options path).bind fun after =>
      readOptions topic hasFlags make after rest
  | word :: rest =>
    if asksForHelp word then some (.help topic)
    else
      let changed := match Text.afterStart? "--config=" word with
        | some path => withSettings options path
        | none => if hasFlags then withFlag options word else none
      changed.bind fun after => readOptions topic hasFlags make after rest

/-- The topic that the words behind `help` name. -/
def readTopic : List String → Option HelpTopic
  | [] => some .program
  | ["generate"] => some .generate
  | ["inspect"] => some .inspect
  | ["help"] => some .help
  | _ => none

/-- Reads the words of a command line. There is nothing to do for words that make no command. -/
def read : List String → Option Command
  | [] => none
  | "generate" :: rest => readOptions .generate true .generate {} rest
  | "inspect" :: rest => readOptions .inspect false .inspect {} rest
  | "help" :: rest => (readTopic rest).map .help
  | word :: _ =>
    if asksForHelp word then some (.help .program)
    else if word == "--version" || Text.startsWith ['-', 'V'] word.toList then some .version
    else none

end Command

/-- How the program ends. -/
structure Outcome where
  exitCode : Nat := 0
  /-- The text for the standard output. -/
  output : String := ""
  /-- Why the program has failed. -/
  complaint : Option String := none
  /-- What the run has reported. -/
  diagnostics : List Diagnostic := []
  deriving DecidableEq, Repr, Inhabited

namespace Outcome

/-- The end of a program that has failed. -/
def failure (message : String) (diagnostics : List Diagnostic) : Outcome :=
  { exitCode := 1
    complaint := some ("Error: " ++ message)
    diagnostics := diagnostics }

/-- The end of a program that has not understood its arguments. -/
def badUsage : Outcome :=
  { exitCode := 2
    complaint := some "error: the arguments make no command, see 'clientgen help'" }

end Outcome

namespace Command

/-- The name and the version of the program. -/
def versionText : String := "clientgen 0.2.0\n"

def failureText (report : RunReport) : String :=
  "generation failed: " ++ intText (report.count .error) ++ " errors, " ++
    intText (report.count .warning) ++ " warnings" ++ (if report.strict then " (strict)" else "")

def actionLines (summary : WriteSummary) : String :=
  String.join (summary.files.map fun (path, action) => action.label ++ " " ++ path ++ "\n")

/-- Builds the client of the project that the options name. -/
def generateOutcome (options : CommandOptions) : DiskAction BuildError Outcome := do
  match Project.load (← get) options.settingsPath with
  | .error _ => return .failure ("loading " ++ options.settingsPath) []
  | .ok project =>
    let chosen := { project with strict := project.strict || options.strict }
    let build ← chosen.build options.dryRun options.clean false
    let diagnostics := build.report.diagnostics
    match build.summary with
    | none => return .failure (failureText build.report) diagnostics
    | some summary =>
      return { output := if options.dryRun then actionLines summary else ""
               diagnostics := diagnostics }

/-- Prints the contract of the project that the options name. -/
def inspectOutcome (options : CommandOptions) (disk : Disk) : Outcome :=
  match Project.load disk options.settingsPath with
  | .error _ => .failure ("loading " ++ options.settingsPath) []
  | .ok project =>
    let extracted := project.extract disk false
    match extracted.value with
    | .error error => .failure error.message extracted.diagnostics
    | .ok contract =>
      { output := contract.document.pretty ++ "\n"
        diagnostics := extracted.diagnostics }

/-- Does what a command says. -/
def run (command : Command) (disk : Disk) : Outcome × Disk :=
  match command with
  | help topic => ({ output := topic.text }, disk)
  | version => ({ output := versionText }, disk)
  | inspect options => (inspectOutcome options disk, disk)
  | generate options =>
    match (generateOutcome options).run disk with
    | .ok outcome after => (outcome, after)
    | .error error after => (.failure error.message [], after)

/-- Does what the words of a command line say. -/
def runWords (words : List String) (disk : Disk) : Outcome × Disk :=
  match read words with
  | none => (.badUsage, disk)
  | some command => command.run disk

end Command

end TypedClient
