import Phrasebook.CommandLine.Run

/-!
The program: it shows a command the files around it and carries out what the
command decides.

The tree holds the working directory, what settings and repositories the
directories above it have, and whatever the arguments name.  Only templates,
configuration files and files named by an argument are read; of all others it
matters only that they are there.
-/

namespace Phrasebook.Main

/-- The names that lead to an absolute path. -/
def placeOf (path : String) : Place :=
  (Path.segments path.toList).filter fun s => !s.isEmpty

/-- The contents of a file, if they matter. -/
def contentsOf (always : Bool) (place : Place) (path : String) : IO Contents := do
  let matters := always || place.getLast?.any fun name =>
    name = Config.fileName || Path.isTemplate name
  if matters then
    try return Contents.ofBytes (← IO.FS.readBinFile path)
    catch _ => return .binary
  else return .text []

/-- The entries at and below an absolute path.  Links to directories are not
followed. -/
partial def entriesUnder (always : Bool) (path : String) :
    IO (List (Place × FileNode)) := do
  let place := placeOf path
  let found ← IO.FS.realPath path
  if !(← found.isDir) then return [(place, .file (← contentsOf always place path))]
  let children ← try found.readDir catch _ => pure #[]
  let mut entries := [(place, FileNode.directory)]
  for child in children do
    let below ←
      try
        let isLink := (← child.path.symlinkMetadata).type matches .symlink
        if isLink && (← child.path.isDir) then
          pure [(placeOf child.path.toString, FileNode.directory)]
        else entriesUnder false child.path.toString
      catch _ => pure []
    entries := below ++ entries
  return entries

/-- The entries at an absolute path; nothing if it leads nowhere. -/
def entriesAt (path : String) : IO (List (Place × FileNode)) := do
  try entriesUnder true path catch _ => return []

/-- The settings and repositories in the directories above a path. -/
def entriesAbove (path : String) : IO (List (Place × FileNode)) := do
  let directories := (List.range (placeOf path).length).map fun n =>
    Path.separator :: Text.join [Path.separator] ((placeOf path).take n)
  let wanted := directories.flatMap fun d =>
    [Path.join d Config.fileName, Path.join d ".git".toList]
  let mut entries := []
  for p in wanted do
    let found ← try IO.FS.realPath (String.ofList p) catch _ => continue
    if ← found.pathExists then
      let node ←
        if ← found.isDir then pure FileNode.directory
        else FileNode.file <$> contentsOf true (placeOf (String.ofList p)) (String.ofList p)
      entries := (placeOf (String.ofList p), node) :: entries
  return entries

/-- The files that a command with the given arguments can see. -/
def readTree (args : List String) : IO FileTree := do
  let directory := (← IO.currentDir).toString
  let mut entries := (← entriesAbove directory) ++ (← entriesUnder false directory)
  for arg in args do
    let path := Path.join directory.toList arg.toList
    let found ← try IO.FS.realPath (String.ofList path) catch _ => continue
    entries := (← entriesAt found.toString) ++ entries
  return ⟨entries, placeOf directory⟩

/-- A variable of the environment says yes. -/
def isSet (name : String) : IO Bool := do
  return (← IO.getEnv name).any (· ≠ "0")

def wantsColors : IO Bool := do
  if ← isSet "CLICOLOR_FORCE" then return true
  if (← IO.getEnv "NO_COLOR").isSome then return false
  if (← IO.getEnv "CLICOLOR") = some "0" then return false
  (← IO.getStdout).isTty

/-- What a command with the given arguments can see. -/
def surroundings (args : List String) : IO CommandLine.Surroundings := do
  let input ←
    if args.contains "-" then Contents.ofBytes <$> (← IO.getStdin).readBinToEnd
    else pure (.text [])
  return { tree := ← readTree args
           input := input
           backend := (← IO.getEnv "HAML_I18N_BACKEND").map String.toList
           colors := ← wantsColors }

/-- What is said about arguments that are not understood. -/
def usageMessage : CommandLine.Usage → String
  | .help | .version => ""
  | .invalidSubcommand => "unrecognized subcommand"
  | .unknownArgument => "unexpected argument found"
  | .invalidValue => "invalid or missing value for an argument"
  | .tooManyValues => "unexpected value for an argument"
  | .missingArgument => "a required argument was not provided"
  | .conflict => "an argument cannot be used multiple times"

def run (args : List String) : IO UInt32 := do
  match CommandLine.run (← surroundings args) (args.map String.toList) with
  | .ok outcome =>
      for (path, text) in outcome.written do
        IO.FS.writeFile (String.ofList path) (String.ofList text)
      IO.print (String.ofList outcome.output)
      IO.eprint (String.ofList outcome.diagnostics)
      return outcome.status.code.toUInt32
  | .error .help =>
      IO.print (String.ofList CommandLine.helpText)
      return 0
  | .error .version =>
      IO.println "haml-i18n 0.1.0"
      return 0
  | .error usage =>
      IO.eprintln s!"error: {usageMessage usage}"
      return CommandLine.ExitStatus.error.code.toUInt32

end Phrasebook.Main

/-- Runs the program with the arguments of the command line. -/
def main (args : List String) : IO UInt32 :=
  Phrasebook.Main.run args
