import Phrasebook.Batch
import Phrasebook.CommandLine.Arguments
import Phrasebook.Config.Find
import Phrasebook.Discovery
import Phrasebook.Localizer

/-!
The commands.

A command is a function of what it can see, and its outcome holds all that it
does: its exit status, what it prints, and the files that it writes.
-/

namespace Phrasebook.CommandLine

/-- What a command can see. -/
structure Surroundings where
  tree : FileTree
  input : Contents
  /-- The backend that the environment names. -/
  backend : Option Text
  colors : Bool

inductive ExitStatus where
  | success
  /-- A template could not be processed, or there was something in the way. -/
  | failure
  /-- The command itself could not be carried out. -/
  | error
  deriving DecidableEq, Repr

def ExitStatus.code : ExitStatus → Nat
  | .success => 0
  | .failure => 1
  | .error => 2

structure Outcome where
  status : ExitStatus
  output : Text := []
  diagnostics : Text := []
  /-- Paths with the texts to be written there. -/
  written : List (Text × Text) := []
  deriving DecidableEq, Repr

/-- The outcome of a command that could not be carried out, after it has
printed `diagnostics`. -/
def Outcome.failed (diagnostics message : Text) : Outcome where
  status := .error
  diagnostics := diagnostics ++ Report.printLines ["Error: ".toList ++ message]

def statusOf (is : List Issue) : ExitStatus :=
  if 0 < Issue.count .error is then .failure else .success

/-! ### Extraction -/

/-- The templates to extract from, with what is to be printed about them. -/
structure Selection where
  batch : Batch
  diagnostics : Text

/-- What is printed about templates that contribute nothing. -/
def failureWarnings (colors : Bool) (b : Batch) : Text :=
  b.failures.flatMap fun (path, f) =>
    Report.warning colors (path ++ " - ".toList ++ f.message)

/-- What is printed about entries and places that were passed over. -/
def discoveryWarnings (colors verbose : Bool) (d : Discovery) : Text :=
  if verbose then d.warnings.flatMap fun w => Report.warning colors w.message else []

/-- What is printed about the settings and the places to look in. -/
def discoveryDiagnostics (colors verbose fromFile : Bool) (d : Discovery) : Text :=
  (if verbose && !fromFile then
      Report.printLines ["Note: No ".toList ++ Config.fileName ++
        " found, using default configuration".toList]
    else []) ++
  discoveryWarnings colors verbose d ++
  (if 0 < d.skipped then
      Report.warning colors (Text.ofNat d.skipped ++
        " path(s) skipped due to access errors".toList ++
        (if verbose then [] else " (use -v for details)".toList))
    else [])

/-- The given templates, or all that the project has. -/
def select (s : Surroundings) (paths : List Text) (common : Common) :
    Except ConfigError Selection := do
  if paths.isEmpty then
    let root := common.sourceRoot.getD ['.']
    let loaded ← Config.loadFor s.tree root
    let d := Discovery.run s.tree root loaded.config.includes loaded.config.ignores
    return ⟨Batch.ofPaths s.tree.readText d.files,
      discoveryDiagnostics s.colors common.verbose loaded.fromFile d⟩
  else return ⟨Batch.ofPaths s.tree.readText paths, []⟩

def extract (s : Surroundings) (paths : List Text) (format : Report.Format)
    (common : Common) : Outcome :=
  match select s paths common with
  | .error e => .failed [] e.message
  | .ok selection =>
      let b := selection.batch
      { status := statusOf b.issues
        output := Report.entries format b.catalog.entries
        diagnostics :=
          selection.diagnostics ++
          (if common.verbose then failureWarnings s.colors b else []) ++
          Report.issues s.colors b.issues ++
          (if Issue.count .error b.issues = 0 then
              Report.success s.colors b.catalog.size b.checked
            else []) ++
          Report.unprocessedWarning s.colors (Issue.count .error b.issues) common.verbose }

/-! ### Localization -/

/-- The localizer for some settings, over which options take precedence. -/
def localizerOf (c : Config) (backend : Option Text) (escapeHtml noMagic : Bool) :
    Except Text Localizer := do
  let b ←
    match backend with
    | some name => (Backend.ofName name).mapError Error.message
    | none => c.parsedBackend.mapError ConfigError.message
  return { magic := ⟨c.magic, b⟩
           override := if noMagic then some false else none
           escapeHtml := escapeHtml || c.escapeHtml }

/-- The name and the source of the template to localize; a hyphen stands for
standard input. -/
def readInput (s : Surroundings) (input : Text) : Except Text (Text × Text) :=
  if input = ['-'] then
    match s.input with
    | .text t => .ok (Template.streamName, t)
    | .binary =>
        .error ("Failed to read standard input: ".toList ++ FileError.notText.message)
  else
    match s.tree.readText input with
    | .ok t => .ok (input, t)
    | .error e =>
        .error ("Failed to read file: ".toList ++ input ++ ": ".toList ++ e.message)

def localize (s : Surroundings) (input : Text) (backend : Option Text)
    (escapeHtml noMagic : Bool) (common : Common) : Outcome :=
  let attempt : Except Text Outcome := do
    let loaded ← (Config.loadFor s.tree (common.sourceRoot.getD ['.'])).mapError
      ConfigError.message
    let l ← localizerOf loaded.config (backend.or s.backend) escapeHtml noMagic
    let (name, source) ← readInput s input
    match l.localize source name with
    | .ok text => return { status := .success, output := text }
    | .error e =>
        let i : Issue := .unprocessed name e.cause.message
          (some (.inSource name source e.line e.column))
        return { status := statusOf [i], diagnostics := Report.issues s.colors [i] }
  match attempt with
  | .ok o => o
  | .error message => .failed [] message

/-! ### Settings -/

/-- Writes the default settings, unless there is a configuration file. -/
def init (s : Surroundings) : Outcome :=
  if s.tree.contains Config.fileName then
    { status := .failure
      diagnostics := Report.printLines
        [Style.paint s.colors { color := some .red, bold := true } "error:".toList ++
          ' ' :: Config.fileName ++ " already exists".toList] }
  else
    let green := Style.paint s.colors { color := some .green }
    { status := .success
      output := Report.printLines
        [green ['\u2713'] ++ ' ' :: green ("Created ".toList ++ Config.fileName)]
      written := [(Config.fileName, Config.write {})] }

/-! ### All commands -/

def helpText : Text :=
  Report.printLines <| List.map String.toList
    ["Magic translations for Haml templates: interpolation rewriting and msgid extraction",
      "",
      "Usage: haml-i18n [COMMAND]",
      "",
      "Commands:",
      "  extract  Extract translatable strings from Haml templates",
      "  rewrite  Rewrite a Haml template so its text is looked up at render time",
      "  init     Initialize a new .hamli18nrc.json configuration file",
      "  help     Print this message or the help of the given subcommand(s)",
      "",
      "Options:",
      "  -h, --help     Print help",
      "  -V, --version  Print version"]

def perform (s : Surroundings) : Command → Outcome
  | .extract paths format common => extract s paths format common
  | .localize input backend escapeHtml noMagic common =>
      localize s input backend escapeHtml noMagic common
  | .init => init s

def run (s : Surroundings) (args : List Text) : Except Usage Outcome := do
  match ← readCommand args with
  | none => return { status := .success, output := helpText }
  | some command => return perform s command

end Phrasebook.CommandLine
