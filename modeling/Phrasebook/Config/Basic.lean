import Phrasebook.Backend
import Phrasebook.FileTree
import Phrasebook.Glob.Pattern
import Phrasebook.Json.StringLiteral

/-!
The settings of a project.
-/

namespace Phrasebook

/-- The settings of a project, as its configuration file gives them. -/
structure Config where
  /-- Where to look for templates; everywhere if there are none. -/
  includes : List Text := []
  /-- What to pass over. -/
  ignores : List Text := ["**/node_modules/**".toList, "**/vendor/**".toList]
  backend : Text := Backend.i18n.name
  magic : Bool := true
  /-- Expressions embedded in plain text are HTML-escaped. -/
  escapeHtml : Bool := false
  deriving DecidableEq, Repr

inductive ConfigError where
  | unreadable (cause : FileError)
  /-- The configuration file does not hold settings. -/
  | malformed (path reason : Text)
  /-- An entry of the named list is no pattern. -/
  | invalidPattern (list pattern : Text) (cause : Glob.PatternError)
  | invalidBackend (cause : Error)
  deriving DecidableEq, Repr

def ConfigError.message : ConfigError → Text
  | .unreadable cause => cause.message
  | .malformed path reason =>
      "Failed to parse config file: ".toList ++ path.quoted ++ ": ".toList ++ reason
  | .invalidPattern list pattern cause =>
      "Invalid glob pattern in '".toList ++ list ++ "': \"".toList ++ pattern ++
        "\": ".toList ++ cause.message
  | .invalidBackend cause => "Invalid value for 'backend': ".toList ++ cause.message

namespace Config

def fileName : Text := ".hamli18nrc.json".toList

def parsedBackend (c : Config) : Except ConfigError Backend :=
  (Backend.ofName c.backend).mapError .invalidBackend

/-- Checks that every entry of a list is a pattern. -/
def checkPatterns (list : Text) (patterns : List Text) : Except ConfigError Unit :=
  patterns.forM fun p =>
    match Glob.Pattern.ofText p with
    | .ok _ => .ok ()
    | .error cause => .error (.invalidPattern list p cause)

/-- Checks the settings.  Entries to look in count as patterns only if they
hold wildcards. -/
def validate (c : Config) : Except ConfigError Unit := do
  checkPatterns "ignores".toList c.ignores
  checkPatterns "includes".toList (c.includes.filter Glob.isGlob)
  discard c.parsedBackend

/-! ### Written form -/

/-- A list of strings, one on each line, inside an indented object. -/
def writeTexts : List Text → Text
  | [] => ['[', ']']
  | t :: ts =>
      "[\n    ".toList ++
        Text.join ",\n    ".toList ((t :: ts).map Json.writeString) ++ "\n  ]".toList

def writeBool (b : Bool) : Text :=
  if b then "true".toList else "false".toList

/-- The settings as the text of a configuration file. -/
def write (c : Config) : Text :=
  let field (name : String) (value : Text) : Text :=
    Json.writeString name.toList ++ ": ".toList ++ value
  "\x7b\n  ".toList ++
    Text.join ",\n  ".toList
      [field "includes" (writeTexts c.includes),
        field "ignores" (writeTexts c.ignores),
        field "backend" (Json.writeString c.backend),
        field "magicTranslations" (writeBool c.magic),
        field "escapeHtml" (writeBool c.escapeHtml)] ++
    "\n\x7d".toList

end Config

end Phrasebook
