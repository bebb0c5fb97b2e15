import Phrasebook.Catalog
import Phrasebook.Issue
import Phrasebook.Json.StringLiteral
import Phrasebook.Report.Style
import Phrasebook.Text.Width

/-!
Reports: what a command prints.

Data goes to the output; issues and summaries are diagnostics.  An issue is
shown with its source line and a caret below the column that it points at.
-/

namespace Phrasebook.Report

/-- Lines of output, each ended by a line feed. -/
def printLines (ls : List Text) : Text :=
  ls.flatMap (· ++ ['\n'])

/-- A text after enough blanks to make it `width` characters long. -/
def alignRight (width : Nat) (t : Text) : Text :=
  List.replicate (width - t.length) ' ' ++ t

/-- The word for one of a thing, or for several. -/
def plural (n : Nat) (one many : String) : Text :=
  if n = 1 then one.toList else many.toList

/-! ### Issues -/

/-- The first word of an issue. -/
def severityLabel (colors : Bool) : Severity → Text
  | .error => Style.paint colors { color := some .red, bold := true } "error".toList
  | .warning => Style.paint colors { color := some .yellow, bold := true } "warning".toList

/-- The first word of warnings that are not issues. -/
def warningLabel (colors : Bool) : Text :=
  Style.paint colors { color := some .yellow, bold := true } "warning:".toList

def severityColor : Severity → Color
  | .error => .red
  | .warning => .yellow

/-- A mark of the frame around source lines. -/
def mark (colors : Bool) (t : Text) : Text :=
  Style.paint colors { color := some .blue } t

/-- The source line of an issue, framed; line numbers are `width` characters
wide. -/
def spotLines (colors : Bool) (width : Nat) (severity : Severity) (s : SourceSpot) :
    List Text :=
  let margin := alignRight width []
  let bar := mark colors ['|']
  let indent := Text.columns (s.source.take (s.column - 1))
  let caret := Style.paint colors { color := some (severityColor severity) } ['^']
  [[' ', ' '] ++ mark colors ['-', '-', '>'] ++ ' ' :: s.file ++ ':' :: Text.ofNat s.line ++
      ':' :: Text.ofNat s.column,
    margin ++ ' ' :: bar,
    mark colors (alignRight width (Text.ofNat s.line)) ++ ' ' :: bar ++ ' ' :: s.source,
    margin ++ ' ' :: bar ++ ' ' :: List.replicate indent ' ' ++ caret]

/-- One issue, followed by an empty line. -/
def issueLines (colors : Bool) (width : Nat) (i : Issue) : List Text :=
  let rule := Style.paint colors { color := some .cyan, dimmed := true } i.rule
  let note := Style.paint colors { bold := true } "note:".toList
  [severityLabel colors i.severity ++ [':', ' '] ++ i.message ++ [' ', ' '] ++ rule] ++
    (match i.spot? with
      | none => [[' ', ' '] ++ mark colors ['-', '-', '>'] ++ ' ' :: i.file]
      | some s => spotLines colors width i.severity s) ++
    [alignRight width [] ++ ' ' :: mark colors ['='] ++ ' ' :: note ++ ' ' :: i.note, []]

/-- The numbers of errors and warnings. -/
def summaryLine (colors : Bool) (is : List Issue) : Text :=
  let errors := Issue.count .error is
  let warnings := is.length - errors
  Style.paint colors { color := some .red } ['\u2718'] ++ ' ' :: Text.ofNat is.length ++
    " problems (".toList ++ Text.ofNat errors ++ ' ' ::
    Style.paint colors { color := some .red } (plural errors "error" "errors") ++
    ", ".toList ++ Text.ofNat warnings ++ ' ' ::
    Style.paint colors { color := some .yellow } (plural warnings "warning" "warnings") ++ [')']

/-- The number of characters of the greatest line number, one if there is
none. -/
def lineNumberWidth (is : List Issue) : Nat :=
  match (is.filterMap Issue.spot?).map SourceSpot.line with
  | [] => 1
  | n :: ns => (Text.ofNat (ns.foldl max n)).length

/-- All issues in order, and their numbers; nothing if there are none. -/
def issues (colors : Bool) (is : List Issue) : Text :=
  if is.isEmpty then []
  else
    let sorted := Issue.sort is
    printLines (sorted.flatMap (issueLines colors (lineNumberWidth sorted)) ++
      [summaryLine colors sorted])

/-! ### Catalogs -/

inductive Format where
  /-- A JSON list with one list for each msgid. -/
  | json
  /-- Each msgid on a line of its own, with indented lines for its
  locations. -/
  | text
  deriving DecidableEq, Repr

def jsonList (ts : List Text) : Text :=
  '[' :: Text.join [','] ts ++ [']']

def entries : Format → List CatalogEntry → Text
  | .json, es =>
      printLines [jsonList (es.map fun e =>
        jsonList ((e.msgid :: e.locations.map Location.show).map Json.writeString))]
  | .text, es =>
      printLines (es.flatMap fun e =>
        e.msgid :: e.locations.map fun l => ' ' :: ' ' :: l.show)

/-! ### Messages -/

/-- The success of an extraction. -/
def success (colors : Bool) (msgids files : Nat) : Text :=
  let green := Style.paint colors { color := some .green }
  printLines [green ['\u2713'] ++ ' ' :: green ("Extracted ".toList ++ Text.ofNat msgids ++
    ' ' :: plural msgids "msgid" "msgids" ++ " from ".toList ++ Text.ofNat files ++
    ' ' :: plural files "template" "templates")]

/-- The number of templates that gave nothing; details are on request. -/
def unprocessedWarning (colors : Bool) (count : Nat) (verbose : Bool) : Text :=
  if 0 < count && !verbose then
    printLines [warningLabel colors ++ ' ' :: Text.ofNat count ++
      " file(s) could not be processed (use ".toList ++
      Style.paint colors { color := some .cyan } ['-', 'v'] ++ " for details)".toList]
  else []

/-- A warning that is not an issue. -/
def warning (colors : Bool) (message : Text) : Text :=
  printLines [warningLabel colors ++ ' ' :: message]

end Phrasebook.Report
