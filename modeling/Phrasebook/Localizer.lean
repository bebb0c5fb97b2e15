import Phrasebook.Backend
import Phrasebook.Extraction
import Phrasebook.Template.Parse

/-!
Localization: from a template to one whose text is looked up when it is
rendered.

Each node asks for edits of source lines, and the localized template is its
source with those edits made.  A line of plain text becomes an unescaped script
line with one lookup, the value of a literal tag becomes an interpolated
lookup, the body of a markdown filter becomes one line, and in the body of a
javascript filter each explicit call is replaced where it stands.
-/

namespace Phrasebook

/-- The switch for localization and the library to use. -/
structure Magic where
  enabled : Bool
  backend : Backend
  deriving DecidableEq, Repr

namespace Magic

def disabled : Magic :=
  ⟨false, .i18n⟩

def enable (backend : Text) : Except Error Magic := do
  return ⟨true, ← Backend.ofName backend⟩

end Magic

structure Localizer where
  magic : Magic
  /-- Takes precedence over the switch of `magic`. -/
  override : Option Bool
  /-- HTML-escape the expressions embedded in plain text. -/
  escapeHtml : Bool
  deriving DecidableEq, Repr

/-- What becomes of one source line; without a text it is removed. -/
structure LineEdit where
  line : Nat
  text : Option Text
  deriving DecidableEq, Repr

namespace Localizer

def isActive (l : Localizer) : Bool :=
  l.override.getD l.magic.enabled

/-- The line that makes the lookup method available, if one is needed. -/
def preamble (l : Localizer) : Option Text :=
  if l.isActive && l.magic.enabled then l.magic.backend.helpers?.map Snippet.preamble
  else none

/-- The lookup for a line of plain text.  A mark before the text decides on
escaping; without one the setting does. -/
def plainLookup (l : Localizer) (p : PlainText) : Except Error Text := do
  let phrase ← Phrase.ofText (p.escape.getD l.escapeHtml) p.text
  return Snippet.lookup phrase.template phrase.args

/-- The new value of a tag; `none` if the value stays as it is. -/
def tagValue (l : Localizer) (tag : Tag) : Except Error (Option Text) :=
  if !l.isActive || tag.value.isEmpty || tag.isEvaluated then .ok none
  else do
    let phrase ← Phrase.ofText false tag.value
    return some (Snippet.interpolation (Snippet.lookup phrase.template phrase.args))

/-- The line that takes the place of a markdown body; `none` if the body is
blank. -/
def markdownLine (f : Filter) : Option Text :=
  if f.msgid.isEmpty then none
  else some (Snippet.interpolation (Snippet.lookup f.msgid []))

/-- What takes the place of an explicit call in script code; a call that cannot
be decoded stays as it is. -/
def scriptCall (l : CallLiteral) : Text :=
  match l.decodeScript with
  | .ok msgid => Snippet.interpolation (Snippet.scriptLookup msgid)
  | .error _ => l.source

/-- A line of script code with its explicit calls replaced. -/
def scriptLine (line : Text) : Text :=
  let s := CallLiteral.scan [.single, .double] line
  (s.calls.flatMap fun (before, l) => before ++ scriptCall l) ++ s.tail

/-- The edits for the body of a filter whose header is on line `line`. -/
def filterEdits (sourceLines : List Text) (line : Nat) (f : Filter) : List LineEdit :=
  let bodyLines := List.range' (line + 1) (f.endLine - line)
  match f.kind with
  | .markdown =>
      match markdownLine f, bodyLines with
      | some text, first :: later =>
          ⟨first, some (f.indent ++ text)⟩ :: later.map fun n => ⟨n, none⟩
      | _, _ => []
  | .javascript =>
      bodyLines.map fun n => ⟨n, sourceLines[n - 1]?.map scriptLine⟩
  | .other _ => []

/-- The edits that a node of the template `name` asks for. -/
def edits (l : Localizer) (name : Text) (sourceLines : List Text) (n : Node) :
    Except FragmentError (List LineEdit) :=
  let source := (sourceLines[n.line - 1]?).getD []
  match n.kind with
  | .plain p =>
      match l.plainLookup p with
      | .ok call =>
          .ok [⟨n.line, some (Text.indentation source ++ ['!', '=', ' '] ++ call)⟩]
      | .error cause => .error (.ofFragment name n.line p.column p.text cause)
  | .tag tag =>
      match l.tagValue tag with
      | .ok none => .ok []
      | .ok (some value) =>
          .ok [⟨n.line, some ((Text.takeBytes? source tag.offset).getD [] ++ value)⟩]
      | .error cause => .error (.ofFragment name n.line tag.column tag.value cause)
  | .filter f => .ok (filterEdits sourceLines n.line f)
  | .attributes _ | .script _ _ => .ok []

/-- What becomes of line `line`: the last edit for it counts. -/
def editedLine (es : List LineEdit) (line : Nat) (source : Text) : Option Text :=
  match es.reverse.find? fun e => e.line = line with
  | some e => e.text
  | none => some source

/-- Lines numbered from `line` on, with edits made. -/
def applyEdits (es : List LineEdit) (line : Nat) : List Text → List Text
  | [] => []
  | l :: ls => (editedLine es line l).toList ++ applyEdits es (line + 1) ls

/-- A template source localized; it is left alone when localization is not
active. -/
def localize (l : Localizer) (source name : Text) : Except FragmentError Text :=
  if !l.isActive then .ok source
  else do
    let template := Template.parse source name
    let sourceLines := Text.lines source
    let es ← template.enabledNodes.mapM (l.edits name sourceLines)
    let body := applyEdits es.flatten 1 sourceLines
    let text := Text.unlines (l.preamble.toList ++ body)
    return if Text.endsLine source then text ++ ['\n'] else text

end Localizer

end Phrasebook
