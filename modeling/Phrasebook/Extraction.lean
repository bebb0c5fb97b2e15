import Phrasebook.Catalog
import Phrasebook.Literal.Call
import Phrasebook.Phrase
import Phrasebook.Template.Node

/-!
Extraction: the msgids of a template.

Plain text and the values of literal tags are msgids once their embedded
expressions are replaced by placeholders.  A markdown filter is one msgid.
Evaluated tags, attribute hashes and javascript filters are code, in which only
the literals of explicit calls are msgids; lines of code are not searched.  A
fragment whose interpolation never ends fails the whole template, while a
literal that cannot be decoded is passed over with a warning.
-/

namespace Phrasebook

/-- A fragment of a template that cannot become a phrase. -/
structure FragmentError where
  file : Text
  line : Nat
  /-- The column of the offending text, counted from one in characters. -/
  column : Nat
  cause : Error
  deriving DecidableEq, Repr

namespace FragmentError

/-- The failure of the fragment `text` that starts in the given column.  It is
placed at the byte offset that its cause tells, if that is one of the
fragment. -/
def ofFragment (file : Text) (line column : Nat) (text : Text) (cause : Error) :
    FragmentError :=
  let skipped :=
    match cause with
    | .unbalancedDelimiter offset => ((Text.takeBytes? text offset).map List.length).getD 0
    | .malformedLiteral _ _ | .unknownBackend _ => 0
  ⟨file, line, column + skipped, cause⟩

def message (e : FragmentError) : Text :=
  e.file ++ ':' :: Text.ofNat e.line ++ ':' :: Text.ofNat e.column ++
    ": ".toList ++ e.cause.message

end FragmentError

/-- An explicit call whose literal cannot be decoded. -/
structure LiteralWarning where
  line : Nat
  /-- The column of the call, counted from one in characters. -/
  column : Nat
  cause : Error
  deriving DecidableEq, Repr

/-- What is found in a template or in a part of one. -/
structure Extraction where
  occurrences : List Occurrence := []
  warnings : List LiteralWarning := []
  deriving DecidableEq, Repr

namespace Extraction

/-- What is found in several parts, in order. -/
def concat (es : List Extraction) : Extraction where
  occurrences := es.flatMap occurrences
  warnings := es.flatMap warnings

def catalog (e : Extraction) : Catalog :=
  Catalog.ofOccurrences e.occurrences

def ofMsgid (file : Text) (line : Nat) (msgid : Text) : Extraction where
  occurrences := [⟨msgid, ⟨file, line⟩⟩]

/-- A fragment of text that starts in the given column. -/
def ofFragment (file : Text) (line column : Nat) (text : Text) :
    Except FragmentError Extraction :=
  match Phrase.ofText false text with
  | .ok phrase => .ok (ofMsgid file line phrase.template)
  | .error cause => .error (.ofFragment file line column text cause)

/-- The explicit calls in Ruby code. -/
def ofRuby (file : Text) (line : Nat) (code : Text) : Extraction where
  occurrences := (CallLiteral.inRuby code).map fun p =>
    ⟨p.literal.decodeRuby, ⟨file, line⟩⟩

/-- One explicit call in script code that is indented by `indent`
characters. -/
def ofScriptCall (file : Text) (line indent : Nat) (p : CallLiteral.Placed) : Extraction :=
  match p.literal.decodeScript with
  | .ok msgid => ofMsgid file line msgid
  | .error cause => { warnings := [⟨line, indent + p.before.length + 1, cause⟩] }

/-- The lines of a script, of which the first is line `line`. -/
def ofScript (file : Text) (line indent : Nat) : List Text → Extraction
  | [] => {}
  | code :: later =>
      concat [concat ((CallLiteral.inScript code).map (ofScriptCall file line indent)),
        ofScript file (line + 1) indent later]

/-- A filter whose header is on line `line`. -/
def ofFilter (file : Text) (line : Nat) (f : Filter) : Extraction :=
  match f.kind with
  | .markdown => ofMsgid file line f.msgid
  | .javascript => ofScript file (line + 1) f.indent.length (Text.pieces f.text)
  | .other _ => {}

def ofNode (file : Text) (n : Node) : Except FragmentError Extraction :=
  match n.kind with
  | .plain p => ofFragment file n.line p.column p.text
  | .tag t =>
      if t.isEvaluated then .ok (ofRuby file n.line t.value)
      else ofFragment file n.line t.column t.value
  | .attributes hashes => .ok (concat (hashes.map (ofRuby file n.line)))
  | .script _ _ => .ok {}
  | .filter f => .ok (ofFilter file n.line f)

def ofTemplate (t : Template) : Except FragmentError Extraction := do
  let found ← t.enabledNodes.mapM (ofNode t.name)
  return concat found

end Extraction

/-- A catalog with the msgids of a template after its own, and the warnings
about that template; one that fails adds nothing. -/
def Catalog.addTemplate (c : Catalog) (t : Template) :
    Except FragmentError (Catalog × List LiteralWarning) := do
  let found ← Extraction.ofTemplate t
  return (c.merge found.catalog, found.warnings)

end Phrasebook
