import Phrasebook.Directive

/-!
The parts of a template that matter to its localization.
-/

namespace Phrasebook

structure PlainText where
  text : Text
  /-- The escaping that a mark before the text forces. -/
  escape : Option Bool
  /-- The byte offset of the text in its line. -/
  offset : Nat
  /-- The column of the text, counted from one in characters. -/
  column : Nat
  deriving DecidableEq, Repr

/-- What a tag does with its inline value. -/
inductive TagAction where
  | evaluate
  | evaluateEscaped
  | evaluateUnescaped
  | preserve
  | escaped
  | unescaped
  | selfClose
  deriving DecidableEq, Repr

/-- The value is code to evaluate and not literal text. -/
def TagAction.isEvaluated : TagAction → Bool
  | .evaluate | .evaluateEscaped | .evaluateUnescaped => true
  | .preserve | .escaped | .unescaped | .selfClose => false

/-- A tag with its inline value, which may be empty. -/
structure Tag where
  name : Text
  action : Option TagAction
  value : Text
  /-- The byte offset of the value in its line. -/
  offset : Nat
  /-- The column of the value, counted from one in characters. -/
  column : Nat
  deriving DecidableEq, Repr

/-- The value is code to evaluate and not literal text. -/
def Tag.isEvaluated (t : Tag) : Bool :=
  t.action.any TagAction.isEvaluated

/-- What processes the body of a filter block. -/
inductive FilterKind where
  | markdown
  | javascript
  | other (name : Text)
  deriving DecidableEq, Repr

def FilterKind.ofName (name : Text) : FilterKind :=
  if name = "markdown".toList then .markdown
  else if name = "javascript".toList then .javascript
  else .other name

structure Filter where
  kind : FilterKind
  /-- The body without its indentation, lines joined by line feeds. -/
  text : Text
  /-- The indentation that was taken off each body line. -/
  indent : Text
  /-- The last line of the block. -/
  endLine : Nat
  deriving DecidableEq, Repr

/-- The lines of a text without the blank ones at its start. -/
def dropBlankLines : List Text → List Text
  | [] => []
  | l :: ls => if Text.isBlankLine l then dropBlankLines ls else l :: ls

/-- A text in one line: blank lines around it are dropped, and each line feed
is written as a backslash and an `n`. -/
def collapse (t : Text) : Text :=
  (Text.trimEnd (Text.unlines (dropBlankLines (Text.pieces t)))).flatMap fun c =>
    if c = '\n' then ['\\', 'n'] else [c]

/-- The body as one msgid. -/
def Filter.msgid (f : Filter) : Text :=
  collapse f.text

inductive NodeKind where
  | plain (p : PlainText)
  | tag (t : Tag)
  /-- The attribute hashes of a tag, each without its braces. -/
  | attributes (hashes : List Text)
  /-- A line of code; a silent one produces no output. -/
  | script (code : Text) (silent : Bool)
  | filter (f : Filter)
  deriving DecidableEq, Repr

/-- A part of a template and the line that it stands on. -/
structure Node where
  line : Nat
  kind : NodeKind
  deriving DecidableEq, Repr

/-- A template split into parts. -/
structure Template where
  /-- The path of its file, or what stands for one. -/
  name : Text
  nodes : List Node
  disabled : DisabledLines
  deriving DecidableEq, Repr

/-- The nodes that directives leave to be localized. -/
def Template.enabledNodes (t : Template) : List Node :=
  t.nodes.filter fun n => !t.disabled.contains n.line

end Phrasebook
