import Phrasebook.Template.Tag

/-!
Classifying the lines of a template that are neither comments nor filters.
-/

namespace Phrasebook.TemplateLine

/-- A node of literal text, unless there is none.  The text comes after
`before` on its line. -/
def plain (line : Nat) (before : Text) (escape : Option Bool) (rest : Text) : List Node :=
  let text := Text.trimEnd (Text.unindented rest)
  if text.isEmpty then []
  else
    let lead := before ++ Text.indentation rest
    [⟨line, .plain
      { text := text
        escape := escape
        offset := Text.utf8Size lead
        column := lead.length + 1 }⟩]

def script (line : Nat) (code : Text) (silent : Bool) : List Node :=
  [⟨line, .script (Text.trim code) silent⟩]

/-- The nodes of the line body that follows `indent` on line `line`.  The
answer is `none` when the body is a tag with an attribute group that is still
open at its end; only such a body may hold line feeds. -/
def nodes? (line : Nat) (indent body : Text) : Option (List Node) :=
  if TagLine.startsTag body then TagLine.nodes? line indent body
  else
    some <|
      match body with
      | '!' :: '!' :: '!' :: _ => []
      | '/' :: _ => []
      | '\\' :: rest => plain line (indent ++ ['\\']) none rest
      | '=' :: code => script line code false
      | '~' :: code => script line code false
      | '&' :: '=' :: code => script line code false
      | '!' :: '=' :: code => script line code false
      | '&' :: rest => plain line (indent ++ ['&']) (some true) rest
      | '!' :: rest => plain line (indent ++ ['!']) (some false) rest
      | '-' :: code => script line code true
      | body => plain line indent none body

/-- A line that can continue an attribute group opened on a line indented by
`indent` characters. -/
def continuesGroup (indent : Nat) (line : Text) : Bool :=
  indent < (Text.indentation line).length || Text.isBlankLine line ||
    (Text.unindented line).head?.any fun c => c = '}' || c = ')' || c = ']'

/-- The nodes of a line body and of as few of the lines after it as close its
attribute groups, with the number of those lines.  Lines whose groups never
close give no nodes. -/
def gather (line : Nat) (indent : Text) : Text → List Text → List Node × Nat
  | body, [] => ((nodes? line indent body).getD [], 0)
  | body, next :: later =>
      match nodes? line indent body with
      | some nodes => (nodes, 0)
      | none =>
          if continuesGroup indent.length next then
            let (nodes, taken) := gather line indent (body ++ '\n' :: next) later
            (nodes, taken + 1)
          else ([], 0)

end Phrasebook.TemplateLine
