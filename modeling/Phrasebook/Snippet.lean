import Phrasebook.Literal.SingleQuoted

/-!
The Ruby code that is written into templates: lookups of msgids, and the line
that brings the lookup method into the view.
-/

namespace Phrasebook.Snippet

/-- A call of the lookup method with one literal. -/
def call (msgid : Text) : Text :=
  ['_', '(', '\''] ++ Literal.SingleQuoted.encode msgid ++ ['\'', ')']

/-- A lookup of `template` whose placeholders are filled with `args`. -/
def lookup (template : Text) (args : List Text) : Text :=
  call template ++ [' ', '%', ' ', '['] ++ Text.join [',', ' '] args ++ [']']

/-- A lookup of `msgid` written as a script string literal. -/
def scriptLookup (msgid : Text) : Text :=
  call msgid ++ ".to_json".toList

/-- An expression whose value is HTML-escaped. -/
def escapeHtml (expression : Text) : Text :=
  "Haml::Helpers.html_escape(".toList ++ expression ++ [')']

/-- The template line that mixes `helpers` into the view. -/
def preamble (helpers : Text) : Text :=
  "- extend ".toList ++ helpers

def interpolation (code : Text) : Text :=
  ['#', '{'] ++ code ++ ['}']

end Phrasebook.Snippet
