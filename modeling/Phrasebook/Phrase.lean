import Phrasebook.Error
import Phrasebook.Marker
import Phrasebook.Snippet

/-!
Phrases: what a fragment of template text becomes in a catalog.

The template of a phrase is the fragment with every embedded expression
replaced by a placeholder; the arguments are those expressions in order.  What
the catalog of a language has for the template is filled positionally when the
page is rendered.
-/

namespace Phrasebook

/-- Stands for one embedded expression. -/
def placeholder : Text := ['%', 's']

/-- A format template with the expressions for its placeholders. -/
structure Phrase where
  template : Text
  args : List Text
  deriving DecidableEq, Repr

/-- The part of a template that comes from one marker: each pair of backslashes
gives one, and an escaped marker gives the characters that it consists of. -/
def Marker.template (m : Marker) : Text :=
  m.lead ++ List.replicate (m.escapes / 2) Marker.escape ++
    (match m.content with
      | none => [Marker.sigil, '{']
      | some _ => placeholder)

/-- A code fragment, wrapped so that its value is HTML-escaped if asked for. -/
def wrapExpression (escapeHtml : Bool) (code : Text) : Text :=
  if escapeHtml then Snippet.escapeHtml code else code

namespace Phrase

/-- No text and nothing to evaluate. -/
def isEmpty (p : Phrase) : Bool :=
  p.template.isEmpty && p.args.isEmpty

/-- The phrase of the given markers and the text after them, which loses one
line terminator at its end. -/
def ofMarkers (escapeHtml : Bool) (markers : List Marker) (tail : Text) : Phrase where
  template := markers.flatMap Marker.template ++ Text.chomp tail
  args := (markers.filterMap Marker.content).map (wrapExpression escapeHtml)

/-- The phrase of a fragment.  With `escapeHtml` the expressions are wrapped in
an escaping call, which leaves the template alone. -/
def ofText (escapeHtml : Bool) (t : Text) : Except Error Phrase :=
  let s := Marker.scan '{' '}' t
  match s.ending with
  | .text tail => .ok (ofMarkers escapeHtml s.markers tail)
  | .unterminated before =>
      .error (.unbalancedDelimiter (Marker.size '{' '}' s.markers + Text.utf8Size before))

/-- The filling of a template: each placeholder takes the next value and stays
as it is when none is left, and a doubled percent sign stands for one. -/
def fill : Text → List Text → Text
  | [], _ => []
  | [c], _ => [c]
  | c :: d :: t, values =>
      if c = '%' then
        if d = '%' then '%' :: fill t values
        else if d = 's' then
          match values with
          | [] => c :: d :: fill t []
          | v :: values => v ++ fill t values
        else c :: fill (d :: t) values
      else c :: fill (d :: t) values

/-- What a catalog has for `template`, filled with `values`.  What the catalog
does not know stands for itself. -/
def render (catalog : Text → Option Text) (template : Text) (values : List Text) : Text :=
  fill ((catalog template).getD template) values

end Phrase

end Phrasebook
