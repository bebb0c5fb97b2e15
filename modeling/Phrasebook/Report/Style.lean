import Phrasebook.Text.Basic

/-!
Styled text for terminals.
-/

namespace Phrasebook

inductive Color where
  | red
  | green
  | yellow
  | blue
  | cyan
  deriving DecidableEq, Repr

def Color.code : Color → Text
  | .red => ['3', '1']
  | .green => ['3', '2']
  | .yellow => ['3', '3']
  | .blue => ['3', '4']
  | .cyan => ['3', '6']

/-- A colour, and whether text is bold or dimmed in it. -/
structure Style where
  color : Option Color := none
  bold : Bool := false
  dimmed : Bool := false
  deriving DecidableEq, Repr

namespace Style

def codes (s : Style) : List Text :=
  (if s.bold then [['1']] else []) ++ (if s.dimmed then [['2']] else []) ++
    (s.color.map Color.code).toList

/-- A text in a style; with colours switched off it stays as it is. -/
def paint (colors : Bool) (s : Style) (t : Text) : Text :=
  if colors && !s.codes.isEmpty then
    ['\x1B', '['] ++ Text.join [';'] s.codes ++ 'm' :: t ++ ['\x1B', '[', '0', 'm']
  else t

end Style

end Phrasebook
