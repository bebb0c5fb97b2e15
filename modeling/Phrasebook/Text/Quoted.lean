import Phrasebook.Text.Basic
import Phrasebook.Text.Unprintable

/-!
Text shown between double quotes, so that every character of it is visible.
-/

namespace Phrasebook.Text

/-- A character as it is shown between double quotes. -/
def quotedChar (c : Char) : Text :=
  match c with
  | '\x00' => ['\\', '0']
  | '\t' => ['\\', 't']
  | '\r' => ['\\', 'r']
  | '\n' => ['\\', 'n']
  | '"' => ['\\', '"']
  | '\\' => ['\\', '\\']
  | c =>
      if isUnprintable c then ['\\', 'u', '{'] ++ Nat.toDigits 16 c.toNat ++ ['}']
      else [c]

/-- A text between double quotes, characters that would not show escaped. -/
def quoted (t : Text) : Text :=
  '"' :: t.flatMap quotedChar ++ ['"']

end Phrasebook.Text
