import Phrasebook.Text.Quoted

/-!
What can go wrong with one fragment, one literal or one setting.
-/

namespace Phrasebook

inductive Error where
  /-- An interpolation starts at byte `offset` of its fragment and its braces
  never balance. -/
  | unbalancedDelimiter (offset : Nat)
  /-- The literal of an explicit call cannot be decoded. -/
  | malformedLiteral (literal reason : Text)
  | unknownBackend (name : Text)
  deriving DecidableEq, Repr

def Error.message : Error → Text
  | .unbalancedDelimiter offset =>
      "unterminated interpolation starting at byte ".toList ++ Text.ofNat offset
  | .malformedLiteral literal reason =>
      "malformed translation literal ".toList ++ literal.quoted ++ ": ".toList ++ reason
  | .unknownBackend name =>
      "translation backend '".toList ++ name ++
        ("' is not available (expected one of: " ++
          "i18n, gettext, fast_gettext, custom)").toList

end Phrasebook
