import Phrasebook.Text.Blank

/-!
Directives: silent comments that keep lines of a template from being localized.

A directive disables the line after it, or opens or closes a range of disabled
lines.  A range starts on the line of the directive that opens it and ends just
before the line of the one that closes it; one that is never closed goes on to
the end of the template.
-/

namespace Phrasebook

/-- What a silent comment may ask for. -/
inductive Directive where
  | disable
  | enable
  | disableNextLine
  deriving DecidableEq, Repr

/-- The directive of a comment, told by its first word. -/
def Directive.ofComment? (comment : Text) : Option Directive :=
  let word := Text.firstWord comment
  if word = "i18n-disable-next-line".toList then some .disableNextLine
  else if word = "i18n-disable".toList then some .disable
  else if word = "i18n-enable".toList then some .enable
  else none

/-- A range of lines with both ends; it is unbounded if it has no last line. -/
structure LineRange where
  first : Nat
  last : Option Nat
  deriving DecidableEq, Repr

def LineRange.contains (r : LineRange) (line : Nat) : Bool :=
  r.first ≤ line && r.last.all (line ≤ ·)

/-- The lines that directives have disabled so far. -/
structure DisabledLines where
  /-- Lines disabled one by one. -/
  single : List Nat := []
  /-- Ranges that have been closed. -/
  ranges : List LineRange := []
  /-- The first line of the range that is still open. -/
  openFrom : Option Nat := none
  deriving DecidableEq, Repr

namespace DisabledLines

def contains (d : DisabledLines) (line : Nat) : Bool :=
  d.single.contains line || d.openFrom.any (· ≤ line) ||
    d.ranges.any (·.contains line)

/-- The disabled lines after a directive on `line`.  Opening a range that is
open, or closing one where none is, changes nothing. -/
def obey (d : DisabledLines) (line : Nat) : Directive → DisabledLines
  | .disableNextLine => { d with single := d.single ++ [line + 1] }
  | .disable => { d with openFrom := some (d.openFrom.getD line) }
  | .enable =>
      match d.openFrom with
      | none => d
      | some first =>
          { d with
            ranges := d.ranges ++ [⟨first, some (line - 1)⟩]
            openFrom := none }

/-- The disabled lines after a comment on `line`. -/
def record (d : DisabledLines) (line : Nat) (comment : Text) : DisabledLines :=
  match Directive.ofComment? comment with
  | none => d
  | some directive => d.obey line directive

/-- The disabled lines at the end of a template, where an open range becomes
an unbounded one. -/
def finish (d : DisabledLines) : DisabledLines :=
  match d.openFrom with
  | none => d
  | some first =>
      { d with
        ranges := d.ranges ++ [⟨first, none⟩]
        openFrom := none }

end DisabledLines

end Phrasebook
