import Phrasebook.Text.Basic

/-!
Issues: problems with templates, as they are reported.

An issue is an error if its template gave nothing at all, and a warning if only
one literal was passed over.  Issues are ordered by file, line and column, then
errors before warnings, then by their message.
-/

namespace Phrasebook

/-- A place in a template with its source line. -/
structure SourceSpot where
  file : Text
  line : Nat
  column : Nat
  source : Text
  deriving DecidableEq, Repr

/-- A place in the given source.  A line that the source does not have is
empty, and line zero is taken for the first one. -/
def SourceSpot.inSource (file source : Text) (line column : Nat) : SourceSpot :=
  ⟨file, line, column, ((Text.lines source)[line - 1]?).getD []⟩

inductive Severity where
  | error
  | warning
  deriving DecidableEq, Repr

inductive Issue where
  /-- The template gives nothing because it cannot be read or processed. -/
  | unprocessed (file reason : Text) (spot : Option SourceSpot)
  /-- The literal of an explicit call cannot be decoded. -/
  | malformedLiteral (literal reason : Text) (spot : SourceSpot)
  deriving DecidableEq, Repr

namespace Issue

/-- A template that gives nothing is an error, a literal passed over a warning. -/
def severity : Issue → Severity
  | .unprocessed .. => .error
  | .malformedLiteral .. => .warning

def rule : Issue → Text
  | .unprocessed .. => "parse-error".toList
  | .malformedLiteral .. => "malformed-literal".toList

def message : Issue → Text
  | .unprocessed _ reason _ => reason
  | .malformedLiteral literal _ _ => literal

/-- What follows from it, or why it is wrong. -/
def note : Issue → Text
  | .unprocessed .. => "no msgids were extracted from this file".toList
  | .malformedLiteral _ reason _ => reason

/-- The place that an issue points at. -/
def spot? : Issue → Option SourceSpot
  | .unprocessed _ _ spot => spot
  | .malformedLiteral _ _ spot => some spot

def file : Issue → Text
  | .unprocessed file _ none => file
  | .unprocessed _ _ (some spot) => spot.file
  | .malformedLiteral _ _ spot => spot.file

/-- The line of an issue, zero if it points at no place. -/
def line (i : Issue) : Nat :=
  (i.spot?.map SourceSpot.line).getD 0

/-- The column of an issue, zero if it points at no place. -/
def column (i : Issue) : Nat :=
  (i.spot?.map SourceSpot.column).getD 0

/-- Errors come before warnings. -/
def rank (i : Issue) : Nat :=
  match i.severity with
  | .error => 0
  | .warning => 1

def compare (i j : Issue) : Ordering :=
  (compareOfLessAndEq i.file j.file).then <|
  (compareOfLessAndEq i.line j.line).then <|
  (compareOfLessAndEq i.column j.column).then <|
  (compareOfLessAndEq i.rank j.rank).then <|
  compareOfLessAndEq i.message j.message

/-- Issues in order; those that compare equal keep theirs. -/
def sort (is : List Issue) : List Issue :=
  is.mergeSort fun i j => (compare i j).isLE

def count (s : Severity) (is : List Issue) : Nat :=
  is.countP fun i => i.severity = s

end Issue

end Phrasebook
