import Phrasebook.Text.Basic

/-!
Blank characters: the Unicode property `White_Space`, and the trimming that
goes by it.  Indentation is narrower, spaces and tabs only.
-/

namespace Phrasebook

/-- The property `White_Space`. -/
def isBlank (c : Char) : Bool :=
  let n := c.toNat
  (9 ≤ n && n ≤ 13) || n = 32 || n = 0x85 || n = 0xA0 || n = 0x1680 ||
    (0x2000 ≤ n && n ≤ 0x200A) || n = 0x2028 || n = 0x2029 || n = 0x202F ||
    n = 0x205F || n = 0x3000

/-- Characters that indent a line. -/
def isIndent (c : Char) : Bool :=
  c = ' ' || c = '\t'

theorem isBlank_of_isIndent {c : Char} (h : isIndent c = true) : isBlank c = true := by
  simp only [isIndent, Bool.or_eq_true, decide_eq_true_eq] at h
  rcases h with rfl | rfl <;> decide

namespace Text

/-- Only blank characters, or none. -/
def isBlankLine (t : Text) : Bool :=
  t.all isBlank

/-- A text without the blank characters at its end. -/
def trimEnd (t : Text) : Text :=
  dropEnd isBlank t

/-- A text without the blank characters at its start. -/
def trimStart (t : Text) : Text :=
  t.dropWhile isBlank

/-- A text without the blank characters at both ends. -/
def trim (t : Text) : Text :=
  trimEnd (trimStart t)

/-- The first word of a text: a longest run of characters that are not
blank. -/
def firstWord (t : Text) : Text :=
  (trimStart t).takeWhile fun c => !isBlank c

def indentation (t : Text) : Text :=
  t.takeWhile isIndent

def unindented (t : Text) : Text :=
  t.dropWhile isIndent

end Text

end Phrasebook
