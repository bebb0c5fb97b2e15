import Phrasebook.Text.Width.Tables

/-!
Letters that are drawn as one with the letters before them.  A ligature is
recognised from its last letter backwards: a `Ligature` tells how much of one
stands at the left end of a text, and `extend?` what one more character on the
left makes of it.

The marks that have no appearance may stand anywhere inside most ligatures;
some need a joiner between their letters.
-/

namespace Phrasebook.Width

/-- Joins the characters at its sides into one. -/
def joiner : Char := '\u200D'

/-- The end of a ligature.  The letters that need a joiner on their left tell
whether one is there. -/
inductive Ligature where
  /-- An Arabic letter of the shape of alef, after which a lam has no column. -/
  | alef
  | lamed (joined : Bool)
  | buginese (joined : Bool)
  /-- A joined Buginese ya with the vowel sign i before it. -/
  | bugineseVowel
  | tifinagh (joined : Bool)
  /-- A Tifinagh consonant with the consonant joiner of that script before it. -/
  | tifinaghJoined
  /-- The second of two Lisu tone letters. -/
  | lisuTone
  /-- The Old Turkic letter i of the Orkhon inscriptions. -/
  | orkhon (joined : Bool)
  /-- A Khmer letter that the sign coeng before it puts under the line. -/
  | khmer
  /-- The Kirat Rai vowel sign e, or ai read as two of them. -/
  | kiratE
  /-- The Kirat Rai vowel sign ai made of two signs. -/
  | kiratAi
  deriving DecidableEq, Repr

def isAlef (c : Char) : Bool :=
  inRanges [(0x622, 0x623), (0x625, 0x625), (0x627, 0x627), (0x671, 0x673), (0x675, 0x675),
    (0x773, 0x774), (0x870, 0x882)] c

def isLam (c : Char) : Bool :=
  inRanges [(0x644, 0x644), (0x6B5, 0x6B8), (0x76A, 0x76A), (0x8A6, 0x8A6), (0x8C7, 0x8C7)] c

def isTifinaghConsonant (c : Char) : Bool :=
  inRanges [(0x2D31, 0x2D65), (0x2D6F, 0x2D6F)] c

/-- Khmer letters that may be put under the line. -/
def isKhmerSubjoinable (c : Char) : Bool :=
  inRanges [(0x1780, 0x1782), (0x1784, 0x1787), (0x1789, 0x178C), (0x178E, 0x1793),
    (0x1795, 0x1798), (0x179B, 0x179D), (0x17A0, 0x17A0), (0x17A2, 0x17A2), (0x17A7, 0x17A7),
    (0x17AB, 0x17AC), (0x17AF, 0x17AF)] c

/-- Marks with no appearance of their own. -/
def isInvisibleMark (c : Char) : Bool :=
  inRanges [(0x34F, 0x34F), (0x17B4, 0x17B5), (0x180B, 0x180D), (0x180F, 0x180F),
    (0xFE00, 0xFE0D), (0xE0100, 0xE01EF)] c

/-- Marks over which Arabic letters join. -/
def isTransparent (c : Char) : Bool :=
  inRanges zeroRanges c && !inRanges opaqueRanges c

namespace Ligature

/-- The ligature that ends in a character, where there is one. -/
def ofChar? (c : Char) : Option Ligature :=
  if isAlef c then some .alef
  else if c = '\u05DC' then some (.lamed false)
  else if c = '\u1A10' then some (.buginese false)
  else if isTifinaghConsonant c then some (.tifinagh false)
  else if c = '\uA4FC' || c = '\uA4FD' then some .lisuTone
  else if c.toNat = 0x10C03 then some (.orkhon false)
  else if isKhmerSubjoinable c then some .khmer
  else if c.toNat = 0x16D67 then some .kiratE
  else if c.toNat = 0x16D68 then some .kiratAi
  else none

/-- Invisible marks and joiners may stand inside the ligature. -/
def admitsMarks : Ligature → Bool
  | .alef | .kiratE | .kiratAi => false
  | _ => true

/-- A selector may stand inside the ligature. -/
def admitsSelector : Ligature → Bool
  | .kiratE | .kiratAi => false
  | _ => true

/-- The ligature with a joiner on its left. -/
def withJoiner : Ligature → Ligature
  | .lamed _ => .lamed true
  | .buginese _ => .buginese true
  | .tifinagh _ => .tifinagh true
  | .orkhon _ => .orkhon true
  | l => l

/-- The columns that a letter adds to the ligature on its right, and what is then
left to complete, if anything.  A letter that takes part in it adds what the
whole then lacks: less than nothing for a sign that hides the letter after it. -/
def letter? (l : Ligature) (c : Char) : Option (Int × Option Ligature) :=
  match l with
  | .alef =>
      if isLam c then some (0, none)
      else if isTransparent c then some (0, some .alef)
      else none
  | .lamed true => if c = '\u05D0' then some (0, none) else none
  | .lamed false => none
  | .buginese true => if c = '\u1A17' then some (0, some .bugineseVowel) else none
  | .buginese false => none
  | .bugineseVowel => if c = '\u1A15' then some (0, none) else none
  | .tifinagh joined =>
      if c = '\u2D7F' then some (1, some .tifinaghJoined)
      else if joined && isTifinaghConsonant c then some (0, none)
      else none
  | .tifinaghJoined => if isTifinaghConsonant c then some (-1, none) else none
  | .lisuTone => if '\uA4F8' ≤ c && c ≤ '\uA4FB' then some (0, none) else none
  | .orkhon true => if c.toNat = 0x10C32 then some (0, none) else none
  | .orkhon false => none
  | .khmer => if c = '\u17D2' then some (-1, none) else none
  | .kiratE =>
      if c.toNat = 0x16D63 || c.toNat = 0x16D69 then some (0, none)
      else if c.toNat = 0x16D67 then some (0, some .kiratAi)
      else if c.toNat = 0x16D68 then some (1, some .kiratE)
      else none
  | .kiratAi => if c.toNat = 0x16D63 then some (0, none) else none

/-- The columns that a character adds to the ligature on its right, and what is
then left to complete. -/
def extend? (l : Ligature) (c : Char) : Option (Int × Option Ligature) :=
  if l.admitsMarks && c = joiner then some (0, some l.withJoiner)
  else if l.admitsMarks && isInvisibleMark c then some (0, some l)
  else l.letter? c

end Ligature

end Phrasebook.Width
