import Phrasebook.Text.Width.Ligature

/-!
Emoji that are drawn as one.  A skin tone colours the emoji before it, two
regional letters are one flag, a run of tag letters turns a black flag into
that of a region, and a joiner makes one picture of the emoji at its sides.

As with letters, a sequence is recognised from its end: an `Emoji` tells how
much of one stands at the left end of a text.
-/

namespace Phrasebook.Width

/-- Tags before the end of a tag run, read from the right: some letters, or some
digits with letters after them. -/
inductive Tags where
  | letters (count : Nat)
  | digits (count : Nat)
  deriving DecidableEq, Repr

/-- The end of an emoji sequence. -/
inductive Emoji where
  /-- An emoji in its emoji form. -/
  | shown
  | tone
  /-- One regional letter, half a flag. -/
  | half
  /-- Two regional letters or more. -/
  | halves
  /-- A joiner and an emoji. -/
  | joined
  /-- A keycap joined to an emoji. -/
  | joinedKeycap
  /-- One regional letter joined to an emoji. -/
  | joinedHalf
  /-- An even number of regional letters, the last two of them joined to an emoji. -/
  | joinedFlags
  /-- An odd number of regional letters, at least three, the last two of them joined
  to an emoji. -/
  | joinedFlagsHalf
  /-- A run of tags joined to an emoji. -/
  | joinedTags (tags : Tags)
  deriving DecidableEq, Repr

def isTone (c : Char) : Bool :=
  0x1F3FB ≤ c.toNat && c.toNat ≤ 0x1F3FF

/-- Regional letters, two of which make a flag. -/
def isRegional (c : Char) : Bool :=
  0x1F1E6 ≤ c.toNat && c.toNat ≤ 0x1F1FF

/-- Emoji that are drawn as such without a selector. -/
def isShown (c : Char) : Bool :=
  inRanges emojiPresentationRanges c

namespace Tags

/-- A tag in front of a run.  A region has three letters at least and six at most,
or three digits. -/
def push? (t : Tags) (c : Char) : Option Tags :=
  let isLetter := 0xE0061 ≤ c.toNat && c.toNat ≤ 0xE007A
  let isDigit := 0xE0030 ≤ c.toNat && c.toNat ≤ 0xE0039
  match t with
  | .letters n =>
      if isLetter && n < 6 then some (.letters (n + 1))
      else if isDigit && n < 5 then some (.digits 1)
      else none
  | .digits n => if isDigit && n < 3 then some (.digits (n + 1)) else none

/-- The run is long enough to name a region. -/
def isRegion : Tags → Bool
  | .letters n => 3 ≤ n
  | .digits n => n = 3

end Tags

namespace Emoji

/-- The sequence that ends in a character, where there is one. -/
def ofChar? (c : Char) : Option Emoji :=
  if isRegional c then some .half
  else if isTone c then some .tone
  else if isShown c then some .shown
  else none

/-- The columns that a character adds to the sequence on its right, and the
sequence that it makes with it.  Regional letters that follow an even number of
others close a flag, so with each of them the flags to the right shift by one. -/
def extend? (e : Emoji) (c : Char) : Option (Int × Emoji) :=
  match e with
  | .shown => if c = joiner then some (0, .joined) else none
  | .tone =>
      if c = joiner then some (0, .joined)
      else if inRanges modifierBaseRanges c then some (0, .shown)
      else none
  | .half => if isRegional c then some (1, .halves) else none
  | .halves =>
      if isRegional c then some (1, .halves)
      else if c = joiner then some (0, .joined)
      else none
  | .joined =>
      if c = '\u20E3' then some (0, .joinedKeycap)
      else if isRegional c then some (1, .joinedHalf)
      else if isTone c then some (0, .tone)
      else if c.toNat = 0xE007F then some (0, .joinedTags (.letters 0))
      else if isShown c then some (0, .shown)
      else none
  | .joinedKeycap => none
  | .joinedHalf => if isRegional c then some (-1, .joinedFlags) else none
  | .joinedFlags =>
      if isRegional c then some (3, .joinedFlagsHalf)
      else if c = joiner then some (0, .joined)
      else none
  | .joinedFlagsHalf =>
      if isRegional c then some (-1, .joinedFlags)
      else if c = joiner then some (0, .joined)
      else none
  | .joinedTags tags =>
      if tags.isRegion && c.toNat = 0x1F3F4 then some (0, .shown)
      else (tags.push? c).map fun tags => (0, .joinedTags tags)

/-- A joiner stands at the left end, alone or before a keycap. -/
def awaitsEmoji : Emoji → Bool
  | .joined | .joinedKeycap => true
  | _ => false

end Emoji

end Phrasebook.Width
