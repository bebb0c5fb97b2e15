import Phrasebook.Text.Basic
import Phrasebook.Text.Width.Emoji

/-!
Display width: the number of terminal columns that a text takes up.

A character on its own is two columns wide, one, or none.  Some sequences are
not the sum of their characters: a line end of two characters is one column, a
selector changes the form of the character before it, and the characters of a
ligature or of an emoji sequence are drawn as one.

Since a character is decided by what comes after it, a text is measured from
right to left.
-/

namespace Phrasebook.Width

/-- What a text starts with, as far as a character before it can tell. -/
inductive Start where
  | plain
  | lineFeed
  | ligature (l : Ligature)
  | emoji (e : Emoji)
  deriving DecidableEq, Repr

/-- Picks a form of the character before it. -/
inductive Selector where
  | text
  | emoji
  | fullwidth
  deriving DecidableEq, Repr

/-- What stands to the right of a character: a text, and the selector in front of
it. -/
structure Context where
  start : Start
  selector : Option Selector
  deriving DecidableEq, Repr

def ofChar (c : Char) : Nat :=
  if c.toNat < 128 then 1
  else if c.toNat = 0x17D8 then 3
  else if inRanges zeroRanges c then 0
  else if inRanges wideRanges c then 2
  else 1

/-- Quotation marks that have a fullwidth form. -/
def isCurlyQuote (c : Char) : Bool :=
  c = '\u2018' || c = '\u2019' || c = '\u201C' || c = '\u201D'

/-- Emoji whose text form is one column wide. -/
def narrowsAsText (c : Char) : Bool :=
  inRanges emojiSelectableRanges c && isShown c && !(0x1F200 ≤ c.toNat && c.toNat ≤ 0x1F2FF)

namespace Start

/-- The start of a text of one character. -/
def ofChar (c : Char) : Start :=
  if c = '\n' then .lineFeed
  else if c.toNat < 128 then .plain
  else
    match Ligature.ofChar? c with
    | some l => .ligature l
    | none =>
        match Emoji.ofChar? c with
        | some e => .emoji e
        | none => .plain

/-- What is left of the start behind a selector.  Only the emoji selector may stand
inside a joined sequence. -/
def behind (s : Start) (selector : Selector) : Start :=
  match s with
  | .ligature l => if l.admitsSelector then .ligature l else .plain
  | .emoji e => if selector = .emoji && e.awaitsEmoji then .emoji e else .plain
  | _ => .plain

/-- The columns that a character adds to what it joins on its right, and the start
of both. -/
def extend? (s : Start) (c : Char) : Option (Int × Start) :=
  match s with
  | .plain => none
  | .lineFeed => if c = '\r' then some (0, .plain) else none
  | .ligature l => (l.extend? c).map fun (w, rest) => (w, rest.elim .plain .ligature)
  | .emoji e => (e.extend? c).map fun (w, e) => (w, .emoji e)

end Start

namespace Selector

def ofChar? (c : Char) : Option Selector :=
  if c = '\uFE0E' then some .text
  else if c = '\uFE0F' then some .emoji
  else if c = '\uFE01' then some .fullwidth
  else none

/-- The columns of a character that has the form which the selector picks, and the
start that it makes.  An emoji joined to the next has no columns of its own. -/
def select? (selector : Selector) (s : Start) (c : Char) : Option (Int × Start) :=
  match selector with
  | .text => if narrowsAsText c then some (1, .plain) else none
  | .fullwidth => if isCurlyQuote c then some (2, .plain) else none
  | .emoji =>
      if inRanges emojiSelectableRanges c then
        match s with
        | .emoji _ => some (0, .emoji .shown)
        | _ => some (2, .emoji .shown)
      else none

end Selector

/-- The columns that a character adds before a text with this start, and what then
stands to the right of the next. -/
def Start.push (s : Start) (c : Char) : Int × Context :=
  match Selector.ofChar? c with
  | some selector => (0, ⟨s.behind selector, some selector⟩)
  | none =>
      match s.extend? c with
      | some (w, s) => (w, ⟨s, none⟩)
      | none => (Width.ofChar c, ⟨Start.ofChar c, none⟩)

/-- The columns that a character adds in a context, and the context of the next.  A
selector that does not fit the character is void, and so is a joined sequence
after it. -/
def Context.push (k : Context) (c : Char) : Int × Context :=
  match k.selector with
  | none => k.start.push c
  | some selector =>
      match selector.select? k.start c with
      | some (w, s) => (w, ⟨s, none⟩)
      | none => (k.start.behind .text).push c

/-- The columns of a text and the context that it makes. -/
def measure (t : Text) : Int × Context :=
  t.foldr
    (fun c tail =>
      let head := tail.2.push c
      (head.1 + tail.1, head.2))
    (0, ⟨.plain, none⟩)

@[simp] theorem measure_nil : measure [] = (0, ⟨.plain, none⟩) := rfl

theorem measure_cons (c : Char) (t : Text) :
    measure (c :: t) =
      (((measure t).2.push c).1 + (measure t).1, ((measure t).2.push c).2) := rfl

end Phrasebook.Width

namespace Phrasebook.Text

/-- The number of terminal columns that a text takes up. -/
def columns (t : Text) : Nat :=
  (Width.measure t).1.toNat

@[simp] theorem columns_nil : columns [] = 0 := rfl

end Phrasebook.Text
