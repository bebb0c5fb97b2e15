/-!
Text as the list of its characters.

Every reader in this library consumes a text from the front and hands back
what is left, so nothing below keeps an index.  Where an answer must name a
byte offset, it is the UTF-8 size of the text already consumed; where it must
name a column, it is the number of characters consumed on that line.
-/

namespace Phrasebook

abbrev Text := List Char

namespace Text

/-- The number of bytes that a text takes up in UTF-8. -/
def utf8Size : Text → Nat
  | [] => 0
  | c :: t => c.utf8Size + utf8Size t

@[simp] theorem utf8Size_nil : utf8Size [] = 0 := rfl

@[simp] theorem utf8Size_cons (c : Char) (t : Text) :
    utf8Size (c :: t) = c.utf8Size + utf8Size t := rfl

@[simp] theorem utf8Size_append (s t : Text) :
    utf8Size (s ++ t) = utf8Size s + utf8Size t := by
  induction s with
  | nil => simp
  | cons c s ih => simp [ih, Nat.add_assoc]

/-- What follows the first `n` bytes, or `none` when the text has fewer bytes
or a character straddles that offset. -/
def dropBytes? : Text → Nat → Option Text
  | t, 0 => some t
  | [], _ + 1 => none
  | c :: t, n + 1 =>
      if c.utf8Size ≤ n + 1 then dropBytes? t (n + 1 - c.utf8Size) else none

/-- The first `n` bytes, or `none` where `dropBytes?` has no answer. -/
def takeBytes? : Text → Nat → Option Text
  | _, 0 => some []
  | [], _ + 1 => none
  | c :: t, n + 1 =>
      if c.utf8Size ≤ n + 1 then (takeBytes? t (n + 1 - c.utf8Size)).map (c :: ·)
      else none

def ofNat (n : Nat) : Text :=
  Nat.toDigits 10 n

/-! ### Lines -/

/-- The lines of a text.  A line ends at a line feed, and one carriage return
just before that line feed belongs to the line end; an unterminated last line
counts unless it is empty, and keeps its carriage return. -/
def lines : Text → List Text
  | [] => []
  | '\n' :: t => [] :: lines t
  | '\r' :: '\n' :: t => [] :: lines t
  | c :: t =>
      match lines t with
      | [] => [[c]]
      | l :: ls => (c :: l) :: ls

/-- The pieces of a text between the separators in it; there is always at
least one. -/
def split (sep : Char) : Text → List Text
  | [] => [[]]
  | c :: t =>
      match split sep t with
      | [] => [[c]]
      | l :: ls => if c = sep then [] :: l :: ls else (c :: l) :: ls

/-- The pieces of a text between its line feeds. -/
def pieces (t : Text) : List Text :=
  split '\n' t

/-- Texts joined with `sep` between neighbours. -/
def join (sep : Text) : List Text → Text
  | [] => []
  | [t] => t
  | t :: u :: ts => t ++ sep ++ join sep (u :: ts)

def unlines (ls : List Text) : Text :=
  join ['\n'] ls

def endsLine (t : Text) : Bool :=
  t.getLast? == some '\n'

/-- A text without one line terminator at its end. -/
def chomp (t : Text) : Text :=
  match t.reverse with
  | '\n' :: '\r' :: r => r.reverse
  | '\n' :: r => r.reverse
  | '\r' :: r => r.reverse
  | _ => t

/-! ### Cutting -/

/-- What follows `lead`, if the text starts with it. -/
def afterLead? (lead t : Text) : Option Text :=
  match lead, t with
  | [], t => some t
  | _ :: _, [] => none
  | a :: lead, c :: t => if a = c then afterLead? lead t else none

def startsWith (lead t : Text) : Bool :=
  (afterLead? lead t).isSome

/-- The longest front part whose characters satisfy `p`, and the rest. -/
def cut (p : Char → Bool) (t : Text) : Text × Text :=
  (t.takeWhile p, t.dropWhile p)

/-- A text without the characters at its end that satisfy `p`. -/
def dropEnd (p : Char → Bool) (t : Text) : Text :=
  (t.reverse.dropWhile p).reverse

/-- What was found behind a character still has to be put after it. -/
theorem exists_of_map_cons_eq_some {β : Type} {c : Char} {found : Option (Text × β)}
    {t : Text} {b : β} (h : found.map (Prod.map (c :: ·) id) = some (t, b)) :
    ∃ u, found = some (u, b) ∧ t = c :: u := by
  obtain ⟨⟨u, b'⟩, hfound, heq⟩ := Option.map_eq_some_iff.1 h
  simp only [Prod.map_apply, id_eq, Prod.mk.injEq] at heq
  obtain ⟨rfl, rfl⟩ := heq
  exact ⟨u, hfound, rfl⟩

theorem cut_append (p : Char → Bool) (t : Text) : (cut p t).1 ++ (cut p t).2 = t :=
  List.takeWhile_append_dropWhile

theorem length_dropWhile_le (p : Char → Bool) (t : Text) :
    (t.dropWhile p).length ≤ t.length := by
  induction t with
  | nil => simp
  | cons c t ih =>
      rw [List.dropWhile_cons]
      split
      · exact Nat.le_succ_of_le ih
      · exact Nat.le_refl _

end Text

end Phrasebook
