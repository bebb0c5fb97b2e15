import Phrasebook.Path

/-!
Glob patterns.

A question mark stands for one character, a star for any number of them, and
brackets for one character of a class.  Two stars must make up a whole path
component and stand for any number of components.  A pattern matches a whole
text, and separators and leading dots in that text are characters like any
other.
-/

namespace Phrasebook.Glob

inductive PatternProblem where
  /-- Three or more stars in a row. -/
  | wildcards
  /-- Two stars beside something other than a separator. -/
  | recursiveWildcards
  /-- A bracket that opens no class. -/
  | invalidRange
  deriving DecidableEq, Repr

/-- A problem and the number of characters before it. -/
structure PatternError where
  problem : PatternProblem
  position : Nat
  deriving DecidableEq, Repr

def PatternProblem.describe : PatternProblem → Text
  | .wildcards => "wildcards are either regular `*` or recursive `**`".toList
  | .recursiveWildcards =>
      "recursive wildcards must form a single path component".toList
  | .invalidRange => "invalid range pattern".toList

def PatternError.message (e : PatternError) : Text :=
  "Pattern syntax error near position ".toList ++ Text.ofNat e.position ++
    ": ".toList ++ e.problem.describe

/-- The characters from `first` to `last`. -/
structure CharSpan where
  first : Char
  last : Char
  deriving DecidableEq, Repr

/-- A character lies in a span, whose two ends belong to it. -/
def CharSpan.contains (s : CharSpan) (c : Char) : Bool :=
  s.first ≤ c && c ≤ s.last

inductive Token where
  | char (c : Char)
  | anyChar
  | anyText
  /-- Any number of whole components, each with the separator after it. -/
  | anyComponents
  /-- One character that lies in one of the spans, or in none of them. -/
  | oneOf (negated : Bool) (spans : List CharSpan)
  deriving DecidableEq, Repr

abbrev Pattern := List Token

/-- The spans of a class: three characters with a hyphen in the middle make a
range, any other character stands for itself. -/
def classSpans : Text → List CharSpan
  | [] => []
  | [a] => [⟨a, a⟩]
  | [a, b] => [⟨a, a⟩, ⟨b, b⟩]
  | a :: b :: c :: t =>
      if b = '-' then ⟨a, c⟩ :: classSpans t else ⟨a, a⟩ :: classSpans (b :: c :: t)

/-- The first character of a class and those up to its closing bracket, and the
text after it.  The first character may be a bracket. -/
def classMembers? (first : Char) (t : Text) : Option (Text × Text) :=
  match t.dropWhile (· ≠ ']') with
  | [] => none
  | _ :: rest => some (first :: t.takeWhile (· ≠ ']'), rest)

/-- A class whose opening bracket has been read, and the text after it. -/
def class? : Text → Option (Token × Text)
  | '!' :: c :: t => (classMembers? c t).map (Prod.map (.oneOf true ∘ classSpans) id)
  | '!' :: _ => none
  | c :: t => (classMembers? c t).map (Prod.map (.oneOf false ∘ classSpans) id)
  | [] => none

/-- One part of a pattern and the text after it.  `position` is the number of
characters before it and `last` the one just before it. -/
def readToken (position : Nat) (last : Option Char) (c : Char) (t : Text) :
    Except PatternError (Token × Text) :=
  if c = '?' then .ok (.anyChar, t)
  else if c = '*' then
    let stars := 1 + (t.takeWhile (· = '*')).length
    let rest := t.dropWhile (· = '*')
    if stars = 1 then .ok (.anyText, t)
    else if 2 < stars then .error ⟨.wildcards, position + 2⟩
    else if last.any (· ≠ Path.separator) then
      .error ⟨.recursiveWildcards, position - 1⟩
    else
      match rest with
      | [] => .ok (.anyComponents, [])
      | d :: rest =>
          if d = Path.separator then .ok (.anyComponents, rest)
          else .error ⟨.recursiveWildcards, position + 2⟩
  else if c = '[' then
    match class? t with
    | some r => .ok r
    | none => .error ⟨.invalidRange, position⟩
  else .ok (.char c, t)

theorem length_le_of_classMembers? {c : Char} {t members rest : Text}
    (h : classMembers? c t = some (members, rest)) : rest.length ≤ t.length := by
  unfold classMembers? at h
  split at h
  · simp at h
  · rename_i heq
    cases h
    have := Text.length_dropWhile_le (· ≠ ']') t
    rw [heq] at this
    simp at this
    omega

theorem length_le_of_class? {t rest : Text} {token : Token}
    (h : class? t = some (token, rest)) : rest.length ≤ t.length := by
  unfold class? at h
  split at h
  · obtain ⟨⟨m, r⟩, hm, he⟩ := Option.map_eq_some_iff.1 h
    have := length_le_of_classMembers? hm
    simp only [Prod.map_apply, id_eq, Prod.mk.injEq] at he
    obtain ⟨-, rfl⟩ := he
    simp
    omega
  · simp at h
  · obtain ⟨⟨m, r⟩, hm, he⟩ := Option.map_eq_some_iff.1 h
    have := length_le_of_classMembers? hm
    simp only [Prod.map_apply, id_eq, Prod.mk.injEq] at he
    obtain ⟨-, rfl⟩ := he
    simp
    omega
  · simp at h

theorem length_le_of_readToken {position : Nat} {last : Option Char} {c : Char}
    {t rest : Text} {token : Token} (h : readToken position last c t = .ok (token, rest)) :
    rest.length ≤ t.length := by
  unfold readToken at h
  have hstars := Text.length_dropWhile_le (· = '*') t
  split at h
  · cases h
    exact Nat.le_refl _
  · split at h
    · simp only at h
      split at h
      · cases h
        exact Nat.le_refl _
      · split at h
        · simp at h
        · split at h
          · simp at h
          · split at h
            · cases h
              simp
            · rename_i heq
              split at h
              · cases h
                rw [heq] at hstars
                simp at hstars
                omega
              · simp at h
    · split at h
      · split at h
        · rename_i hclass
          cases h
          exact length_le_of_class? hclass
        · simp at h
      · cases h
        exact Nat.le_refl _

/-- The parts of a pattern from the given position on. -/
def readTokens (position : Nat) (last : Option Char) : Text → Except PatternError Pattern
  | [] => .ok []
  | c :: t =>
      match h : readToken position last c t with
      | .error e => .error e
      | .ok (token, rest) =>
          have := length_le_of_readToken h
          let taken := (c :: t).take ((c :: t).length - rest.length)
          match readTokens (position + taken.length) taken.getLast? rest with
          | .error e => .error e
          | .ok tokens => .ok (token :: tokens)
  termination_by t => t.length
  decreasing_by
    simp
    omega

def Pattern.ofText (t : Text) : Except PatternError Pattern :=
  readTokens 0 none t

/-- A text that is taken for a pattern and not for a path. -/
def isGlob (t : Text) : Bool :=
  t.any fun c => c = '*' || c = '?'

/-- All ends of a text, the whole of it and the empty one included. -/
def ends : Text → List Text
  | [] => [[]]
  | c :: t => (c :: t) :: ends t

/-- The ends of a text that a separator comes before. -/
def endsAfterSeparator : Text → List Text
  | [] => []
  | c :: t => if c = Path.separator then t :: endsAfterSeparator t else endsAfterSeparator t

/-- One character fits a part that stands for one character. -/
def Token.admits (token : Token) (c : Char) : Bool :=
  match token with
  | .char d => d = c
  | .anyChar => true
  | .oneOf negated spans => negated != spans.any (·.contains c)
  | .anyText | .anyComponents => false

/-- A pattern matches a whole text.  Where a pattern may end, two stars match
whatever is left, be it whole components or not. -/
def Pattern.matches : Pattern → Text → Bool
  | [], t => t.isEmpty
  | .anyText :: ps, t => (ends t).any (Pattern.matches ps)
  | .anyComponents :: ps, t =>
      (t :: [] :: endsAfterSeparator t).any (Pattern.matches ps)
  | p :: ps, t =>
      match t with
      | [] => false
      | c :: t => p.admits c && Pattern.matches ps t

/-- The text that a pattern without wildcards spells. -/
def Pattern.literal? (p : Pattern) : Option Text :=
  p.mapM fun
    | .char c => some c
    | _ => none

/-- A pattern that may match several components. -/
def Pattern.isRecursive (p : Pattern) : Bool :=
  p.contains .anyComponents

end Phrasebook.Glob
