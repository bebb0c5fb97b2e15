import Phrasebook.Literal.Script
import Phrasebook.Literal.SingleQuoted

/-!
Explicit calls: calls of the lookup method whose only argument is a literal.

The body of the literal is not empty, every quote inside it has a backslash
just before it, and it ends at the first quote that a closing parenthesis
follows.  Scanning finds the calls of a text from left to right; each starts
at or after the end of the one before.
-/

namespace Phrasebook

inductive QuoteMark where
  | single
  | double
  deriving DecidableEq, Repr

def QuoteMark.char : QuoteMark → Char
  | .single => '\''
  | .double => '"'

structure CallLiteral where
  /-- The body as it is written, without its quotes. -/
  raw : Text
  quote : QuoteMark
  deriving DecidableEq, Repr

namespace CallLiteral

def source (l : CallLiteral) : Text :=
  '_' :: '(' :: l.quote.char :: l.raw ++ [l.quote.char, ')']

/-- The msgid of a call in Ruby code. -/
def decodeRuby (l : CallLiteral) : Text :=
  Literal.SingleQuoted.decode l.raw

/-- The msgid of a call in script code. -/
def decodeScript (l : CallLiteral) : Except Error Text :=
  Literal.Script.decode l.raw

/-- The rest of a body and the text after the call; `escaped` tells that a
backslash comes just before. -/
def readBody (quote : Char) : Bool → Text → Option (Text × Text)
  | _, [] => none
  | escaped, c :: t =>
      if c = quote then
        if t.head? = some ')' then some ([], t.tail)
        else if escaped then (readBody quote false t).map (Prod.map (c :: ·) id)
        else none
      else (readBody quote (c = '\\') t).map (Prod.map (c :: ·) id)

/-- The call that a text starts with, in quotes of one kind, and the text
after it. -/
def readWith (mark : QuoteMark) : Text → Option (CallLiteral × Text)
  | '_' :: '(' :: q :: t =>
      if q = mark.char then
        match readBody q false t with
        | some (c :: raw, rest) => some (⟨c :: raw, mark⟩, rest)
        | _ => none
      else none
  | _ => none

/-- The call that a text starts with, in quotes of any kind in `marks`. -/
def read (marks : List QuoteMark) (t : Text) : Option (CallLiteral × Text) :=
  marks.findSome? fun mark => readWith mark t

theorem readBody_eq_append {quote : Char} {escaped : Bool} {t body rest : Text}
    (h : readBody quote escaped t = some (body, rest)) :
    t = body ++ quote :: ')' :: rest := by
  induction t generalizing escaped body rest with
  | nil => simp [readBody] at h
  | cons c t ih =>
      have step : ∀ e, (readBody quote e t).map (Prod.map (c :: ·) id) =
          some (body, rest) → c :: t = body ++ quote :: ')' :: rest := by
        intro e he
        obtain ⟨b, hs, rfl⟩ := Text.exists_of_map_cons_eq_some he
        rw [ih hs]
        rfl
      simp only [readBody] at h
      split at h
      · rename_i hq
        subst hq
        split at h
        · rename_i hclose
          cases t with
          | nil => simp at hclose
          | cons d t =>
              simp only [List.head?_cons, Option.some.injEq] at hclose
              subst hclose
              simp only [List.tail_cons, Option.some.injEq, Prod.mk.injEq] at h
              obtain ⟨rfl, rfl⟩ := h
              rfl
        · split at h
          · exact step _ h
          · simp at h
      · exact step _ h

theorem readWith_eq_append {mark : QuoteMark} {t rest : Text} {l : CallLiteral}
    (h : readWith mark t = some (l, rest)) : t = l.source ++ rest := by
  unfold readWith at h
  split at h
  · split at h
    · rename_i hq
      subst hq
      split at h
      · rename_i heq
        cases h
        have := readBody_eq_append heq
        subst this
        simp [source]
      · simp at h
    · simp at h
  · simp at h

theorem read_eq_append {marks : List QuoteMark} {t rest : Text} {l : CallLiteral}
    (h : read marks t = some (l, rest)) : t = l.source ++ rest := by
  obtain ⟨mark, -, hm⟩ := List.exists_of_findSome?_eq_some h
  exact readWith_eq_append hm

/-! ### Scanning -/

/-- The text before the first call, that call, and the text after it. -/
def splitAtCall? (marks : List QuoteMark) : Text → Option (Text × CallLiteral × Text)
  | [] => none
  | c :: t =>
      match read marks (c :: t) with
      | some (l, rest) => some ([], l, rest)
      | none => (splitAtCall? marks t).map (Prod.map (c :: ·) id)

theorem splitAtCall?_eq_append {marks : List QuoteMark} {t before rest : Text}
    {l : CallLiteral} (h : splitAtCall? marks t = some (before, l, rest)) :
    t = before ++ l.source ++ rest := by
  induction t generalizing before with
  | nil => simp [splitAtCall?] at h
  | cons c t ih =>
      rw [splitAtCall?] at h
      split at h
      · rename_i hr
        cases h
        exact read_eq_append hr
      · obtain ⟨b, hs, rfl⟩ := Text.exists_of_map_cons_eq_some h
        rw [ih hs]
        rfl

theorem length_lt_of_splitAtCall? {marks : List QuoteMark} {t before rest : Text}
    {l : CallLiteral} (h : splitAtCall? marks t = some (before, l, rest)) :
    rest.length < t.length := by
  rw [splitAtCall?_eq_append h]
  simp [source]
  omega

/-- The calls of a text, each with the text between it and the one before. -/
structure Scan where
  calls : List (Text × CallLiteral)
  tail : Text
  deriving DecidableEq, Repr

def scan (marks : List QuoteMark) (t : Text) : Scan :=
  match h : splitAtCall? marks t with
  | none => ⟨[], t⟩
  | some (before, l, rest) =>
      have := length_lt_of_splitAtCall? h
      let s := scan marks rest
      ⟨(before, l) :: s.calls, s.tail⟩
  termination_by t.length

/-- A call with all the text before it. -/
structure Placed where
  before : Text
  literal : CallLiteral
  deriving DecidableEq, Repr

def Placed.start (p : Placed) : Nat :=
  Text.utf8Size p.before

def Placed.stop (p : Placed) : Nat :=
  p.start + Text.utf8Size p.literal.source

/-- Calls that follow each other after the text `before`. -/
def place (before : Text) : List (Text × CallLiteral) → List Placed
  | [] => []
  | (gap, l) :: calls =>
      ⟨before ++ gap, l⟩ :: place (before ++ gap ++ l.source) calls

/-- The calls in Ruby code, where only single quotes count. -/
def inRuby (code : Text) : List Placed :=
  place [] (scan [.single] code).calls

def inScript (code : Text) : List Placed :=
  place [] (scan [.single, .double] code).calls

end CallLiteral

end Phrasebook
