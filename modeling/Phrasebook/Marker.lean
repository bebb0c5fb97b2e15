import Phrasebook.Delimited

/-!
Interpolation markers: a sigil and an opening delimiter, written in templates
as a hash sign and a brace.

Backslashes in front of the sigil escape it pairwise.  An odd number of them
leaves the marker as literal text; otherwise the marker embeds an expression
that ends where its delimiters balance.  Scanning cuts a text into markers and
what follows the last one, and loses nothing on the way.
-/

namespace Phrasebook

/-- One marker with the text before it. -/
structure Marker where
  /-- The literal text before the backslashes. -/
  lead : Text
  /-- The number of backslashes just before the sigil. -/
  escapes : Nat
  /-- The embedded expression; `none` when the marker is escaped. -/
  content : Option Text
  deriving DecidableEq, Repr

namespace Marker

def sigil : Char := '#'

def escape : Char := '\\'

/-- An odd number of backslashes makes a marker literal text. -/
def isEscaped (m : Marker) : Bool :=
  m.escapes % 2 = 1

/-- The text up to the sigil. -/
def before (m : Marker) : Text :=
  m.lead ++ List.replicate m.escapes escape

/-- The text that a marker was read from. -/
def source (opener closer : Char) (m : Marker) : Text :=
  m.before ++ sigil :: opener ::
    (match m.content with
      | none => []
      | some content => content ++ [closer])

/-- The text before the first sigil that an opener follows, and the text after
that opener. -/
def splitAtOpener? (opener : Char) : Text → Option (Text × Text)
  | [] => none
  | [_] => none
  | c :: d :: t =>
      if c = sigil ∧ d = opener then some ([], t)
      else (splitAtOpener? opener (d :: t)).map (Prod.map (c :: ·) id)

/-- The number of backslashes at the end of a text. -/
def trailingEscapes (t : Text) : Nat :=
  (t.reverse.takeWhile (· = escape)).length

inductive Step where
  | finished
  /-- A marker, and the text after it. -/
  | found (m : Marker) (rest : Text)
  /-- A marker whose delimiters never balance, after the text `before`. -/
  | unterminated (before : Text)
  deriving DecidableEq, Repr

/-- Looks for the first marker of a text. -/
def next (opener closer : Char) (t : Text) : Step :=
  match splitAtOpener? opener t with
  | none => .finished
  | some (before, after) =>
      let escapes := trailingEscapes before
      let lead := Text.dropEnd (· = escape) before
      if escapes % 2 = 1 then .found ⟨lead, escapes, none⟩ after
      else
        match Delimited.split? opener closer 0 after with
        | none => .unterminated before
        | some (content, rest) => .found ⟨lead, escapes, some content⟩ rest

theorem splitAtOpener?_eq_append {opener : Char} {t before after : Text}
    (h : splitAtOpener? opener t = some (before, after)) :
    t = before ++ sigil :: opener :: after := by
  fun_induction splitAtOpener? opener t generalizing before with
  | case1 => simp at h
  | case2 => simp at h
  | case3 c d t hcd =>
      cases h
      simp [hcd.1, hcd.2]
  | case4 c d t _ ih =>
      obtain ⟨b, hs, rfl⟩ := Text.exists_of_map_cons_eq_some h
      rw [ih hs]
      rfl

theorem length_lt_of_next {opener closer : Char} {t rest : Text} {m : Marker}
    (h : next opener closer t = .found m rest) : rest.length < t.length := by
  unfold next at h
  split at h
  · simp at h
  · rename_i before after hs
    rw [splitAtOpener?_eq_append hs]
    simp only at h
    split at h
    · simp only [Step.found.injEq] at h
      obtain ⟨-, rfl⟩ := h
      simp
      omega
    · split at h
      · simp at h
      · rename_i content rest' hd
        simp only [Step.found.injEq] at h
        obtain ⟨-, rfl⟩ := h
        have := Delimited.length_lt_of_split? hd
        simp
        omega

/-! ### Scanning -/

inductive Ending where
  /-- With the text after the last marker. -/
  | text (tail : Text)
  /-- At a marker whose delimiters never balance, after the text `before`. -/
  | unterminated (before : Text)
  deriving DecidableEq, Repr

/-- The markers of a text in order, and how the scan ends. -/
structure Scan where
  markers : List Marker
  ending : Ending
  deriving DecidableEq, Repr

def scan (opener closer : Char) (t : Text) : Scan :=
  match h : next opener closer t with
  | .finished => ⟨[], .text t⟩
  | .unterminated before => ⟨[], .unterminated before⟩
  | .found m rest =>
      have := length_lt_of_next h
      let s := scan opener closer rest
      ⟨m :: s.markers, s.ending⟩
  termination_by t.length

/-- The number of bytes of the text that the markers were read from. -/
def size (opener closer : Char) (ms : List Marker) : Nat :=
  Text.utf8Size (ms.flatMap (source opener closer))

/-- A marker with its place: the byte offsets of its sigil and of its end. -/
structure Placed where
  marker : Marker
  sigilOffset : Nat
  stop : Nat
  deriving DecidableEq, Repr

/-- The places of markers that follow each other from byte `start` on. -/
def place (opener closer : Char) : Nat → List Marker → List Placed
  | _, [] => []
  | start, m :: ms =>
      let stop := start + Text.utf8Size (m.source opener closer)
      ⟨m, start + Text.utf8Size m.before, stop⟩ :: place opener closer stop ms

/-- The byte offset of the marker at which a scan failed, the scanned text
starting at byte `start`. -/
def Scan.failure? (opener closer : Char) (s : Scan) (start : Nat) : Option Nat :=
  match s.ending with
  | .text _ => none
  | .unterminated before =>
      some (start + size opener closer s.markers + Text.utf8Size before)

end Marker

end Phrasebook
