import Phrasebook.Localizer
import Phrasebook.Proofs.Runs

/-!
Localization with its lookups kept apart.

A localized line is text, in which a lookup can no longer be told from what
surrounds it.  Here the edits of a node are built from pieces: text that is
taken over, and lookups with the line that their msgid stands on.  The pieces
written one after the other are the edits that localization makes, so the
lookups among them are the lookups that a localized template contains.
-/

namespace Phrasebook

/-- A piece of a localized line. -/
inductive Piece where
  | verbatim (t : Text)
  /-- A lookup of a template that is filled with the arguments. -/
  | lookup (line : Nat) (msgid : Text) (args : List Text)
  /-- A lookup written as a script string literal. -/
  | scriptLookup (line : Nat) (msgid : Text)
  deriving DecidableEq, Repr

namespace Piece

def text : Piece → Text
  | .verbatim t => t
  | .lookup _ msgid args => Snippet.lookup msgid args
  | .scriptLookup _ msgid => Snippet.scriptLookup msgid

/-- What a lookup looks up, and where that stands in the source. -/
def occurrence? (file : Text) : Piece → Option Occurrence
  | .verbatim _ => none
  | .lookup line msgid _ | .scriptLookup line msgid => some ⟨msgid, ⟨file, line⟩⟩

/-- Code embedded in text. -/
def interpolation (p : Piece) : List Piece :=
  [.verbatim ['#', '{'], p, .verbatim ['}']]

end Piece

/-- The text of several pieces. -/
def pieceText (ps : List Piece) : Text :=
  ps.flatMap Piece.text

@[simp] theorem pieceText_nil : pieceText [] = [] := rfl

@[simp] theorem pieceText_cons (p : Piece) (ps : List Piece) :
    pieceText (p :: ps) = p.text ++ pieceText ps := rfl

@[simp] theorem pieceText_append (ps qs : List Piece) :
    pieceText (ps ++ qs) = pieceText ps ++ pieceText qs :=
  List.flatMap_append

theorem pieceText_flatMap {α : Type} (as : List α) (f : α → List Piece) :
    pieceText (as.flatMap f) = as.flatMap fun a => pieceText (f a) :=
  List.flatMap_assoc

theorem pieceText_interpolation (p : Piece) :
    pieceText p.interpolation = Snippet.interpolation p.text := by
  simp [Piece.interpolation, Piece.text, Snippet.interpolation]

/-- What becomes of one source line, in pieces. -/
structure PieceEdit where
  line : Nat
  pieces : Option (List Piece)
  deriving DecidableEq, Repr

namespace PieceEdit

def edit (e : PieceEdit) : LineEdit :=
  ⟨e.line, e.pieces.map pieceText⟩

/-- The lookups in the new line. -/
def lookups (file : Text) (e : PieceEdit) : List Occurrence :=
  (e.pieces.getD []).filterMap (Piece.occurrence? file)

end PieceEdit

namespace Localizer

/-! ### The edits of a node in pieces -/

/-- `plainLookup` as a piece. -/
def plainPiece (l : Localizer) (line : Nat) (p : PlainText) : Except Error Piece :=
  (Phrase.ofText (p.escape.getD l.escapeHtml) p.text).map fun phrase =>
    .lookup line phrase.template phrase.args

/-- `tagValue` in pieces. -/
def tagPieces (l : Localizer) (line : Nat) (tag : Tag) : Except Error (Option (List Piece)) :=
  if !l.isActive || tag.value.isEmpty || tag.isEvaluated then .ok none
  else
    (Phrase.ofText false tag.value).map fun phrase =>
      some (Piece.lookup line phrase.template phrase.args).interpolation

/-- `markdownLine` in pieces. -/
def markdownPieces (line : Nat) (f : Filter) : Option (List Piece) :=
  if f.msgid.isEmpty then none else some (Piece.lookup line f.msgid []).interpolation

/-- `scriptCall` in pieces. -/
def scriptCallPieces (line : Nat) (l : CallLiteral) : List Piece :=
  match l.decodeScript with
  | .ok msgid => (Piece.scriptLookup line msgid).interpolation
  | .error _ => [.verbatim l.source]

/-- `scriptLine` in pieces. -/
def scriptPieces (line : Nat) (code : Text) : List Piece :=
  let s := CallLiteral.scan [.single, .double] code
  (s.calls.flatMap fun call => .verbatim call.1 :: scriptCallPieces line call.2) ++
    [.verbatim s.tail]

/-- `filterEdits` in pieces.  The msgid of a markdown filter stands on the line of
its header, those of a javascript filter on the lines of their calls. -/
def filterPieces (sourceLines : List Text) (line : Nat) (f : Filter) : List PieceEdit :=
  let bodyLines := List.range' (line + 1) (f.endLine - line)
  match f.kind with
  | .markdown =>
      match markdownPieces line f, bodyLines with
      | some ps, first :: later =>
          ⟨first, some (.verbatim f.indent :: ps)⟩ :: later.map fun n => ⟨n, none⟩
      | _, _ => []
  | .javascript =>
      bodyLines.map fun n => ⟨n, sourceLines[n - 1]?.map (scriptPieces n)⟩
  | .other _ => []

/-- `edits` in pieces. -/
def pieceEdits (l : Localizer) (name : Text) (sourceLines : List Text) (n : Node) :
    Except FragmentError (List PieceEdit) :=
  let source := (sourceLines[n.line - 1]?).getD []
  match n.kind with
  | .plain p =>
      match l.plainPiece n.line p with
      | .ok piece =>
          .ok [⟨n.line, some [.verbatim (Text.indentation source ++ ['!', '=', ' ']), piece]⟩]
      | .error cause => .error (.ofFragment name n.line p.column p.text cause)
  | .tag tag =>
      match l.tagPieces n.line tag with
      | .ok none => .ok []
      | .ok (some ps) =>
          .ok [⟨n.line, some (.verbatim ((Text.takeBytes? source tag.offset).getD []) :: ps)⟩]
      | .error cause => .error (.ofFragment name n.line tag.column tag.value cause)
  | .filter f => .ok (filterPieces sourceLines n.line f)
  | .attributes _ | .script _ _ => .ok []

/-- The edits of all enabled nodes of a template, in pieces. -/
def templatePieces (l : Localizer) (source name : Text) :
    Except FragmentError (List PieceEdit) :=
  ((Template.parse source name).enabledNodes.mapM
    (l.pieceEdits name (Text.lines source))).map List.flatten

/-- The template that a source becomes with the given edits. -/
def assemble (l : Localizer) (source : Text) (es : List LineEdit) : Text :=
  let text := Text.unlines (l.preamble.toList ++ applyEdits es 1 (Text.lines source))
  if Text.endsLine source then text ++ ['\n'] else text

/-! ### Pieces lose nothing -/

variable {l : Localizer}

theorem plainLookup_eq_map (line : Nat) (p : PlainText) :
    l.plainLookup p = (l.plainPiece line p).map Piece.text := by
  unfold plainLookup plainPiece
  cases Phrase.ofText (p.escape.getD l.escapeHtml) p.text <;> rfl

theorem tagValue_eq_map (line : Nat) (tag : Tag) :
    l.tagValue tag = (l.tagPieces line tag).map (Option.map pieceText) := by
  unfold tagValue tagPieces
  split
  · rfl
  · cases Phrase.ofText false tag.value with
    | error e => rfl
    | ok phrase =>
        simp only [Except.map, Option.map_some, pieceText_interpolation]
        rfl

theorem markdownLine_eq_map (line : Nat) (f : Filter) :
    markdownLine f = (markdownPieces line f).map pieceText := by
  unfold markdownLine markdownPieces
  split
  · rfl
  · rw [Option.map_some, pieceText_interpolation]
    rfl

theorem scriptCall_eq (line : Nat) (c : CallLiteral) :
    scriptCall c = pieceText (scriptCallPieces line c) := by
  simp only [scriptCall, scriptCallPieces]
  cases c.decodeScript with
  | ok msgid =>
      simp only [pieceText_interpolation]
      rfl
  | error e => simp [Piece.text]

theorem scriptLine_eq (line : Nat) (code : Text) :
    scriptLine code = pieceText (scriptPieces line code) := by
  simp only [scriptLine, scriptPieces, pieceText_append, pieceText_flatMap, pieceText_cons,
    Piece.text, ← scriptCall_eq]
  simp

theorem filterEdits_eq_map (sourceLines : List Text) (line : Nat) (f : Filter) :
    filterEdits sourceLines line f = (filterPieces sourceLines line f).map PieceEdit.edit := by
  unfold filterEdits filterPieces
  cases f.kind with
  | markdown =>
      rw [markdownLine_eq_map line]
      cases markdownPieces line f with
      | none => rfl
      | some ps =>
          cases List.range' (line + 1) (f.endLine - line) with
          | nil => rfl
          | cons first later => simp [PieceEdit.edit, Piece.text, Function.comp_def]
  | javascript =>
      simp [PieceEdit.edit, Function.comp_def, ← scriptLine_eq]
  | other name => rfl

theorem edits_eq_map (name : Text) (sourceLines : List Text) (n : Node) :
    l.edits name sourceLines n =
      (l.pieceEdits name sourceLines n).map (List.map PieceEdit.edit) := by
  obtain ⟨line, kind⟩ := n
  cases kind with
  | plain p =>
      simp only [edits, pieceEdits, plainLookup_eq_map line]
      cases l.plainPiece line p with
      | error e => rfl
      | ok piece => simp [Except.map, PieceEdit.edit, Piece.text]
  | tag tag =>
      simp only [edits, pieceEdits, tagValue_eq_map line]
      cases l.tagPieces line tag with
      | error e => rfl
      | ok value =>
          cases value with
          | none => rfl
          | some ps => simp [Except.map, PieceEdit.edit, Piece.text]
  | attributes hashes => rfl
  | script code silent => rfl
  | filter f => simp [edits, pieceEdits, Except.map, filterEdits_eq_map]

/-- A localized template is its source with the edits made whose pieces are
known. -/
theorem localize_eq_map (hactive : l.isActive = true) (source name : Text) :
    l.localize source name =
      (l.templatePieces source name).map fun es =>
        l.assemble source (es.map PieceEdit.edit) := by
  have hedits : l.edits name (Text.lines source) = fun n =>
      (l.pieceEdits name (Text.lines source) n).map (List.map PieceEdit.edit) :=
    funext (edits_eq_map name _)
  simp only [localize, templatePieces, hactive, hedits, mapM_map]
  cases (Template.parse source name).enabledNodes.mapM
      (l.pieceEdits name (Text.lines source)) with
  | error e => rfl
  | ok ess =>
      simp only [Except.map, List.map_flatten]
      rfl

end Localizer

end Phrasebook
