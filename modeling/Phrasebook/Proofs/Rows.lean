import Phrasebook.Proofs.EditedLines

/-!
The rows of a localized template.

A localized template is read here from its text back to its edits.  Each row of it is what
an edit writes, or a line of the source that has no edit.  The edits of a template are for
different lines, so each of them that writes something has a row of its own, and a row
that comes from the source has no lookup in it.  Hence the lookups among the edits stand in
the localized text, each of them once and in the same order.
-/

namespace Phrasebook

namespace Localizer

variable {l : Localizer} {source name : Text} {line last : Nat} {ls : List Text}
  {es : List PieceEdit} {rows : List (List Piece)}

/-- The rows that lines numbered from `line` on become with edits made, each of which is
for a line of its own. -/
inductive Edited : Nat → List Text → List PieceEdit → List (List Piece) → Prop
  | nil (line : Nat) : Edited line [] [] []
  | kept {line : Nat} {ls : List Text} {es : List PieceEdit} {rows : List (List Piece)}
      (t : Text) (h : Edited (line + 1) ls es rows) :
      Edited line (t :: ls) es ([.verbatim t] :: rows)
  | written {line : Nat} {ls : List Text} {es : List PieceEdit} {rows : List (List Piece)}
      (t : Text) (ps : List Piece) (h : Edited (line + 1) ls es rows) :
      Edited line (t :: ls) (⟨line, some ps⟩ :: es) (ps :: rows)
  | removed {line : Nat} {ls : List Text} {es : List PieceEdit} {rows : List (List Piece)}
      (t : Text) (h : Edited (line + 1) ls es rows) :
      Edited line (t :: ls) (⟨line, none⟩ :: es) rows

/-- A localized text read in pieces, row by row. -/
structure InPieces (l : Localizer) (source : Text) (es : List PieceEdit)
    (rows : List (List Piece)) (out : Text) : Prop where
  /-- The edits are for different lines of the source. -/
  ordered : Ordered 1 (Text.lines source).length (es.map PieceEdit.edit)
  edited : Edited 1 (Text.lines source) es rows
  text : out = Text.unlines (l.preamble.toList ++ rows.map pieceText) ++
    if Text.endsLine source then ['\n'] else []

/-! ### Rows of edits -/

theorem Edited.line_le (h : Edited line ls es rows) :
    ∀ e ∈ es.map PieceEdit.edit, line ≤ e.line := by
  have hfirst {e d : LineEdit} {ds : List LineEdit} (hd : d ∈ e :: ds)
      (hds : ∀ d ∈ ds, e.line + 1 ≤ d.line) : e.line ≤ d.line := by
    rcases List.mem_cons.1 hd with rfl | hd
    · exact Nat.le_refl _
    · exact Nat.le_of_succ_le (hds d hd)
  induction h with
  | nil line => simp
  | kept t h ih => exact fun e he => Nat.le_of_succ_le (ih e he)
  | written t ps h ih => exact fun e he => hfirst he ih
  | removed t h ih => exact fun e he => hfirst he ih

/-- The rows are the lines of the edited source. -/
theorem Edited.applyEdits_eq (h : Edited line ls es rows) :
    applyEdits (es.map PieceEdit.edit) line ls = rows.map pieceText := by
  induction h with
  | nil line => rfl
  | kept t h ih =>
      rw [applyEdits_of_lt h.line_le, ih]
      simp [Piece.text]
  | @written line ls es rows t ps h ih =>
      have hedited := applyEdits_cons_of_line (e := PieceEdit.edit ⟨line, some ps⟩) h.line_le t ls
      exact hedited.trans (congrArg ([pieceText ps] ++ ·) ih)
  | @removed line ls es rows t h ih =>
      exact (applyEdits_cons_of_line (e := PieceEdit.edit ⟨line, none⟩) h.line_le t ls).trans ih

/-- The lookups among the edits are those of the rows. -/
theorem Edited.lookups_eq (h : Edited line ls es rows) (file : Text) :
    rows.flatten.filterMap (Piece.occurrence? file) = es.flatMap (PieceEdit.lookups file) := by
  induction h with
  | nil line => rfl
  | kept t h ih =>
      rw [List.flatten_cons, List.filterMap_append, ih]
      rfl
  | written t ps h ih =>
      rw [List.flatten_cons, List.filterMap_append, ih]
      rfl
  | removed t h ih =>
      rw [List.flatMap_cons, ih]
      rfl

theorem Ordered.exists_edited (hes : Ordered line last (es.map PieceEdit.edit))
    (hlast : last < line + ls.length) : ∃ rows, Edited line ls es rows := by
  induction ls generalizing es line with
  | nil =>
      obtain rfl := List.map_eq_nil_iff.1 (hes.eq_nil_of_lt hlast)
      exact ⟨[], .nil line⟩
  | cons t ls ih =>
      have hlast' : last < line + 1 + ls.length := by
        rw [List.length_cons] at hlast
        omega
      rcases hes.cases_head with ⟨d, ds, hmap, hline, htail⟩ | hlater
      · obtain ⟨⟨k, pieces⟩, es', rfl, rfl, rfl⟩ := List.map_eq_cons_iff.1 hmap
        obtain rfl : k = line := hline
        obtain ⟨rows, hrows⟩ := ih htail hlast'
        cases pieces with
        | none => exact ⟨rows, .removed t hrows⟩
        | some ps => exact ⟨ps :: rows, .written t ps hrows⟩
      · obtain ⟨rows, hrows⟩ := ih hlater hlast'
        exact ⟨[.verbatim t] :: rows, .kept t hrows⟩

/-! ### Whole templates -/

theorem ordered_templatePieces (h : l.templatePieces source name = .ok es) :
    Ordered 1 (Text.lines source).length (es.map PieceEdit.edit) := by
  obtain ⟨ess, hess, rfl⟩ := map_eq_ok_iff.1 h
  have hrun : (Template.parse source name).enabledNodes.mapM (l.edits name (Text.lines source)) =
      .ok (ess.map (List.map PieceEdit.edit)) := by
    rw [funext (edits_eq_map name (Text.lines source)), mapM_map, hess]
    rfl
  rw [List.map_flatten]
  exact ordered_edits_parse hrun

/-- The rows of a localized template. -/
theorem exists_inPieces (h : l.templatePieces source name = .ok es) :
    ∃ rows, l.InPieces source es rows (l.assemble source (es.map PieceEdit.edit)) := by
  have hordered := ordered_templatePieces h
  have hlast : (Text.lines source).length < 1 + (Text.lines source).length := by omega
  obtain ⟨rows, hrows⟩ := hordered.exists_edited hlast
  refine ⟨rows, hordered, hrows, ?_⟩
  rw [assemble, hrows.applyEdits_eq]
  split <;> simp

end Localizer

end Phrasebook
