import Phrasebook.Extraction
import Phrasebook.Proofs.Lines
import Phrasebook.Proofs.ScriptCalls
import Phrasebook.Template.Parse

/-!
Bodies of filters.

The text of a filter is its body with less indentation, line by line, so the
pieces of that text are the lines of the body again.  As the last line of a body
is not blank, only a filter without a body has an empty msgid.
-/

namespace Phrasebook

namespace Text

/-- A line less as much of its indentation as `indent` is long. -/
def outdent (indent l : Text) : Text :=
  l.drop (min (indentation l).length indent.length)

theorem append_outdent (indent l : Text) :
    ∃ lead, l = lead ++ outdent indent l ∧ (∀ c ∈ lead, isIndent c = true) ∧
      lead.length = min (indentation l).length indent.length := by
  have hlength : (l.take (min (indentation l).length indent.length)).length =
      min (indentation l).length indent.length := by
    have hle : (indentation l).length ≤ l.length := (List.takeWhile_prefix _).length_le
    rw [List.length_take]
    omega
  refine ⟨_, (List.take_append_drop _ l).symm, ?_, hlength⟩
  intro c hc
  have hlead : l.take (min (indentation l).length indent.length) <+: indentation l :=
    List.prefix_of_prefix_length_le (List.take_prefix _ l) (List.takeWhile_prefix _)
      (hlength.trans_le (Nat.min_le_left _ _))
  exact List.mem_takeWhile_imp (hlead.subset hc)

theorem isBlankLine_outdent (indent l : Text) :
    isBlankLine (outdent indent l) = isBlankLine l := by
  obtain ⟨lead, hl, hlead, -⟩ := append_outdent indent l
  have hblank : lead.all isBlank = true :=
    List.all_eq_true.2 fun c hc => isBlank_of_isIndent (hlead c hc)
  conv => rhs; rw [hl, isBlankLine, List.all_append, hblank, Bool.true_and]
  rfl

theorem not_mem_outdent {indent l : Text} {c : Char} (h : c ∉ l) : c ∉ outdent indent l :=
  fun hc => h (List.mem_of_mem_drop hc)

theorem mem_unlines {ls : List Text} {l : Text} {c : Char} (hl : l ∈ ls) (hc : c ∈ l) :
    c ∈ unlines ls := by
  induction ls with
  | nil => simp at hl
  | cons k ls ih =>
      cases ls with
      | nil =>
          rw [List.mem_singleton] at hl
          subst hl
          exact hc
      | cons m ls =>
          change c ∈ k ++ ['\n'] ++ unlines (m :: ls)
          rcases List.mem_cons.1 hl with rfl | hl
          · exact List.mem_append_left _ (List.mem_append_left _ hc)
          · exact List.mem_append_right _ (ih hl)

end Text

theorem dropBlankLines_eq_dropWhile (ls : List Text) :
    dropBlankLines ls = ls.dropWhile Text.isBlankLine := by
  induction ls with
  | nil => rfl
  | cons l ls ih => rw [dropBlankLines, List.dropWhile_cons, ih]

/-- A line that is not blank keeps a text from collapsing to nothing. -/
theorem collapse_ne_nil {t l : Text} (hl : l ∈ (Text.pieces t).getLast?)
    (hblank : Text.isBlankLine l = false) : collapse t ≠ [] := by
  have hmem : l ∈ dropBlankLines (Text.pieces t) := by
    obtain ⟨init, hinit⟩ := List.getLast?_eq_some_iff.1 hl
    -- The last line is still there after blank lines are dropped from the front.
    rw [dropBlankLines_eq_dropWhile, hinit, List.dropWhile_append]
    split <;> simp [hblank]
  obtain ⟨c, hc, hcblank⟩ : ∃ c ∈ l, ¬ isBlank c = true := by
    simpa [Text.isBlankLine] using hblank
  have htrim : Text.trimEnd (Text.unlines (dropBlankLines (Text.pieces t))) ≠ [] := by
    rw [Text.trimEnd, Text.dropEnd_eq_rdropWhile, Ne, List.rdropWhile_eq_nil_iff]
    exact fun hall => hcblank (hall c (Text.mem_unlines hmem hc))
  obtain ⟨d, u, hdu⟩ := List.exists_cons_of_ne_nil htrim
  rw [collapse, hdu, List.flatMap_cons]
  split <;> simp

namespace Template

variable {body : List Text}

theorem pieces_text_filterOf (name : Text) (line : Nat) (hne : body ≠ [])
    (h : ∀ l ∈ body, '\n' ∉ l) :
    Text.pieces (filterOf name line body).text =
      body.map (Text.outdent (filterOf name line body).indent) := by
  refine Text.pieces_unlines (by simpa using hne) ?_
  intro l hl
  obtain ⟨m, hm, rfl⟩ := List.mem_map.1 hl
  exact Text.not_mem_outdent (h m hm)

theorem msgid_filterOf_eq_nil_iff (name : Text) (line : Nat) (h : ∀ l ∈ body, '\n' ∉ l)
    (hlast : ∀ l ∈ body.getLast?, Text.isBlankLine l = false) :
    (filterOf name line body).msgid = [] ↔ body = [] := by
  constructor
  · intro hnil
    by_contra hne
    refine collapse_ne_nil (l := Text.outdent (filterOf name line body).indent
      (body.getLast hne)) ?_ ?_ hnil
    · rw [pieces_text_filterOf name line hne h, List.getLast?_map,
        List.getLast?_eq_some_getLast hne]
      rfl
    · rw [Text.isBlankLine_outdent]
      exact hlast _ (List.getLast?_eq_some_getLast hne)
  · rintro rfl
    rfl

end Template

/-- The text of a script is searched as the lines of its body are.  Without a body there
is one empty line, in which nothing is called. -/
theorem Extraction.ofScript_pieces_filterOf (file name : Text) (line first indent : Nat)
    {body : List Text} (h : ∀ l ∈ body, '\n' ∉ l) :
    ofScript file first indent (Text.pieces (Template.filterOf name line body).text) =
      ofScript file first indent
        (body.map (Text.outdent (Template.filterOf name line body).indent)) := by
  cases body with
  | nil =>
      change ofScript file first indent [[]] = ofScript file first indent []
      simp only [ofScript, CallLiteral.inScript_nil]
      rfl
  | cons l body => rw [Template.pieces_text_filterOf name line (List.cons_ne_nil l body) h]

end Phrasebook
