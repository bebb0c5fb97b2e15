import Phrasebook.Proofs.Extents
import Phrasebook.Proofs.Lookups

/-!
Edits and the lines that they are for.

A node asks for edits of its own lines, at most one for each.  As the nodes of a
template follow each other, all edits together are in the order of their lines and
no line has two of them.  A localized template is then its source with a segment
in place of each line, which is the line itself unless there is an edit for it.
-/

namespace Phrasebook

namespace Localizer

variable {l : Localizer} {file source name : Text} {sourceLines : List Text}

/-! ### What edits write -/

theorem plainLookup_eq_ok {p : PlainText} {call : Text} (h : l.plainLookup p = .ok call) :
    ∃ phrase, Phrase.ofText (p.escape.getD l.escapeHtml) p.text = .ok phrase ∧
      call = Snippet.lookup phrase.template phrase.args := by
  unfold plainLookup at h
  cases hphrase : Phrase.ofText (p.escape.getD l.escapeHtml) p.text with
  | error e =>
      rw [hphrase] at h
      cases h
  | ok phrase =>
      rw [hphrase] at h
      cases h
      exact ⟨phrase, rfl, rfl⟩

theorem tagValue_eq_some {tag : Tag} {value : Text} (h : l.tagValue tag = .ok (some value)) :
    ∃ phrase, Phrase.ofText false tag.value = .ok phrase ∧
      value = Snippet.interpolation (Snippet.lookup phrase.template phrase.args) := by
  unfold tagValue at h
  split at h
  · cases h
  · cases hphrase : Phrase.ofText false tag.value with
    | error e =>
        rw [hphrase] at h
        cases h
    | ok phrase =>
        rw [hphrase] at h
        cases h
        exact ⟨phrase, rfl, rfl⟩

theorem markdownLine_eq_some {f : Filter} {text : Text} (h : markdownLine f = some text) :
    text = Snippet.interpolation (Snippet.lookup f.msgid []) := by
  unfold markdownLine at h
  split at h
  · cases h
  · exact (Option.some.inj h).symm

/-- What a node can ask for: its line with a lookup in it, what a filter asks for, or
nothing. -/
theorem edits_eq_ok {n : Node} {es : List LineEdit}
    (h : l.edits file sourceLines n = .ok es) :
    let source := (sourceLines[n.line - 1]?).getD []
    (∃ p phrase, n.kind = .plain p ∧
      Phrase.ofText (p.escape.getD l.escapeHtml) p.text = .ok phrase ∧
      es = [⟨n.line, some (Text.indentation source ++ ['!', '=', ' '] ++
        Snippet.lookup phrase.template phrase.args)⟩]) ∨
    (∃ tag phrase, n.kind = .tag tag ∧ Phrase.ofText false tag.value = .ok phrase ∧
      es = [⟨n.line, some ((Text.takeBytes? source tag.offset).getD [] ++
        Snippet.interpolation (Snippet.lookup phrase.template phrase.args))⟩]) ∨
    (∃ f, n.kind = .filter f ∧ es = filterEdits sourceLines n.line f) ∨
    (∀ f, n.kind ≠ .filter f) ∧ es = [] := by
  intro source
  obtain ⟨line, kind⟩ := n
  cases kind with
  | plain p =>
      simp only [edits] at h
      cases hlookup : l.plainLookup p with
      | error e => simp [hlookup] at h
      | ok call =>
          rw [hlookup] at h
          cases h
          obtain ⟨phrase, hphrase, rfl⟩ := plainLookup_eq_ok hlookup
          exact .inl ⟨p, phrase, rfl, hphrase, rfl⟩
  | tag tag =>
      simp only [edits] at h
      cases hvalue : l.tagValue tag with
      | error e => simp [hvalue] at h
      | ok value =>
          rw [hvalue] at h
          cases value with
          | none =>
              cases h
              exact .inr (.inr (.inr ⟨by simp, rfl⟩))
          | some text =>
              cases h
              obtain ⟨phrase, hphrase, rfl⟩ := tagValue_eq_some hvalue
              exact .inr (.inl ⟨tag, phrase, rfl, hphrase, rfl⟩)
  | attributes hashes =>
      cases h
      exact .inr (.inr (.inr ⟨by simp, rfl⟩))
  | script code silent =>
      cases h
      exact .inr (.inr (.inr ⟨by simp, rfl⟩))
  | filter f =>
      cases h
      exact .inr (.inr (.inl ⟨f, rfl, rfl⟩))

/-! ### The order of edits -/

/-- Edits in the order of their lines, which are the ones from `first` to `last`. -/
structure Ordered (first last : Nat) (es : List LineEdit) : Prop where
  extent : ∀ e ∈ es, first ≤ e.line ∧ e.line ≤ last
  order : es.Pairwise fun d e => d.line < e.line

namespace Ordered

variable {first last line n : Nat} {es : List LineEdit}

theorem nil : Ordered first last [] := by
  constructor <;> simp

theorem singleton (line : Nat) (text : Option Text) : Ordered line line [⟨line, text⟩] := by
  constructor <;> simp

/-- One edit for each line of a filter body. -/
theorem of_map_line (h : es.map LineEdit.line = List.range' (line + 1) n) :
    Ordered (line + 1) (line + n) es := by
  constructor
  · intro e he
    have hline : e.line ∈ List.range' (line + 1) n := by
      rw [← h]
      exact List.mem_map_of_mem he
    rw [List.mem_range'_1] at hline
    omega
  · have hlines : (es.map LineEdit.line).Pairwise (· < ·) := by
      rw [h]
      exact List.pairwise_lt_range'
    exact List.pairwise_map.1 hlines

theorem of_le (h : Ordered first last es) (hline : line ≤ first) : Ordered line last es :=
  ⟨fun e he => ⟨Nat.le_trans hline (h.extent e he).1, (h.extent e he).2⟩, h.order⟩

theorem eq_nil_of_lt (h : Ordered first last es) (hlast : last < first) : es = [] := by
  refine List.eq_nil_iff_forall_not_mem.2 fun e he => ?_
  have hline := h.extent e he
  omega

theorem tail {e : LineEdit} (h : Ordered first last (e :: es)) : Ordered (e.line + 1) last es := by
  obtain ⟨hbelow, horder⟩ := List.pairwise_cons.1 h.order
  exact ⟨fun d hd => ⟨hbelow d hd, (h.extent d (List.mem_cons_of_mem e hd)).2⟩, horder⟩

/-- The first edit is for the first line, or all edits are for later ones. -/
theorem cases_head (h : Ordered first last es) :
    (∃ e es', es = e :: es' ∧ e.line = first ∧ Ordered (first + 1) last es') ∨
      Ordered (first + 1) last es := by
  cases es with
  | nil => exact .inr .nil
  | cons e es =>
      have hfirst := (h.extent e List.mem_cons_self).1
      rcases Nat.eq_or_lt_of_le hfirst with rfl | hlt
      · exact .inl ⟨e, es, rfl, rfl, h.tail⟩
      · refine .inr ⟨fun d hd => ⟨?_, (h.extent d hd).2⟩, h.order⟩
        rcases List.mem_cons.1 hd with rfl | hd
        · exact hlt
        · exact Nat.lt_trans hlt ((List.pairwise_cons.1 h.order).1 d hd)

end Ordered

/-- A filter is edited on all lines of its body or on none of them. -/
theorem map_line_filterEdits (sourceLines : List Text) (line : Nat) (f : Filter) :
    filterEdits sourceLines line f = [] ∨
      (∀ name, f.kind ≠ .other name) ∧
        (filterEdits sourceLines line f).map LineEdit.line =
          List.range' (line + 1) (f.endLine - line) := by
  unfold filterEdits
  cases f.kind with
  | markdown =>
      cases markdownLine f with
      | none => exact .inl rfl
      | some text =>
          cases hlines : List.range' (line + 1) (f.endLine - line) with
          | nil => exact .inl rfl
          | cons first later => exact .inr ⟨by simp, by simp [Function.comp_def]⟩
  | javascript => exact .inr ⟨by simp, by simp [Function.comp_def]⟩
  | other name => exact .inl rfl

theorem ordered_filterEdits {line : Nat} {f : Filter} (hend : line ≤ f.endLine) :
    Ordered (line + 1) f.endLine (filterEdits sourceLines line f) := by
  rcases map_line_filterEdits sourceLines line f with hnil | ⟨-, hlines⟩
  · rw [hnil]
    exact .nil
  · have hes := Ordered.of_map_line hlines
    rwa [Nat.add_sub_cancel' hend] at hes

theorem ordered_edits {n : Node} {es : List LineEdit} (h : l.edits file sourceLines n = .ok es)
    (hline : n.line ≤ n.lastLine) : Ordered n.line n.lastLine es := by
  obtain ⟨line, kind⟩ := n
  rcases edits_eq_ok h with ⟨p, phrase, rfl, -, rfl⟩ | ⟨tag, phrase, rfl, -, rfl⟩ |
    ⟨f, rfl, rfl⟩ | ⟨-, rfl⟩
  · exact .singleton line _
  · exact .singleton line _
  · exact (ordered_filterEdits hline).of_le (Nat.le_succ line)
  · exact .nil

/-- The edits of nodes that follow each other. -/
theorem ordered_flatten {nodes : List Node} {ess : List (List LineEdit)} {first last : Nat}
    (hrun : nodes.mapM (l.edits file sourceLines) = .ok ess)
    (hextent : ∀ n ∈ nodes, first ≤ n.line ∧ n.line ≤ n.lastLine ∧ n.lastLine ≤ last)
    (horder : nodes.Pairwise fun m n => Template.Item.Precedes (.node m) (.node n)) :
    Ordered first last ess.flatten := by
  have hnode {es : List LineEdit} (hes : es ∈ ess) :
      ∃ n ∈ nodes, Ordered n.line n.lastLine es := by
    obtain ⟨n, hn, hedits⟩ := exists_mem_of_mapM_eq_ok hrun hes
    exact ⟨n, hn, ordered_edits hedits (hextent n hn).2.1⟩
  constructor
  · intro e he
    obtain ⟨es, hes, he⟩ := List.mem_flatten.1 he
    obtain ⟨n, hn, hordered⟩ := hnode hes
    have hlines := hordered.extent e he
    have hlast := hextent n hn
    omega
  · rw [List.pairwise_flatten]
    refine ⟨?_, ?_⟩
    · intro es hes
      obtain ⟨n, -, hordered⟩ := hnode hes
      exact hordered.order
    · clear hnode
      rw [mapM_eq_ok_iff] at hrun
      induction hrun with
      | nil => exact .nil
      | @cons m es nodes ess hedits hrun ih =>
          obtain ⟨hm, horder⟩ := List.pairwise_cons.1 horder
          refine List.pairwise_cons.2
            ⟨?_, ih (fun n hn => hextent n (List.mem_cons_of_mem m hn)) horder⟩
          intro es' hes' d hd e he
          obtain ⟨n, hn, hedits'⟩ := exists_mem_of_mapM_eq_ok (mapM_eq_ok_iff.2 hrun) hes'
          have hdLine := ((ordered_edits hedits
            (hextent m List.mem_cons_self).2.1).extent d hd).2
          have heLine := ((ordered_edits hedits'
            (hextent n (List.mem_cons_of_mem m hn)).2.1).extent e he).1
          rcases hm n hn with hlt | ⟨line, hashes, hattributes, -⟩
          · exact Nat.lt_of_le_of_lt hdLine (Nat.lt_of_lt_of_le hlt heLine)
          · -- Hashes, which alone may share their line, are not edited.
            cases hattributes
            cases hedits
            exact absurd hd List.not_mem_nil

theorem ordered_edits_parse {ess : List (List LineEdit)}
    (hrun : (Template.parse source name).enabledNodes.mapM (l.edits file sourceLines) = .ok ess) :
    Ordered 1 (Text.lines source).length ess.flatten := by
  refine ordered_flatten hrun ?_ ((Template.pairwise_nodes_parse source name).filter _)
  intro n hn
  exact Template.extent_of_mem_parse (List.mem_of_mem_filter hn)

/-! ### Making edits -/

theorem editedLine_of_forall_ne {es : List LineEdit} {line : Nat} (h : ∀ e ∈ es, e.line ≠ line)
    (t : Text) : editedLine es line t = some t := by
  have hnone : (es.reverse.find? fun e => e.line = line) = none := by
    simpa [List.find?_eq_none] using h
  rw [editedLine, hnone]

/-- What becomes of the lines from line `line` on. -/
def segments (es : List LineEdit) (line : Nat) (ls : List Text) : List (Option Text) :=
  ls.mapIdx fun i t => editedLine es (line + i) t

theorem segments_cons (es : List LineEdit) (line : Nat) (t : Text) (ls : List Text) :
    segments es line (t :: ls) = editedLine es line t :: segments es (line + 1) ls := by
  simp [segments, List.mapIdx_cons, Nat.add_assoc, Nat.add_comm 1]

theorem applyEdits_eq_flatMap (es : List LineEdit) (line : Nat) (ls : List Text) :
    applyEdits es line ls = (segments es line ls).flatMap Option.toList := by
  induction ls generalizing line with
  | nil => rfl
  | cons t ls ih => rw [applyEdits, segments_cons, List.flatMap_cons, ih]

/-- A localized template is its source with the edits of its enabled nodes made. -/
theorem localize_eq_ok (hactive : l.isActive = true) {out : Text}
    (h : l.localize source name = .ok out) :
    ∃ ess, (Template.parse source name).enabledNodes.mapM
        (l.edits name (Text.lines source)) = .ok ess ∧
      out = l.assemble source ess.flatten := by
  simp only [localize, hactive, Bool.not_true, Bool.false_eq_true, if_false] at h
  obtain ⟨ess, hess, heq⟩ := map_eq_ok_iff.1 h
  exact ⟨ess, hess, heq.symm⟩

end Localizer

end Phrasebook
