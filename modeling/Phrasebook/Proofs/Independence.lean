import Mathlib.Data.List.Perm.Basic
import Phrasebook.Proofs.EditedLines
import Phrasebook.Proofs.Failures
import Phrasebook.Proofs.FoundCalls

/-!
Nodes do not get in each other's way.

The parser gives a node the numbers of its lines and the byte offsets of its text, and no
one checks them again.  They need no check: each line that a node names is one of the
source, and each offset is one at which the text can be cut.  The lines that different
nodes may edit are different ones, so it makes no difference in which order the nodes are
localized.
-/

namespace Phrasebook

/-! ### Lines and offsets -/

/-- The fragment `text` of a line can be cut off where it starts, and also where a scan of it
fails. -/
def FragmentInRange (sourceLines : List Text) (line offset : Nat) (text : Text) : Prop :=
  (∃ l lead, sourceLines[line - 1]? = some l ∧ Text.takeBytes? l offset = some lead) ∧
    ∀ escapeHtml cause, Phrase.ofText escapeHtml text = .error cause →
      ∃ stop before, cause = .unbalancedDelimiter stop ∧ Text.takeBytes? text stop = some before

/-- The calls found in some code can be cut out of it, one after the other. -/
def CallsInRange (code : Text) (found : List CallLiteral.Placed) : Prop :=
  (found.Pairwise fun p q => p.stop ≤ q.start) ∧
    ∀ p ∈ found, Text.slice? code p.start p.stop = some p.literal.source

/-- The source lines that a node may overwrite or remove. -/
def Node.reach (n : Node) : List Nat :=
  match n.kind with
  | .plain _ | .tag _ => [n.line]
  | .filter f =>
      match f.kind with
      | .markdown | .javascript => List.range' (n.line + 1) (f.endLine - n.line)
      | .other _ => []
  | .attributes _ | .script _ _ => []

/-- All that a node says about lines and offsets is so. -/
structure Node.InRange (sourceLines : List Text) (n : Node) : Prop where
  line : 1 ≤ n.line ∧ n.line ≤ sourceLines.length
  reach : ∀ k ∈ n.reach, 1 ≤ k ∧ k ≤ sourceLines.length
  plain : ∀ p, n.kind = .plain p → FragmentInRange sourceLines n.line p.offset p.text
  tag : ∀ t, n.kind = .tag t →
    FragmentInRange sourceLines n.line t.offset t.value ∧
      CallsInRange t.value (CallLiteral.inRuby t.value)
  attributes : ∀ hashes, n.kind = .attributes hashes →
    ∀ code ∈ hashes, CallsInRange code (CallLiteral.inRuby code)
  filter : ∀ f, n.kind = .filter f →
    n.line ≤ f.endLine ∧ f.endLine ≤ sourceLines.length ∧
      (f.kind = .markdown → f.msgid ≠ [] → n.line < f.endLine) ∧
      (∀ i, n.line ≤ i → i < f.endLine →
        ∃ l, sourceLines[i]? = some l ∧ CallsInRange l (CallLiteral.inScript l)) ∧
      ∀ code ∈ Text.pieces f.text, CallsInRange code (CallLiteral.inScript code)

theorem CallLiteral.inRange (marks : List QuoteMark) (code : Text) :
    CallsInRange code (place [] (scan marks code).calls) := by
  have hfinds := finds_place marks code
  exact ⟨hfinds.ordered, fun p hp => (hfinds.sound p hp).2.1⟩

theorem Text.StandsOn.fragmentInRange {sourceLines : List Text} {line offset column : Nat}
    {l text : Text} (hl : sourceLines[line - 1]? = some l) (h : StandsOn l text offset column) :
    FragmentInRange sourceLines line offset text := by
  refine ⟨?_, ?_⟩
  · obtain ⟨lead, blanks, rfl, -, rfl, -⟩ := h
    refine ⟨_, lead, hl, ?_⟩
    rw [List.append_assoc]
    exact takeBytes?_append lead _
  · intro escapeHtml cause hcause
    obtain ⟨before, after, hfirst, rfl⟩ := Phrase.exists_firstUnterminated hcause
    refine ⟨_, before, rfl, ?_⟩
    rw [hfirst.eq_append]
    exact takeBytes?_append before _

namespace Template

variable {source name : Text} {n : Node}

/-- A filter that has a msgid has a body. -/
theorem line_lt_endLine {line : Nat} {f : Filter}
    (h : ⟨line, .filter f⟩ ∈ (parse source name).nodes) (hne : f.msgid ≠ []) :
    line < f.endLine := by
  cases parsed_of_mem_parse h with
  | @filter line filterName body later hbody hlast =>
      have hpos : body ≠ [] := by
        rintro rfl
        exact hne rfl
      have hlength := List.length_pos_iff.2 hpos
      show line < line + body.length
      omega

theorem mem_reach_bounds {k : Nat} (hk : k ∈ n.reach) (hline : n.line ≤ n.lastLine) :
    n.line ≤ k ∧ k ≤ n.lastLine := by
  obtain ⟨line, kind⟩ := n
  cases kind with
  | plain p =>
      rw [Node.reach, List.mem_singleton] at hk
      subst hk
      exact ⟨Nat.le_refl _, Nat.le_refl _⟩
  | tag t =>
      rw [Node.reach, List.mem_singleton] at hk
      subst hk
      exact ⟨Nat.le_refl _, Nat.le_refl _⟩
  | attributes hashes => cases hk
  | script code silent => cases hk
  | filter f =>
      have hbody : k ∈ List.range' (line + 1) (f.endLine - line) := by
        simp only [Node.reach] at hk
        split at hk
        · exact hk
        · exact hk
        · cases hk
      simp only [Node.lastLine] at hline ⊢
      rw [List.mem_range'_1] at hbody
      omega

theorem inRange_of_mem_parse (h : n ∈ (parse source name).nodes) :
    n.InRange (Text.lines source) := by
  obtain ⟨hfirst, hlast, hend⟩ := extent_of_mem_parse h
  obtain ⟨l, hl, hstands⟩ := standsOn_of_mem_parse h
  constructor
  · exact ⟨hfirst, Nat.le_trans hlast hend⟩
  · intro k hk
    obtain ⟨hlow, hhigh⟩ := mem_reach_bounds hk hlast
    omega
  · rintro p hp
    rw [Node.StandsOn, hp] at hstands
    exact hstands.fragmentInRange hl
  · rintro t ht
    rw [Node.StandsOn, ht] at hstands
    exact ⟨hstands.fragmentInRange hl, CallLiteral.inRange [.single] t.value⟩
  · intro hashes _ code _
    exact CallLiteral.inRange [.single] code
  · intro f hf
    obtain ⟨line, kind⟩ := n
    subst hf
    refine ⟨hlast, hend, fun _ => line_lt_endLine h, ?_, ?_⟩
    · intro i _ hi
      have hinside : i < (Text.lines source).length := Nat.lt_of_lt_of_le hi hend
      exact ⟨_, List.getElem?_eq_getElem hinside, CallLiteral.inRange [.single, .double] _⟩
    · intro code _
      exact CallLiteral.inRange [.single, .double] code

/-- No line is in the reach of two nodes. -/
theorem pairwise_disjoint_reach (source name : Text) :
    (parse source name).nodes.Pairwise fun m n => m.reach.Disjoint n.reach := by
  refine (pairwise_nodes_parse source name).imp_of_mem ?_
  intro m n hm hn hprecedes k hkm hkn
  have hkm' := mem_reach_bounds hkm (extent_of_mem_parse hm).2.1
  have hkn' := mem_reach_bounds hkn (extent_of_mem_parse hn).2.1
  rcases hprecedes with hlt | ⟨line, hashes, hattributes, -⟩
  · simp only [Item.lastLine, Item.line] at hlt
    omega
  · -- Hashes, which may share the line of their tag, edit nothing.
    cases hattributes
    cases hkm

end Template

/-! ### Edits in any order -/

namespace Localizer

variable {l : Localizer} {source name file : Text} {sourceLines : List Text}
  {es fs : List LineEdit} {nodes nodes' : List Node}

theorem editedLine_perm (h : es.Perm fs) (hes : (es.map LineEdit.line).Nodup) (line : Nat)
    (t : Text) : editedLine es line t = editedLine fs line t := by
  have hfs : (fs.map LineEdit.line).Nodup := (h.map _).nodup_iff.1 hes
  by_cases hedit : ∃ e ∈ es, e.line = line
  · obtain ⟨e, he, rfl⟩ := hedit
    rw [editedLine_of_nodup hes he, editedLine_of_nodup hfs (h.mem_iff.1 he)]
  · have hnone : ∀ e ∈ es, e.line ≠ line := fun e he heq => hedit ⟨e, he, heq⟩
    rw [editedLine_of_forall_ne hnone,
      editedLine_of_forall_ne fun e he => hnone e (h.mem_iff.2 he)]

/-- Edits of different lines are made in any order. -/
theorem assemble_perm (h : es.Perm fs) (hes : (es.map LineEdit.line).Nodup) :
    l.assemble source es = l.assemble source fs := by
  have hlines : applyEdits es 1 (Text.lines source) = applyEdits fs 1 (Text.lines source) :=
    applyEdits_congr fun k _ _ t => editedLine_perm h hes k t
  rw [assemble, assemble, hlines]

/-- What a node edits is in its reach. -/
theorem mem_reach_of_mem_edits {n : Node} (h : l.edits file sourceLines n = .ok es)
    {e : LineEdit} (he : e ∈ es) : e.line ∈ n.reach := by
  obtain ⟨line, kind⟩ := n
  rcases edits_eq_ok h with ⟨p, phrase, rfl, -, rfl⟩ | ⟨tag, phrase, rfl, -, rfl⟩ |
    ⟨f, rfl, rfl⟩ | ⟨-, rfl⟩
  · rw [List.mem_singleton.1 he]
    exact List.mem_singleton_self _
  · rw [List.mem_singleton.1 he]
    exact List.mem_singleton_self _
  · rcases map_line_filterEdits sourceLines line f with hnil | ⟨hkind, hlines⟩
    · rw [hnil] at he
      cases he
    · have hline := List.mem_map_of_mem (f := LineEdit.line) he
      rw [hlines] at hline
      simp only [Node.reach]
      split
      · exact hline
      · exact hline
      · rename_i name hname
        exact absurd hname (hkind name)
  · cases he

/-- The template that a source becomes when the given nodes are localized one after the
other. -/
def localizeNodes (l : Localizer) (source name : Text) (nodes : List Node) :
    Except FragmentError Text :=
  (nodes.mapM (l.edits name (Text.lines source))).map fun ess => l.assemble source ess.flatten

theorem localize_eq_localizeNodes (hactive : l.isActive = true) (source name : Text) :
    l.localize source name =
      l.localizeNodes source name (Template.parse source name).enabledNodes := by
  simp only [localize, localizeNodes, hactive, Bool.not_true, Bool.false_eq_true, if_false]
  cases (Template.parse source name).enabledNodes.mapM (l.edits name (Text.lines source)) <;> rfl

/-- A run over nodes in another order makes the same edits in another order. -/
theorem exists_perm_of_mapM_eq_ok {ess : List (List LineEdit)} (h : nodes'.Perm nodes)
    (hrun : nodes.mapM (l.edits file sourceLines) = .ok ess) :
    ∃ ess', nodes'.mapM (l.edits file sourceLines) = .ok ess' ∧ ess'.flatten.Perm ess.flatten := by
  obtain ⟨ess', hrun', hperm⟩ := List.perm_comp_forall₂ h (mapM_eq_ok_iff.1 hrun)
  exact ⟨ess', mapM_eq_ok_iff.2 hrun', hperm.flatten⟩

theorem localizeNodes_of_perm {out : Text}
    (h : nodes.Perm (Template.parse source name).enabledNodes) :
    l.localizeNodes source name nodes = .ok out ↔
      l.localizeNodes source name (Template.parse source name).enabledNodes = .ok out := by
  constructor
  · intro hout
    obtain ⟨ess, hrun, rfl⟩ := map_eq_ok_iff.1 hout
    obtain ⟨ess', hrun', hperm⟩ := exists_perm_of_mapM_eq_ok h.symm hrun
    refine map_eq_ok_iff.2 ⟨ess', hrun', assemble_perm hperm ?_⟩
    exact (ordered_edits_parse hrun').nodup
  · intro hout
    obtain ⟨ess, hrun, rfl⟩ := map_eq_ok_iff.1 hout
    obtain ⟨ess', hrun', hperm⟩ := exists_perm_of_mapM_eq_ok h hrun
    refine map_eq_ok_iff.2 ⟨ess', hrun', (assemble_perm hperm.symm ?_).symm⟩
    exact (ordered_edits_parse hrun).nodup

/-- All lines and offsets are in range.  No two nodes reach the same line, and each edits
only lines that it reaches, so a template is localized to the same text, or not at all, in
whatever order its nodes are. -/
theorem nodes_in_range_and_apart (hactive : l.isActive = true) (source name : Text) :
    let template := Template.parse source name
    (∀ n ∈ template.nodes, n.InRange (Text.lines source)) ∧
      (template.nodes.Pairwise fun m n => m.reach.Disjoint n.reach) ∧
      (∀ n ∈ template.nodes, ∀ es, l.edits name (Text.lines source) n = .ok es →
        ∀ e ∈ es, e.line ∈ n.reach) ∧
      ∀ nodes, nodes.Perm template.enabledNodes → ∀ out,
        l.localizeNodes source name nodes = .ok out ↔ l.localize source name = .ok out := by
  intro template
  refine ⟨fun n hn => Template.inRange_of_mem_parse hn,
    Template.pairwise_disjoint_reach source name,
    fun n _ es hes e he => mem_reach_of_mem_edits hes he, ?_⟩
  intro nodes hperm out
  rw [localize_eq_localizeNodes hactive]
  exact localizeNodes_of_perm hperm

/-- A tag that takes two lines and has hashes, a markdown filter, a javascript filter and
plain text, localized from the last to the first. -/
theorem nodes_in_range_and_apart_reversed :
    let l : Localizer := ⟨⟨true, .gettext⟩, none, true⟩
    let source := "%p\x7ba: 1,\n  b: 2\x7d one\n".toList ++ ":markdown\n  two\n  three\n".toList ++
      ":javascript\n  f(_('é'))\nfour\n".toList
    let template := Template.parse source []
    let out := "- extend GetText\n%p\x7ba: 1,\n  b: 2\x7d ".toList ++
      "#\x7b_('one') % []\x7d\n:markdown\n  #\x7b".toList ++
      "_('two\\\\nthree') % []\x7d\n:javascript\n".toList ++
      "  f(#\x7b_('é').to_json\x7d)\n!= _('four') % []\n".toList
    l.isActive = true ∧ template.nodes.map Node.reach = [[], [2], [4, 5], [7], [8]] ∧
      (∀ n ∈ template.nodes, n.InRange (Text.lines source)) ∧
      l.localizeNodes source [] template.enabledNodes.reverse = .ok out ∧
      l.localize source [] = .ok out := by
  intro l source template out
  have hout : l.localizeNodes source [] template.enabledNodes.reverse = .ok out := by
    decide +kernel
  obtain ⟨hrange, -, -, horder⟩ := nodes_in_range_and_apart (l := l) rfl source []
  refine ⟨rfl, by decide +kernel, hrange, hout, ?_⟩
  exact (horder _ (List.reverse_perm _) out).1 hout

end Localizer

end Phrasebook
