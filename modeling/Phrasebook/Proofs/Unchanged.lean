import Mathlib.Data.List.Infix
import Phrasebook.Proofs.LineCount

/-!
Templates in which nothing is looked up.

If no enabled node has text to localize, then each edit writes the line that it is
for.  The lines of the source are joined again as they were cut, with one
difference: a line end of two characters becomes a line feed.
-/

namespace Phrasebook

/-! ### Line ends -/

namespace Text

/-- A text with a line feed in place of each carriage return that one follows. -/
def plainEnds : Text → Text
  | [] => []
  | '\r' :: '\n' :: t => '\n' :: plainEnds t
  | c :: t => c :: plainEnds t

/-- Lines that are joined again have lost their carriage returns. -/
theorem unlines_lines (t : Text) :
    unlines (lines t) ++ (if endsLine t then ['\n'] else []) = plainEnds t := by
  have hfeed (t : Text) (ih : unlines (lines t) ++ (if endsLine t then ['\n'] else []) =
      plainEnds t) : unlines ([] :: lines t) ++
        (if endsLine ('\n' :: t) then ['\n'] else []) = '\n' :: plainEnds t := by
    rw [endsLine_cons_feed]
    cases t with
    | nil => rfl
    | cons c t =>
        rw [unlines_cons (by simp [lines_eq_nil_iff]), List.isEmpty_cons, Bool.false_or, ← ih]
        rfl
  fun_induction lines t with
  | case1 => rfl
  | case2 t ih => exact hfeed t ih
  | case3 t ih =>
      rw [endsLine_cons_of_ne_nil _ (by simp), plainEnds]
      exact hfeed t ih
  | case4 c t hfeed' hreturn hnil ih =>
      obtain rfl := lines_eq_nil_iff.1 hnil
      have hc : c ≠ '\n' := hfeed'
      simp [unlines, join, endsLine, plainEnds, hc]
  | case5 c t hfeed' hreturn l ls hlines ih =>
      have ht : t ≠ [] := by
        rintro rfl
        simp [lines] at hlines
      have hcons : unlines ((c :: l) :: ls) = c :: unlines (l :: ls) := by
        cases ls <;> rfl
      rw [endsLine_cons_of_ne_nil c ht, hcons, List.cons_append, ← hlines, ih, plainEnds]
      exact hreturn

theorem plainEnds_eq_self_iff {t : Text} : plainEnds t = t ↔ ¬ ['\r', '\n'] <:+: t := by
  fun_induction plainEnds t with
  | case1 => simp
  | case2 t ih =>
      have hinside : ['\r', '\n'] <:+: '\r' :: '\n' :: t := ⟨[], t, rfl⟩
      simp [hinside]
  | case3 c t hreturn ih =>
      have hfront : ¬ ['\r', '\n'] <+: c :: t := by
        rintro ⟨u, hu⟩
        obtain ⟨rfl, rfl⟩ := List.cons.inj hu
        exact hreturn u rfl rfl
      rw [List.cons.injEq, List.infix_cons_iff, ih]
      simp [hfront]

end Text

/-! ### Nodes without text to localize -/

/-- A part of a template that localization has no use for: hashes and code, a tag
without literal text, and a filter in which nothing is looked up. -/
def Node.isVerbatim (sourceLines : List Text) (n : Node) : Bool :=
  match n.kind with
  | .plain _ => false
  | .tag t => t.isEvaluated || t.value.isEmpty
  | .attributes _ | .script _ _ => true
  | .filter f =>
      match f.kind with
      | .markdown => f.msgid.isEmpty
      | .javascript => (n.scriptMsgids sourceLines).isEmpty
      | .other _ => true

namespace Localizer

variable {l : Localizer} {file source name : Text} {sourceLines ls : List Text} {n : Node}
  {es : List LineEdit} {line : Nat}

/-- Code stays as it is if none of its calls can be decoded. -/
theorem scriptLine_of_scriptMsgids_eq_nil {code : Text}
    (h : CallLiteral.scriptMsgids code = []) : scriptLine code = code := by
  rw [CallLiteral.scriptMsgids, List.filterMap_eq_nil_iff] at h
  refine Eq.trans ?_ (CallLiteral.scan_eq_append [.single, .double] code).symm
  refine congrArg (· ++ (CallLiteral.scan [.single, .double] code).tail) ?_
  refine List.flatMap_congr fun call hcall => ?_
  have hdecode := h call.2 (List.mem_map_of_mem hcall)
  cases hscript : call.2.decodeScript with
  | ok msgid => simp [hscript, Except.toOption] at hdecode
  | error e => simp [scriptCall, hscript]

theorem tagValue_of_isVerbatim {tag : Tag} (h : (tag.isEvaluated || tag.value.isEmpty) = true) :
    l.tagValue tag = .ok none := by
  rw [Bool.or_eq_true] at h
  rcases h with h | h <;> simp [tagValue, h]

/-- The edits of such a node write the lines that they are for. -/
theorem edits_of_isVerbatim (l : Localizer) (file : Text) (h : n.isVerbatim sourceLines = true) :
    ∃ es, l.edits file sourceLines n = .ok es ∧ ∀ e ∈ es, e.text = sourceLines[e.line - 1]? := by
  obtain ⟨line, kind⟩ := n
  cases kind with
  | plain p => exact absurd h Bool.false_ne_true
  | tag tag =>
      refine ⟨[], ?_, by simp⟩
      simp [edits, tagValue_of_isVerbatim h]
  | attributes hashes => exact ⟨[], rfl, by simp⟩
  | script code silent => exact ⟨[], rfl, by simp⟩
  | filter f =>
      refine ⟨_, rfl, ?_⟩
      intro e he
      unfold filterEdits at he
      cases hkind : f.kind with
      | markdown =>
          have hmsgid : f.msgid.isEmpty = true := by simpa [Node.isVerbatim, hkind] using h
          simp [hkind, markdownLine, hmsgid] at he
      | javascript =>
          have hmsgids : ∀ line' ∈ List.range' (line + 1) (f.endLine - line),
              CallLiteral.scriptMsgids ((sourceLines[line' - 1]?).getD []) = [] := by
            simpa [Node.isVerbatim, hkind, Node.scriptMsgids] using h
          simp only [hkind] at he
          obtain ⟨line', hline, rfl⟩ := List.mem_map.1 he
          have hnone := hmsgids line' hline
          cases hcode : sourceLines[line' - 1]? with
          | none => rfl
          | some code =>
              rw [hcode, Option.getD_some] at hnone
              rw [Option.map_some, scriptLine_of_scriptMsgids_eq_nil hnone]
      | other name =>
          simp [hkind] at he

/-! ### Whole templates -/

/-- Edits that write the lines they are for change nothing. -/
theorem applyEdits_eq_self (h : ∀ e ∈ es, e.text = sourceLines[e.line - 1]?)
    (hline : 1 ≤ line) (hls : sourceLines.drop (line - 1) = ls) :
    applyEdits es line ls = ls := by
  induction ls generalizing line with
  | nil => rfl
  | cons t ls ih =>
      obtain ⟨ht, htail⟩ := getElem?_and_drop_of_drop hline hls
      have hedit : editedLine es line t = some t := by
        rcases editedLine_eq_or es line t with ⟨e, he, rfl, hedit⟩ | hedit
        · rw [hedit, h e he, ht]
        · exact hedit
      rw [applyEdits, hedit, ih (Nat.le_add_left 1 line) htail]
      rfl

theorem localize_of_mapM_eq_ok (hactive : l.isActive = true) {ess : List (List LineEdit)}
    (hrun : (Template.parse source name).enabledNodes.mapM
      (l.edits name (Text.lines source)) = .ok ess) :
    l.localize source name = .ok (l.assemble source ess.flatten) := by
  simp only [localize, hactive, Bool.not_true, Bool.false_eq_true, if_false, hrun]
  rfl

/-- A template in which nothing is looked up is localized to itself but for its line
ends, of which a carriage return is not kept. -/
theorem localize_of_isVerbatim (hactive : l.isActive = true) (hpreamble : l.preamble = none)
    (hnodes : ∀ n ∈ (Template.parse source name).nodes,
      (Template.parse source name).disabled.contains n.line = true ∨
        n.isVerbatim (Text.lines source) = true) :
    l.localize source name = .ok (Text.plainEnds source) ∧
      (l.localize source name = .ok source ↔ ¬ ['\r', '\n'] <:+: source) := by
  have hverbatim : ∀ n ∈ (Template.parse source name).enabledNodes,
      n.isVerbatim (Text.lines source) = true := by
    intro n hn
    obtain ⟨hn, henabled⟩ := List.mem_filter.1 hn
    exact (hnodes n hn).resolve_left (by simpa using henabled)
  have hlocalize : l.localize source name = .ok (Text.plainEnds source) := by
    cases hrun : (Template.parse source name).enabledNodes.mapM
        (l.edits name (Text.lines source)) with
    | error e =>
        obtain ⟨n, hn, hedits⟩ := exists_mem_of_mapM_eq_error hrun
        obtain ⟨es, hes, -⟩ := edits_of_isVerbatim l name (hverbatim n hn)
        rw [hes] at hedits
        cases hedits
    | ok ess =>
        have hes : ∀ e ∈ ess.flatten, e.text = (Text.lines source)[e.line - 1]? := by
          intro e he
          obtain ⟨es, hes, he⟩ := List.mem_flatten.1 he
          obtain ⟨n, hn, hedits⟩ := exists_mem_of_mapM_eq_ok hrun hes
          obtain ⟨es', hes', hself⟩ := edits_of_isVerbatim l name (hverbatim n hn)
          obtain rfl := Except.ok.inj (hedits.symm.trans hes')
          exact hself e he
        have hbody : applyEdits ess.flatten 1 (Text.lines source) = Text.lines source :=
          applyEdits_eq_self hes (Nat.le_refl 1) rfl
        rw [localize_of_mapM_eq_ok hactive hrun, assemble, hpreamble, hbody,
          ← Text.unlines_lines]
        cases Text.endsLine source <;> simp
  refine ⟨hlocalize, ?_⟩
  rw [hlocalize, Except.ok.injEq, Text.plainEnds_eq_self_iff]

/-- A disabled line of text, a tag with code, hashes, and a call that cannot be
decoded. -/
theorem localize_of_isVerbatim_mixed :
    let l : Localizer := ⟨⟨true, .custom⟩, none, false⟩
    let source := ("-# i18n-disable-next-line\nHi\n%p\x7ba: 1\x7d= x\n:javascript\n" ++
      "  f(_('\\x'))\n").toList
    let template := Template.parse source "t".toList
    l.isActive = true ∧ l.preamble = none ∧ template.nodes.length = 4 ∧
      (∀ n ∈ template.nodes, template.disabled.contains n.line = true ∨
        n.isVerbatim (Text.lines source) = true) ∧
      l.localize source "t".toList = .ok source := by
  intro l source template
  have hnodes : ∀ n ∈ template.nodes, template.disabled.contains n.line = true ∨
      n.isVerbatim (Text.lines source) = true := by decide +kernel
  refine ⟨rfl, rfl, by decide +kernel, hnodes, ?_⟩
  have hlocalize := (localize_of_isVerbatim (l := l) rfl rfl hnodes).2
  exact hlocalize.2 (by decide +kernel)

/-- It is not true that every such template is localized to itself. -/
theorem not_forall_localize_eq_self :
    ¬ ∀ (l : Localizer) (source name : Text), l.isActive = true → l.preamble = none →
      (∀ n ∈ (Template.parse source name).nodes,
        (Template.parse source name).disabled.contains n.line = true ∨
          n.isVerbatim (Text.lines source) = true) →
      l.localize source name = .ok source := by
  intro h
  have hself := h ⟨⟨true, .custom⟩, none, false⟩ "-# i18n-disable\r\nHi\r\n".toList "t".toList rfl
    rfl (by decide +kernel)
  revert hself
  decide +kernel

end Localizer

end Phrasebook
