import Phrasebook.Proofs.DisabledLines

/-!
Where warnings stand.

The calls of a script are found in lines that have lost indentation, at most as much as
the first of them, and the column of a warning counts that indentation for every line.
A line that had less to lose is therefore reported too far right, by what it lacks; on
any other line the column is that of the call.
-/

namespace Phrasebook

/-- A warning about a call that cannot be decoded, which stands on a line of a body that
is indented by `indent`. -/
structure LiteralWarning.Reports (w : LiteralWarning) (indent sourceLine : Text)
    (p : CallLiteral.Placed) : Prop where
  mem : p ∈ CallLiteral.inScript sourceLine
  failure : p.literal.decodeScript = .error w.cause
  column_eq : w.column =
    p.before.length + 1 + (indent.length - (Text.indentation sourceLine).length)

/-- A warning about a line in the body of a script. -/
def Node.Warns (sourceLines : List Text) (n : Node) (w : LiteralWarning) : Prop :=
  ∃ f sourceLine p, n.kind = .filter f ∧ f.kind = .javascript ∧
    n.line < w.line ∧ w.line ≤ f.endLine ∧ sourceLines[w.line - 1]? = some sourceLine ∧
      w.Reports f.indent sourceLine p

/-- A warning in the column of a source line where its call starts. -/
structure LiteralWarning.PointsAtCall (w : LiteralWarning) (sourceLine : Text) : Prop where
  column_pos : 1 ≤ w.column
  call : ∃ (l : CallLiteral) (reason : Text), w.cause = .malformedLiteral l.raw reason ∧
    l.source <+: sourceLine.drop (w.column - 1)

namespace LiteralWarning.Reports

variable {w : LiteralWarning} {indent sourceLine : Text} {p : CallLiteral.Placed}

/-- The column is that of the call on lines with at least the indentation of the body. -/
theorem column_eq_iff (h : w.Reports indent sourceLine p) :
    w.column = p.before.length + 1 ↔ indent.length ≤ (Text.indentation sourceLine).length := by
  rw [h.column_eq]
  omega

theorem source_prefix (h : w.Reports indent sourceLine p) :
    p.literal.source <+: sourceLine.drop p.before.length := by
  obtain ⟨after, hafter⟩ := CallLiteral.eq_append_of_mem_inScript h.mem
  rw [hafter, List.append_assoc, List.drop_left]
  exact List.prefix_append _ _

theorem pointsAtCall (h : w.Reports indent sourceLine p)
    (hindent : indent.length ≤ (Text.indentation sourceLine).length) :
    w.PointsAtCall sourceLine := by
  have hcolumn := h.column_eq_iff.2 hindent
  obtain ⟨reason, hreason⟩ := CallLiteral.exists_reason h.failure
  refine ⟨by omega, p.literal, reason, hreason, ?_⟩
  rw [hcolumn, Nat.add_sub_cancel]
  exact h.source_prefix

end LiteralWarning.Reports

namespace Extraction

variable {file : Text} {found : Extraction} {w : LiteralWarning} {sourceLines : List Text}

/-! ### Lines of a script -/

theorem mem_warnings_concat {es : List Extraction} :
    w ∈ (concat es).warnings ↔ ∃ e ∈ es, w ∈ e.warnings :=
  List.mem_flatMap

theorem mem_warnings_ofScriptCall {line indent : Nat} {p : CallLiteral.Placed} :
    w ∈ (ofScriptCall file line indent p).warnings ↔
      w.line = line ∧ p.literal.decodeScript = .error w.cause ∧
        w.column = indent + p.before.length + 1 := by
  obtain ⟨wline, column, cause⟩ := w
  unfold ofScriptCall
  cases hdecode : p.literal.decodeScript with
  | ok msgid => simp [ofMsgid]
  | error e =>
      rw [List.mem_singleton, LiteralWarning.mk.injEq, Except.error.injEq]
      constructor
      · rintro ⟨rfl, rfl, rfl⟩
        exact ⟨rfl, rfl, rfl⟩
      · rintro ⟨rfl, rfl, rfl⟩
        exact ⟨rfl, rfl, rfl⟩

/-- A line is searched without indentation, and yet what is reported can be told from
the line as it is in the source. -/
theorem mem_warnings_ofScriptLine {line : Nat} {indent sourceLine : Text} :
    w ∈ (concat ((CallLiteral.inScript (Text.outdent indent sourceLine)).map
        (ofScriptCall file line indent.length))).warnings ↔
      w.line = line ∧ ∃ p, w.Reports indent sourceLine p := by
  obtain ⟨lead, hlead, hindent, hlength⟩ := Text.append_outdent indent sourceLine
  have hmark : '_' ∉ lead := fun hmem => absurd (hindent _ hmem) (by decide)
  have hcalls : CallLiteral.inScript sourceLine =
      (CallLiteral.inScript (Text.outdent indent sourceLine)).map fun p =>
        ⟨lead ++ p.before, p.literal⟩ :=
    (congrArg CallLiteral.inScript hlead).trans (CallLiteral.inScript_append hmark _)
  constructor
  · intro h
    obtain ⟨e, he, hw⟩ := mem_warnings_concat.1 h
    obtain ⟨p, hp, rfl⟩ := List.mem_map.1 he
    obtain ⟨hline, hfailure, hcolumn⟩ := mem_warnings_ofScriptCall.1 hw
    refine ⟨hline, ⟨lead ++ p.before, p.literal⟩, ?_, hfailure, ?_⟩
    · rw [hcalls]
      exact List.mem_map_of_mem hp
    · rw [hcolumn, List.length_append, hlength]
      omega
  · rintro ⟨hline, p, hmem, hfailure, hcolumn⟩
    rw [hcalls] at hmem
    obtain ⟨q, hq, rfl⟩ := List.mem_map.1 hmem
    refine mem_warnings_concat.2 ⟨_, List.mem_map_of_mem hq, ?_⟩
    refine mem_warnings_ofScriptCall.2 ⟨hline, hfailure, ?_⟩
    rw [hcolumn, List.length_append, hlength]
    omega

theorem mem_warnings_ofScript {line : Nat} {indent : Text} {body : List Text} :
    w ∈ (ofScript file line indent.length (body.map (Text.outdent indent))).warnings ↔
      ∃ i sourceLine p, body[i]? = some sourceLine ∧ w.line = line + i ∧
        w.Reports indent sourceLine p := by
  induction body generalizing line with
  | nil => simp [ofScript]
  | cons sourceLine body ih =>
      rw [List.map_cons, ofScript, mem_warnings_concat]
      constructor
      · rintro ⟨e, he, hw⟩
        rcases List.mem_cons.1 he with rfl | he
        · obtain ⟨hline, p, hp⟩ := mem_warnings_ofScriptLine.1 hw
          exact ⟨0, sourceLine, p, rfl, hline, hp⟩
        · rw [List.mem_singleton] at he
          subst he
          obtain ⟨i, l, p, hl, hline, hp⟩ := ih.1 hw
          exact ⟨i + 1, l, p, hl, by omega, hp⟩
      · rintro ⟨i, l, p, hl, hline, hp⟩
        cases i with
        | zero =>
            cases hl
            exact ⟨_, List.mem_cons_self, mem_warnings_ofScriptLine.2 ⟨hline, p, hp⟩⟩
        | succ i =>
            refine ⟨_, List.mem_cons_of_mem _ (List.mem_singleton_self _), ih.2 ?_⟩
            exact ⟨i, l, p, hl, by omega, hp⟩

/-! ### Nodes -/

/-- Only scripts are warned about, on the lines of their bodies. -/
theorem mem_warnings_ofFilter {line : Nat} {name : Text} {body later : List Text}
    (hfeed : ∀ t ∈ body, '\n' ∉ t) (hbody : sourceLines.drop line = body ++ later) :
    w ∈ (ofFilter file line (Template.filterOf name line body)).warnings ↔
      Node.Warns sourceLines ⟨line, .filter (Template.filterOf name line body)⟩ w := by
  have hline {i : Nat} (hi : i < body.length) : sourceLines[line + i]? = body[i]? := by
    rw [← List.getElem?_drop, hbody, List.getElem?_append_left hi]
  have hother (hkind : (Template.filterOf name line body).kind ≠ .javascript) :
      ¬ Node.Warns sourceLines ⟨line, .filter (Template.filterOf name line body)⟩ w := by
    rintro ⟨f, l, p, hf, hscript, -⟩
    cases hf
    exact hkind hscript
  cases hkind : (Template.filterOf name line body).kind with
  | markdown =>
      simp only [ofFilter, hkind]
      exact iff_of_false List.not_mem_nil (hother (by simp [hkind]))
  | other kind =>
      simp only [ofFilter, hkind]
      exact iff_of_false List.not_mem_nil (hother (by simp [hkind]))
  | javascript =>
      simp only [ofFilter, hkind]
      rw [ofScript_pieces_filterOf file name line _ _ hfeed, mem_warnings_ofScript]
      constructor
      · rintro ⟨i, l, p, hl, hi, hp⟩
        have hlt : i < body.length := (List.getElem?_eq_some_iff.1 hl).1
        have hplace : w.line - 1 = line + i := by omega
        refine ⟨_, l, p, rfl, hkind, ?_, ?_, ?_, hp⟩
        · change line < w.line
          omega
        · change w.line ≤ line + body.length
          omega
        · rw [hplace, hline hlt, hl]
      · rintro ⟨f, l, p, hf, -, hfirst, hlast, hl, hp⟩
        cases hf
        change line < w.line at hfirst
        change w.line ≤ line + body.length at hlast
        have hplace : w.line - 1 = line + (w.line - (line + 1)) := by omega
        rw [hplace, hline (by omega)] at hl
        exact ⟨w.line - (line + 1), l, p, hl, by omega, hp⟩

theorem warnings_of_ofFragment {line column : Nat} {t : Text}
    (h : ofFragment file line column t = .ok found) : found.warnings = [] := by
  obtain ⟨p, -, rfl⟩ := ofFragment_eq_ok_iff.1 h
  rfl

theorem mem_warnings_ofNode {n : Node} (hparsed : n.Parsed sourceLines)
    (hfeed : ∀ t ∈ sourceLines, '\n' ∉ t) (hfound : ofNode file n = .ok found) :
    w ∈ found.warnings ↔ n.Warns sourceLines w := by
  have hnone {n : Node} (hkind : ∀ f, n.kind ≠ .filter f) (hwarnings : found.warnings = []) :
      w ∈ found.warnings ↔ n.Warns sourceLines w := by
    rw [hwarnings]
    refine iff_of_false List.not_mem_nil ?_
    rintro ⟨f, l, p, hf, -⟩
    exact hkind f hf
  cases hparsed with
  | plain _ _ => exact hnone (by simp) (warnings_of_ofFragment hfound)
  | @tag line tag _ =>
      refine hnone (by simp) ?_
      simp only [ofNode] at hfound
      split at hfound
      · cases hfound
        rfl
      · exact warnings_of_ofFragment hfound
  | @attributes line hashes =>
      refine hnone (by simp) ?_
      cases hfound
      exact List.flatMap_eq_nil_iff.2 (List.forall_mem_map.2 fun _ _ => rfl)
  | script =>
      refine hnone (by simp) ?_
      cases hfound
      rfl
  | @filter line name body later hbody _ =>
      cases hfound
      exact mem_warnings_ofFilter (fun t ht => hfeed t (mem_of_mem_body hbody ht)) hbody

/-! ### Templates -/

theorem mem_warnings_ofTemplate {source name : Text}
    (h : ofTemplate (Template.parse source name) = .ok found) :
    w ∈ found.warnings ↔
      ∃ n ∈ (Template.parse source name).enabledNodes, n.Warns (Text.lines source) w := by
  obtain ⟨parts, hparts, rfl⟩ := map_eq_ok_iff.1 h
  have hnode {n : Node} {part : Extraction}
      (hn : n ∈ (Template.parse source name).enabledNodes) (hpart : ofNode name n = .ok part) :
      w ∈ part.warnings ↔ n.Warns (Text.lines source) w :=
    mem_warnings_ofNode (Template.parsed_of_mem_enabledNodes hn)
      (fun _ => Text.not_mem_of_mem_lines) hpart
  rw [mem_warnings_concat]
  constructor
  · rintro ⟨part, hpart, hw⟩
    obtain ⟨n, hn, hfound⟩ := exists_mem_of_mapM_eq_ok hparts hpart
    exact ⟨n, hn, (hnode hn hfound).1 hw⟩
  · rintro ⟨n, hn, hw⟩
    obtain ⟨part, hpart, hfound⟩ := exists_mem_ok_of_mapM_eq_ok hparts hn
    exact ⟨part, hpart, (hnode hn hfound).2 hw⟩

/-- The warnings about a template are those about the calls that cannot be decoded, on
the lines of its enabled scripts.  The column of each is that of its call, moved to the
right by the indentation that the line lacks; on a line that lacks none it is exact. -/
theorem warnings_right_of_calls {source name : Text}
    (h : ofTemplate (Template.parse source name) = .ok found) :
    (∀ w, w ∈ found.warnings ↔
      ∃ n ∈ (Template.parse source name).enabledNodes, n.Warns (Text.lines source) w) ∧
    ∀ w ∈ found.warnings, ∃ n ∈ (Template.parse source name).enabledNodes,
      ∃ (f : Filter) (l : Text) (p : CallLiteral.Placed), n.kind = .filter f ∧
        (Text.lines source)[w.line - 1]? = some l ∧
        p.literal.source <+: l.drop p.before.length ∧
        (∃ reason, w.cause = .malformedLiteral p.literal.raw reason) ∧
        w.column = p.before.length + 1 + (f.indent.length - (Text.indentation l).length) ∧
        (w.column = p.before.length + 1 ↔ f.indent.length ≤ (Text.indentation l).length) ∧
        (f.indent.length ≤ (Text.indentation l).length → w.PointsAtCall l) := by
  refine ⟨fun w => mem_warnings_ofTemplate h, ?_⟩
  intro w hw
  obtain ⟨n, hn, f, l, p, hf, -, -, -, hl, hp⟩ := (mem_warnings_ofTemplate h).1 hw
  exact ⟨n, hn, f, l, p, hf, hl, hp.source_prefix, CallLiteral.exists_reason hp.failure,
    hp.column_eq, hp.column_eq_iff, hp.pointsAtCall⟩

/-- The body starts with a blank line and is indented by four spaces on the next one.
Of the lines after that, one has two spaces and one has five tabs. -/
theorem warnings_right_of_calls_uneven :
    let source := (":javascript\n\n    f(_(\"a\\u\"), _('b'))\n  g(_('\\x'))\n" ++
      "\t\t\t\t\th(_('\\y'))\n").toList
    let template := Template.parse source "t".toList
    let inner : LiteralWarning := ⟨3, 7, .malformedLiteral "a\\u".toList
      "EOF while parsing a string at line 1 column 5".toList⟩
    let outer : LiteralWarning := ⟨4, 7, .malformedLiteral "\\x".toList
      "invalid escape at line 1 column 3".toList⟩
    let tabbed : LiteralWarning := ⟨5, 8, .malformedLiteral "\\y".toList
      "invalid escape at line 1 column 3".toList⟩
    ofTemplate template =
        .ok ⟨[⟨"b".toList, ⟨"t".toList, 3⟩⟩], [inner, outer, tabbed]⟩ ∧
      ∀ w ∈ [inner, outer, tabbed], ∃ n ∈ template.enabledNodes,
        n.Warns (Text.lines source) w := by
  intro source template inner outer tabbed
  have hfound : ofTemplate template =
      .ok ⟨[⟨"b".toList, ⟨"t".toList, 3⟩⟩], [inner, outer, tabbed]⟩ := by decide +kernel
  exact ⟨hfound, fun w hw => ((warnings_right_of_calls hfound).1 w).1 hw⟩

/-- A warning about a line with less indentation does not point at its call. -/
theorem not_forall_pointsAtCall :
    ¬ ∀ (source name : Text) (found : Extraction),
      ofTemplate (Template.parse source name) = .ok found →
        ∀ w ∈ found.warnings, ∃ l, (Text.lines source)[w.line - 1]? = some l ∧
          w.PointsAtCall l := by
  intro h
  have hfound : ofTemplate (Template.parse ":javascript\n    f('x')\n  g(_('\\x'))\n".toList
      "t".toList) = .ok ⟨[], [⟨3, 7, .malformedLiteral "\\x".toList
        "invalid escape at line 1 column 3".toList⟩]⟩ := by decide +kernel
  obtain ⟨l, hl, -, call, reason, -, hcall⟩ := h _ _ _ hfound _ List.mem_cons_self
  have hline : (Text.lines ":javascript\n    f('x')\n  g(_('\\x'))\n".toList)[2]? =
      some "  g(_('\\x'))".toList := by decide +kernel
  obtain rfl := Option.some.inj (hline.symm.trans hl)
  -- There is the quote of the literal in this column.
  exact absurd (List.cons_prefix_cons.1 hcall).1 (by decide)

end Extraction

end Phrasebook
