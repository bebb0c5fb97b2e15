import Phrasebook.Proofs.Agreement
import Phrasebook.Proofs.Bodies
import Phrasebook.Proofs.Edits
import Phrasebook.Proofs.Occurrences
import Phrasebook.Proofs.ScriptCalls

/-!
Disabled lines stay as they are.

Extraction and localization ask only whether the line of a node is disabled, and
yet filters report on and edit the lines after it.  This is sound because a
directive is a comment, and a comment never stands inside a filter: whatever
disables a line of the body disables the header as well.  So nothing is reported
for a disabled line, and nothing about it changes.
-/

namespace Phrasebook

namespace DisabledLines

variable {d : DisabledLines} {line s : Nat}

/-- The lines from which on something is disabled. -/
def starts (d : DisabledLines) : List Nat :=
  d.single ++ d.openFrom.toList ++ d.ranges.map LineRange.first

/-- All lines from a start down to a line that it disables are disabled. -/
theorem exists_start_of_contains (h : d.contains line = true) :
    ∃ s ∈ d.starts, s ≤ line ∧ ∀ k, s ≤ k → k ≤ line → d.contains k = true := by
  simp only [contains, Bool.or_eq_true] at h
  rcases h with (hsingle | hopen) | hrange
  · rw [List.contains_iff_mem] at hsingle
    refine ⟨line, by simp [starts, hsingle], Nat.le_refl line, ?_⟩
    intro k hfirst hlast
    obtain rfl : k = line := Nat.le_antisymm hlast hfirst
    simp [contains, hsingle]
  · cases hfrom : d.openFrom with
    | none => simp [hfrom] at hopen
    | some first =>
        have hfirst : first ≤ line := by simpa [hfrom] using hopen
        refine ⟨first, by simp [starts, hfrom], hfirst, ?_⟩
        intro k hk _
        simp [contains, hfrom, hk]
  · obtain ⟨r, hr, hline⟩ := List.any_eq_true.1 hrange
    simp only [LineRange.contains, Bool.and_eq_true, decide_eq_true_eq] at hline
    obtain ⟨hfirst, hlast⟩ := hline
    refine ⟨r.first, by simp only [starts, List.mem_append, List.mem_map]; exact .inr ⟨r, hr, rfl⟩,
      hfirst, ?_⟩
    intro k hk hkline
    have hcontains : r.contains k = true := by
      simp only [LineRange.contains, Bool.and_eq_true, decide_eq_true_eq]
      refine ⟨hk, ?_⟩
      cases hr' : r.last with
      | none => rfl
      | some last =>
          have hle : line ≤ last := by simpa [hr'] using hlast
          simpa using Nat.le_trans hkline hle
    simp only [contains, Bool.or_eq_true]
    exact .inr (List.any_eq_true.2 ⟨r, hr, hcontains⟩)

theorem mem_starts_obey {directive : Directive} (h : s ∈ (d.obey line directive).starts) :
    s ∈ d.starts ∨ s = line ∨ s = line + 1 := by
  cases directive with
  | disable =>
      cases hfrom : d.openFrom <;> simp only [obey, starts, hfrom] at h ⊢ <;> grind
  | enable =>
      cases hfrom : d.openFrom <;> simp only [obey, starts, hfrom] at h ⊢ <;> grind
  | disableNextLine =>
      simp only [obey, starts] at h ⊢
      grind

theorem mem_starts_record {comment : Text} (h : s ∈ (d.record line comment).starts) :
    s ∈ d.starts ∨ s = line ∨ s = line + 1 := by
  unfold record at h
  split at h
  · exact .inl h
  · exact mem_starts_obey h

theorem mem_starts_finish (h : s ∈ d.finish.starts) : s ∈ d.starts := by
  unfold finish at h
  split at h
  · exact h
  · rename_i first hfrom
    simp only [starts, hfrom] at h ⊢
    grind

end DisabledLines

namespace Template

variable {source name : Text} {n : Node} {line : Nat}

theorem mem_starts_foldl {is : List Item} {d : DisabledLines} {s : Nat}
    (h : s ∈ (is.foldl Item.record d).starts) :
    s ∈ d.starts ∨ ∃ line text, .comment line text ∈ is ∧ (s = line ∨ s = line + 1) := by
  induction is generalizing d with
  | nil => exact .inl h
  | cons i is ih =>
      rcases ih h with hd | ⟨line, text, hmem, hs⟩
      · cases i with
        | comment line text =>
            exact (DisabledLines.mem_starts_record hd).imp_right
              fun hs => ⟨line, text, List.mem_cons_self, hs⟩
        | node n => exact .inl hd
      · exact .inr ⟨line, text, List.mem_cons_of_mem i hmem, hs⟩

/-- Disabling starts on the line of a comment or on the line after it. -/
theorem mem_starts_parse {s : Nat} (h : s ∈ (parse source name).disabled.starts) :
    ∃ line text, .comment line text ∈ items 1 (Text.lines source) ∧
      (s = line ∨ s = line + 1) := by
  rcases mem_starts_foldl (DisabledLines.mem_starts_finish h) with hnone | hcomment
  · exact absurd hnone (by simp [DisabledLines.starts])
  · exact hcomment

/-- No comment stands on the lines of a node that has several. -/
theorem not_mem_extent_of_comment {text : Text} (hn : n ∈ (parse source name).nodes)
    (hbody : n.line < n.lastLine)
    (hcomment : .comment line text ∈ items 1 (Text.lines source)) :
    ¬ (n.line ≤ line ∧ line ≤ n.lastLine) := by
  have hpair := (laid_parse source).precedes_or (mem_items_of_mem_parse hn) hcomment (by simp)
  rintro ⟨hfirst, hlast⟩
  rcases hpair with (hbefore | ⟨k, hashes, hattributes, -⟩) | hafter | ⟨k, hashes, hattributes, -⟩
  · simp only [Item.lastLine, Item.line] at hbefore
    omega
  · cases hattributes
    exact absurd hbody (Nat.lt_irrefl k)
  · simp only [Item.lastLine, Item.line] at hafter
    omega
  · cases hattributes

/-- The lines of an enabled node are enabled. -/
theorem contains_disabled_eq_false (hn : n ∈ (parse source name).nodes)
    (henabled : (parse source name).disabled.contains n.line = false)
    (hfirst : n.line ≤ line) (hlast : line ≤ n.lastLine) :
    (parse source name).disabled.contains line = false := by
  by_contra hdisabled
  rw [Bool.not_eq_false] at hdisabled
  obtain ⟨s, hs, hsline, hbetween⟩ := DisabledLines.exists_start_of_contains hdisabled
  -- Disabling cannot have started above the node, or else its first line were disabled.
  have hafter : n.line < s := by
    by_contra hle
    have hheader := hbetween n.line (Nat.not_lt.1 hle) hfirst
    rw [henabled] at hheader
    exact Bool.noConfusion hheader
  obtain ⟨k, text, hcomment, hk⟩ := mem_starts_parse hs
  exact not_mem_extent_of_comment hn (by omega) hcomment (by omega)

end Template

/-! ### What extraction reports -/

namespace Extraction

variable {file : Text} {found : Extraction} {k : Nat}

/-- The lines that an extraction says something about. -/
def lines (e : Extraction) : List Nat :=
  e.occurrences.map (fun o => o.location.line) ++ e.warnings.map LiteralWarning.line

theorem mem_lines_concat {es : List Extraction} :
    k ∈ (concat es).lines ↔ ∃ e ∈ es, k ∈ e.lines := by
  simp only [lines, concat, List.mem_append, List.mem_map, List.mem_flatMap]
  grind

@[simp] theorem lines_ofMsgid (line : Nat) (msgid : Text) :
    (ofMsgid file line msgid).lines = [line] := rfl

theorem lines_of_ofFragment {line column : Nat} {t : Text}
    (h : ofFragment file line column t = .ok found) : found.lines = [line] := by
  obtain ⟨p, -, rfl⟩ := ofFragment_eq_ok_iff.1 h
  rfl

theorem eq_of_mem_lines_ofRuby {line : Nat} {code : Text}
    (h : k ∈ (ofRuby file line code).lines) : k = line := by
  simp only [lines, ofRuby, List.map_map, List.map_nil, List.append_nil, List.mem_map] at h
  obtain ⟨p, -, rfl⟩ := h
  rfl

theorem lines_ofScriptCall (line indent : Nat) (p : CallLiteral.Placed) :
    (ofScriptCall file line indent p).lines = [line] := by
  unfold ofScriptCall
  split <;> rfl

theorem mem_lines_ofScript {line indent : Nat} {codes : List Text}
    (h : k ∈ (ofScript file line indent codes).lines) : line ≤ k ∧ k < line + codes.length := by
  induction codes generalizing line with
  | nil => exact absurd h List.not_mem_nil
  | cons code codes ih =>
      rw [ofScript, mem_lines_concat] at h
      obtain ⟨e, he, hk⟩ := h
      rw [List.length_cons]
      rcases List.mem_cons.1 he with rfl | he
      · obtain ⟨e, he, hk⟩ := mem_lines_concat.1 hk
        obtain ⟨p, -, rfl⟩ := List.mem_map.1 he
        rw [lines_ofScriptCall, List.mem_singleton] at hk
        omega
      · rw [List.mem_singleton] at he
        subst he
        have := ih hk
        omega

/-- A filter reports on its header or on its body. -/
theorem mem_lines_ofFilter {line : Nat} {name : Text} {body : List Text}
    (hfeed : ∀ t ∈ body, '\n' ∉ t)
    (h : k ∈ (ofFilter file line (Template.filterOf name line body)).lines) :
    line ≤ k ∧ k ≤ line + body.length := by
  unfold ofFilter at h
  split at h
  · rw [lines_ofMsgid, List.mem_singleton] at h
    omega
  · rw [ofScript_pieces_filterOf file name line _ _ hfeed] at h
    have hk := mem_lines_ofScript h
    rw [List.length_map] at hk
    omega
  · exact absurd h List.not_mem_nil

/-- A node reports on its own lines. -/
theorem mem_lines_ofNode {sourceLines : List Text} {n : Node} (hparsed : n.Parsed sourceLines)
    (hfeed : ∀ t ∈ sourceLines, '\n' ∉ t) (hfound : ofNode file n = .ok found)
    (h : k ∈ found.lines) : n.line ≤ k ∧ k ≤ n.lastLine := by
  have hline {line : Nat} {kind : NodeKind} (hlast : (Node.mk line kind).lastLine = line)
      (hk : k = line) : line ≤ k ∧ k ≤ (Node.mk line kind).lastLine := by
    rw [hlast, hk]
    exact ⟨Nat.le_refl line, Nat.le_refl line⟩
  cases hparsed with
  | plain _ _ =>
      rw [lines_of_ofFragment hfound, List.mem_singleton] at h
      exact hline rfl h
  | @tag line tag _ =>
      refine hline rfl ?_
      simp only [ofNode] at hfound
      split at hfound
      · cases hfound
        exact eq_of_mem_lines_ofRuby h
      · rw [lines_of_ofFragment hfound, List.mem_singleton] at h
        exact h
  | @attributes line hashes =>
      refine hline rfl ?_
      cases hfound
      obtain ⟨e, he, hk⟩ := mem_lines_concat.1 h
      obtain ⟨hash, -, rfl⟩ := List.mem_map.1 he
      exact eq_of_mem_lines_ofRuby hk
  | script =>
      cases hfound
      exact absurd h List.not_mem_nil
  | @filter line name body later hbody _ =>
      cases hfound
      exact mem_lines_ofFilter (fun t ht => hfeed t (mem_of_mem_body hbody ht)) h

/-- The locations in a catalog are on reported lines. -/
theorem line_mem_lines_of_mem_catalog {entry : CatalogEntry} {location : Location}
    (hentry : entry ∈ found.catalog.entries) (hlocation : location ∈ entry.locations) :
    location.line ∈ found.lines := by
  have hmem : (⟨entry.msgid, location⟩ : Occurrence) ∈ found.catalog.occurrences :=
    List.mem_flatMap.2 ⟨entry, hentry, List.mem_map_of_mem hlocation⟩
  have hoccurrence := List.mem_of_mem_filter ((Catalog.ofOccurrences_perm _).mem_iff.1 hmem)
  exact List.mem_append_left _ (List.mem_map_of_mem hoccurrence)

end Extraction

/-! ### Disabled lines -/

variable {source name : Text} {n : Node} {line : Nat}

theorem Template.contains_disabled_of_mem_enabledNodes
    (hn : n ∈ (Template.parse source name).enabledNodes) (hfirst : n.line ≤ line)
    (hlast : line ≤ n.lastLine) :
    (Template.parse source name).disabled.contains line = false := by
  have henabled : (Template.parse source name).disabled.contains n.line = false := by
    simpa using (List.mem_filter.1 hn).2
  exact contains_disabled_eq_false (List.mem_of_mem_filter hn) henabled hfirst hlast

theorem Extraction.contains_disabled_of_mem_lines {found : Extraction}
    (hfound : ofTemplate (Template.parse source name) = .ok found) (hline : line ∈ found.lines) :
    (Template.parse source name).disabled.contains line = false := by
  obtain ⟨parts, hparts, rfl⟩ := map_eq_ok_iff.1 hfound
  obtain ⟨part, hpart, hline⟩ := mem_lines_concat.1 hline
  obtain ⟨n, hn, hnode⟩ := exists_mem_of_mapM_eq_ok hparts hpart
  have hspan := mem_lines_ofNode (Template.parsed_of_mem_enabledNodes hn)
    (fun _ => Text.not_mem_of_mem_lines) hnode hline
  exact Template.contains_disabled_of_mem_enabledNodes hn hspan.1 hspan.2

theorem Localizer.segments_of_contains_disabled {l : Localizer} {ess : List (List LineEdit)}
    (hrun : (Template.parse source name).enabledNodes.mapM
      (l.edits name (Text.lines source)) = .ok ess)
    {i : Nat} {t : Text} (ht : (Text.lines source)[i]? = some t)
    (hdisabled : (Template.parse source name).disabled.contains (i + 1) = true) :
    (segments ess.flatten 1 (Text.lines source))[i]? = some (some t) := by
  rw [segments, List.getElem?_mapIdx, ht, Option.map_some]
  refine congrArg some (editedLine_of_forall_ne ?_ t)
  -- An edit of the line would come from an enabled node that stands on it.
  intro e he heq
  obtain ⟨es, hes, he⟩ := List.mem_flatten.1 he
  obtain ⟨n, hn, hedits⟩ := exists_mem_of_mapM_eq_ok hrun hes
  have hextent := Template.extent_of_mem_parse (List.mem_of_mem_filter hn)
  have hspan := (ordered_edits hedits hextent.2.1).extent e he
  have henabled := Template.contains_disabled_of_mem_enabledNodes hn hspan.1 hspan.2
  rw [heq, Nat.add_comm, hdisabled] at henabled
  exact Bool.noConfusion henabled

/-- Nothing is reported for a disabled line, and a localized template has it as it
is: its segments are the source lines but for those that are edited.  A filter is
disabled as a whole or not at all. -/
theorem disabled_untouched (source name : Text) :
    let template := Template.parse source name
    (∀ e, Extraction.ofTemplate template = .error e →
      template.disabled.contains e.line = false) ∧
    (∀ found, Extraction.ofTemplate template = .ok found →
      (∀ entry ∈ found.catalog.entries, ∀ location ∈ entry.locations,
        template.disabled.contains location.line = false) ∧
      ∀ w ∈ found.warnings, template.disabled.contains w.line = false) ∧
    (∀ l : Localizer, l.isActive = true → ∀ out, l.localize source name = .ok out →
      ∃ segments : List (Option Text), segments.length = (Text.lines source).length ∧
        out = Text.unlines (l.preamble.toList ++ segments.flatMap Option.toList) ++
          (if Text.endsLine source then ['\n'] else []) ∧
        ∀ i t, (Text.lines source)[i]? = some t → template.disabled.contains (i + 1) = true →
          segments[i]? = some (some t)) ∧
    ∀ n ∈ template.nodes, ∀ f, n.kind = .filter f →
      template.disabled.contains n.line = false →
      ∀ line, n.line < line → line ≤ f.endLine → template.disabled.contains line = false := by
  intro template
  refine ⟨?_, ?_, ?_, ?_⟩
  · intro e he
    obtain ⟨n, hn, hnode⟩ := exists_mem_of_mapM_eq_error (map_eq_error_iff.1 he)
    rw [Extraction.line_of_ofNode_eq_error hnode]
    simpa using (List.mem_filter.1 hn).2
  · intro found hfound
    refine ⟨?_, ?_⟩
    · intro entry hentry location hlocation
      exact Extraction.contains_disabled_of_mem_lines hfound
        (Extraction.line_mem_lines_of_mem_catalog hentry hlocation)
    · intro w hw
      exact Extraction.contains_disabled_of_mem_lines hfound
        (List.mem_append_right _ (List.mem_map_of_mem hw))
  · intro l hactive out hout
    obtain ⟨ess, hrun, rfl⟩ := Localizer.localize_eq_ok hactive hout
    refine ⟨Localizer.segments ess.flatten 1 (Text.lines source), ?_, ?_, ?_⟩
    · simp [Localizer.segments]
    · rw [Localizer.assemble, Localizer.applyEdits_eq_flatMap]
      split <;> simp
    · intro i t ht hdisabled
      exact Localizer.segments_of_contains_disabled hrun ht hdisabled
  · intro n hn f hf hheader line hfirst hlast
    refine Template.contains_disabled_eq_false hn hheader (Nat.le_of_lt hfirst) ?_
    simpa [Node.lastLine, hf] using hlast

/-- One range and one single line are disabled, and what looks like a directive in
the body of a filter is none. -/
theorem disabled_untouched_mixed :
    let l : Localizer := ⟨⟨true, .gettext⟩, none, false⟩
    let source := ("-# i18n-disable-next-line\n:markdown\n  a\n-# i18n-disable\n%p b\n" ++
      "-# i18n-enable\n:javascript\n  -# i18n-disable-next-line\n  f(_('c'))\n").toList
    let template := Template.parse source "t".toList
    let out := ("- extend GetText\n-# i18n-disable-next-line\n:markdown\n  a\n" ++
      "-# i18n-disable\n%p b\n-# i18n-enable\n:javascript\n  -# i18n-disable-next-line\n" ++
      "  f(#\x7b_('c').to_json\x7d)\n").toList
    l.isActive = true ∧ l.localize source "t".toList = .ok out ∧
      template.disabled.contains 5 = true ∧
      ∃ segments : List (Option Text), segments.length = 9 ∧
        out = Text.unlines (l.preamble.toList ++ segments.flatMap Option.toList) ++ ['\n'] ∧
        segments[4]? = some (some "%p b".toList) := by
  intro l source template out
  have hout : l.localize source "t".toList = .ok out := by decide +kernel
  have hdisabled : template.disabled.contains 5 = true := by decide +kernel
  obtain ⟨segments, hlength, hjoin, hlines⟩ :=
    (disabled_untouched source "t".toList).2.2.1 l rfl out hout
  refine ⟨rfl, hout, hdisabled, segments, ?_, ?_, ?_⟩
  · rw [hlength]
    decide +kernel
  · rw [hjoin, if_pos (by decide +kernel)]
  · exact hlines 4 _ (by decide +kernel) hdisabled

end Phrasebook
