import Phrasebook.Proofs.Fragments
import Phrasebook.Proofs.Positions
import Phrasebook.Proofs.Runs
import Phrasebook.Proofs.Unterminated

/-!
Where an extraction fails.

A failure is told by the byte offset at which a scan of a fragment stopped, and is
reported as a column of the line that the fragment stands on.  The text before a
marker is as long in the fragment as it is on the line, so the column that counts
both the text before the fragment and that text is the one of the marker.  Behind the
fragment there are only blank characters, which close nothing.
-/

namespace Phrasebook

theorem Node.StandsOn.exists_fragment {l text : Text} {n : Node} {column : Nat}
    (h : n.StandsOn l) (hfragment : n.fragment? = some (text, column)) :
    ∃ offset, Text.StandsOn l text offset column := by
  obtain ⟨line, kind⟩ := n
  cases kind with
  | plain p =>
      cases hfragment
      exact ⟨p.offset, h⟩
  | tag t =>
      simp only [fragment?] at hfragment
      split at hfragment
      · cases hfragment
      · cases hfragment
        exact ⟨t.offset, h⟩
  | attributes hashes => cases hfragment
  | script code silent => cases hfragment
  | filter f => cases hfragment

/-- Blank characters after an expression do not end it. -/
theorem Marker.Unterminated.unclosed_append {before after blanks : Text}
    (h : Unterminated before after) (hblanks : Text.isBlankLine blanks = true) :
    ∀ s, s <+: after ++ blanks → s.count '}' < 1 + s.count '{' := by
  have hcount : blanks.count '}' = 0 := by
    rw [List.count_eq_zero]
    intro hmem
    exact absurd (List.all_eq_true.1 hblanks '}' hmem) (by decide)
  intro s hs
  rcases List.prefix_or_prefix_of_prefix hs (List.prefix_append after blanks) with hs' | ⟨t, rfl⟩
  · exact h.unclosed s hs'
  · have hwhole := h.unclosed after (List.prefix_refl after)
    have ht := ((List.prefix_append_right_inj after).1 hs).sublist.count_le '}'
    rw [List.count_append, List.count_append]
    omega

namespace FragmentError

/-- The column at which a fragment fails counts the characters before the byte that the
cause tells. -/
theorem ofFragment_append (file : Text) (line column : Nat) (before after : Text) :
    ofFragment file line column (before ++ after)
        (.unbalancedDelimiter (Text.utf8Size before)) =
      ⟨file, line, column + before.length, .unbalancedDelimiter (Text.utf8Size before)⟩ := by
  simp only [ofFragment, Text.takeBytes?_append, Option.map_some, Option.getD_some]

/-- The failure of the first node whose fragment cannot become a phrase.  It is at the
first marker of the fragment that is not escaped and never ends, and the fragment is
part of a source line. -/
inductive First (file : Text) (sourceLines : List Text) : List Node → FragmentError → Prop where
  | intro {earlier later : List Node} {n : Node} {l text before after : Text}
      {offset column : Nat}
      (hearlier : ∀ m ∈ earlier, ∀ t k, m.fragment? = some (t, k) →
        ∃ p, Phrase.ofText false t = .ok p)
      (hfragment : n.fragment? = some (text, column))
      (hline : sourceLines[n.line - 1]? = some l)
      (hstands : Text.StandsOn l text offset column)
      (hmarker : Marker.FirstUnterminated text before after) :
      First file sourceLines (earlier ++ n :: later)
        ⟨file, n.line, column + before.length, .unbalancedDelimiter (Text.utf8Size before)⟩

/-- A failure in a column of a line where a marker starts and never ends: the depth of
nesting, which is one at the start of its expression, stays above zero down to the end
of the line. -/
structure PointsAtMarker (e : FragmentError) (sourceLine : Text) : Prop where
  column_pos : 1 ≤ e.column
  marker : ∃ rest, sourceLine.drop (e.column - 1) = '#' :: '{' :: rest ∧
    ∀ s, s <+: rest → s.count '}' < 1 + s.count '{'

variable {file : Text} {sourceLines : List Text} {nodes : List Node} {e : FragmentError}

theorem first_of_mapM_eq_error (h : nodes.mapM (Extraction.ofNode file) = .error e)
    (hnodes : ∀ n ∈ nodes, ∃ l, sourceLines[n.line - 1]? = some l ∧ n.StandsOn l) :
    First file sourceLines nodes e := by
  obtain ⟨earlier, n, later, rfl, hearlier, hn⟩ := exists_append_of_mapM_eq_error h
  obtain ⟨text, column, hfragment, herror⟩ := Extraction.exists_fragment_of_ofNode_eq_error hn
  obtain ⟨cause, hcause, rfl⟩ := Extraction.ofFragment_eq_error_iff.1 herror
  obtain ⟨before, after, hmarker, rfl⟩ := Phrase.exists_firstUnterminated hcause
  obtain ⟨l, hline, hstands⟩ := hnodes n (by simp)
  obtain ⟨offset, hstands⟩ := hstands.exists_fragment hfragment
  have hposition := ofFragment_append file n.line column before ('#' :: '{' :: after)
  rw [← hmarker.eq_append] at hposition
  rw [hposition]
  refine .intro ?_ hfragment hline hstands hmarker
  intro m hm t k hmfragment
  obtain ⟨found, hfound⟩ := hearlier m hm
  exact Extraction.exists_ofText_of_ofNode_eq_ok hfound hmfragment

theorem First.file_eq (h : First file sourceLines nodes e) : e.file = file := by
  cases h
  rfl

theorem First.exists_offset (h : First file sourceLines nodes e) :
    ∃ offset, e.cause = .unbalancedDelimiter offset := by
  cases h
  exact ⟨_, rfl⟩

theorem First.pointsAtMarker (h : First file sourceLines nodes e) :
    ∃ l, sourceLines[e.line - 1]? = some l ∧ e.PointsAtMarker l := by
  cases h with
  | @intro earlier later n l text before after offset column _ _ hline hstands hmarker =>
  obtain ⟨lead, blanks, rfl, hblanks, -, rfl⟩ := hstands
  refine ⟨_, hline, Nat.le_add_right_of_le (Nat.le_add_left 1 _), after ++ blanks, ?_,
    hmarker.unclosed_append hblanks⟩
  have hsplit : lead ++ (before ++ '#' :: '{' :: after) ++ blanks =
      (lead ++ before) ++ '#' :: '{' :: (after ++ blanks) := by simp
  have hlength : lead.length + 1 + before.length - 1 = (lead ++ before).length := by
    rw [List.length_append]
    omega
  rw [hmarker.eq_append, hsplit, hlength, List.drop_left]

end FragmentError

/-- An extraction fails for the first fragment that cannot become a phrase, and it
reports the source line and the column of the marker there that never ends. -/
theorem Extraction.fails_at_first_unterminated {source name : Text} {e : FragmentError}
    (h : ofTemplate (Template.parse source name) = .error e) :
    e.file = name ∧ 1 ≤ e.line ∧ e.line ≤ (Text.lines source).length ∧
      (∃ offset, e.cause = .unbalancedDelimiter offset) ∧
      (∃ l, (Text.lines source)[e.line - 1]? = some l ∧ e.PointsAtMarker l) ∧
      FragmentError.First name (Text.lines source) (Template.parse source name).enabledNodes e := by
  have hrun : (Template.parse source name).enabledNodes.mapM (ofNode name) = .error e :=
    map_eq_error_iff.1 h
  have hfirst := FragmentError.first_of_mapM_eq_error hrun fun n hn =>
    Template.standsOn_of_mem_parse (List.mem_of_mem_filter hn)
  have hextent : 1 ≤ e.line ∧ e.line ≤ (Text.lines source).length := by
    obtain ⟨n, hn, hfail⟩ := exists_mem_of_mapM_eq_error hrun
    obtain ⟨hfront, hline, hlast⟩ := Template.extent_of_mem_parse (List.mem_of_mem_filter hn)
    rw [line_of_ofNode_eq_error hfail]
    exact ⟨hfront, Nat.le_trans hline hlast⟩
  exact ⟨hfirst.file_eq, hextent.1, hextent.2, hfirst.exists_offset, hfirst.pointsAtMarker, hfirst⟩

/-- The marker is on the second line of a tag, behind text of several bytes for each
character, a marker that ends and an escaped one.  The nodes before are disabled, code
or free of such markers. -/
theorem Extraction.fails_at_first_unterminated_block :
    let source := ("-# i18n-disable-next-line\n%p off #\x7b\n= code #\x7b\n" ++
      "%p ok #\x7bx\x7d \\#\x7b\n%p\x7ba: 1,\n  b: 2\x7d Ünï #\x7bx\x7d \\#\x7by " ++
      "\\\\#\x7bz \x7b \x7d  ").toList
    let e : FragmentError := ⟨"t".toList, 6, 25, .unbalancedDelimiter 18⟩
    ofTemplate (Template.parse source "t".toList) = .error e ∧
      (∃ l, (Text.lines source)[5]? = some l ∧ e.PointsAtMarker l) ∧
      FragmentError.First "t".toList (Text.lines source)
        (Template.parse source "t".toList).enabledNodes e := by
  intro source e
  have hfail : ofTemplate (Template.parse source "t".toList) = .error e := by decide +kernel
  obtain ⟨-, -, -, -, hmarker, hfirst⟩ := fails_at_first_unterminated hfail
  exact ⟨hfail, hmarker, hfirst⟩

end Phrasebook
