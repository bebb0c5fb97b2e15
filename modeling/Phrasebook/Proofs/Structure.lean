import Phrasebook.Proofs.LineEnds
import Phrasebook.Proofs.Rewriting
import Phrasebook.Proofs.Unchanged

/-!
The structure of localized templates.

A localized template is read again from its top.  Each item of the source takes its lines
with the edits made in them, and leaves those after them to the items after it: what a
line is nested in or continues is told by its indentation and its first characters, and
edits change neither.  So the parts of a localized template are those of its source, one
by one, with the preamble before them.
-/

namespace Phrasebook

namespace Localizer

open Template (Reread)

variable {l : Localizer} {file : Text} {sourceLines : List Text}
variable {made : Node → List LineEdit} {become : Node → Outline}
variable {line : Nat} {text : Text} {rest : List Text}

/-! ### Runs -/

/-- The edits of some items are for the lines of these. -/
theorem extent_of_laid {first stop : Nat} {is : List Template.Item}
    (hlaid : Template.Laid first stop is)
    (h : ∀ n ∈ is.filterMap Template.Item.node?, l.Becomes file sourceLines n (made n) (become n)) :
    ∀ e ∈ (is.filterMap Template.Item.node?).flatMap made, first ≤ e.line ∧ e.line < stop := by
  intro e he
  obtain ⟨n, hn, he⟩ := List.mem_flatMap.1 he
  obtain ⟨i, hi, hnode⟩ := List.mem_filterMap.1 hn
  cases i with
  | comment line text => cases hnode
  | node m =>
      cases hnode
      obtain ⟨hfirst, hline, hlast⟩ := hlaid.extent _ hi
      obtain ⟨habove, hbelow⟩ := (h n hn).extent hline e he
      exact ⟨Nat.le_trans hfirst habove, Nat.lt_of_le_of_lt hbelow hlast⟩

theorem le_line_of_items {ls : List Text} (hfeed : ∀ t ∈ ls, '\n' ∉ t)
    (h : ∀ n ∈ (Template.items line ls).filterMap Template.Item.node?,
      l.Becomes file sourceLines n (made n) (become n)) :
    ∀ e ∈ ((Template.items line ls).filterMap Template.Item.node?).flatMap made, line ≤ e.line :=
  fun e he => (extent_of_laid (Template.laid_items hfeed) h e he).1

/-- Lines that are read as `os` after edits, from whatever line on they are numbered. -/
structure Rewritten (es : List LineEdit) (line : Nat) (ls : List Text) (os : List Outline) :
    Prop where
  outline : ∀ line', Template.outline line' (applyEdits es line ls) = os
  fits : Template.Fits ls (applyEdits es line ls)

/-- An item takes a line and `k` more, which its own edits are for, and others are for
the lines after them. -/
theorem Rewritten.of_item {es fs : List LineEdit} {later : List Text} {os os' : List Outline}
    {k : Nat} (hk : k ≤ later.length) (hes : ∀ e ∈ es, e.line < line + 1 + k)
    (hfs : ∀ e ∈ fs, line + 1 + k ≤ e.line)
    (hitem : Reread (text :: later.take k) (later.drop k)
      (applyEdits es line (text :: later.take k)) os)
    (hrest : Rewritten fs (line + 1 + k) (later.drop k) os') :
    Rewritten (es ++ fs) line (text :: later) (os ++ os') := by
  have hlength : line + (text :: later.take k).length = line + 1 + k := by
    rw [List.length_cons, List.length_take, Nat.min_eq_left hk]
    omega
  have hlines : applyEdits (es ++ fs) line ((text :: later.take k) ++ later.drop k) = _ :=
    applyEdits_append_append (by rwa [hlength]) (by rwa [hlength])
  have hlater : (text :: later.take k) ++ later.drop k = text :: later := by
    rw [List.cons_append, List.take_append_drop]
  rw [hlength] at hlines
  rw [← hlater]
  constructor
  · intro line'
    rw [hlines, hitem.outline_append line' hrest.fits, hrest.outline]
  · rw [hlines]
    exact hitem.fits_append hrest.fits

/-- The nodes of some lines are the parts of their outline after the edits of these nodes
were made: each item is read in the place of what it was. -/
theorem rewritten_items {ls : List Text} (hline : 1 ≤ line)
    (hls : sourceLines.drop (line - 1) = ls) (hfeed : ∀ t ∈ ls, '\n' ∉ t)
    (h : ∀ n ∈ (Template.items line ls).filterMap Template.Item.node?,
      l.Becomes file sourceLines n (made n) (become n)) :
    let nodes := (Template.items line ls).filterMap Template.Item.node?
    Rewritten (nodes.flatMap made) line ls (nodes.map become) := by
  intro nodes
  simp only [nodes]
  clear nodes
  -- That the lines left over fit in their place tells each item where it ends.
  fun_induction Template.items line ls with
  | case1 line => exact ⟨fun _ => Template.outline_nil _, .nil⟩
  | case2 line text later hblank ih =>
      have hread : Reread [text] later (applyEdits [] line [text]) [] := by
        rw [applyEdits_nil]
        exact .of_isBlankLine hblank
      have hfeed' := Template.forall_mem_drop_of_cons hfeed 0
      have hrest := ih (Nat.le_add_left 1 line) (Template.drop_of_cons hline hls 0) hfeed' h
      exact .of_item (Nat.zero_le _) (by simp) (le_line_of_items hfeed' h) hread hrest
  | case3 line text later hblank indent body comment hcomment k ih =>
      rw [Bool.not_eq_true] at hblank
      rw [List.filterMap_cons_none rfl] at h ⊢
      have hlead : Text.startsWith ['-', '#'] body = true := by simp [Text.startsWith, hcomment]
      have hread : Reread (text :: later.take k) (later.drop k)
          (applyEdits [] line (text :: later.take k)) [] := by
        rw [applyEdits_nil]
        exact .of_comment hblank hlead (Template.isBody_take _ later)
          (Template.nestedCount_drop _ later)
      have hfeed' := Template.forall_mem_drop_of_cons hfeed k
      have hrest := ih (by omega) (Template.drop_of_cons hline hls k) hfeed' h
      exact .of_item (Template.nestedCount_le _ later) (by simp) (le_line_of_items hfeed' h) hread
        hrest
  | case4 line text later hblank indent body hcomment name hname k ih =>
      rw [Bool.not_eq_true] at hblank
      simp only [List.filterMap_cons, Template.Item.node?, List.flatMap_cons, List.map_cons] at h ⊢
      have hlead : Text.startsWith ['-', '#'] body = false := by simp [Text.startsWith, hcomment]
      have hfilter := h _ List.mem_cons_self
      have hbody : sourceLines.drop line = later.take k ++ later.drop k := by
        rw [List.take_append_drop]
        exact Template.drop_of_cons hline hls 0
      have hread := reread_filter hblank hlead hname (Template.isBody_take _ later)
        (Template.nestedCount_drop _ later) hbody hfilter
      have hfeed' := Template.forall_mem_drop_of_cons hfeed k
      have hnodes := fun n hn => h n (List.mem_cons_of_mem _ hn)
      have hrest := ih (by omega) (Template.drop_of_cons hline hls k) hfeed' hnodes
      refine .of_item (Template.nestedCount_le _ later) ?_ (le_line_of_items hfeed' hnodes) hread
        hrest
      intro e he
      have hlast : e.line ≤ line + (later.take k).length :=
        (hfilter.extent (Nat.le_add_right line _) e he).2
      have htaken := List.length_take_le k later
      omega
  | case5 line text later hblank indent body hcomment hname nodes k hgather ih =>
      rw [Bool.not_eq_true] at hblank
      have hlead : Text.startsWith ['-', '#'] body = false := by simp [Text.startsWith, hcomment]
      obtain ⟨hk, hgathers, hnodes⟩ := TemplateLine.gathers_of_gather hgather
      simp only [List.filterMap_append, Template.filterMap_node?_map, List.flatMap_append,
        List.map_append] at h ⊢
      have hown := fun n hn => h n (List.mem_append_left _ hn)
      have hothers := fun n hn => h n (List.mem_append_right _ hn)
      have hblock : ∀ t ∈ text :: later.take k, '\n' ∉ t := by
        intro t ht
        rcases List.mem_cons.1 ht with rfl | ht
        · exact hfeed t List.mem_cons_self
        · exact hfeed t (List.mem_cons_of_mem text (List.mem_of_mem_take ht))
      have hread := reread_of_gathers ⟨hblank, hlead, hname⟩ hgathers hnodes hline
        (by rw [List.take_append_drop]; exact hls) hblock hown
      have hfeed' := Template.forall_mem_drop_of_cons hfeed k
      have hrest := ih (by omega) (Template.drop_of_cons hline hls k) hfeed' hothers
      refine .of_item hk ?_ (le_line_of_items hfeed' hothers) hread hrest
      have htext := hfeed text List.mem_cons_self
      have hlaid := Template.laid_gather hgather
        (fun hmem => htext ((List.takeWhile_prefix _).subset hmem))
        (fun hmem => htext ((List.dropWhile_suffix _).subset hmem))
        (Template.forall_mem_drop_of_cons hfeed 0)
      rw [← Template.filterMap_node?_map nodes] at hown ⊢
      exact fun e he => (extent_of_laid hlaid hown e he).2

/-! ### Whole templates -/

variable {source name out : Text} {es : List LineEdit}

theorem feed_not_mem_preamble_append (l : Localizer) {ls : List Text} (h : ∀ t ∈ ls, '\n' ∉ t) :
    ∀ t ∈ l.preamble.toList ++ ls, '\n' ∉ t := by
  intro t ht
  rcases List.mem_append.1 ht with ht | ht
  · have hheight := (preamble_oneLine (Option.mem_toList.1 ht)).1
    rw [Text.height] at hheight
    exact List.count_eq_zero.1 (by omega)
  · exact h t ht

/-- The preamble is read as a line of code. -/
theorem outline_preamble {t : Text} (h : t ∈ l.preamble) (line : Nat) (ls : List Text) :
    Template.outline line (t :: ls) =
      .script (Text.trim (t.drop 1)) true :: Template.outline (line + 1) ls := by
  obtain ⟨code, rfl⟩ : ∃ code, t = '-' :: ' ' :: code := by
    unfold preamble at h
    split at h
    · obtain ⟨helpers, -, rfl⟩ := Option.map_eq_some_iff.1 h
      exact ⟨_, rfl⟩
    · cases h
  have hbody : Text.unindented ('-' :: ' ' :: code) = '-' :: ' ' :: code := rfl
  have hclosed : ¬ TemplateLine.IsOpen (Text.unindented ('-' :: ' ' :: code)) :=
    fun hopen => absurd hopen.1 Bool.false_ne_true
  have houtline : Template.outline line (('-' :: ' ' :: code) :: ([] ++ ls)) = _ :=
    Template.outline_of_gathers ⟨rfl, rfl, rfl⟩ (TemplateLine.Gathers.nil hclosed ls)
  rw [TemplateLine.gathered_nil, hbody] at houtline
  exact houtline

/-- The lines of a localized template are the edited lines, but for carriage returns at
their ends. -/
theorem map_dropReturns_lines_assemble (hes : Ordered 1 (Text.lines source).length es)
    (htidy : Tidy (Text.lines source) es)
    (hfeed : ∀ t ∈ applyEdits es 1 (Text.lines source), '\n' ∉ t) :
    (Text.lines (l.assemble source es)).map Text.dropReturns =
      (l.preamble.toList ++ applyEdits es 1 (Text.lines source)).map Text.dropReturns := by
  have hfeed' := feed_not_mem_preamble_append l hfeed
  unfold assemble
  split
  · rename_i hends
    have hsource : Text.lines source ≠ [] := by
      rw [Ne, Text.lines_eq_nil_iff]
      rintro rfl
      cases hends
    have hne := applyEdits_ne_nil hes htidy hsource
    rw [← Text.unlines_append_nil (by simp [hne]), Text.map_dropReturns_lines_unlines hfeed']
    exact List.append_nil _
  · rename_i hends
    rw [Bool.not_eq_true] at hends
    have hopen := endsOpen_getLast_assemble (l := l) hes htidy hends
    rcases List.eq_nil_or_concat (l.preamble.toList ++ applyEdits es 1 (Text.lines source)) with
      hnil | ⟨ts, t, hconcat⟩
    · rw [hnil]
      rfl
    · rw [hconcat, List.concat_eq_append] at hopen hfeed' ⊢
      have hne : t ≠ [] := (hopen t (by simp)).ne_nil
      rw [Text.map_dropReturns_lines_unlines fun u hu => hfeed' u (List.mem_append_left _ hu),
        Text.lines_of_not_mem hne (hfeed' t List.mem_concat_self), List.map_append]

variable {ess : List (List LineEdit)}

theorem tallied_edits_parse {n : Node} {es : List LineEdit}
    (hn : n ∈ (Template.parse source name).enabledNodes)
    (h : l.edits file (Text.lines source) n = .ok es) : Tallied (Text.lines source) n es :=
  tallied_edits (Template.parsed_of_mem_enabledNodes hn)
    (Template.oneLine_of_mem_parse (List.mem_of_mem_filter hn))
    (fun _ => Text.not_mem_of_mem_lines) h

theorem tidy_edits_parse (hrun : (Template.parse source name).enabledNodes.mapM
    (l.edits file (Text.lines source)) = .ok ess) : Tidy (Text.lines source) ess.flatten := by
  refine .flatten fun es hes => ?_
  obtain ⟨n, hn, hedits⟩ := exists_mem_of_mapM_eq_ok hrun hes
  exact (tallied_edits_parse hn hedits).tidy

/-- If no msgid of a call has a line feed, then an edited line is one line. -/
theorem feed_not_mem_applyEdits (hrun : (Template.parse source name).enabledNodes.mapM
      (l.edits file (Text.lines source)) = .ok ess)
    (hmsgids : ∀ msgid ∈ (Template.parse source name).scriptMsgids (Text.lines source),
      '\n' ∉ msgid) :
    ∀ t ∈ applyEdits ess.flatten 1 (Text.lines source), '\n' ∉ t := by
  intro t ht
  rcases mem_applyEdits ht with hmem | ⟨e, he, htext⟩
  · exact Text.not_mem_of_mem_lines hmem
  · obtain ⟨es, hes, he⟩ := List.mem_flatten.1 he
    obtain ⟨n, hn, hedits⟩ := exists_mem_of_mapM_eq_ok hrun hes
    have hadded : (es.map LineEdit.added).sum = 0 := by
      rw [(tallied_edits_parse hn hedits).added, List.sum_eq_zero_iff_forall_eq_nat]
      intro k hk
      obtain ⟨msgid, hmsgid, rfl⟩ := List.mem_map.1 hk
      exact List.count_eq_zero.2 (hmsgids msgid (List.mem_flatMap.2 ⟨n, hn, hmsgid⟩))
    have hcount := List.sum_eq_zero_iff_forall_eq_nat.1 hadded _ (List.mem_map_of_mem he)
    rw [LineEdit.added, htext] at hcount
    exact List.count_eq_zero.1 hcount

/-- The edits of a node, of which a disabled one has none. -/
def nodeEdits (l : Localizer) (disabled : DisabledLines) (file : Text) (sourceLines : List Text)
    (n : Node) : List LineEdit :=
  if disabled.contains n.line then [] else (l.edits file sourceLines n).toOption.getD []

/-- What a node is read as afterwards; a disabled one stays as it is. -/
def localizedIn (l : Localizer) (disabled : DisabledLines) (n : Node) : Except Error Outline :=
  if disabled.contains n.line then .ok n.outline else l.localized n

theorem flatten_eq_flatMap_nodeEdits (hrun : (Template.parse source name).enabledNodes.mapM
    (l.edits file (Text.lines source)) = .ok ess) :
    ess.flatten = (Template.parse source name).nodes.flatMap
      (l.nodeEdits (Template.parse source name).disabled file (Text.lines source)) := by
  have hedits : ess.flatMap id = (Template.parse source name).enabledNodes.flatMap fun n =>
      (l.edits file (Text.lines source) n).toOption.getD [] := by
    refine flatMap_of_mapM_eq_ok hrun fun n _ es hes => ?_
    rw [hes]
    rfl
  rw [List.flatten_eq_flatMap, hedits, Template.enabledNodes]
  induction (Template.parse source name).nodes with
  | nil => rfl
  | cons n nodes ih =>
      rw [List.flatMap_cons, nodeEdits, List.filter_cons]
      cases hdisabled : (Template.parse source name).disabled.contains n.line <;> simp [ih]

theorem becomes_of_mem_parse (hrun : (Template.parse source name).enabledNodes.mapM
      (l.edits file (Text.lines source)) = .ok ess) {n : Node}
    (hn : n ∈ (Template.parse source name).nodes) :
    ∃ o, l.localizedIn (Template.parse source name).disabled n = .ok o ∧
      l.Becomes file (Text.lines source) n
        (l.nodeEdits (Template.parse source name).disabled file (Text.lines source) n) o := by
  unfold localizedIn nodeEdits
  split
  · exact ⟨_, rfl, .kept⟩
  · rename_i henabled
    have hmem : n ∈ (Template.parse source name).enabledNodes :=
      List.mem_filter.2 ⟨hn, by simpa using henabled⟩
    obtain ⟨es, -, hes⟩ := exists_mem_ok_of_mapM_eq_ok hrun hmem
    obtain ⟨o, ho⟩ := exists_localized_of_edits hes
    refine ⟨o, ho, ?_⟩
    rw [hes]
    exact .edited hes ho

/-- A localized template has the parts of its source, with the preamble before them: code
for text, and a lookup in place of the literal value of a tag. -/
theorem map_outline_nodes_localize (hactive : l.isActive = true)
    (h : l.localize source name = .ok out)
    (hmsgids : ∀ msgid ∈ (Template.parse source name).scriptMsgids (Text.lines source),
      '\n' ∉ msgid) :
    let template := Template.parse source name
    ∃ os, template.nodes.mapM (l.localizedIn template.disabled) = .ok os ∧
      (Template.parse out name).nodes.map Node.outline =
        (l.preamble.toList.map fun t => .script (Text.trim (t.drop 1)) true) ++ os := by
  intro template
  obtain ⟨ess, hrun, rfl⟩ := localize_eq_ok hactive h
  have hordered := ordered_edits_parse hrun
  have hlines := feed_not_mem_applyEdits hrun hmsgids
  have hsource : ∀ t ∈ Text.lines source, '\n' ∉ t := fun _ => Text.not_mem_of_mem_lines
  have hbecomes : ∀ n ∈ template.nodes, l.localizedIn template.disabled n =
        .ok ((l.localizedIn template.disabled n).toOption.getD n.outline) ∧
      l.Becomes name (Text.lines source) n
        (l.nodeEdits template.disabled name (Text.lines source) n)
        ((l.localizedIn template.disabled n).toOption.getD n.outline) := by
    intro n hn
    obtain ⟨o, ho, hbecomes⟩ := becomes_of_mem_parse hrun hn
    rw [ho]
    exact ⟨rfl, hbecomes⟩
  have hrewritten := rewritten_items (Nat.le_refl 1) rfl hsource fun n hn => (hbecomes n hn).2
  refine ⟨_, mapM_eq_ok_of_forall fun n hn => (hbecomes n hn).1, ?_⟩
  have hbody : ∀ line, Template.outline line (applyEdits ess.flatten 1 (Text.lines source)) =
      template.nodes.map fun n => (l.localizedIn template.disabled n).toOption.getD n.outline := by
    rw [flatten_eq_flatMap_nodeEdits hrun]
    exact hrewritten.outline
  have hassembled := map_dropReturns_lines_assemble (l := l) hordered (tidy_edits_parse hrun) hlines
  have hreturns := Template.outline_map_dropReturns (feed_not_mem_preamble_append l hlines) 1 1
  calc
    Template.outline 1 (Text.lines (l.assemble source ess.flatten)) =
        Template.outline 1
          ((Text.lines (l.assemble source ess.flatten)).map Text.dropReturns) :=
      (Template.outline_map_dropReturns (fun _ => Text.not_mem_of_mem_lines) 1 1).symm
    _ = Template.outline 1
          (l.preamble.toList ++ applyEdits ess.flatten 1 (Text.lines source)) := by
      rw [hassembled]
      exact hreturns
    _ = _ := by
      cases hpreamble : l.preamble with
      | none => exact hbody 1
      | some t =>
          rw [Option.toList_some, List.singleton_append, outline_preamble hpreamble, hbody]
          rfl

/-- A disabled line, text, tags of one line and of two, code, and filters. -/
theorem map_outline_nodes_localize_mixed :
    let l : Localizer := ⟨⟨true, .gettext⟩, none, false⟩
    let source := ("-# i18n-disable-next-line\nOld\nHi\n%p Yes\n%a\x7bx: 1,\n  y: 2\x7d No\n" ++
      "= f\n:javascript\n  f(_('a'))\n:markdown\n  x\n\n  y").toList
    let out := ("- extend GetText\n-# i18n-disable-next-line\nOld\n!= _('Hi') % []\n" ++
      "%p #\x7b_('Yes') % []\x7d\n%a\x7bx: 1,\n  y: 2\x7d #\x7b_('No') % []\x7d\n= f\n" ++
      ":javascript\n  f(#\x7b_('a').to_json\x7d)\n:markdown\n" ++
      "  #\x7b_('x\\\\n\\\\ny') % []\x7d").toList
    let os : List Outline :=
      [.plain "Old".toList none, .script "_('Hi') % []".toList false,
        .tag ['p'] none "#\x7b_('Yes') % []\x7d".toList, .attributes,
        .tag ['a'] none "#\x7b_('No') % []\x7d".toList, .script ['f'] false,
        .filter .javascript, .filter .markdown]
    l.isActive = true ∧ l.localize source "t".toList = .ok out ∧
      (∀ msgid ∈ (Template.parse source "t".toList).scriptMsgids (Text.lines source),
        '\n' ∉ msgid) ∧
      (Template.parse out "t".toList).nodes.map Node.outline =
        .script "extend GetText".toList true :: os := by
  intro l source out os
  have hout : l.localize source "t".toList = .ok out := by decide +kernel
  have hmsgids : ∀ msgid ∈ (Template.parse source "t".toList).scriptMsgids (Text.lines source),
      '\n' ∉ msgid := by decide +kernel
  have hos : (Template.parse source "t".toList).nodes.mapM
      (l.localizedIn (Template.parse source "t".toList).disabled) = .ok os := by decide +kernel
  have hpreamble : (l.preamble.toList.map fun t => Outline.script (Text.trim (t.drop 1)) true) =
      [.script "extend GetText".toList true] := by decide +kernel
  obtain ⟨os', hos', houtline⟩ := map_outline_nodes_localize (l := l) rfl hout hmsgids
  obtain rfl := Except.ok.inj (hos'.symm.trans hos)
  rw [hpreamble] at houtline
  exact ⟨rfl, hout, hmsgids, houtline⟩

end Localizer

end Phrasebook
