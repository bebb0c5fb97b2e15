import Phrasebook.Proofs.EditedLines
import Phrasebook.Proofs.Parsed

/-!
How many lines a localized template has.

Each kind of node has its own share in that number.  A line of plain text and the
value of a tag stay on their line.  A markdown filter leaves one line of its body.
A javascript filter keeps its lines, but the msgids in them were decoded, so an
escape sequence for a line feed becomes a line feed that breaks a line of the
template.  These are the only lines that localization adds.
-/

namespace Phrasebook

open Text (EndsOpen)

/-- The lines of the body of a markdown filter, less the one that takes their
place. -/
def Node.dropped (n : Node) : Nat :=
  match n.kind with
  | .filter f => if f.kind = .markdown then f.endLine - n.line - 1 else 0
  | .plain _ | .tag _ | .attributes _ | .script _ _ => 0

/-- The msgids of the calls in the body of a javascript filter. -/
def Node.scriptMsgids (sourceLines : List Text) (n : Node) : List Text :=
  match n.kind with
  | .filter f =>
      if f.kind = .javascript then
        (List.range' (n.line + 1) (f.endLine - n.line)).flatMap fun line =>
          CallLiteral.scriptMsgids ((sourceLines[line - 1]?).getD [])
      else []
  | .plain _ | .tag _ | .attributes _ | .script _ _ => []

/-- The msgids of the calls in the enabled javascript filters. -/
def Template.scriptMsgids (t : Template) (sourceLines : List Text) : List Text :=
  t.enabledNodes.flatMap (Node.scriptMsgids sourceLines)

/-! ### Line feeds in nodes -/

theorem sum_map_flatMap {α β : Type} (as : List α) (f : α → List β) (g : β → Nat) :
    ((as.flatMap f).map g).sum = (as.map fun a => ((f a).map g).sum).sum := by
  rw [List.flatMap_def, List.map_flatten, List.sum_flatten, List.map_map, List.map_map]
  rfl

theorem Text.feed_not_mem_indentation (t : Text) : '\n' ∉ indentation t := by
  intro h
  exact absurd (List.mem_takeWhile_imp h) (by decide)

theorem Text.mem_of_mem_takeBytes? {t u : Text} {n : Nat} {c : Char} (h : takeBytes? t n = some u)
    (hc : c ∈ u) : c ∈ t := by
  fun_induction takeBytes? t n generalizing u with
  | case1 t =>
      cases h
      exact absurd hc List.not_mem_nil
  | case2 n => cases h
  | case3 d t n hsize ih =>
      obtain ⟨v, hv, rfl⟩ := Option.map_eq_some_iff.1 h
      rcases List.mem_cons.1 hc with rfl | hc
      · exact List.mem_cons_self
      · exact List.mem_cons_of_mem d (ih hv hc)
  | case4 d t n hsize => cases h

/-- A collapsed text is one line. -/
theorem feed_not_mem_collapse (t : Text) : '\n' ∉ collapse t := by
  intro h
  obtain ⟨c, -, hc⟩ := List.mem_flatMap.1 h
  split at hc
  · exact absurd hc (by decide)
  · rename_i hne
    exact hne (List.mem_singleton.1 hc).symm

theorem Template.feed_not_mem_indent (name : Text) (line : Nat) (body : List Text) :
    '\n' ∉ (filterOf name line body).indent := by
  unfold filterOf
  cases body.find? fun l => !Text.isBlankLine l with
  | none => exact List.not_mem_nil
  | some l => exact Text.feed_not_mem_indentation l

theorem Snippet.endsOpen_interpolation (code : Text) : EndsOpen (interpolation code) :=
  Text.endsOpen_concat (by decide) _

theorem Snippet.endsOpen_lookup (msgid : Text) (args : List Text) :
    EndsOpen (lookup msgid args) :=
  Text.endsOpen_concat (by decide) _

namespace Localizer

variable {l : Localizer} {file : Text} {sourceLines : List Text} {n : Node} {es : List LineEdit}

theorem endsOpen_scriptCall (c : CallLiteral) : EndsOpen (scriptCall c) := by
  have hsource : c.source =
      ('_' :: '(' :: c.quote.char :: c.raw ++ [c.quote.char]) ++ [')'] := by
    simp [CallLiteral.source]
  unfold scriptCall
  split
  · exact Snippet.endsOpen_interpolation _
  · rw [hsource]
    exact Text.endsOpen_concat (by decide) _

theorem endsOpen_scriptLine {code : Text} (h : EndsOpen code) : EndsOpen (scriptLine code) := by
  have hcode := CallLiteral.scan_eq_append [.single, .double] code
  rw [scriptLine]
  by_cases htail : (CallLiteral.scan [.single, .double] code).tail = []
  · -- The line ends with its last call.
    rw [htail, List.append_nil] at hcode ⊢
    rcases List.eq_nil_or_concat (CallLiteral.scan [.single, .double] code).calls with
      hnil | ⟨calls, call, hcalls⟩
    · rw [hnil] at hcode
      exact absurd hcode h.ne_nil
    · rw [hcalls, List.concat_eq_append, List.flatMap_append, List.flatMap_singleton]
      exact ((endsOpen_scriptCall call.2).append_left call.1).append_left _
  · rw [hcode, Text.endsOpen_append_iff _ htail] at h
    exact h.append_left _

/-! ### The share of a node -/

/-- What the edits of a node do to the number of lines. -/
structure Tallied (sourceLines : List Text) (n : Node) (es : List LineEdit) : Prop where
  tidy : Tidy sourceLines es
  removed : (es.map LineEdit.removed).sum = n.dropped
  added : (es.map LineEdit.added).sum = ((n.scriptMsgids sourceLines).map (List.count '\n')).sum

namespace Tallied

theorem nil (hdropped : n.dropped = 0) (hmsgids : n.scriptMsgids sourceLines = []) :
    Tallied sourceLines n [] := by
  refine ⟨⟨by simp, by simp⟩, ?_, ?_⟩
  · rw [hdropped]
    rfl
  · rw [hmsgids]
    rfl

/-- One line is written in the place of several. -/
theorem block {text : Text} {first k : Nat} (hfeed : '\n' ∉ text) (hopen : EndsOpen text)
    (hdropped : n.dropped = k) (hmsgids : n.scriptMsgids sourceLines = []) :
    Tallied sourceLines n
      (⟨first, some text⟩ :: (List.range' (first + 1) k).map fun line => ⟨line, none⟩) := by
  refine ⟨.block hopen first k, ?_, ?_⟩
  · simp only [List.map_cons, List.map_map, Function.comp_def, LineEdit.removed,
      List.map_const', List.length_range', List.sum_cons, List.sum_replicate_nat, Nat.mul_one,
      Nat.zero_add, hdropped]
  · rw [hmsgids]
    simpa [LineEdit.added, Function.comp_def, List.count_eq_zero] using hfeed

/-- Each line of a body is rewritten. -/
theorem script {lines : List Nat} (hlines : ∀ line ∈ lines, line - 1 < sourceLines.length)
    (hfeed : ∀ t ∈ sourceLines, '\n' ∉ t) (hdropped : n.dropped = 0)
    (hmsgids : n.scriptMsgids sourceLines = lines.flatMap fun line =>
      CallLiteral.scriptMsgids ((sourceLines[line - 1]?).getD [])) :
    Tallied sourceLines n (lines.map fun line => ⟨line, sourceLines[line - 1]?.map scriptLine⟩) := by
  have hsource {line : Nat} (hline : line ∈ lines) :
      ∃ code, sourceLines[line - 1]? = some code ∧ '\n' ∉ code :=
    ⟨_, List.getElem?_eq_getElem (hlines line hline), hfeed _ (List.getElem_mem _)⟩
  refine ⟨⟨?_, ?_⟩, ?_, ?_⟩
  · intro e he hremoved
    obtain ⟨line, hline, rfl⟩ := List.mem_map.1 he
    obtain ⟨code, hcode, -⟩ := hsource hline
    simp [hcode] at hremoved
  · intro e he t ht hopen
    obtain ⟨line, hline, rfl⟩ := List.mem_map.1 he
    obtain ⟨code, hcode, rfl⟩ := Option.map_eq_some_iff.1 ht
    exact endsOpen_scriptLine (hopen code hcode)
  · rw [hdropped, List.map_map, List.sum_eq_zero_iff_forall_eq_nat]
    intro k hk
    obtain ⟨line, hline, rfl⟩ := List.mem_map.1 hk
    obtain ⟨code, hcode, -⟩ := hsource hline
    simp [LineEdit.removed, hcode]
  · rw [hmsgids, sum_map_flatMap, List.map_map]
    refine congrArg List.sum (List.map_congr_left fun line hline => ?_)
    obtain ⟨code, hcode, hcodeFeed⟩ := hsource hline
    simpa [LineEdit.added, hcode] using count_feed_scriptLine hcodeFeed

end Tallied

theorem tallied_filterEdits {line : Nat} {name : Text} {body later : List Text}
    (hbody : sourceLines.drop line = body ++ later)
    (hlast : ∀ t ∈ body.getLast?, Text.isBlankLine t = false)
    (hfeed : ∀ t ∈ sourceLines, '\n' ∉ t) :
    Tallied sourceLines ⟨line, .filter (Template.filterOf name line body)⟩
      (filterEdits sourceLines line (Template.filterOf name line body)) := by
  have hend : (Template.filterOf name line body).endLine = line + body.length := rfl
  have hmsgid := Template.msgid_filterOf_eq_nil_iff name line
    (fun t ht => hfeed t (mem_of_mem_body hbody ht)) hlast
  unfold filterEdits
  simp only [hend, Nat.add_sub_cancel_left]
  cases hkind : (Template.filterOf name line body).kind with
  | markdown =>
      have hmsgids : Node.scriptMsgids sourceLines
          ⟨line, .filter (Template.filterOf name line body)⟩ = [] := by
        simp [Node.scriptMsgids, hkind]
      have hdropped : Node.dropped ⟨line, .filter (Template.filterOf name line body)⟩ =
          body.length - 1 := by
        simp [Node.dropped, hkind, hend]
      cases body with
      | nil =>
          have hnone : markdownLine (Template.filterOf name line []) = none := by
            rw [markdownLine, hmsgid.2 rfl]
            rfl
          rw [hnone]
          exact .nil hdropped hmsgids
      | cons first body =>
          have hne : (Template.filterOf name line (first :: body)).msgid ≠ [] := by
            simp [hmsgid]
          obtain ⟨text, htext⟩ : ∃ text,
              markdownLine (Template.filterOf name line (first :: body)) = some text :=
            ⟨_, if_neg (by simpa using hne)⟩
          have hlookup : '\n' ∉ Snippet.lookup
              (Template.filterOf name line (first :: body)).msgid [] :=
            Snippet.feed_not_mem_lookup (feed_not_mem_collapse _) (by simp)
          rw [htext, List.length_cons, List.range'_succ]
          obtain rfl := markdownLine_eq_some htext
          refine .block ?_ ((Snippet.endsOpen_interpolation _).append_left _) hdropped hmsgids
          rw [List.mem_append, not_or]
          exact ⟨Template.feed_not_mem_indent name line _,
            Snippet.feed_not_mem_interpolation hlookup⟩
  | javascript =>
      refine .script ?_ hfeed (by simp [Node.dropped, hkind])
        (by simp [Node.scriptMsgids, hkind, hend])
      intro m hm
      rw [List.mem_range'_1] at hm
      have hlength := congrArg List.length hbody
      rw [List.length_drop, List.length_append] at hlength
      omega
  | other other => exact .nil (by simp [Node.dropped, hkind]) (by simp [Node.scriptMsgids, hkind])

theorem feed_not_mem_before (hfeed : ∀ t ∈ sourceLines, '\n' ∉ t) {i offset : Nat} :
    '\n' ∉ (Text.takeBytes? ((sourceLines[i]?).getD []) offset).getD [] := by
  intro h
  cases htaken : Text.takeBytes? ((sourceLines[i]?).getD []) offset with
  | none => simp [htaken] at h
  | some before =>
      rw [htaken, Option.getD_some] at h
      have hsource := Text.mem_of_mem_takeBytes? htaken h
      cases hline : sourceLines[i]? with
      | none => simp [hline] at hsource
      | some t =>
          rw [hline, Option.getD_some] at hsource
          exact hfeed t (List.mem_of_getElem? hline) hsource

theorem tallied_edits (hparsed : n.Parsed sourceLines) (honeLine : n.OneLine)
    (hfeed : ∀ t ∈ sourceLines, '\n' ∉ t) (h : l.edits file sourceLines n = .ok es) :
    Tallied sourceLines n es := by
  obtain ⟨line, kind⟩ := n
  rcases edits_eq_ok h with ⟨p, phrase, rfl, hphrase, rfl⟩ | ⟨tag, phrase, rfl, hphrase, rfl⟩ |
    ⟨f, rfl, rfl⟩ | ⟨hkind, rfl⟩
  · obtain ⟨htemplate, hargs⟩ := Phrase.feed_not_mem_of_ofText hphrase honeLine
    refine .block (k := 0) ?_ ((Snippet.endsOpen_lookup _ _).append_left _) rfl rfl
    rw [List.mem_append, List.mem_append, not_or, not_or]
    exact ⟨⟨Text.feed_not_mem_indentation _, by decide⟩,
      Snippet.feed_not_mem_lookup htemplate hargs⟩
  · obtain ⟨htemplate, hargs⟩ := Phrase.feed_not_mem_of_ofText hphrase honeLine
    refine .block (k := 0) ?_ ((Snippet.endsOpen_interpolation _).append_left _) rfl rfl
    rw [List.mem_append, not_or]
    exact ⟨feed_not_mem_before hfeed,
      Snippet.feed_not_mem_interpolation (Snippet.feed_not_mem_lookup htemplate hargs)⟩
  · cases hparsed with
    | filter hbody hlast => exact tallied_filterEdits hbody hlast hfeed
  · cases kind with
    | filter f => exact absurd rfl (hkind f)
    | _ => exact .nil rfl rfl

/-! ### Whole templates -/

/-- A localized template has the lines of its source and the preamble, but for those
that markdown filters drop, and one more for each line feed in a msgid of a
javascript filter. -/
theorem length_lines_localize (hactive : l.isActive = true) {source name out : Text}
    (h : l.localize source name = .ok out) :
    let template := Template.parse source name
    let msgids := template.scriptMsgids (Text.lines source)
    let given := l.preamble.toList.length + (Text.lines source).length
    let dropped := (template.enabledNodes.map Node.dropped).sum
    (Text.lines out).length + dropped = given + (msgids.map (List.count '\n')).sum ∧
      ((Text.lines out).length + dropped = given ↔ ∀ msgid ∈ msgids, '\n' ∉ msgid) ∧
      ∀ code, '\n' ∉ code →
        ('\n' ∉ scriptLine code ↔ ∀ msgid ∈ CallLiteral.scriptMsgids code, '\n' ∉ msgid) := by
  intro template msgids given dropped
  obtain ⟨ess, hrun, rfl⟩ := localize_eq_ok hactive h
  have hfeed : ∀ t ∈ Text.lines source, '\n' ∉ t := fun _ => Text.not_mem_of_mem_lines
  have htallied : ∀ n ∈ template.enabledNodes, ∀ es, l.edits name (Text.lines source) n = .ok es →
      Tallied (Text.lines source) n es := fun n hn es hes =>
    tallied_edits (Template.parsed_of_mem_enabledNodes hn)
      (Template.oneLine_of_mem_parse (List.mem_of_mem_filter hn)) hfeed hes
  have hordered := ordered_edits_parse hrun
  have htidy : Tidy (Text.lines source) ess.flatten := by
    refine .flatten fun es hes => ?_
    obtain ⟨n, hn, hedits⟩ := exists_mem_of_mapM_eq_ok hrun hes
    exact (htallied n hn es hedits).tidy
  have hremoved : (ess.flatten.map LineEdit.removed).sum = dropped := by
    rw [List.flatten_eq_flatMap, sum_map_flatMap]
    exact congrArg List.sum
      (map_of_mapM_eq_ok hrun fun n hn es hes => (htallied n hn es hes).removed)
  have hadded : (ess.flatten.map LineEdit.added).sum = (msgids.map (List.count '\n')).sum := by
    have hmsgids := sum_map_flatMap template.enabledNodes
      (Node.scriptMsgids (Text.lines source)) (List.count '\n')
    rw [List.flatten_eq_flatMap, sum_map_flatMap]
    exact (congrArg List.sum (map_of_mapM_eq_ok hrun fun n hn es hes =>
      (htallied n hn es hes).added)).trans hmsgids.symm
  have hcount : (Text.lines (l.assemble source ess.flatten)).length + dropped =
      given + (msgids.map (List.count '\n')).sum := by
    have hlines := length_lines_assemble (l := l) hordered htidy
    have hheight := sum_height_applyEdits hordered (by omega) hfeed
    omega
  have hzero (msgids : List Text) :
      (msgids.map (List.count '\n')).sum = 0 ↔ ∀ msgid ∈ msgids, '\n' ∉ msgid := by
    simp [List.sum_eq_zero_iff_forall_eq_nat, List.count_eq_zero]
  refine ⟨hcount, ?_, ?_⟩
  · rw [hcount, ← hzero]
    omega
  · intro code hcode
    rw [← List.count_eq_zero, count_feed_scriptLine hcode, hzero]

/-- One line feed is decoded, and a body of three lines becomes one. -/
theorem length_lines_localize_mixed :
    let l : Localizer := ⟨⟨true, .gettext⟩, none, false⟩
    let source := ":javascript\n  f(_('a\\nb'), _(\"c\"))\n:markdown\n  x\n\n  y".toList
    let out := ("- extend GetText\n:javascript\n  f(#\x7b_('a\nb').to_json\x7d, " ++
      "#\x7b_('c').to_json\x7d)\n:markdown\n  #\x7b_('x\\\\n\\\\ny') % []\x7d").toList
    let template := Template.parse source "t".toList
    l.isActive = true ∧ l.localize source "t".toList = .ok out ∧
      (template.enabledNodes.map Node.dropped).sum = 2 ∧
      template.scriptMsgids (Text.lines source) = ["a\nb".toList, ['c']] ∧
      (Text.lines out).length + 2 = 1 + 6 + 1 ∧
      '\n' ∈ scriptLine "  f(_('a\\nb'), _(\"c\"))".toList := by
  intro l source out template
  have hout : l.localize source "t".toList = .ok out := by decide +kernel
  have hdropped : (template.enabledNodes.map Node.dropped).sum = 2 := by decide +kernel
  have hmsgids : template.scriptMsgids (Text.lines source) = ["a\nb".toList, ['c']] := by
    decide +kernel
  have hgiven : l.preamble.toList.length + (Text.lines source).length = 1 + 6 := by
    decide +kernel
  obtain ⟨hlength, -, hcode⟩ := length_lines_localize (l := l) rfl hout
  refine ⟨rfl, hout, hdropped, hmsgids, ?_, ?_⟩
  · rw [hdropped, hmsgids, hgiven] at hlength
    exact hlength
  · have hfeeds := (hcode "  f(_('a\\nb'), _(\"c\"))".toList (by decide +kernel)).not.2
    refine not_not.1 (hfeeds ?_)
    decide +kernel

/-- Localization may add lines, and a line of script code may become two. -/
theorem not_forall_length_lines_localize :
    (¬ ∀ (l : Localizer) (source name out : Text), l.isActive = true →
        l.localize source name = .ok out →
          (Text.lines out).length +
              ((Template.parse source name).enabledNodes.map Node.dropped).sum =
            l.preamble.toList.length + (Text.lines source).length) ∧
      ¬ ∀ code : Text, '\n' ∉ code → '\n' ∉ scriptLine code := by
  constructor
  · intro h
    have hlength := h ⟨⟨false, .i18n⟩, some true, false⟩ ":javascript\n  f(_('a\\nb'))".toList
      "t".toList (":javascript\n  f(#\x7b_('a\nb').to_json\x7d)").toList rfl (by decide +kernel)
    exact absurd hlength (by decide +kernel)
  · intro h
    exact absurd (h "_('a\\nb')".toList (by decide +kernel)) (by decide +kernel)

end Localizer

end Phrasebook
