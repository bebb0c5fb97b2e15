import Phrasebook.Proofs.LineCount
import Phrasebook.Proofs.Rereading

/-!
What becomes of the parts of a template.

A part is kept or localized.  Its lines, with its edits made, are then read as one part
again: text as code, a tag with another value, a filter of the same kind with another
body.  Only lines of text and values of tags are told by characters that edits change,
and in front of these every line stays as it is.
-/

namespace Phrasebook

namespace Localizer

/-! ### Nodes and what becomes of them -/

variable {l : Localizer} {file : Text} {sourceLines : List Text}

/-- What a node is read as once it is localized: literal text is a line of code with its
lookup, and the literal value of a tag is an interpolated one. -/
def localized (l : Localizer) (n : Node) : Except Error Outline :=
  match n.kind with
  | .plain p => (l.plainLookup p).map fun call => .script call false
  | .tag t => (l.tagValue t).map fun value => .tag t.name t.action (value.getD t.value)
  | .attributes _ => .ok .attributes
  | .script code silent => .ok (.script code silent)
  | .filter f => .ok (.filter f.kind)

theorem exists_localized_of_edits {n : Node} {es : List LineEdit}
    (h : l.edits file sourceLines n = .ok es) : ∃ o, l.localized n = .ok o := by
  obtain ⟨line, kind⟩ := n
  cases kind with
  | plain p =>
      simp only [edits] at h
      cases hlookup : l.plainLookup p with
      | error e => simp [hlookup] at h
      | ok call =>
          refine ⟨.script call false, ?_⟩
          simp [localized, hlookup, Except.map]
  | tag t =>
      simp only [edits] at h
      cases hvalue : l.tagValue t with
      | error e => simp [hvalue] at h
      | ok value =>
          refine ⟨.tag t.name t.action (value.getD t.value), ?_⟩
          simp [localized, hvalue, Except.map]
  | attributes hashes => exact ⟨_, rfl⟩
  | script code silent => exact ⟨_, rfl⟩
  | filter f => exact ⟨_, rfl⟩

/-- The edits of a node and what it is read as afterwards, for a node that is localized
or one that is not. -/
inductive Becomes (l : Localizer) (file : Text) (sourceLines : List Text) (n : Node) :
    List LineEdit → Outline → Prop where
  | kept : Becomes l file sourceLines n [] n.outline
  | edited {es : List LineEdit} {o : Outline} (hedits : l.edits file sourceLines n = .ok es)
      (hlocalized : l.localized n = .ok o) : Becomes l file sourceLines n es o

namespace Becomes

variable {line : Nat} {es : List LineEdit} {o : Outline}

theorem of_plain {p : PlainText} (h : l.Becomes file sourceLines ⟨line, .plain p⟩ es o) :
    (es = [] ∧ o = .plain p.text p.escape) ∨ ∃ template args,
      es = [⟨line, some (Text.indentation ((sourceLines[line - 1]?).getD []) ++ ['!', '=', ' '] ++
        Snippet.lookup template args)⟩] ∧ o = .script (Snippet.lookup template args) false := by
  cases h with
  | kept => exact .inl ⟨rfl, rfl⟩
  | edited hedits hlocalized =>
      simp only [edits] at hedits
      simp only [localized] at hlocalized
      cases hlookup : l.plainLookup p with
      | error e => simp [hlookup] at hedits
      | ok call =>
          rw [hlookup] at hedits hlocalized
          cases hedits
          cases hlocalized
          obtain ⟨phrase, -, rfl⟩ := plainLookup_eq_ok hlookup
          exact .inr ⟨phrase.template, phrase.args, rfl, rfl⟩

theorem of_tag {t : Tag} (h : l.Becomes file sourceLines ⟨line, .tag t⟩ es o) :
    (es = [] ∧ o = .tag t.name t.action t.value) ∨ ∃ code,
      es = [⟨line, some ((Text.takeBytes? ((sourceLines[line - 1]?).getD []) t.offset).getD [] ++
        Snippet.interpolation code)⟩] ∧ o = .tag t.name t.action (Snippet.interpolation code) := by
  cases h with
  | kept => exact .inl ⟨rfl, rfl⟩
  | edited hedits hlocalized =>
      simp only [edits] at hedits
      simp only [localized] at hlocalized
      cases hvalue : l.tagValue t with
      | error e => simp [hvalue] at hedits
      | ok value =>
          rw [hvalue] at hedits hlocalized
          cases value with
          | none =>
              cases hedits
              cases hlocalized
              exact .inl ⟨rfl, rfl⟩
          | some value =>
              cases hedits
              cases hlocalized
              obtain ⟨phrase, -, rfl⟩ := tagValue_eq_some hvalue
              exact .inr ⟨_, rfl, rfl⟩

theorem of_attributes {hashes : List Text}
    (h : l.Becomes file sourceLines ⟨line, .attributes hashes⟩ es o) :
    es = [] ∧ o = .attributes := by
  cases h with
  | kept => exact ⟨rfl, rfl⟩
  | edited hedits hlocalized =>
      cases hedits
      cases hlocalized
      exact ⟨rfl, rfl⟩

theorem of_script {code : Text} {silent : Bool}
    (h : l.Becomes file sourceLines ⟨line, .script code silent⟩ es o) :
    es = [] ∧ o = .script code silent := by
  cases h with
  | kept => exact ⟨rfl, rfl⟩
  | edited hedits hlocalized =>
      cases hedits
      cases hlocalized
      exact ⟨rfl, rfl⟩

theorem of_filter {f : Filter} (h : l.Becomes file sourceLines ⟨line, .filter f⟩ es o) :
    (es = [] ∨ es = filterEdits sourceLines line f) ∧ o = .filter f.kind := by
  cases h with
  | kept => exact ⟨.inl rfl, rfl⟩
  | edited hedits hlocalized =>
      cases hedits
      cases hlocalized
      exact ⟨.inr rfl, rfl⟩

/-- The edits of a node are for its own lines. -/
theorem extent {n : Node} (h : l.Becomes file sourceLines n es o) (hline : n.line ≤ n.lastLine) :
    ∀ e ∈ es, n.line ≤ e.line ∧ e.line ≤ n.lastLine := by
  cases h with
  | kept => simp
  | edited hedits => exact (ordered_edits hedits hline).extent

end Becomes

/-! ### Bodies of filters -/

theorem exists_cons_scriptCall (c : CallLiteral) :
    ∃ d t, scriptCall c = d :: t ∧ isBlank d = false := by
  unfold scriptCall
  cases c.decodeScript with
  | ok msgid => exact ⟨'#', _, rfl, by decide⟩
  | error e => exact ⟨'_', _, rfl, by decide⟩

/-- Calls are replaced by text that neither indents nor is blank. -/
theorem scriptLine_eq_or (code : Text) : scriptLine code = code ∨ ∃ s c t d u,
    code = s ++ c :: t ∧ scriptLine code = s ++ d :: u ∧ isBlank c = false ∧ isBlank d = false := by
  have hcode := CallLiteral.scan_eq_append [.single, .double] code
  rw [scriptLine]
  generalize (CallLiteral.scan [.single, .double] code).tail = tail at hcode ⊢
  generalize (CallLiteral.scan [.single, .double] code).calls = calls at hcode ⊢
  cases calls with
  | nil => exact .inl hcode.symm
  | cons call calls =>
      obtain ⟨before, c⟩ := call
      obtain ⟨t, ht⟩ : ∃ t, c.source = '_' :: t := ⟨_, rfl⟩
      obtain ⟨d, u, hcall, hd⟩ := exists_cons_scriptCall c
      have hsource (later : Text) :
          before ++ c.source ++ later = before ++ '_' :: (t ++ later) := by simp [ht]
      have hedited (later : Text) :
          before ++ scriptCall c ++ later = before ++ d :: (u ++ later) := by simp [hcall]
      rw [List.flatMap_cons, List.append_assoc] at hcode ⊢
      exact .inr ⟨before, '_', _, d, _, hcode.trans (hsource _), hedited _, by decide, hd⟩

theorem indentation_scriptLine (code : Text) :
    Text.indentation (scriptLine code) = Text.indentation code := by
  rcases scriptLine_eq_or code with heq | ⟨s, c, t, d, u, hcode, hline, hc, hd⟩
  · rw [heq]
  · rw [hline, Text.indentation_append_cons (Text.isIndent_of_isBlank_eq_false hd)]
    conv => rhs; rw [hcode]
    rw [Text.indentation_append_cons (Text.isIndent_of_isBlank_eq_false hc)]

theorem isBlankLine_scriptLine (code : Text) :
    Text.isBlankLine (scriptLine code) = Text.isBlankLine code := by
  rcases scriptLine_eq_or code with heq | ⟨s, c, t, d, u, hcode, hline, hc, hd⟩
  · rw [heq]
  · rw [hline, Text.isBlankLine_append_cons hd]
    conv => rhs; rw [hcode]
    rw [Text.isBlankLine_append_cons hc]

open Template (IsBody)

variable {n : Nat} {block later : List Text}

theorem isBody_map_scriptLine (h : IsBody n block) : IsBody n (block.map scriptLine) := by
  refine ⟨?_, ?_⟩
  · intro l hl
    obtain ⟨m, hm, rfl⟩ := List.mem_map.1 hl
    rw [Template.isNested, isBlankLine_scriptLine, indentation_scriptLine]
    exact h.nested m hm
  · intro l hl
    rw [List.getLast?_map] at hl
    obtain ⟨m, hm, rfl⟩ := Option.map_eq_some_iff.1 hl
    rw [isBlankLine_scriptLine]
    exact h.last m hm

/-- The line that takes the place of a body is indented as its first line is. -/
theorem isBody_interpolation (h : IsBody n block) (hne : block ≠ []) (name : Text) (line : Nat)
    (code : Text) :
    IsBody n [(Template.filterOf name line block).indent ++ Snippet.interpolation code] := by
  have hlast : Text.isBlankLine (block.getLast hne) = false :=
    h.last _ (List.getLast?_eq_some_getLast hne)
  obtain ⟨l, hl⟩ : ∃ l, block.find? (fun l => !Text.isBlankLine l) = some l := by
    rw [← Option.isSome_iff_exists, List.find?_isSome]
    exact ⟨_, List.getLast_mem hne, by simp [hlast]⟩
  have hblank : Text.isBlankLine l = false := by simpa using List.find?_some hl
  have hnested : n < (Text.indentation l).length := by
    simpa [Template.isNested, hblank] using h.nested l (List.mem_of_find?_eq_some hl)
  have hindent : (Template.filterOf name line block).indent = Text.indentation l := by
    simp [Template.filterOf, hl]
  have hline : Text.isBlankLine (Text.indentation l ++ Snippet.interpolation code) = false :=
    Text.isBlankLine_append_cons (by decide) _ _
  have hline' : Text.indentation (Text.indentation l ++ Snippet.interpolation code) =
      Text.indentation l := Text.indentation_indentation_append (by decide) l _
  rw [hindent]
  refine ⟨?_, ?_⟩
  · intro m hm
    rw [List.mem_singleton] at hm
    subst hm
    simp [Template.isNested, hline', hnested]
  · rintro m ⟨⟩
    exact hline

theorem flatMap_range'_getElem? (f : Text → Text) {first : Nat} (hfirst : 1 ≤ first)
    (hbody : sourceLines.drop (first - 1) = block ++ later) :
    (List.range' first block.length).flatMap (fun k => (sourceLines[k - 1]?.map f).toList) =
      block.map f := by
  induction block generalizing first with
  | nil => rfl
  | cons t block ih =>
      obtain ⟨ht, hrest⟩ := getElem?_and_drop_of_drop hfirst hbody
      rw [List.length_cons, List.range'_succ, List.flatMap_cons, ht,
        ih (Nat.le_add_left 1 first) hrest]
      rfl

/-- The edits of a filter leave lines that are nested below it. -/
theorem isBody_applyEdits_filterEdits {line : Nat} {name : Text} (h : IsBody n block)
    (hbody : sourceLines.drop line = block ++ later) :
    IsBody n (applyEdits (filterEdits sourceLines line (Template.filterOf name line block))
      (line + 1) block) := by
  have hend : (Template.filterOf name line block).endLine = line + block.length := rfl
  unfold filterEdits
  simp only [hend, Nat.add_sub_cancel_left]
  cases (Template.filterOf name line block).kind with
  | markdown =>
      cases htext : markdownLine (Template.filterOf name line block) with
      | none => simpa using h
      | some text =>
          cases block with
          | nil => simpa using h
          | cons first block =>
              obtain rfl := markdownLine_eq_some htext
              rw [List.length_cons, List.range'_succ]
              simp only [applyEdits_block]
              exact isBody_interpolation h (by simp) name line _
  | javascript =>
      have hmap := applyEdits_map_range' (fun k => sourceLines[k - 1]?.map scriptLine) (line + 1)
        block
      have hlines : (List.range' (line + 1) block.length).flatMap
          (fun k => (sourceLines[k - 1]?.map scriptLine).toList) = block.map scriptLine :=
        flatMap_range'_getElem? scriptLine (Nat.le_add_left 1 line) hbody
      rw [hmap, hlines]
      exact isBody_map_scriptLine h
  | other other => simpa using h

/-! ### Lines of nodes -/

open Template (IsContent Reread)
open TemplateLine (Gathers gathered)

variable {made : Node → List LineEdit} {become : Node → Outline}
variable {line : Nat} {text : Text} {rest : List Text}

/-- Lines of which all nodes are kept. -/
theorem reread_of_kept (hcontent : IsContent text)
    (hgathers : Gathers (Text.indentation text).length (Text.unindented text) block rest)
    {nodes : List Node} (hnodes : nodes = (TemplateLine.nodes? line (Text.indentation text)
      (gathered (Text.unindented text) block)).getD [])
    (h : ∀ n ∈ nodes, made n = [] ∧ become n = n.outline) :
    Reread (text :: block) rest (applyEdits (nodes.flatMap made) line (text :: block))
      (nodes.map become) := by
  have hmade : nodes.flatMap made = [] := List.flatMap_eq_nil_iff.2 fun n hn => (h n hn).1
  have hbecome : nodes.map become =
      (TemplateLine.outline? (gathered (Text.unindented text) block)).getD [] := by
    rw [List.map_congr_left fun n hn => (h n hn).2, hnodes,
      ← TemplateLine.map_outline_nodes? line (Text.indentation text)]
    cases TemplateLine.nodes? line (Text.indentation text)
      (gathered (Text.unindented text) block) <;> rfl
  rw [hmade, applyEdits_nil, hbecome]
  exact .of_gathers hcontent hgathers

/-- The nodes of a tag whose value comes after `lead` on its line are kept, or the value
becomes an interpolation. -/
theorem kept_or_value {head : TagLine.Head} {line line' column : Nat} {lead : Text}
    {nodes : List Node}
    (hnodes : nodes = (if head.hashes.isEmpty then [] else [⟨line, .attributes head.hashes⟩]) ++
      [⟨line', .tag ⟨head.name, head.action, Text.trimEnd head.rest, Text.utf8Size lead, column⟩⟩])
    (hsource : sourceLines[line' - 1]? = some (lead ++ head.rest))
    (h : ∀ n ∈ nodes, l.Becomes file sourceLines n (made n) (become n)) :
    (∀ n ∈ nodes, made n = [] ∧ become n = n.outline) ∨ ∃ code,
      nodes.flatMap made = [⟨line', some (lead ++ Snippet.interpolation code)⟩] ∧
        nodes.map become = { head with rest := Snippet.interpolation code }.outline := by
  have hattributes : ∀ n ∈ (if head.hashes.isEmpty then [] else
      [(⟨line, .attributes head.hashes⟩ : Node)]), made n = [] ∧ become n = n.outline := by
    intro n hn
    have hbecomes := h n (by rw [hnodes]; exact List.mem_append_left _ hn)
    split at hn
    · cases hn
    · rw [List.mem_singleton] at hn
      subst hn
      exact hbecomes.of_attributes
  have htag := (h _ (by rw [hnodes]; exact List.mem_concat_self)).of_tag
  rw [hsource, Option.getD_some, Text.takeBytes?_append, Option.getD_some] at htag
  rcases htag with ⟨hmade, hbecome⟩ | ⟨code, hmade, hbecome⟩
  · refine .inl fun n hn => ?_
    rw [hnodes] at hn
    rcases List.mem_append.1 hn with hn | hn
    · exact hattributes n hn
    · rw [List.mem_singleton] at hn
      subst hn
      exact ⟨hmade, hbecome⟩
  · refine .inr ⟨code, ?_, ?_⟩
    · rw [hnodes, List.flatMap_append, List.flatMap_singleton, hmade,
        List.flatMap_eq_nil_iff.2 fun n hn => (hattributes n hn).1, List.nil_append]
    · rw [hnodes, List.map_append, List.map_singleton, hbecome,
        List.map_congr_left fun n hn => (hattributes n hn).2, TagLine.Head.outline,
        Snippet.trimEnd_interpolation]
      split <;> rfl

/-- A line of plain text, which is kept or becomes a line of code. -/
theorem reread_plain (hcontent : IsContent text)
    (hgathers : Gathers (Text.indentation text).length (Text.unindented text) [] rest)
    {p : PlainText} (hnodes : TemplateLine.nodes? line (Text.indentation text)
      (Text.unindented text) = some [⟨line, .plain p⟩])
    (hsource : sourceLines[line - 1]? = some text)
    (h : ∀ n ∈ [(⟨line, .plain p⟩ : Node)], l.Becomes file sourceLines n (made n) (become n)) :
    Reread [text] rest (applyEdits ([(⟨line, .plain p⟩ : Node)].flatMap made) line [text])
      ([(⟨line, .plain p⟩ : Node)].map become) := by
  have hplain := (h _ List.mem_cons_self).of_plain
  rw [hsource, Option.getD_some] at hplain
  rcases hplain with hkept | ⟨template, args, hmade, hbecome⟩
  · refine reread_of_kept hcontent hgathers ?_ ?_
    · rw [TemplateLine.gathered_nil, hnodes, Option.getD_some]
    · intro n hn
      rw [List.mem_singleton] at hn
      subst hn
      exact hkept
  · have hline : applyEdits [⟨line + [].length, some _⟩] line ([] ++ [text]) = _ :=
      applyEdits_singleton line [] text (Text.indentation text ++ ['!', '=', ' '] ++
        Snippet.lookup template args)
    rw [List.length_nil, Nat.add_zero, List.nil_append, List.nil_append] at hline
    rw [List.flatMap_singleton, List.map_singleton, hmade, hbecome, hline]
    exact Template.reread_lookup hcontent.blank template args

/-- A tag of one line, whose value is kept or becomes an interpolation. -/
theorem reread_tag_of_line {head : TagLine.Head} {w : Text} {nodes : List Node}
    (htag : TagLine.startsTag (Text.unindented text) = true)
    (hgathers : Gathers (Text.indentation text).length (Text.unindented text) [] rest)
    (hbody : Text.unindented text = w ++ head.rest)
    (hread : TagLine.read? (Text.unindented text) = some head)
    (hnodes : TemplateLine.nodes? line (Text.indentation text) (Text.unindented text) = some nodes)
    (hsource : sourceLines[line - 1]? = some text) (hfeed : '\n' ∉ text)
    (h : ∀ n ∈ nodes, l.Becomes file sourceLines n (made n) (become n)) :
    Reread [text] rest (applyEdits (nodes.flatMap made) line [text]) (nodes.map become) := by
  have htext : Text.indentation text ++ w ++ head.rest = text := by
    rw [List.append_assoc, ← hbody, Text.indentation_append_unindented]
  have hplain : ∀ t, t <:+: text → '\n' ∉ t := fun t ht hmem => hfeed (ht.subset hmem)
  have hlast : [Text.indentation text ++ Text.unindented text][0]? =
      some (Text.indentation text ++ w ++ head.rest) := by
    rw [Text.indentation_append_unindented, htext]
    rfl
  have hvalue := hgathers.nodes?_eq_of_last line (by rwa [TemplateLine.gathered_nil])
    (by rwa [TemplateLine.gathered_nil]) (hplain _ (List.takeWhile_prefix _).isInfix)
    (hplain _ (List.dropWhile_suffix _).isInfix) (by simp) hlast
  rw [TemplateLine.gathered_nil, hnodes, Option.some.injEq, List.length_nil, Nat.add_zero] at hvalue
  rw [← htext] at hsource
  rcases kept_or_value hvalue hsource h with hkept | ⟨code, hmade, hbecome⟩
  · refine reread_of_kept (Template.isContent_of_startsTag htag) hgathers ?_ hkept
    rw [TemplateLine.gathered_nil, hnodes, Option.getD_some]
  · have hedit : applyEdits _ line ([] ++ [text]) = _ := applyEdits_singleton line [] text
      (Text.indentation text ++ w ++ Snippet.interpolation code)
    rw [List.length_nil, Nat.add_zero, List.nil_append, List.nil_append] at hedit
    rw [hmade, hbecome, hedit]
    exact Template.reread_value_of_line htag hbody hread code

/-- A tag of several lines, whose value is kept or becomes an interpolation. -/
theorem reread_tag_of_block {head : TagLine.Head} {lead : Text} {nodes : List Node}
    (htag : TagLine.startsTag (Text.unindented text) = true)
    (hgathers : Gathers (Text.indentation text).length (Text.unindented text)
      (block ++ [lead ++ head.rest]) rest)
    (hlead : ∃ c ∈ lead, isBlank c = false)
    (hread : TagLine.read? (gathered (Text.unindented text) (block ++ [lead ++ head.rest])) =
      some head)
    (hnodes : TemplateLine.nodes? line (Text.indentation text)
      (gathered (Text.unindented text) (block ++ [lead ++ head.rest])) = some nodes)
    (hsource : sourceLines[line + (text :: block).length - 1]? = some (lead ++ head.rest))
    (hfeed : ∀ t ∈ text :: (block ++ [lead ++ head.rest]), '\n' ∉ t)
    (h : ∀ n ∈ nodes, l.Becomes file sourceLines n (made n) (become n)) :
    Reread (text :: (block ++ [lead ++ head.rest])) rest
      (applyEdits (nodes.flatMap made) line (text :: (block ++ [lead ++ head.rest])))
      (nodes.map become) := by
  have hplain : ∀ t, t <:+: text → '\n' ∉ t := fun t ht hmem =>
    hfeed text List.mem_cons_self (ht.subset hmem)
  have hlast : ((Text.indentation text ++ Text.unindented text) ::
      (block ++ [lead ++ head.rest]))[(block ++ [lead ++ head.rest]).length]? =
        some (lead ++ head.rest) := by simp
  have hvalue := hgathers.nodes?_eq_of_last line (TemplateLine.startsTag_gathered htag _) hread
    (hplain _ (List.takeWhile_prefix _).isInfix) (hplain _ (List.dropWhile_suffix _).isInfix)
    (fun t ht => hfeed t (List.mem_cons_of_mem text ht)) hlast
  have hlength : (block ++ [lead ++ head.rest]).length = (text :: block).length := by simp
  rw [hnodes, Option.some.injEq, hlength] at hvalue
  rcases kept_or_value hvalue hsource h with hkept | ⟨code, hmade, hbecome⟩
  · refine reread_of_kept (Template.isContent_of_startsTag htag) hgathers ?_ hkept
    rw [hnodes, Option.getD_some]
  · have hedit := applyEdits_singleton line (text :: block) (lead ++ head.rest)
      (lead ++ Snippet.interpolation code)
    rw [List.cons_append, List.cons_append] at hedit
    rw [hmade, hbecome, hedit]
    exact Template.reread_value_of_block htag hgathers hread hlead code

/-- A line some way down those from line `line` on. -/
theorem getElem?_of_drop_append {ls ms : List Text} (hline : 1 ≤ line)
    (h : sourceLines.drop (line - 1) = ls ++ text :: ms) :
    sourceLines[line + ls.length - 1]? = some text := by
  have hplace : line + ls.length - 1 = line - 1 + ls.length := by omega
  rw [hplace, ← List.getElem?_drop, h, List.getElem?_append_right (Nat.le_refl _),
    Nat.sub_self, List.getElem?_cons_zero]

/-- The lines that are gathered for a line body. -/
theorem reread_of_gathers (hcontent : IsContent text)
    (hgathers : Gathers (Text.indentation text).length (Text.unindented text) block rest)
    {nodes : List Node} (hnodes : nodes = (TemplateLine.nodes? line (Text.indentation text)
      (gathered (Text.unindented text) block)).getD [])
    (hline : 1 ≤ line) (hls : sourceLines.drop (line - 1) = text :: (block ++ rest))
    (hfeed : ∀ t ∈ text :: block, '\n' ∉ t)
    (h : ∀ n ∈ nodes, l.Becomes file sourceLines n (made n) (become n)) :
    Reread (text :: block) rest (applyEdits (nodes.flatMap made) line (text :: block))
      (nodes.map become) := by
  have hsource := (getElem?_and_drop_of_drop hline hls).1
  cases hread : TemplateLine.nodes? line (Text.indentation text)
      (gathered (Text.unindented text) block) with
  | none =>
      refine reread_of_kept hcontent hgathers hnodes ?_
      simp [hnodes, hread]
  | some found =>
      have heq := hnodes
      rw [hread, Option.getD_some] at heq
      subst heq
      cases htag : TagLine.startsTag (gathered (Text.unindented text) block) with
      | false =>
          obtain rfl := hgathers.eq_nil_of_startsTag_eq_false htag
          have hread' := hread
          rw [TemplateLine.gathered_nil] at htag hread'
          rcases TemplateLine.nodes?_of_not_startsTag hread' htag with
            rfl | ⟨code, silent, rfl⟩ | ⟨p, rfl, -⟩
          · exact reread_of_kept hcontent hgathers hnodes (by simp)
          · refine reread_of_kept hcontent hgathers hnodes ?_
            intro n hn
            have hscript := h n hn
            rw [List.mem_singleton] at hn
            subst hn
            exact hscript.of_script
          · exact reread_plain hcontent hgathers hread' hsource h
      | true =>
          have htag' : TagLine.startsTag (Text.unindented text) = true := by
            cases block with
            | nil => simpa using htag
            | cons l block => exact hgathers.isOpen_of_cons.1
          have hvalue := hread
          rw [TemplateLine.nodes?_of_startsTag htag] at hvalue
          obtain ⟨head, -, -, hhead, -⟩ := TagLine.nodes?_eq_some hvalue
          rcases hgathers.rest_cases hhead with ⟨rfl, w, hw⟩ | ⟨init, lead, rfl, hlead⟩
          · rw [TemplateLine.gathered_nil] at hhead hread
            exact reread_tag_of_line htag' hgathers hw hhead hread hsource
              (hfeed text List.mem_cons_self) h
          · have hdrop : sourceLines.drop (line - 1) =
                (text :: init) ++ (lead ++ head.rest) :: rest := by
              rw [hls]
              simp
            exact reread_tag_of_block htag' hgathers hlead hhead hread
              (getElem?_of_drop_append hline hdrop) hfeed h

/-- A filter, whose body may be edited. -/
theorem reread_filter {name : Text} (hblank : Text.isBlankLine text = false)
    (hcomment : Text.startsWith ['-', '#'] (Text.unindented text) = false)
    (hname : Template.filterName? (Text.unindented text) = some name)
    (hblock : IsBody (Text.indentation text).length block)
    (hrest : Template.nestedCount (Text.indentation text).length rest = 0)
    (hbody : sourceLines.drop line = block ++ rest) {es : List LineEdit} {o : Outline}
    (h : l.Becomes file sourceLines ⟨line, .filter (Template.filterOf name line block)⟩ es o) :
    Reread (text :: block) rest (applyEdits es line (text :: block)) [o] := by
  obtain ⟨hes, rfl⟩ := h.of_filter
  have hbelow : ∀ e ∈ es, line + [text].length ≤ e.line := by
    rcases hes with rfl | rfl
    · simp
    · exact fun e he => ((ordered_filterEdits (Nat.le_add_right line block.length)).extent e he).1
  have hbody' : IsBody (Text.indentation text).length (applyEdits es (line + 1) block) := by
    rcases hes with rfl | rfl
    · rwa [applyEdits_nil]
    · exact isBody_applyEdits_filterEdits hblock hbody
  have hlines : applyEdits ([] ++ es) line ([text] ++ block) = _ :=
    applyEdits_append_append (by simp) hbelow
  rw [List.nil_append, List.singleton_append, applyEdits_nil] at hlines
  rw [hlines]
  exact .of_filter hblank hcomment hname hbody' hrest

end Localizer

end Phrasebook
