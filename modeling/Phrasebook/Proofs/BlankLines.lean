import Phrasebook.Proofs.LineCount
import Phrasebook.Proofs.Rereading

/-!
Blank lines around the body of a filter.

The block of a filter ends with its last line that is not blank, the indentation taken off its
lines is that of the first, and the msgid starts with the first and ends with the last.  So
blank lines in front of the first or after the last one have no part in the msgid, whatever
characters they are made of and however far they are indented.
-/

namespace Phrasebook

/-! ### Collapsed texts -/

namespace Text

theorem trimEnd_of_trimmed {t : Text} (h : Trimmed t) : trimEnd t = t := by
  rw [trimEnd, dropEnd_eq_rdropWhile, List.rdropWhile_eq_self_iff]
  intro hne
  rw [h _ (List.getLast?_eq_some_getLast hne)]
  exact Bool.false_ne_true

theorem isBlankLine_eq_false_of_trimmed {t : Text} (h : Trimmed t) (hne : t ≠ []) :
    isBlankLine t = false := by
  have hlast := h _ (List.getLast?_eq_some_getLast hne)
  rw [isBlankLine, List.all_eq_false]
  exact ⟨t.getLast hne, List.getLast_mem hne, by simp [hlast]⟩

end Text

theorem trimmed_collapse (t : Text) : Text.Trimmed (collapse t) := by
  have htrimmed := Text.trimmed_trimEnd (Text.unlines (dropBlankLines (Text.pieces t)))
  unfold collapse
  generalize Text.trimEnd (Text.unlines (dropBlankLines (Text.pieces t))) = u at htrimmed ⊢
  rcases List.eq_nil_or_concat u with rfl | ⟨u, c, rfl⟩
  · simp [Text.Trimmed]
  · have hc : isBlank c = false := htrimmed c (by simp)
    have hfeed : c ≠ '\n' := by
      rintro rfl
      cases hc
    simpa [Text.Trimmed, hfeed] using hc

/-- A collapsed text has nothing more to lose. -/
theorem collapse_collapse (t : Text) : collapse (collapse t) = collapse t := by
  have htrimmed := trimmed_collapse t
  have hfeed := feed_not_mem_collapse t
  generalize collapse t = u at htrimmed hfeed ⊢
  by_cases hne : u = []
  · subst hne
    rfl
  · have hlines : dropBlankLines (Text.pieces u) = [u] := by
      rw [Text.pieces, Text.split_of_not_mem hfeed, dropBlankLines_eq_dropWhile,
        List.dropWhile_cons_of_neg (by simp [Text.isBlankLine_eq_false_of_trimmed htrimmed hne])]
    have hkeep : (u.flatMap fun c => if c = '\n' then ['\\', 'n'] else [c]) = u := by
      rw [List.flatMap_congr (g := fun c => [c])]
      · exact List.flatMap_singleton' u
      · intro c hc
        rw [if_neg]
        rintro rfl
        exact hfeed hc
    rw [collapse, hlines]
    exact (congrArg _ (Text.trimEnd_of_trimmed htrimmed)).trans hkeep

namespace Template

variable {lead core : List Text}

/-- Blank lines at the start of a body have no part in its msgid. -/
theorem msgid_filterOf_append (name : Text) (line : Nat)
    (hlead : ∀ l ∈ lead, Text.isBlankLine l = true) (hne : core ≠ [])
    (hfeed : ∀ l ∈ lead ++ core, '\n' ∉ l) :
    (filterOf name line (lead ++ core)).msgid = (filterOf name line core).msgid := by
  have hindent : (filterOf name line (lead ++ core)).indent = (filterOf name line core).indent := by
    have hnone : lead.find? (fun l => !Text.isBlankLine l) = none :=
      List.find?_eq_none.2 fun l hl => by simp [hlead l hl]
    simp [filterOf, hnone]
  have hblank : ∀ l ∈ lead.map (Text.outdent (filterOf name line core).indent),
      Text.isBlankLine l = true := by
    intro l hl
    obtain ⟨m, hm, rfl⟩ := List.mem_map.1 hl
    rw [Text.isBlankLine_outdent]
    exact hlead m hm
  have hlines : dropBlankLines (Text.pieces (filterOf name line (lead ++ core)).text) =
      dropBlankLines (Text.pieces (filterOf name line core).text) := by
    rw [pieces_text_filterOf name line (by simp [hne]) hfeed, pieces_text_filterOf name line hne
      fun l hl => hfeed l (List.mem_append_right lead hl), hindent, List.map_append,
      dropBlankLines_eq_dropWhile, dropBlankLines_eq_dropWhile, List.dropWhile_append_of_pos hblank]
  rw [Filter.msgid, Filter.msgid, collapse, collapse, hlines]

/-! ### Blocks -/

/-- Nor do they matter to what is nested. -/
theorem nestedCount_append_eq_zero_iff {n : Nat} {blanks rest : List Text}
    (h : ∀ l ∈ blanks, Text.isBlankLine l = true) :
    nestedCount n (blanks ++ rest) = 0 ↔ nestedCount n rest = 0 := by
  rw [nestedCount_eq_zero_iff, nestedCount_eq_zero_iff,
    List.takeWhile_append_of_pos fun l hl => isNested_of_isBlankLine (h l hl)]
  constructor
  · exact fun hall l hl => hall l (List.mem_append_right blanks hl)
  · intro hrest l hl
    exact (List.mem_append.1 hl).elim (h l) (hrest l)

theorem IsBody.append {n : Nat} (h : ∀ l ∈ lead, Text.isBlankLine l = true) (hcore : IsBody n core)
    (hne : core ≠ []) : IsBody n (lead ++ core) where
  nested := by
    intro l hl
    exact (List.mem_append.1 hl).elim (fun hl => isNested_of_isBlankLine (h l hl)) (hcore.nested l)
  last := by
    rw [List.getLast?_append_of_ne_nil _ hne]
    exact hcore.last

/-! ### Headers -/

/-- A line that starts a filter. -/
structure StartsFilter (header name : Text) : Prop where
  notBlank : ¬ Text.isBlankLine header = true
  noComment : Text.afterLead? ['-', '#'] (Text.unindented header) = none
  name_eq : filterName? (Text.unindented header) = some name

/-- Among the items of `ls` from line `line` on is the filter `f` on line `m`, and what is above
its header is read as it is whatever comes after the header. -/
def ReachesFilter (line : Nat) (ls : List Text) (m : Nat) (f : Filter) : Prop :=
  ∃ front header name later is, ls = front ++ header :: later ∧ m = line + front.length ∧
    StartsFilter header name ∧
    f = filterOf name m (later.take (nestedCount (Text.indentation header).length later)) ∧
    ∀ later', items line (front ++ header :: later') = is ++ items m (header :: later')

theorem Fits.append_cons {header : Text} (h : Text.isBlankLine header = false) (front : List Text)
    (later later' : List Text) : Fits (front ++ header :: later) (front ++ header :: later') := by
  induction front with
  | nil => exact .line h .rfl
  | cons t front ih =>
      cases ht : Text.isBlankLine t with
      | true => exact .blank ht ih
      | false => exact .line ht .rfl

section Items

variable {line k m : Nat} {text : Text} {later : List Text} {f : Filter} {is : List Item}

/-- A filter is still there if an item is read above it which takes the same lines before
other lines that fit. -/
theorem ReachesFilter.cons (hk : k ≤ later.length)
    (hitem : ∀ rest, Fits (later.drop k) rest →
      items line (text :: (later.take k ++ rest)) = is ++ items (line + 1 + k) rest)
    (h : ReachesFilter (line + 1 + k) (later.drop k) m f) :
    ReachesFilter line (text :: later) m f := by
  obtain ⟨front, header, name, below, above, hls, hm, hheader, hf, hread⟩ := h
  refine ⟨text :: (later.take k ++ front), header, name, below, is ++ above, ?_, ?_, hheader, hf, ?_⟩
  · rw [List.cons_append, List.append_assoc, ← hls, List.take_append_drop]
  · rw [hm, List.length_cons, List.length_append, List.length_take_of_le hk]
    omega
  · intro below'
    have hfits := Fits.append_cons (by simpa using hheader.notBlank) front below below'
    rw [← hls] at hfits
    rw [List.cons_append, List.append_assoc, hitem _ hfits, hread, List.append_assoc]

/-- Only the header of a filter gives a filter. -/
theorem not_mem_filter_of_gather {nodes : List Node} {indent body : Text}
    (h : TemplateLine.gather line indent body later = (nodes, k)) (hindent : '\n' ∉ indent)
    (hbody : '\n' ∉ body) (hlater : ∀ l ∈ later, '\n' ∉ l) :
    (⟨m, .filter f⟩ : Node) ∉ nodes := by
  rcases TemplateLine.gather_cases h hindent hbody hlater with
    rfl | ⟨code, silent, rfl⟩ | ⟨p, rfl, -⟩ | ⟨tag, i, -, -, rfl | ⟨hashes, rfl⟩⟩ <;> simp

/-- Nested lines are the same whatever fits in the place of the lines after them. -/
theorem nestedCount_take_append {n : Nat} {rest : List Text}
    (h : Fits (later.drop (nestedCount n later)) rest) :
    nestedCount n (later.take (nestedCount n later) ++ rest) = nestedCount n later := by
  rw [(isBody_take n later).nestedCount_append (h.nestedCount_eq_zero (nestedCount_drop n later)),
    List.length_take_of_le (nestedCount_le n later)]

theorem reachesFilter_of_mem_items {ls : List Text} (hfeed : ∀ l ∈ ls, '\n' ∉ l)
    (h : .node ⟨m, .filter f⟩ ∈ items line ls) : ReachesFilter line ls m f := by
  -- The lines after the `k` that an item takes are those that come after these.
  have hdrop {k : Nat} {later rest : List Text} (hk : k ≤ later.length) :
      (later.take k ++ rest).drop k = rest :=
    List.drop_left' (List.length_take_of_le hk)
  fun_induction items line ls with
  | case1 line => cases h
  | case2 line text later hblank ih =>
      have hitem (rest : List Text) (_ : Fits (later.drop 0) rest) :
          items line (text :: (later.take 0 ++ rest)) = [] ++ items (line + 1 + 0) rest :=
        items_of_isBlankLine hblank
      exact .cons (Nat.zero_le _) hitem (ih (forall_mem_drop_of_cons hfeed 0) h)
  | case3 line text later hblank indent body comment hcomment k ih =>
      have hk : k ≤ later.length := nestedCount_le _ _
      have hitem (rest : List Text) (hfits : Fits (later.drop k) rest) :
          items line (text :: (later.take k ++ rest)) =
            [.comment line comment] ++ items (line + 1 + k) rest := by
        rw [items_of_comment hblank hcomment (nestedCount_take_append hfits), hdrop hk]
        rfl
      rcases List.mem_cons.1 h with heq | h
      · cases heq
      · exact .cons hk hitem (ih (forall_mem_drop_of_cons hfeed k) h)
  | case4 line text later hblank indent body hcomment name hname k ih =>
      have hk : k ≤ later.length := nestedCount_le _ _
      have hitem (rest : List Text) (hfits : Fits (later.drop k) rest) :
          items line (text :: (later.take k ++ rest)) =
            [.node ⟨line, .filter (filterOf name line (later.take k))⟩] ++
              items (line + 1 + k) rest := by
        rw [items_of_filter hblank hcomment hname (nestedCount_take_append hfits), hdrop hk,
          List.take_left' (List.length_take_of_le hk)]
        rfl
      rcases List.mem_cons.1 h with heq | h
      · cases heq
        exact ⟨[], text, name, later, [], rfl, rfl, ⟨hblank, hcomment, hname⟩, rfl, fun _ => rfl⟩
      · exact .cons hk hitem (ih (forall_mem_drop_of_cons hfeed k) h)
  | case5 line text later hblank indent body hcomment hname nodes k hgather ih =>
      obtain ⟨hk, hgathers, hnodes⟩ := TemplateLine.gathers_of_gather hgather
      have hitem (rest : List Text) (hfits : Fits (later.drop k) rest) :
          items line (text :: (later.take k ++ rest)) =
            nodes.map .node ++ items (line + 1 + k) rest := by
        have hsame : TemplateLine.gather line indent body (later.take k ++ rest) = (nodes, k) := by
          rw [TemplateLine.gather_append (hgathers.of_fits hfits), ← hnodes,
            List.length_take_of_le hk]
        rw [items_of_gather hblank hcomment hname hsame, hdrop hk]
      have htext := hfeed text List.mem_cons_self
      have hnone : (⟨m, .filter f⟩ : Node) ∉ nodes :=
        not_mem_filter_of_gather hgather (fun hmem => htext ((List.takeWhile_prefix _).subset hmem))
          (fun hmem => htext ((List.dropWhile_suffix _).subset hmem))
          fun l hl => hfeed l (List.mem_cons_of_mem text hl)
      rcases List.mem_append.1 h with h | h
      · obtain ⟨n, hn, heq⟩ := List.mem_map.1 h
        cases heq
        exact absurd hn hnone
      · exact .cons hk hitem (ih (forall_mem_drop_of_cons hfeed k) h)

end Items

/-! ### Filters between blank lines -/

/-- The header of `f` is on line `line` of `ls`.  Blank lines `lead` come directly after it and
blank lines `trail` directly after the last line of the block, and `core` is the rest of the
block. -/
structure Framed (ls : List Text) (line : Nat) (f : Filter) (front : List Text) (header : Text)
    (lead core trail after : List Text) : Prop where
  lines_eq : ls = front ++ header :: (lead ++ core ++ trail ++ after)
  line_eq : line = front.length + 1
  endLine_eq : f.endLine = line + (lead ++ core).length
  blank : ∀ l ∈ lead ++ trail, Text.isBlankLine l = true

/-- The block of a filter is its body up to the last line that is not blank. -/
theorem StartsFilter.items_eq {header name : Text} (h : StartsFilter header name)
    {trail after : List Text} (hblank : ∀ l ∈ lead ++ trail, Text.isBlankLine l = true)
    (hcore : IsBody (Text.indentation header).length core) (hne : core ≠ [])
    (hafter : nestedCount (Text.indentation header).length after = 0) (line : Nat) :
    items line (header :: (lead ++ core ++ trail ++ after)) =
      .node ⟨line, .filter (filterOf name line (lead ++ core))⟩ ::
        items (line + 1 + (lead ++ core).length) (trail ++ after) := by
  have hrest := (nestedCount_append_eq_zero_iff fun l hl =>
    hblank l (List.mem_append_right lead hl)).2 hafter
  have hbody := hcore.append (fun l hl => hblank l (List.mem_append_left trail hl)) hne
  rw [List.append_assoc _ trail after,
    items_of_filter h.notBlank h.noComment h.name_eq (hbody.nestedCount_append hrest),
    List.take_left, List.drop_left]

theorem feed_not_mem_of_lines_eq {source header : Text} {front later : List Text}
    (h : Text.lines source = front ++ header :: later) : ∀ l ∈ later, '\n' ∉ l := by
  intro l hl
  have hmem : l ∈ Text.lines source := by
    rw [h]
    exact List.mem_append_right front (List.mem_cons_of_mem header hl)
  exact Text.not_mem_of_mem_lines hmem

/-- A text that is not blank comes from a line that is not. -/
theorem exists_line_of_mem_pieces {name : Text} {line : Nat} {body : List Text}
    (hfeed : ∀ l ∈ body, '\n' ∉ l)
    (h : ∃ l ∈ Text.pieces (filterOf name line body).text, Text.isBlankLine l = false) :
    ∃ l ∈ body, Text.isBlankLine l = false := by
  obtain ⟨l, hl, hblank⟩ := h
  by_cases hne : body = []
  · subst hne
    obtain rfl : l = [] := List.mem_singleton.1 hl
    cases hblank
  · rw [pieces_text_filterOf name line hne hfeed] at hl
    obtain ⟨m, hm, rfl⟩ := List.mem_map.1 hl
    exact ⟨m, hm, by rwa [Text.isBlankLine_outdent] at hblank⟩

/-- The block of a filter has the blank lines before it in its body, and with others in their
place the filter is the same part of the template. -/
theorem Framed.exists_nodes {source name : Text} {line : Nat} {f : Filter} {header : Text}
    {front trail after : List Text}
    (h : Framed (Text.lines source) line f front header lead core trail after)
    (hf : ⟨line, .filter f⟩ ∈ (parse source name).nodes)
    (hbody : ∃ l ∈ Text.pieces f.text, Text.isBlankLine l = false) :
    ∃ kind above, f = filterOf kind line (lead ++ core) ∧ core ≠ [] ∧
      ∀ source' lead' trail', (∀ l ∈ lead' ++ trail', Text.isBlankLine l = true) →
        Text.lines source' = front ++ header :: (lead' ++ core ++ trail' ++ after) →
        ∃ below, (parse source' name).nodes =
          above ++ ⟨line, .filter (filterOf kind line (lead' ++ core))⟩ :: below := by
  obtain ⟨front', header', kind, later, is, hlines, hline, hheader, rfl, hread⟩ :=
    reachesFilter_of_mem_items (fun _ => Text.not_mem_of_mem_lines) (mem_items_of_mem_parse hf)
  have hfeed := feed_not_mem_of_lines_eq hlines
  -- The header is told by its line, and its block by where that ends.
  obtain ⟨rfl, hrest⟩ := List.append_inj (hlines.symm.trans h.lines_eq)
    (by have := h.line_eq; omega)
  obtain ⟨rfl, rfl⟩ := List.cons.inj hrest
  have hcount : nestedCount (Text.indentation header').length
      (lead ++ core ++ trail ++ after) = (lead ++ core).length := by
    have hend := h.endLine_eq
    simp only [filterOf, List.length_take_of_le (nestedCount_le _ _)] at hend
    omega
  have hblock := isBody_take (Text.indentation header').length (lead ++ core ++ trail ++ after)
  have hnone := nestedCount_drop (Text.indentation header').length
    (lead ++ core ++ trail ++ after)
  have hinside := exists_line_of_mem_pieces (fun l hl => hfeed l (List.mem_of_mem_take hl)) hbody
  rw [hcount, List.append_assoc _ trail, List.take_left] at hblock hinside
  rw [hcount, List.append_assoc _ trail, List.drop_left, nestedCount_append_eq_zero_iff
    fun l hl => h.blank l (List.mem_append_right lead hl)] at hnone
  have hne : core ≠ [] := by
    rintro rfl
    obtain ⟨l, hl, hblank⟩ := hinside
    rw [h.blank l (List.mem_append_left trail (by simpa using hl))] at hblank
    cases hblank
  have hcore : IsBody (Text.indentation header').length core := by
    refine ⟨fun l hl => hblock.nested l (List.mem_append_right lead hl), ?_⟩
    rw [← List.getLast?_append_of_ne_nil lead hne]
    exact hblock.last
  refine ⟨kind, is.filterMap Item.node?, ?_, hne, ?_⟩
  · rw [hcount, List.append_assoc _ trail, List.take_left]
  · intro source' lead' trail' hblank' hlines'
    refine ⟨(items (line + 1 + (lead' ++ core).length) (trail' ++ after)).filterMap Item.node?, ?_⟩
    change (items 1 (Text.lines source')).filterMap Item.node? = _
    rw [hlines', hread, hheader.items_eq hblank' hcore hne hnone, List.filterMap_append]
    rfl

theorem msgid_ne_nil_of_mem_parse {source name : Text} {line : Nat} {f : Filter}
    (hf : ⟨line, .filter f⟩ ∈ (parse source name).nodes)
    (hbody : ∃ l ∈ Text.pieces f.text, Text.isBlankLine l = false) : f.msgid ≠ [] := by
  cases parsed_of_mem_parse hf with
  | @filter _ kind body later hlines hlast =>
      have hfeed : ∀ l ∈ body, '\n' ∉ l := fun l hl =>
        Text.not_mem_of_mem_lines (mem_of_mem_body hlines hl)
      obtain ⟨l, hl, -⟩ := exists_line_of_mem_pieces hfeed hbody
      rw [Ne, msgid_filterOf_eq_nil_iff kind line hfeed hlast]
      exact List.ne_nil_of_mem hl

/-- Blank lines may come and go directly after the header of a markdown filter and directly
after the last line of its body that is not blank: it keeps its place in the template and its
msgid.  That is not empty, is one line, does not end in a blank character, and is collapsed
for good. -/
theorem msgid_of_blank_lines {source name : Text} {line : Nat} {f : Filter}
    (hf : ⟨line, .filter f⟩ ∈ (parse source name).nodes) (hkind : f.kind = .markdown)
    (hbody : ∃ l ∈ Text.pieces f.text, Text.isBlankLine l = false) :
    (∀ front header lead core trail after,
      Framed (Text.lines source) line f front header lead core trail after →
      ∀ source' lead' trail', (∀ l ∈ lead' ++ trail', Text.isBlankLine l = true) →
        Text.lines source' = front ++ header :: (lead' ++ core ++ trail' ++ after) →
        ∃ f' above below below', (parse source name).nodes = above ++ ⟨line, .filter f⟩ :: below ∧
          (parse source' name).nodes = above ++ ⟨line, .filter f'⟩ :: below' ∧
          f'.kind = .markdown ∧ f'.msgid = f.msgid) ∧
      f.msgid ≠ [] ∧ '\n' ∉ f.msgid ∧ Text.Trimmed f.msgid ∧ collapse f.msgid = f.msgid := by
  refine ⟨?_, msgid_ne_nil_of_mem_parse hf hbody, feed_not_mem_collapse f.text,
    trimmed_collapse f.text, collapse_collapse f.text⟩
  intro front header lead core trail after hframed source' lead' trail' hblank' hlines'
  obtain ⟨kind, above, rfl, hne, hnodes⟩ := hframed.exists_nodes hf hbody
  obtain ⟨below, hbelow⟩ := hnodes source lead trail hframed.blank hframed.lines_eq
  obtain ⟨below', hbelow'⟩ := hnodes source' lead' trail' hblank' hlines'
  have hmsgid {source : Text} {lead trail : List Text}
      (hblank : ∀ l ∈ lead ++ trail, Text.isBlankLine l = true)
      (hlines : Text.lines source = front ++ header :: (lead ++ core ++ trail ++ after)) :
      (filterOf kind line (lead ++ core)).msgid = (filterOf kind line core).msgid := by
    have hfeed := feed_not_mem_of_lines_eq hlines
    exact msgid_filterOf_append kind line (fun l hl => hblank l (List.mem_append_left trail hl))
      hne fun l hl => hfeed l (List.mem_append_left after (List.mem_append_left trail hl))
  refine ⟨_, above, below, below', hbelow, hbelow', hkind, ?_⟩
  rw [hmsgid hblank' hlines', hmsgid hframed.blank hframed.lines_eq]

/-- Two lines become one that is indented further and has another kind of space, and one line
becomes two. -/
theorem msgid_of_blank_lines_wide :
    let source := "Hi\n:markdown\n\n   \t\n    a *b*\n\n  c\n \nBye\n".toList
    let source' := "Hi\n:markdown\n        \u3000\n    a *b*\n\n  c\n\n        \nBye\n".toList
    let f : Filter := ⟨.markdown, "\n\na *b*\n\nc".toList, "    ".toList, 7⟩
    ⟨2, .filter f⟩ ∈ (parse source []).nodes ∧ f.kind = .markdown ∧
      (∃ l ∈ Text.pieces f.text, Text.isBlankLine l = false) ∧
      Framed (Text.lines source) 2 f ["Hi".toList] ":markdown".toList ["".toList, "   \t".toList]
        ["    a *b*".toList, "".toList, "  c".toList] [" ".toList] ["Bye".toList] ∧
      f.msgid = "a *b*\\n\\nc".toList ∧
      ∃ f' above below below', (parse source []).nodes = above ++ ⟨2, .filter f⟩ :: below ∧
        (parse source' []).nodes = above ++ ⟨2, .filter f'⟩ :: below' ∧
        f'.kind = .markdown ∧ f'.msgid = f.msgid := by
  intro source source' f
  have hf : ⟨2, .filter f⟩ ∈ (parse source []).nodes := by decide +kernel
  have hbody : ∃ l ∈ Text.pieces f.text, Text.isBlankLine l = false := by decide +kernel
  have hframed : Framed (Text.lines source) 2 f ["Hi".toList] ":markdown".toList
      ["".toList, "   \t".toList] ["    a *b*".toList, "".toList, "  c".toList] [" ".toList]
      ["Bye".toList] :=
    ⟨by decide +kernel, rfl, rfl, by decide +kernel⟩
  refine ⟨hf, rfl, hbody, hframed, by decide +kernel, ?_⟩
  exact (msgid_of_blank_lines hf rfl hbody).1 _ _ _ _ _ _ hframed source'
    ["        \u3000".toList] ["".toList, "        ".toList] (by decide +kernel) (by decide +kernel)

end Template

end Phrasebook
