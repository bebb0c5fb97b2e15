import Phrasebook.Proofs.Spreading
import Phrasebook.Proofs.Tokens

/-!
The places of text and values are exact.

The offset of a node is a byte offset at which its line can be cut.  What follows there is
the text of the node and blank characters, and the column counts the characters before it.
A tag stands on the last of the lines that it takes, which are as few as close its
attribute groups, so its value has no line feed in it.
-/

namespace Phrasebook

namespace Text

/-- A text of one line is found on the line `l` at a byte offset and in a column. -/
structure FoundAt (l t : Text) (offset column : Nat) : Prop where
  offset_le : offset ≤ utf8Size l
  /-- It comes after the offset, and only blank characters follow it. -/
  rest : ∃ blanks, dropBytes? l offset = some (t ++ blanks) ∧ isBlankLine blanks = true
  /-- What comes before the offset reaches up to the column, which counts from one. -/
  front : ∃ lead, takeBytes? l offset = some lead ∧ column = 1 + lead.length
  oneLine : '\n' ∉ t

theorem StandsOn.foundAt {l t : Text} {offset column : Nat} (h : StandsOn l t offset column)
    (hfeed : '\n' ∉ t) : FoundAt l t offset column := by
  obtain ⟨lead, blanks, rfl, hblanks, rfl, rfl⟩ := h
  rw [List.append_assoc]
  constructor
  · rw [utf8Size_append]
    exact Nat.le_add_right _ _
  · exact ⟨blanks, dropBytes?_append lead _, hblanks⟩
  · exact ⟨lead, takeBytes?_append lead _, Nat.add_comm _ _⟩
  · exact hfeed

end Text

/-! ### Lines of a tag -/

/-- A tag is read from the lines from `first` to `last`, and from no fewer of them: with
the last of them all its groups are closed, and without it one is open. -/
def TagLine.TakesLines (sourceLines : List Text) (first last : Nat) (head : Head) : Prop :=
  ∃ text block later, sourceLines.drop (first - 1) = text :: (block ++ later) ∧
    last = first + block.length ∧ startsTag (Text.unindented text) = true ∧
    read? (Text.unlines (Text.unindented text :: block)) = some head ∧
    ∀ ls, ls <+: block → ls.length < block.length →
      read? (Text.unlines (Text.unindented text :: ls)) = none

namespace TemplateLine

variable {line m : Nat} {indent body : Text} {block rest : List Text} {nodes : List Node}
  {t : Tag}

theorem tag_not_mem_of_startsTag_eq_false (h : nodes? line indent body = some nodes)
    (htag : TagLine.startsTag body = false) : (⟨m, .tag t⟩ : Node) ∉ nodes := by
  rcases nodes?_of_not_startsTag h htag with rfl | ⟨code, silent, rfl⟩ | ⟨p, rfl, -⟩
  · exact List.not_mem_nil
  · simp
  · simp

/-- The tag among the nodes of gathered lines stands on the last of them. -/
theorem Gathers.exists_head (h : Gathers indent.length body block rest)
    (hnodes : nodes? line indent (gathered body block) = some nodes) (hindent : '\n' ∉ indent)
    (hbody : '\n' ∉ body) (hblock : ∀ l ∈ block, '\n' ∉ l) (ht : ⟨m, .tag t⟩ ∈ nodes) :
    m = line + block.length ∧ TagLine.startsTag body = true ∧
      ∃ head, TagLine.read? (gathered body block) = some head ∧ t.name = head.name ∧
        t.action = head.action ∧ t.value = Text.trimEnd head.rest := by
  cases htag : TagLine.startsTag (gathered body block) with
  | false => exact absurd ht (tag_not_mem_of_startsTag_eq_false hnodes htag)
  | true =>
      have hread := hnodes
      rw [nodes?_of_startsTag htag] at hread
      obtain ⟨head, -, -, hhead, -⟩ := TagLine.nodes?_eq_some hread
      obtain ⟨lead, -, heq⟩ := h.nodes?_eq line htag hhead hindent hbody hblock
      obtain rfl := Option.some.inj (hnodes.symm.trans heq)
      have hlast : (⟨m, .tag t⟩ : Node) = ⟨line + block.length, .tag ⟨head.name, head.action,
          Text.trimEnd head.rest, Text.utf8Size lead, lead.length + 1⟩⟩ := by
        rcases List.mem_append.1 ht with ht | ht
        · split at ht
          · cases ht
          · cases List.mem_singleton.1 ht
        · exact List.mem_singleton.1 ht
      cases hlast
      exact ⟨rfl, startsTag_of_gathered htag, head, hhead, rfl, rfl, rfl⟩

end TemplateLine

/-! ### Nodes of a template -/

/-- A node stands where it says: its text, if it has any that is localized as a phrase, is
found on its line, and a tag takes the lines down to that one. -/
def Node.Placed (sourceLines : List Text) (n : Node) : Prop :=
  match n.kind with
  | .plain p => ∃ l, 1 ≤ n.line ∧ sourceLines[n.line - 1]? = some l ∧
      Text.FoundAt l p.text p.offset p.column
  | .tag t => (∃ l, 1 ≤ n.line ∧ sourceLines[n.line - 1]? = some l ∧
        Text.FoundAt l t.value t.offset t.column) ∧
      ∃ first head, 1 ≤ first ∧ first ≤ n.line ∧
        TagLine.TakesLines sourceLines first n.line head ∧
        t.name = head.name ∧ t.action = head.action ∧ t.value = Text.trimEnd head.rest
  | .attributes _ | .script _ _ | .filter _ => True

namespace Template

variable {sourceLines : List Text} {m : Nat} {t : Tag}

theorem Origin.takesLines (h : Origin sourceLines ⟨m, .tag t⟩)
    (hfeed : ∀ l ∈ sourceLines, '\n' ∉ l) :
    ∃ first head, 1 ≤ first ∧ first ≤ m ∧ TagLine.TakesLines sourceLines first m head ∧
      t.name = head.name ∧ t.action = head.action ∧ t.value = Text.trimEnd head.rest := by
  cases h with
  | @gathered first k text later nodes n hfirst hlines hgather ht =>
      have hfeed' : ∀ l ∈ text :: later, '\n' ∉ l := fun l hl =>
        hfeed l (List.mem_of_mem_drop (hlines ▸ hl))
      obtain ⟨hk, hgathers, hnodes⟩ := TemplateLine.gathers_of_gather hgather
      obtain ⟨found, hread, rfl⟩ := exists_of_mem_getD hnodes ht
      have htext := hfeed' text List.mem_cons_self
      obtain ⟨rfl, hstarts, head, hhead, htag⟩ := hgathers.exists_head hread
        (fun hmem => htext ((List.takeWhile_prefix _).subset hmem))
        (fun hmem => htext ((List.dropWhile_suffix _).subset hmem))
        (fun l hl => hfeed' l (List.mem_cons_of_mem text (List.mem_of_mem_take hl))) ht
      refine ⟨first, head, hfirst, Nat.le_add_right _ _, ?_, htag⟩
      refine ⟨text, later.take k, later.drop k, ?_, rfl, hstarts, ?_, ?_⟩
      · rw [hlines, List.take_append_drop]
      · rwa [← TemplateLine.gathered_eq_unlines]
      · intro ls hls hlength
        rw [← TemplateLine.gathered_eq_unlines]
        exact (hgathers.opened ls hls hlength).2

/-- Offsets and columns are exact, for text behind any mark and for the values of tags,
also of those that take several lines. -/
theorem placed_of_mem_parse (source name : Text) :
    ∀ n ∈ (parse source name).nodes, n.Placed (Text.lines source) := by
  intro n hn
  have hline := (extent_of_mem_parse hn).1
  obtain ⟨l, hl, hstands⟩ := standsOn_of_mem_parse hn
  have hfeed := oneLine_of_mem_parse hn
  obtain ⟨line, kind⟩ := n
  cases kind with
  | plain p => exact ⟨l, hline, hl, Text.StandsOn.foundAt hstands hfeed⟩
  | tag t =>
      refine ⟨⟨l, hline, hl, Text.StandsOn.foundAt hstands hfeed⟩, ?_⟩
      exact (origin_of_mem_parse hn).takesLines fun _ => Text.not_mem_of_mem_lines
  | attributes hashes => trivial
  | script code silent => trivial
  | filter f => trivial

/-- Text behind a backslash, and a tag that takes three lines and has its value behind a
character of two bytes. -/
theorem placed_of_mem_parse_lines :
    let source := "  \\ é #\x7bx\x7d\t\n%p\x7ba: 'é',\n  b: 1\x7d(c\n é)>~ wé z \n".toList
    let plain : Node := ⟨1, .plain ⟨"é #\x7bx\x7d".toList, none, 4, 5⟩⟩
    let tag : Node := ⟨4, .tag ⟨['p'], some .preserve, "wé z".toList, 7, 7⟩⟩
    plain ∈ (parse source []).nodes ∧ plain.Placed (Text.lines source) ∧
      tag ∈ (parse source []).nodes ∧ tag.Placed (Text.lines source) := by
  intro source plain tag
  have hplain : plain ∈ (parse source []).nodes := by decide +kernel
  have htag : tag ∈ (parse source []).nodes := by decide +kernel
  exact ⟨hplain, placed_of_mem_parse source [] plain hplain, htag,
    placed_of_mem_parse source [] tag htag⟩

end Template

end Phrasebook
