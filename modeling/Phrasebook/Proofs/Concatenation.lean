import Phrasebook.Proofs.Extents
import Phrasebook.Proofs.LineFeeds

/-!
Templates put one below the other.

What takes the lines below it, a comment, a filter or a tag with an open group, stops
at a line at the margin.  So a template that starts there is read on its own, whatever
stands above it, and its parts are only further down.
-/

namespace Phrasebook

/-! ### Lines -/

/-- Whole lines can be put before a text. -/
theorem Text.lines_append {s : Text} (h : s = [] ∨ endsLine s = true) (t : Text) :
    lines (s ++ t) = lines s ++ lines t := by
  have hrest (c : Char) {s : Text} (hc : c :: s = [] ∨ endsLine (c :: s) = true) (hs : s ≠ []) :
      s = [] ∨ endsLine s = true := by
    rw [endsLine_cons_of_ne_nil c hs] at hc
    exact .inr (hc.resolve_left (List.cons_ne_nil c s))
  have hfeed {s : Text} (hs : '\n' :: s = [] ∨ endsLine ('\n' :: s) = true) :
      s = [] ∨ endsLine s = true := by
    cases s with
    | nil => exact .inl rfl
    | cons d s => exact hrest '\n' hs (List.cons_ne_nil d s)
  fun_induction lines s with
  | case1 => rfl
  | case2 s ih => rw [List.cons_append, lines, ih (hfeed h), List.cons_append]
  | case3 s ih =>
      have hs := hrest '\r' h (List.cons_ne_nil '\n' s)
      rw [List.cons_append, List.cons_append, lines, ih (hfeed hs), List.cons_append]
  | case4 c s hc hreturn hnil ih =>
      -- Only the empty text has no lines, and one character that is no feed ends none.
      obtain rfl := lines_eq_nil_iff.1 hnil
      rcases h with h | h
      · cases h
      · have heq : c = '\n' := by simpa [endsLine] using h
        exact absurd heq hc
  | case5 c s hc hreturn l ls hlines ih =>
      have hs : s ≠ [] := by
        rintro rfl
        cases hlines
      have hlines' : lines (s ++ t) = l :: (ls ++ lines t) := by
        rw [ih (hrest c h hs), hlines, List.cons_append]
      rw [List.cons_append, lines, hlines']
      · rfl
      · exact hc
      · intro u hc' hu
        obtain ⟨d, v, rfl⟩ := List.exists_cons_of_ne_nil hs
        obtain ⟨rfl, -⟩ := List.cons.inj hu
        exact hreturn v hc' rfl

/-- A line that nothing above it takes: it is not blank, not indented and does not
start with a closer. -/
structure Text.AtMargin (l : Text) : Prop where
  notBlank : isBlankLine l = false
  first : ∀ c ∈ l.head?, isIndent c = false ∧ c ≠ '}' ∧ c ≠ ')' ∧ c ≠ ']'

namespace Text.AtMargin

variable {l : Text}

theorem exists_cons (h : AtMargin l) : ∃ c t, l = c :: t ∧ isIndent c = false ∧
    c ≠ '}' ∧ c ≠ ')' ∧ c ≠ ']' := by
  cases l with
  | nil => exact absurd h.notBlank (by decide)
  | cons c t => exact ⟨c, t, rfl, h.first c rfl⟩

theorem isNested (h : AtMargin l) (n : Nat) : Template.isNested n l = false := by
  obtain ⟨c, t, rfl, hc, -⟩ := h.exists_cons
  simp [Template.isNested, h.notBlank, Text.indentation, hc]

theorem continuesGroup (h : AtMargin l) (n : Nat) : TemplateLine.continuesGroup n l = false := by
  obtain ⟨c, t, rfl, hc, hcloser⟩ := h.exists_cons
  simp [TemplateLine.continuesGroup, h.notBlank, Text.indentation, Text.unindented, hc, hcloser]

end Text.AtMargin

/-! ### The part above -/

/-- Lines that cannot continue a group are not gathered for one. -/
theorem TemplateLine.gather_append_of_head? {later rest : List Text} (line : Nat)
    (indent body : Text) (h : ∀ l ∈ rest.head?, continuesGroup indent.length l = false) :
    gather line indent body (later ++ rest) = gather line indent body later := by
  induction later generalizing body with
  | nil =>
      cases rest with
      | nil => rfl
      | cons l rest =>
          rw [List.nil_append, gather, gather, h l rfl]
          cases nodes? line indent body <;> rfl
  | cons next later ih => rw [List.cons_append, gather, gather, ih]

namespace Template

variable {ls rest later : List Text}

/-- Lines that are not nested below a line have no part in its block. -/
theorem nestedCount_append_of_head? {n : Nat} (h : ∀ l ∈ rest.head?, isNested n l = false) :
    nestedCount n (later ++ rest) = nestedCount n later := by
  have hrest : rest.takeWhile (isNested n) = [] := by
    cases rest with
    | nil => rfl
    | cons l rest => rw [List.takeWhile_cons_of_neg (by simp [h l rfl])]
  have htake : (later ++ rest).takeWhile (isNested n) = later.takeWhile (isNested n) := by
    rw [List.takeWhile_append, hrest, List.append_nil]
    split
    · rename_i hall
      exact ((List.takeWhile_prefix _).eq_of_length hall).symm
    · rfl
  rw [nestedCount, nestedCount, htake]

/-- Items do not reach beyond a line at the margin. -/
theorem items_append (line : Nat) (h : ∀ l ∈ rest.head?, Text.AtMargin l) :
    items line (ls ++ rest) = items line ls ++ items (line + ls.length) rest := by
  have hnested (n : Nat) : ∀ l ∈ rest.head?, isNested n l = false := fun l hl =>
    (h l hl).isNested n
  -- The items after the `k` lines that one takes start where the lines from there do.
  have hplace {text : Text} {later : List Text} {line k : Nat} (hk : k ≤ later.length) :
      line + 1 + k + (later.drop k).length = line + (text :: later).length := by
    rw [List.length_drop, List.length_cons]
    omega
  fun_induction items line ls with
  | case1 line => rfl
  | case2 line text later hblank ih =>
      rw [List.cons_append, items_of_isBlankLine hblank, ih, ← hplace (Nat.zero_le later.length)]
      rfl
  | case3 line text later hblank indent body comment hcomment k ih =>
      have hk : k ≤ later.length := nestedCount_le _ _
      have hcount : nestedCount indent.length (later ++ rest) = k :=
        nestedCount_append_of_head? (hnested _)
      rw [List.cons_append, items_of_comment hblank hcomment hcount,
        List.drop_append_of_le_length hk, ih, hplace hk, List.cons_append]
  | case4 line text later hblank indent body hcomment name hname k ih =>
      have hk : k ≤ later.length := nestedCount_le _ _
      have hcount : nestedCount indent.length (later ++ rest) = k :=
        nestedCount_append_of_head? (hnested _)
      rw [List.cons_append, items_of_filter hblank hcomment hname hcount,
        List.take_append_of_le_length hk, List.drop_append_of_le_length hk, ih, hplace hk,
        List.cons_append]
  | case5 line text later hblank indent body hcomment hname nodes k hgather ih =>
      have hk : k ≤ later.length := (TemplateLine.gathers_of_gather hgather).1
      have hgather' : TemplateLine.gather line indent body (later ++ rest) = (nodes, k) := by
        rw [TemplateLine.gather_append_of_head? line indent body fun l hl =>
          (h l hl).continuesGroup _, hgather]
      rw [List.cons_append, items_of_gather hblank hcomment hname hgather',
        List.drop_append_of_le_length hk, ih, hplace hk, List.append_assoc]

end Template

/-! ### The part below -/

/-- A node `k` lines further down. -/
def Node.shift (k : Nat) (n : Node) : Node where
  line := n.line + k
  kind :=
    match n.kind with
    | .filter f => .filter { f with endLine := f.endLine + k }
    | .plain _ | .tag _ | .attributes _ | .script _ _ => n.kind

theorem TagLine.nodes?_add (line k : Nat) (before body : Text) :
    nodes? (line + k) before body = (nodes? line before body).map (List.map (Node.shift k)) := by
  unfold nodes?
  cases hread : read? body with
  | none => rfl
  | some head =>
      simp only [Option.bind_eq_bind, Option.bind_some, Option.pure_def, Option.map_some,
        Nat.add_right_comm line k]
      split <;> rfl

namespace TemplateLine

theorem plain_add (line k : Nat) (before : Text) (escape : Option Bool) (rest : Text) :
    plain (line + k) before escape rest = (plain line before escape rest).map (Node.shift k) := by
  simp only [plain]
  split <;> rfl

theorem nodes?_add (line k : Nat) (indent body : Text) :
    nodes? (line + k) indent body = (nodes? line indent body).map (List.map (Node.shift k)) := by
  unfold nodes?
  split
  · exact TagLine.nodes?_add line k indent body
  · rw [Option.map_some]
    split <;> first | rfl | rw [plain_add]

theorem gather_add (line k : Nat) (indent body : Text) (later : List Text) :
    gather (line + k) indent body later =
      (gather line indent body later).map (List.map (Node.shift k)) id := by
  induction later generalizing body with
  | nil =>
      rw [gather, gather, nodes?_add]
      cases nodes? line indent body <;> rfl
  | cons next later ih =>
      rw [gather, gather, nodes?_add]
      cases nodes? line indent body with
      | some nodes => rfl
      | none =>
          simp only [Option.map_none, ih]
          split <;> rfl

end TemplateLine

namespace Template

/-- An item `k` lines further down. -/
def Item.shift (k : Nat) : Item → Item
  | .comment line text => .comment (line + k) text
  | .node n => .node (n.shift k)

theorem filterOf_add (name : Text) (line k : Nat) (body : List Text) :
    filterOf name (line + k) body =
      { filterOf name line body with endLine := (filterOf name line body).endLine + k } := by
  simp only [filterOf, Nat.add_right_comm line k]

/-- Where lines stand has no effect on what they are read as. -/
theorem items_add (line k : Nat) (ls : List Text) :
    items (line + k) ls = (items line ls).map (Item.shift k) := by
  fun_induction items line ls with
  | case1 line => rw [items, List.map_nil]
  | case2 line text later hblank ih =>
      rw [items_of_isBlankLine hblank, Nat.add_right_comm, ih]
  | case3 line text later hblank indent body comment hcomment n ih =>
      rw [items_of_comment hblank hcomment rfl, Nat.add_right_comm line k, Nat.add_right_comm _ k,
        ih, List.map_cons]
      rfl
  | case4 line text later hblank indent body hcomment name hname n ih =>
      rw [items_of_filter hblank hcomment hname rfl, Nat.add_right_comm line k,
        Nat.add_right_comm _ k, ih, List.map_cons, filterOf_add]
      rfl
  | case5 line text later hblank indent body hcomment hname nodes n hgather ih =>
      have hgather' := TemplateLine.gather_add line k indent body later
      rw [hgather] at hgather'
      rw [items_of_gather hblank hcomment hname hgather', Nat.add_right_comm line k,
        Nat.add_right_comm _ k, id_eq, ih, List.map_append, List.map_map, List.map_map]
      rfl

/-! ### Both parts -/

/-- The parts of a template that ends with a line, followed by one that starts at the
margin, are those of the first and then, further down, those of the second. -/
theorem nodes_parse_append {source rest : Text} (name : Text)
    (hsource : source = [] ∨ Text.endsLine source = true)
    (hrest : ∃ l ∈ (Text.lines rest).head?, Text.AtMargin l) :
    (parse (source ++ rest) name).nodes =
      (parse source name).nodes ++
        (parse rest name).nodes.map (Node.shift (Text.lines source).length) := by
  obtain ⟨first, hfirst, hmargin⟩ := hrest
  have hmargin' : ∀ l ∈ (Text.lines rest).head?, Text.AtMargin l := by
    intro l hl
    rwa [Option.mem_unique hl hfirst]
  have hshift (k : Nat) (is : List Item) :
      (is.map (Item.shift k)).filterMap Item.node? =
        (is.filterMap Item.node?).map (Node.shift k) := by
    rw [List.filterMap_map, List.map_filterMap]
    congr 1
    funext i
    cases i <;> rfl
  show (items 1 (Text.lines (source ++ rest))).filterMap Item.node? = _
  rw [Text.lines_append hsource, items_append 1 hmargin', List.filterMap_append, items_add,
    hshift]
  rfl

/-- A group of attributes is left open, with a blank line at its end. -/
theorem nodes_parse_append_open :
    let source := "Hi\n%p\x7ba: 1,\n  b: (\n\n".toList
    let rest := ":markdown\n  x\n= y\n".toList
    Text.endsLine source = true ∧
      (∃ l ∈ (Text.lines rest).head?, Text.AtMargin l) ∧
      (parse (source ++ rest) "t".toList).nodes =
        [⟨1, .plain ⟨"Hi".toList, none, 0, 1⟩⟩,
          ⟨5, .filter ⟨.markdown, ['x'], [' ', ' '], 6⟩⟩, ⟨7, .script ['y'] false⟩] := by
  intro source rest
  have hsource : Text.endsLine source = true := by decide
  have hmargin : ∃ l ∈ (Text.lines rest).head?, Text.AtMargin l := by
    refine ⟨":markdown".toList, by decide, by decide, ?_⟩
    rintro c ⟨⟩
    decide
  refine ⟨hsource, hmargin, ?_⟩
  rw [nodes_parse_append "t".toList (.inr hsource) hmargin]
  decide +kernel

end Template

end Phrasebook
