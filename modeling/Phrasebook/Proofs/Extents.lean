import Mathlib.Data.List.Count
import Mathlib.Data.List.Pairwise
import Phrasebook.Proofs.Groups
import Phrasebook.Proofs.Parsed

/-!
Where the parts of a template stand.

An item takes the source lines from its own to its last one, and the items of a
template follow each other down its lines.  Only the attribute hashes of a tag may
stand on the line of the item after them, which is that tag.  Whatever an item
says about its lines, no other item says anything about the same lines.
-/

namespace Phrasebook

/-- The last source line that a node is made of. -/
def Node.lastLine (n : Node) : Nat :=
  match n.kind with
  | .filter f => f.endLine
  | .plain _ | .tag _ | .attributes _ | .script _ _ => n.line

/-- The text of a node, if it has any that is localized as a phrase, is part of one
line. -/
def Node.OneLine (n : Node) : Prop :=
  match n.kind with
  | .plain p => '\n' ∉ p.text
  | .tag t => '\n' ∉ t.value
  | .attributes _ | .script _ _ | .filter _ => True

theorem Text.trimEnd_prefix (t : Text) : trimEnd t <+: t :=
  List.rdropWhile_prefix isBlank t

namespace TemplateLine

variable {line : Nat} {indent body : Text} {later : List Text} {nodes : List Node}

theorem nodes?_of_startsTag (h : TagLine.startsTag body = true) :
    nodes? line indent body = TagLine.nodes? line indent body :=
  if_pos h

/-- A line body that is a tag with an attribute group open at its end. -/
def IsOpen (body : Text) : Prop :=
  TagLine.startsTag body = true ∧ TagLine.read? body = none

theorem nodes?_eq_none_iff : nodes? line indent body = none ↔ IsOpen body := by
  unfold nodes? IsOpen
  split
  · rename_i htag
    cases hread : TagLine.read? body <;> simp [TagLine.nodes?, htag, hread]
  · rename_i htag
    simp [htag]

/-- A line body that is no tag gives at most one node, on its own line. -/
theorem nodes?_of_not_startsTag (h : nodes? line indent body = some nodes)
    (htag : TagLine.startsTag body = false) :
    nodes = [] ∨ (∃ code silent, nodes = [⟨line, .script code silent⟩]) ∨
      ∃ p, nodes = [⟨line, .plain p⟩] ∧ ∀ c ∈ p.text, c ∈ body := by
  have hplain {before rest : Text} {escape : Option Bool} (hrest : ∀ c ∈ rest, c ∈ body) :
      plain line before escape rest = [] ∨
        (∃ code silent, plain line before escape rest = [⟨line, .script code silent⟩]) ∨
        ∃ p, plain line before escape rest = [⟨line, .plain p⟩] ∧ ∀ c ∈ p.text, c ∈ body := by
    simp only [plain]
    split
    · exact .inl rfl
    · refine .inr (.inr ⟨_, rfl, fun c hc => hrest c ?_⟩)
      have hrest : c ∈ Text.unindented rest := (Text.trimEnd_prefix _).subset hc
      exact (List.dropWhile_suffix _).subset hrest
  simp only [nodes?, htag, Bool.false_eq_true, if_false, Option.some.injEq] at h
  subst h
  split
  · exact .inl rfl
  · exact .inl rfl
  · exact hplain fun c hc => List.mem_cons_of_mem _ hc
  · exact .inr (.inl ⟨_, _, rfl⟩)
  · exact .inr (.inl ⟨_, _, rfl⟩)
  · exact .inr (.inl ⟨_, _, rfl⟩)
  · exact .inr (.inl ⟨_, _, rfl⟩)
  · exact hplain fun c hc => List.mem_cons_of_mem _ hc
  · exact hplain fun c hc => List.mem_cons_of_mem _ hc
  · exact .inr (.inl ⟨_, _, rfl⟩)
  · exact hplain fun c hc => hc

/-! ### Gathering lines -/

/-- A line body and lines after it. -/
def gathered (body : Text) (ls : List Text) : Text :=
  body ++ ls.flatMap fun l => '\n' :: l

@[simp] theorem gathered_nil (body : Text) : gathered body [] = body := by
  simp [gathered]

theorem gathered_cons (body l : Text) (ls : List Text) :
    gathered body (l :: ls) = gathered (body ++ '\n' :: l) ls := by
  simp [gathered]

theorem gathered_append_singleton (body l : Text) (ls : List Text) :
    gathered body (ls ++ [l]) = gathered body ls ++ '\n' :: l := by
  simp [gathered]

theorem count_gathered {ls : List Text} (hbody : '\n' ∉ body) (hls : ∀ l ∈ ls, '\n' ∉ l) :
    (gathered body ls).count '\n' = ls.length := by
  induction ls generalizing body with
  | nil => simpa using List.count_eq_zero.2 hbody
  | cons l ls ih =>
      have hl : l.count '\n' = 0 := List.count_eq_zero.2 (hls l List.mem_cons_self)
      have hrest := ih (List.not_mem_nil (a := '\n')) fun k hk => hls k (List.mem_cons_of_mem l hk)
      simp only [gathered, List.nil_append] at hrest ⊢
      rw [List.flatMap_cons, List.count_append, List.count_append, List.count_cons_self, hrest,
        hl, List.count_eq_zero.2 hbody, List.length_cons]
      omega

theorem startsTag_gathered (h : TagLine.startsTag body = true) (ls : List Text) :
    TagLine.startsTag (gathered body ls) = true := by
  cases body with
  | nil => exact absurd h (by simp [TagLine.startsTag])
  | cons c t =>
      cases t with
      | nil =>
          simp only [TagLine.startsTag, List.head?_nil, Option.any_none, Bool.and_false,
            Bool.or_false] at h
          simp [gathered, TagLine.startsTag, h]
      | cons d t => exact h

/-- The lines of `block` are gathered for a line body, and no line of `rest` is: a
group is open before each line of the block, and it is closed after the last one or
the next line cannot continue it. -/
structure Gathers (indent : Nat) (body : Text) (block rest : List Text) : Prop where
  opened : ∀ ls, ls <+: block → ls.length < block.length → IsOpen (gathered body ls)
  continued : ∀ l ∈ block, continuesGroup indent l = true
  ended : IsOpen (gathered body block) → ∀ l ∈ rest.head?, continuesGroup indent l = false

namespace Gathers

variable {n : Nat} {block rest : List Text}

/-- No line is gathered for a line body in which all groups are closed. -/
theorem nil (h : ¬ IsOpen body) (rest : List Text) : Gathers n body [] rest := by
  refine ⟨?_, by simp, ?_⟩
  · intro ls _ hlength
    exact absurd hlength (Nat.not_lt_zero _)
  · intro hopen
    rw [gathered_nil] at hopen
    exact absurd hopen h

theorem nil_of_head? (h : ∀ l ∈ rest.head?, continuesGroup n l = false) :
    Gathers n body [] rest := by
  refine ⟨?_, by simp, fun _ => h⟩
  intro ls _ hlength
  exact absurd hlength (Nat.not_lt_zero _)

theorem cons {l : Text} (hopen : IsOpen body) (hcontinues : continuesGroup n l = true)
    (h : Gathers n (body ++ '\n' :: l) block rest) : Gathers n body (l :: block) rest := by
  refine ⟨?_, ?_, ?_⟩
  · intro ls hls hlength
    rcases List.prefix_cons_iff.1 hls with rfl | ⟨ms, rfl, hms⟩
    · simpa using hopen
    · rw [gathered_cons]
      exact h.opened ms hms (Nat.lt_of_succ_lt_succ hlength)
  · intro m hm
    rcases List.mem_cons.1 hm with rfl | hm
    · exact hcontinues
    · exact h.continued m hm
  · rw [gathered_cons]
    exact h.ended

theorem isOpen_of_cons {l : Text} (h : Gathers n body (l :: block) rest) : IsOpen body := by
  simpa using h.opened [] (List.nil_prefix) (Nat.succ_pos _)

theorem of_cons {l : Text} (h : Gathers n body (l :: block) rest) :
    Gathers n (body ++ '\n' :: l) block rest := by
  refine ⟨?_, fun m hm => h.continued m (List.mem_cons_of_mem l hm), ?_⟩
  · intro ls hls hlength
    rw [← gathered_cons]
    exact h.opened (l :: ls) ((List.prefix_cons_inj l).2 hls) (Nat.succ_lt_succ hlength)
  · rw [← gathered_cons]
    exact h.ended

/-- A line body that is no tag is read at once. -/
theorem eq_nil_of_startsTag_eq_false (h : Gathers n body block rest)
    (htag : TagLine.startsTag (gathered body block) = false) : block = [] := by
  cases block with
  | nil => rfl
  | cons l block =>
      have hstarts := startsTag_gathered h.isOpen_of_cons.1 (l :: block)
      rw [htag] at hstarts
      exact Bool.noConfusion hstarts

/-- Other lines in the place of these are gathered for another line body, if the same of
them leave a group open and the same can continue it. -/
theorem map {f : Text → Text} {body' : Text} {n' : Nat} (h : Gathers n body block rest)
    (hopen : ∀ ls, ls <+: block → (IsOpen (gathered body' (ls.map f)) ↔ IsOpen (gathered body ls)))
    (hcontinues : ∀ l, continuesGroup n' (f l) = continuesGroup n l) :
    Gathers n' body' (block.map f) (rest.map f) := by
  refine ⟨?_, ?_, ?_⟩
  · intro ls hls hlength
    obtain ⟨ms, hms, rfl⟩ := List.prefix_map_iff.1 hls
    exact (hopen ms hms).2 (h.opened ms hms (by simpa using hlength))
  · intro l hl
    obtain ⟨m, hm, rfl⟩ := List.mem_map.1 hl
    rw [hcontinues]
    exact h.continued m hm
  · intro hlast l hl
    rw [List.head?_map] at hl
    obtain ⟨m, hm, rfl⟩ := Option.map_eq_some_iff.1 hl
    rw [hcontinues]
    exact h.ended ((hopen block List.prefix_rfl).1 hlast) m hm

/-- What follows the groups of a tag is part of the last of its lines, and on a line
after the first a closer comes before it. -/
theorem rest_cases {head : TagLine.Head} (h : Gathers n body block rest)
    (hread : TagLine.read? (gathered body block) = some head) :
    (block = [] ∧ ∃ w, body = w ++ head.rest) ∨
      ∃ init lead, block = init ++ [lead ++ head.rest] ∧ ∃ c ∈ lead, isBlank c = false := by
  rcases List.eq_nil_or_concat block with rfl | ⟨init, l, rfl⟩
  · rw [gathered_nil] at hread
    obtain ⟨w, hw⟩ := TagLine.suffix_of_read? hread
    exact .inl ⟨rfl, w, hw.symm⟩
  · rw [List.concat_eq_append] at h hread ⊢
    have hopen := (h.opened init (List.prefix_append init [l]) (by simp)).2
    rw [gathered_append_singleton] at hread
    obtain ⟨lead, rfl, hlead⟩ := TagLine.exists_lead_of_read? hopen hread
    exact .inr ⟨init, lead, rfl, hlead⟩

theorem not_mem_rest {head : TagLine.Head} (h : Gathers n body block rest) (hbody : '\n' ∉ body)
    (hblock : ∀ l ∈ block, '\n' ∉ l)
    (hread : TagLine.read? (gathered body block) = some head) : '\n' ∉ head.rest := by
  rcases h.rest_cases hread with ⟨-, w, rfl⟩ | ⟨init, lead, rfl, -⟩
  · exact fun hmem => hbody (List.mem_append_right w hmem)
  · exact fun hmem => hblock _ (by simp) (List.mem_append_right lead hmem)

end Gathers

/-- Lines are gathered as long as they give no nodes.  What is gathered gives the
nodes, unless there are none. -/
theorem gather_append {block rest : List Text} (h : Gathers indent.length body block rest) :
    gather line indent body (block ++ rest) =
      ((nodes? line indent (gathered body block)).getD [], block.length) := by
  induction block generalizing body with
  | nil =>
      cases rest with
      | nil => simp [gather]
      | cons next rest =>
          rw [List.nil_append, gather, gathered_nil]
          cases hnodes : nodes? line indent body with
          | some nodes => rfl
          | none =>
              have hopen : IsOpen (gathered body []) := by
                rw [gathered_nil]
                exact nodes?_eq_none_iff.1 hnodes
              have hnext := h.ended hopen next rfl
              simp [hnext]
  | cons next block ih =>
      have hnodes : nodes? line indent body = none := nodes?_eq_none_iff.2 h.isOpen_of_cons
      have hnext := h.continued next List.mem_cons_self
      rw [List.cons_append, gather, hnodes, gathered_cons]
      simp only [hnext, if_true, ih h.of_cons, List.length_cons]

theorem gathers_of_gather {k : Nat} (h : gather line indent body later = (nodes, k)) :
    k ≤ later.length ∧ Gathers indent.length body (later.take k) (later.drop k) ∧
      nodes = (nodes? line indent (gathered body (later.take k))).getD [] := by
  induction later generalizing body k with
  | nil =>
      obtain ⟨rfl, rfl⟩ := Prod.mk.inj h
      exact ⟨Nat.le_refl 0, .nil_of_head? (by simp), by simp⟩
  | cons next later ih =>
      rw [gather] at h
      split at h
      · rename_i found hfound
        obtain ⟨rfl, rfl⟩ := Prod.mk.inj h
        have hclosed : ¬ IsOpen body := by
          rw [← @nodes?_eq_none_iff line indent, hfound]
          simp
        exact ⟨Nat.zero_le _, .nil hclosed _, by simp [hfound]⟩
      · rename_i hnone
        split at h
        · rename_i hnext
          cases hrest : gather line indent (body ++ '\n' :: next) later with
          | mk found taken =>
              rw [hrest] at h
              obtain ⟨rfl, rfl⟩ := Prod.mk.inj h
              obtain ⟨hlength, hgathers, hnodes⟩ := ih hrest
              refine ⟨Nat.succ_le_succ hlength, ?_, ?_⟩
              · exact .cons (nodes?_eq_none_iff.1 hnone) hnext hgathers
              · rw [List.take_succ_cons, gathered_cons]
                exact hnodes
        · rename_i hnext
          obtain ⟨rfl, rfl⟩ := Prod.mk.inj h
          refine ⟨Nat.zero_le _, .nil_of_head? ?_, by simp [hnone]⟩
          rintro l ⟨⟩
          simpa using hnext

/-- The nodes that lines are gathered for: at most one, or the hashes of a tag and
that tag. -/
theorem gather_cases {k : Nat} (h : gather line indent body later = (nodes, k))
    (hindent : '\n' ∉ indent) (hbody : '\n' ∉ body) (hlater : ∀ l ∈ later, '\n' ∉ l) :
    nodes = [] ∨ (∃ code silent, nodes = [⟨line, .script code silent⟩]) ∨
      (∃ p, nodes = [⟨line, .plain p⟩] ∧ '\n' ∉ p.text) ∨
      ∃ tag i, i ≤ k ∧ '\n' ∉ tag.value ∧
        (nodes = [⟨line + i, .tag tag⟩] ∨
          ∃ hashes, nodes = [⟨line, .attributes hashes⟩, ⟨line + i, .tag tag⟩]) := by
  obtain ⟨hk, hgathers, hnodes⟩ := gathers_of_gather h
  generalize hblock : later.take k = block at hgathers hnodes
  have hlength : block.length = k := by simp [← hblock, hk]
  have hfeed : ∀ l ∈ block, '\n' ∉ l := by
    rw [← hblock]
    exact fun l hl => hlater l (List.mem_of_mem_take hl)
  cases hread : nodes? line indent (gathered body block) with
  | none =>
      rw [hread] at hnodes
      exact .inl hnodes
  | some found =>
      rw [hread, Option.getD_some] at hnodes
      subst hnodes
      cases htag : TagLine.startsTag (gathered body block) with
      | true =>
          rw [nodes?_of_startsTag htag] at hread
          obtain ⟨head, tag, i, hhead, hvalue, hi, hcases⟩ := TagLine.nodes?_eq_some hread
          rw [List.count_append, List.count_eq_zero.2 hindent, count_gathered hbody hfeed] at hi
          have hrest := hgathers.not_mem_rest hbody hfeed hhead
          refine .inr (.inr (.inr ⟨tag, i, by omega, ?_, ?_⟩))
          · rw [hvalue]
            exact fun hmem => hrest ((Text.trimEnd_prefix _).subset hmem)
          · exact hcases.imp_right fun heq => ⟨_, heq⟩
      | false =>
          obtain rfl := hgathers.eq_nil_of_startsTag_eq_false htag
          rw [gathered_nil] at htag hread
          rcases nodes?_of_not_startsTag hread htag with hnil | hscript | ⟨p, hp, hmem⟩
          · exact .inl hnil
          · exact .inr (.inl hscript)
          · exact .inr (.inr (.inl ⟨p, hp, fun hmem' => hbody (hmem _ hmem')⟩))

end TemplateLine

namespace Template

namespace Item

/-- The source line that an item starts on. -/
def line : Item → Nat
  | .comment line _ => line
  | .node n => n.line

/-- The last source line that an item says something about. -/
def lastLine : Item → Nat
  | .comment line _ => line
  | .node n => n.lastLine

/-- The lines of an item are above those of another; attribute hashes may share
theirs with the tag after them. -/
def Precedes (a b : Item) : Prop :=
  a.lastLine < b.line ∨ ∃ line hashes, a = .node ⟨line, .attributes hashes⟩ ∧ line ≤ b.line

end Item

/-- Items that follow each other on the lines from `first` up to `stop`. -/
structure Laid (first stop : Nat) (is : List Item) : Prop where
  extent : ∀ i ∈ is, first ≤ i.line ∧ i.line ≤ i.lastLine ∧ i.lastLine < stop
  order : is.Pairwise Item.Precedes
  oneLine : ∀ n, .node n ∈ is → n.OneLine

namespace Laid

variable {first middle stop : Nat} {is js : List Item}

theorem nil : Laid first stop [] := by
  constructor <;> simp

theorem singleton {i : Item} (hfirst : first ≤ i.line) (hline : i.line ≤ i.lastLine)
    (hstop : i.lastLine < stop) (honeLine : ∀ n, i = .node n → n.OneLine) :
    Laid first stop [i] := by
  refine ⟨?_, List.pairwise_singleton _ i, ?_⟩
  · intro j hj
    rw [List.mem_singleton] at hj
    subst hj
    exact ⟨hfirst, hline, hstop⟩
  · intro n hn
    exact honeLine n (List.mem_singleton.1 hn).symm

theorem append (his : Laid first middle is) (hjs : Laid middle stop js)
    (hfirst : first ≤ middle) (hstop : middle ≤ stop) : Laid first stop (is ++ js) := by
  refine ⟨?_, List.pairwise_append.2 ⟨his.order, hjs.order, ?_⟩, ?_⟩
  · intro i hi
    rcases List.mem_append.1 hi with hi | hi
    · have := his.extent i hi
      omega
    · have := hjs.extent i hi
      omega
  · intro i hi j hj
    have hlast := (his.extent i hi).2.2
    have hline := (hjs.extent j hj).1
    exact .inl (Nat.lt_of_lt_of_le hlast hline)
  · intro n hn
    exact (List.mem_append.1 hn).elim (his.oneLine n) (hjs.oneLine n)

/-- A node other than a filter stands on one line. -/
theorem node {n : Node} (hfirst : first ≤ n.line) (hlast : n.lastLine = n.line)
    (hstop : n.line < stop) (honeLine : n.OneLine) : Laid first stop [.node n] := by
  refine .singleton hfirst (Nat.le_of_eq hlast.symm) ?_ ?_
  · rw [Item.lastLine, hlast]
    exact hstop
  · rintro m ⟨⟩
    exact honeLine

/-- Attribute hashes may stand on the line on which the items after them start. -/
theorem attributes_cons {line : Nat} (hashes : List Text) (h : Laid line stop is)
    (hstop : line < stop) : Laid line stop (.node ⟨line, .attributes hashes⟩ :: is) := by
  have hhashes : Laid line stop [.node ⟨line, .attributes hashes⟩] :=
    .node (Nat.le_refl line) rfl hstop trivial
  refine ⟨?_, List.pairwise_cons.2 ⟨?_, h.order⟩, ?_⟩
  · intro i hi
    rcases List.mem_cons.1 hi with rfl | hi
    · exact hhashes.extent _ List.mem_cons_self
    · exact h.extent i hi
  · intro i hi
    exact .inr ⟨line, hashes, rfl, (h.extent i hi).1⟩
  · intro n hn
    rcases List.mem_cons.1 hn with hn | hn
    · exact hhashes.oneLine n (List.mem_singleton.2 hn)
    · exact h.oneLine n hn

theorem precedes_or (h : Laid first stop is) {i j : Item} (hi : i ∈ is) (hj : j ∈ is)
    (hne : i ≠ j) : i.Precedes j ∨ j.Precedes i := by
  have : Std.Symm fun a b : Item => a.Precedes b ∨ b.Precedes a := ⟨fun _ _ => Or.symm⟩
  have horder : is.Pairwise fun a b => a.Precedes b ∨ b.Precedes a := h.order.imp .inl
  exact horder.forall hi hj hne

end Laid

theorem nestedCount_le (indent : Nat) (later : List Text) :
    nestedCount indent later ≤ later.length := by
  have hnested : (later.takeWhile (isNested indent)).length ≤ later.length :=
    (List.takeWhile_prefix _).length_le
  calc
    nestedCount indent later ≤ (later.takeWhile (isNested indent)).reverse.length :=
      (List.dropWhile_suffix _).length_le
    _ = (later.takeWhile (isNested indent)).length := List.length_reverse
    _ ≤ later.length := hnested

variable {line : Nat} {ls later : List Text} {indent body : Text} {nodes : List Node} {n : Node}

theorem laid_gather {k : Nat} (h : TemplateLine.gather line indent body later = (nodes, k))
    (hindent : '\n' ∉ indent) (hbody : '\n' ∉ body) (hlater : ∀ l ∈ later, '\n' ∉ l) :
    Laid line (line + 1 + k) (nodes.map Item.node) := by
  have hline : line < line + 1 + k := by omega
  rcases TemplateLine.gather_cases h hindent hbody hlater with
    rfl | ⟨code, silent, rfl⟩ | ⟨p, rfl, hp⟩ | ⟨tag, i, hi, hvalue, htag⟩
  · exact .nil
  · exact .node (Nat.le_refl line) rfl hline trivial
  · exact .node (Nat.le_refl line) rfl hline hp
  · have hstop : line + i < line + 1 + k := by omega
    have htagLine : Laid line (line + 1 + k) [.node ⟨line + i, .tag tag⟩] :=
      .node (Nat.le_add_right line i) rfl hstop hvalue
    rcases htag with rfl | ⟨hashes, rfl⟩
    · exact htagLine
    · exact htagLine.attributes_cons hashes hline

/-- The items of some lines follow each other on these lines. -/
theorem laid_items (hfeed : ∀ l ∈ ls, '\n' ∉ l) : Laid line (line + ls.length) (items line ls) := by
  -- An item takes its own line and `k` more, and the items after it start there.
  have hrest {text : Text} {later : List Text} {line k : Nat} {is js : List Item}
      (hk : k ≤ later.length) (his : Laid line (line + 1 + k) is)
      (hjs : Laid (line + 1 + k) (line + 1 + k + (later.drop k).length) js) :
      Laid line (line + (text :: later).length) (is ++ js) := by
    have hend : line + (text :: later).length = line + 1 + k + (later.drop k).length := by
      rw [List.length_cons, List.length_drop]
      omega
    rw [hend]
    exact his.append hjs (by omega) (Nat.le_add_right _ _)
  fun_induction items line ls with
  | case1 line => exact .nil
  | case2 line text later hblank ih =>
      exact hrest (Nat.zero_le _) .nil (ih (forall_mem_drop_of_cons hfeed 0))
  | case3 line text later hblank indent body comment hcomment k ih =>
      have hcommentLine : Laid line (line + 1 + k) [.comment line comment] := by
        refine .singleton (Nat.le_refl line) (Nat.le_refl line) ?_ ?_
        · simp only [Item.lastLine]
          omega
        · rintro n ⟨⟩
      exact hrest (nestedCount_le _ _) hcommentLine (ih (forall_mem_drop_of_cons hfeed k))
  | case4 line text later hblank indent body hcomment name hname k ih =>
      have hk : k ≤ later.length := nestedCount_le _ _
      have hend : (filterOf name line (later.take k)).endLine = line + k := by
        simp [filterOf, hk]
      have hfilter : Laid line (line + 1 + k)
          [.node ⟨line, .filter (filterOf name line (later.take k))⟩] := by
        refine .singleton (Nat.le_refl line) ?_ ?_ ?_
        · simp only [Item.lastLine, Item.line, Node.lastLine, hend]
          omega
        · simp only [Item.lastLine, Node.lastLine, hend]
          omega
        · rintro n ⟨⟩
          trivial
      exact hrest hk hfilter (ih (forall_mem_drop_of_cons hfeed k))
  | case5 line text later hblank indent body hcomment hname nodes k hgather ih =>
      have htext := hfeed text List.mem_cons_self
      have hnodes : Laid line (line + 1 + k) (nodes.map Item.node) :=
        laid_gather hgather (fun hmem => htext ((List.takeWhile_prefix _).subset hmem))
          (fun hmem => htext ((List.dropWhile_suffix _).subset hmem))
          (forall_mem_drop_of_cons hfeed 0)
      exact hrest (TemplateLine.gathers_of_gather hgather).1 hnodes
        (ih (forall_mem_drop_of_cons hfeed k))

theorem laid_parse (source : Text) :
    Laid 1 (1 + (Text.lines source).length) (items 1 (Text.lines source)) :=
  laid_items fun _ => Text.not_mem_of_mem_lines

theorem mem_items_of_mem_parse {source name : Text} (h : n ∈ (parse source name).nodes) :
    .node n ∈ items 1 (Text.lines source) := by
  obtain ⟨i, hi, hn⟩ := List.mem_filterMap.1 h
  cases i with
  | comment line text => exact absurd hn (by simp [Item.node?])
  | node m =>
      cases hn
      exact hi

/-- A node stands on lines of its source. -/
theorem extent_of_mem_parse {source name : Text} (h : n ∈ (parse source name).nodes) :
    1 ≤ n.line ∧ n.line ≤ n.lastLine ∧ n.lastLine ≤ (Text.lines source).length := by
  obtain ⟨hfirst, hline, hlast⟩ := (laid_parse source).extent _ (mem_items_of_mem_parse h)
  refine ⟨hfirst, hline, ?_⟩
  simp only [Item.lastLine] at hlast
  omega

theorem oneLine_of_mem_parse {source name : Text} (h : n ∈ (parse source name).nodes) :
    n.OneLine :=
  (laid_parse source).oneLine n (mem_items_of_mem_parse h)

theorem pairwise_nodes_parse (source name : Text) :
    (parse source name).nodes.Pairwise fun m n => Item.Precedes (.node m) (.node n) := by
  refine (laid_parse source).order.filterMap _ ?_
  intro i j hij m hm n hn
  cases i with
  | comment line text => exact absurd hm (by simp [Item.node?])
  | node m' =>
      cases j with
      | comment line text => exact absurd hn (by simp [Item.node?])
      | node n' =>
          cases hm
          cases hn
          exact hij

end Template

end Phrasebook
