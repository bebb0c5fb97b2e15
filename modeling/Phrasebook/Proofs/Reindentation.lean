import Phrasebook.Proofs.Bodies
import Phrasebook.Proofs.LineEnds
import Phrasebook.Proofs.Positions
import Phrasebook.Proofs.Respacing
import Phrasebook.Proofs.Runs

/-!
Templates that are indented further.

Indentation counts only against other indentation: a line is nested below another, or
continues its groups, if it is indented further.  So the lines of a template are taken
by the same items when all of them are indented further by the same text.  What changes
are the places of text and values, which are further to the right, and the space in
attribute hashes that take several lines.
-/

namespace Phrasebook

namespace Text

variable {w l t : Text}

/-- A line with `w` before it, unless it is empty. -/
def indentBy (w l : Text) : Text :=
  if l.isEmpty then [] else w ++ l

/-- A text with each of its lines indented by `w`. -/
def nest (w t : Text) : Text :=
  unlines ((pieces t).map (indentBy w))

@[simp] theorem indentBy_nil (w : Text) : indentBy w [] = [] := rfl

theorem indentBy_of_ne_nil (h : l ≠ []) : indentBy w l = w ++ l := by
  simp [indentBy, h]

theorem indentBy_eq_nil_iff : indentBy w l = [] ↔ l = [] := by
  cases l <;> simp [indentBy]

theorem mem_of_mem_indentBy {c : Char} (h : c ∈ indentBy w l) : c ∈ w ∨ c ∈ l := by
  cases l with
  | nil => cases h
  | cons d l => exact List.mem_append.1 h

section Indentation

variable (hw : ∀ c ∈ w, isIndent c = true)

include hw

theorem isBlankLine_indentBy (l : Text) : isBlankLine (indentBy w l) = isBlankLine l := by
  cases l with
  | nil => rfl
  | cons c l =>
      have hblank : w.all isBlank = true :=
        List.all_eq_true.2 fun c hc => isBlank_of_isIndent (hw c hc)
      rw [indentBy_of_ne_nil (List.cons_ne_nil c l), isBlankLine, List.all_append, hblank,
        Bool.true_and]
      rfl

theorem indentation_indentBy (h : l ≠ []) : indentation (indentBy w l) = w ++ indentation l := by
  rw [indentBy_of_ne_nil h, indentation, List.takeWhile_append_of_pos hw]
  rfl

theorem unindented_indentBy (l : Text) : unindented (indentBy w l) = unindented l := by
  cases l with
  | nil => rfl
  | cons c l =>
      rw [indentBy_of_ne_nil (List.cons_ne_nil c l), unindented, List.dropWhile_append_of_pos hw]
      rfl

theorem isNested_indentBy (n : Nat) (l : Text) :
    Template.isNested (w.length + n) (indentBy w l) = Template.isNested n l := by
  cases l with
  | nil => rfl
  | cons c l =>
      rw [Template.isNested, Template.isNested, isBlankLine_indentBy hw,
        indentation_indentBy hw (List.cons_ne_nil c l), List.length_append]
      simp

theorem continuesGroup_indentBy (n : Nat) (l : Text) :
    TemplateLine.continuesGroup (w.length + n) (indentBy w l) =
      TemplateLine.continuesGroup n l := by
  cases l with
  | nil => simp [TemplateLine.continuesGroup, isBlankLine]
  | cons c l =>
      rw [TemplateLine.continuesGroup, TemplateLine.continuesGroup, isBlankLine_indentBy hw,
        indentation_indentBy hw (List.cons_ne_nil c l), unindented_indentBy hw, List.length_append]
      simp

theorem outdent_indentBy (indent l : Text) :
    outdent (w ++ indent) (indentBy w l) = outdent indent l := by
  cases l with
  | nil => rfl
  | cons c l =>
      rw [outdent, indentation_indentBy hw (List.cons_ne_nil c l),
        indentBy_of_ne_nil (List.cons_ne_nil c l), List.length_append, List.length_append,
        Nat.add_min_add_left, List.drop_length_add_append, outdent]

end Indentation

/-! ### Lines -/

/-- A line without a carriage return at its end. -/
theorem lines_append_feed_of_not_mem (hfeed : '\n' ∉ l) (hreturn : '\r' ∉ l) (t : Text) :
    lines (l ++ '\n' :: t) = l :: lines t := by
  induction l with
  | nil => rfl
  | cons c l ih =>
      rw [List.mem_cons, not_or] at hfeed hreturn
      rw [List.cons_append, lines, ih hfeed.2 hreturn.2]
      · exact fun hc => hfeed.1 hc.symm
      · exact fun u hc => absurd hc.symm hreturn.1

/-- Lines in the place of others, where only empty lines are in the place of such. -/
theorem lines_unlines_map {f : Text → Text} {ls : List Text} (hnil : ∀ l, f l = [] ↔ l = [])
    (hls : ∀ l ∈ ls, '\n' ∉ l ∧ '\r' ∉ l) (hf : ∀ l ∈ ls, '\n' ∉ f l ∧ '\r' ∉ f l) :
    lines (unlines (ls.map f)) = (lines (unlines ls)).map f := by
  induction ls with
  | nil => rfl
  | cons l ls ih =>
      obtain ⟨hfeed, hreturn⟩ := hls l List.mem_cons_self
      obtain ⟨hfeed', hreturn'⟩ := hf l List.mem_cons_self
      cases ls with
      | nil =>
          by_cases hl : l = []
          · rw [hl, List.map_singleton, (hnil []).2 rfl]
            rfl
          · change lines (f l) = (lines l).map f
            rw [lines_of_not_mem hl hfeed, lines_of_not_mem (mt (hnil l).1 hl) hfeed',
              List.map_singleton]
      | cons m ls =>
          have hrest := ih (fun k hk => hls k (List.mem_cons_of_mem l hk))
            fun k hk => hf k (List.mem_cons_of_mem l hk)
          rw [unlines_cons (List.cons_ne_nil m ls), lines_append_feed_of_not_mem hfeed hreturn,
            List.map_cons, unlines_cons (by simp), lines_append_feed_of_not_mem hfeed' hreturn',
            hrest, List.map_cons]

theorem lines_nest (hw : ∀ c ∈ w, isIndent c = true) (hreturn : '\r' ∉ t) :
    lines (nest w t) = (lines t).map (indentBy w) := by
  have hplain : ∀ l ∈ pieces t, '\n' ∉ l ∧ '\r' ∉ l := fun l hl =>
    ⟨fun hc => (mem_of_mem_split hl hc).1 rfl, fun hc => hreturn (mem_of_mem_split hl hc).2⟩
  have hspace {c : Char} (hc : isIndent c = false) : c ∉ w := fun hmem => by
    rw [hw c hmem] at hc
    cases hc
  rw [nest, lines_unlines_map (fun l => indentBy_eq_nil_iff) hplain, unlines_pieces]
  intro l hl
  exact ⟨fun hc => (mem_of_mem_indentBy hc).elim (hspace (by decide)) (hplain l hl).1,
    fun hc => (mem_of_mem_indentBy hc).elim (hspace (by decide)) (hplain l hl).2⟩

/-! ### Gathered lines -/

/-- The space after a line feed that `w` makes wider. -/
def Indents (w : Text) (c : Char) (v : Text) : Prop :=
  c = '\n' ∧ v = '\n' :: w

theorem isSpacing_indents (hw : ∀ c ∈ w, isIndent c = true) : IsSpacing (Indents w) := by
  rintro c v ⟨rfl, rfl⟩
  refine ⟨rfl, List.cons_ne_nil _ _, ?_⟩
  intro d hd
  rcases List.mem_cons.1 hd with rfl | hd
  · rfl
  · rw [isSpace, hw d hd, Bool.true_or]

/-- Text without line feeds is the same. -/
theorem Respaced.eq_of_feed_not_mem (h : Respaced (Indents w) l t) (hfeed : '\n' ∉ l) : t = l :=
  h.eq_of_forall_not fun _ hc _ hchange => hfeed (hchange.1 ▸ hc)

theorem respaced_gathered (w body : Text) (ls : List Text) :
    Respaced (Indents w) (TemplateLine.gathered body ls)
      (TemplateLine.gathered body (ls.map (indentBy w))) := by
  have hlines : Respaced (Indents w) (ls.flatMap fun l => '\n' :: l)
      ((ls.map (indentBy w)).flatMap fun l => '\n' :: l) := by
    induction ls with
    | nil => exact .nil
    | cons l ls ih =>
        rw [List.map_cons, List.flatMap_cons, List.flatMap_cons]
        refine .append ?_ ih
        cases l with
        | nil => exact .refl _ _
        | cons c l =>
            rw [indentBy_of_ne_nil (List.cons_ne_nil c l)]
            exact .change (v := '\n' :: w) ⟨rfl, rfl⟩ (.refl _ _)
  exact (Respaced.refl _ body).append hlines

end Text

namespace TagLine

variable {w s t : Text} {head : Head}

open Text (Respaced Indents)

/-- What is read between the groups of a tag and the rest of it is no line feed. -/
theorem feed_not_mem_of_read? (hread : read? s = some head) (hfeed : '\n' ∉ head.rest)
    {hashes : List Text} {rest : Text}
    (hgroups : readGroups? (skipShortcuts (readName s).2) = some (hashes, rest)) : '\n' ∉ rest := by
  have hdrop {p : Char → Bool} {u : Text} (hp : p '\n' = false) (hu : '\n' ∈ u) :
      '\n' ∈ u.dropWhile p := by
    rw [← List.takeWhile_append_dropWhile (p := p) (l := u)] at hu
    refine (List.mem_append.1 hu).resolve_left fun hmem => ?_
    rw [List.mem_takeWhile_imp hmem] at hp
    cases hp
  have hread' {u : Text} (hu : '\n' ∈ u) : '\n' ∈ (readAction u).2 := by
    fun_cases readAction u <;> simp_all
  obtain ⟨afterName, afterGroups, afterAction, hname, hgroups', haction, hrest⟩ :=
    read?_eq_some_iff.1 hread
  rw [hname] at hgroups
  obtain ⟨-, rfl⟩ := Prod.mk.inj (Option.some.inj (hgroups.symm.trans hgroups'))
  intro hmem
  have hafter := hread' (hdrop (p := fun c => c = '<' || c = '>') (by decide) hmem)
  rw [haction] at hafter
  exact hfeed (hrest ▸ hdrop (by decide) hafter)

/-- Tags whose groups take several lines are the same when these are indented further, but
for the space in the hashes. -/
theorem exists_read?_of_indents (hw : ∀ c ∈ w, isIndent c = true) (h : Respaced (Indents w) s t)
    (hread : read? s = some head) (hfeed : '\n' ∉ head.rest) :
    ∃ hashes, List.Forall₂ (Respaced (Indents w)) head.hashes hashes ∧
      read? t = some { head with hashes := hashes } := by
  have hP := Text.isSpacing_indents hw
  obtain ⟨rest, hgroups, -⟩ := read?_eq_some hread
  obtain ⟨hname, hafter⟩ := readName_of_respaced hP h
  have hrel := rel_readGroups? hP (skipShortcuts_of_respaced hP hafter)
  rw [hgroups] at hrel
  generalize hgroups' : readGroups? (skipShortcuts (readName t).2) = found at hrel
  cases hrel with
  | @some _ found hfound =>
      obtain ⟨hashes, rest'⟩ := found
      obtain rfl : rest' = rest :=
        hfound.2.eq_of_feed_not_mem (feed_not_mem_of_read? hread hfeed hgroups)
      exact ⟨hashes, hfound.1, (read?_of_readGroups? hread hname hgroups hgroups').2⟩

end TagLine

/-! ### Nodes -/

open Text (Respaced Indents indentBy)

/-- A node of a template, and the node in its place when all lines are indented further
by `w`. -/
inductive Node.Indented (w : Text) : Node → Node → Prop where
  | plain {line : Nat} {p : PlainText} :
      Indented w ⟨line, .plain p⟩
        ⟨line, .plain { p with
          offset := Text.utf8Size w + p.offset, column := w.length + p.column }⟩
  | tag {line : Nat} {t : Tag} :
      Indented w ⟨line, .tag t⟩
        ⟨line, .tag { t with
          offset := Text.utf8Size w + t.offset, column := w.length + t.column }⟩
  | attributes {line : Nat} {hashes hashes' : List Text}
      (h : List.Forall₂ (Respaced (Indents w)) hashes hashes') :
      Indented w ⟨line, .attributes hashes⟩ ⟨line, .attributes hashes'⟩
  | script {line : Nat} {code : Text} {silent : Bool} :
      Indented w ⟨line, .script code silent⟩ ⟨line, .script code silent⟩
  | filter {line : Nat} {f : Filter} :
      Indented w ⟨line, .filter f⟩ ⟨line, .filter { f with indent := w ++ f.indent }⟩
  | empty {line : Nat} {f : Filter} (h : f.text = []) :
      Indented w ⟨line, .filter f⟩ ⟨line, .filter f⟩

theorem Node.Indented.line_eq {w : Text} {m n : Node} (h : m.Indented w n) : n.line = m.line := by
  cases h <;> rfl

namespace TemplateLine

variable {w indent body : Text} {line : Nat} {block rest later : List Text}

theorem plain_indented (line : Nat) (w before : Text) (escape : Option Bool) (t : Text) :
    List.Forall₂ (Node.Indented w) (plain line before escape t)
      (plain line (w ++ before) escape t) := by
  simp only [plain]
  split
  · exact .nil
  · simp only [List.append_assoc, Text.utf8Size_append, List.length_append, Nat.add_assoc]
    exact .cons .plain .nil

theorem nodes?_indented (htag : TagLine.startsTag body = false) :
    Option.Rel (List.Forall₂ (Node.Indented w)) (nodes? line indent body)
      (nodes? line (w ++ indent) body) := by
  have hmarked (c : Char) (escape : Option Bool) (t : Text) :
      List.Forall₂ (Node.Indented w) (plain line (indent ++ [c]) escape t)
        (plain line ((w ++ indent) ++ [c]) escape t) := by
    rw [List.append_assoc]
    exact plain_indented line w _ escape t
  have hscript (code : Text) (silent : Bool) :
      List.Forall₂ (Node.Indented w) (script line code silent) (script line code silent) :=
    .cons .script .nil
  simp only [nodes?, htag, Bool.false_eq_true, if_false]
  refine .some ?_
  split
  · exact .nil
  · exact .nil
  · exact hmarked '\\' none _
  · exact hscript _ _
  · exact hscript _ _
  · exact hscript _ _
  · exact hscript _ _
  · exact hmarked '&' (some true) _
  · exact hmarked '!' (some false) _
  · exact hscript _ _
  · exact plain_indented line w indent none _

theorem attributes_indented (line : Nat) {hashes hashes' : List Text}
    (h : List.Forall₂ (Respaced (Indents w)) hashes hashes') :
    List.Forall₂ (Node.Indented w) (if hashes.isEmpty then [] else [⟨line, .attributes hashes⟩])
      (if hashes'.isEmpty then [] else [⟨line, .attributes hashes'⟩]) := by
  cases h with
  | nil => exact .nil
  | cons hhash hhashes => exact .cons (.attributes (.cons hhash hhashes)) .nil

/-- The last line of a tag is not empty. -/
theorem Gathers.last_ne_nil {n : Nat} {head : TagLine.Head} {l : Text}
    (h : Gathers n body block rest) (hread : TagLine.read? (gathered body block) = some head)
    (hbody : body ≠ []) (hl : ((indent ++ body) :: block)[block.length]? = some l) : l ≠ [] := by
  rcases h.rest_cases hread with ⟨rfl, -⟩ | ⟨init, lead, rfl, c, hc, -⟩
  · obtain rfl : indent ++ body = l := by simpa using hl
    exact List.append_ne_nil_of_right_ne_nil indent hbody
  · obtain rfl : lead ++ head.rest = l := by simpa using hl
    exact List.append_ne_nil_of_left_ne_nil (List.ne_nil_of_mem hc) head.rest

section Gathering

variable (hw : ∀ c ∈ w, isIndent c = true)

include hw

theorem isOpen_gathered_map_indentBy_iff (body : Text) (ls : List Text) :
    IsOpen (gathered body (ls.map (indentBy w))) ↔ IsOpen (gathered body ls) := by
  have hP := Text.isSpacing_indents hw
  have hspace := Text.respaced_gathered w body ls
  rw [IsOpen, IsOpen, TagLine.startsTag_of_respaced hP hspace,
    TagLine.read?_eq_none_iff_of_respaced hP hspace]

theorem Gathers.map_indentBy (h : Gathers indent.length body block rest) :
    Gathers (w ++ indent).length body (block.map (indentBy w)) (rest.map (indentBy w)) := by
  rw [List.length_append]
  exact h.map (fun ls _ => isOpen_gathered_map_indentBy_iff hw body ls)
    (Text.continuesGroup_indentBy hw indent.length)

theorem Gathers.rel_nodes? (line : Nat) (h : Gathers indent.length body block rest)
    (hindent : '\n' ∉ indent) (hne : body ≠ []) (hbody : '\n' ∉ body)
    (hblock : ∀ l ∈ block, '\n' ∉ l) :
    Option.Rel (List.Forall₂ (Node.Indented w)) (nodes? line indent (gathered body block))
      (nodes? line (w ++ indent) (gathered body (block.map (indentBy w)))) := by
  have hP := Text.isSpacing_indents hw
  have hspace := Text.respaced_gathered w body block
  cases htag : TagLine.startsTag (gathered body block) with
  | false =>
      obtain rfl := h.eq_nil_of_startsTag_eq_false htag
      rw [gathered_nil] at htag
      rw [List.map_nil, gathered_nil]
      exact nodes?_indented htag
  | true =>
      cases hread : TagLine.read? (gathered body block) with
      | none =>
          have hopen : IsOpen (gathered body block) := ⟨htag, hread⟩
          rw [nodes?_eq_none_iff.2 hopen,
            nodes?_eq_none_iff.2 ((isOpen_gathered_map_indentBy_iff hw body block).2 hopen)]
          exact .none
      | some head =>
          obtain ⟨hashes, hhashes, hread'⟩ := TagLine.exists_read?_of_indents hw hspace hread
            (h.not_mem_rest hbody hblock hread)
          obtain ⟨lead, hlast, hnodes⟩ := h.nodes?_eq line htag hread hindent hbody hblock
          have hsource : ((w ++ indent) ++ body) :: block.map (indentBy w) =
              ((indent ++ body) :: block).map (indentBy w) := by
            rw [List.map_cons, Text.indentBy_of_ne_nil (List.append_ne_nil_of_right_ne_nil _ hne),
              List.append_assoc]
          have hlast' : (((w ++ indent) ++ body) :: block.map (indentBy w))[
              (block.map (indentBy w)).length]? = some ((w ++ lead) ++ head.rest) := by
            rw [hsource, List.length_map, List.getElem?_map, hlast, Option.map_some,
              Text.indentBy_of_ne_nil (h.last_ne_nil hread hne hlast), List.append_assoc]
          have hindent' : '\n' ∉ w ++ indent := by
            rw [List.mem_append, not_or]
            exact ⟨fun hmem => absurd (hw _ hmem) (by decide), hindent⟩
          have hblock' : ∀ l ∈ block.map (indentBy w), '\n' ∉ l := by
            intro l hl hmem
            obtain ⟨m, hm, rfl⟩ := List.mem_map.1 hl
            exact (Text.mem_of_mem_indentBy hmem).elim
              (fun hmem => absurd (hw _ hmem) (by decide)) (hblock m hm)
          have hnodes' := (h.map_indentBy hw).nodes?_eq_of_last line
            (by rw [TagLine.startsTag_of_respaced hP hspace, htag]) hread' hindent' hbody hblock'
            hlast'
          rw [hnodes, hnodes', List.length_map, Text.utf8Size_append, List.length_append,
            Nat.add_assoc]
          exact .some (List.rel_append (attributes_indented line hhashes) (.cons .tag .nil))

end Gathering

end TemplateLine

namespace Template

variable {w : Text} {ls later : List Text}

/-- The items in the place of others when all lines are indented further by `w`. -/
inductive Item.Indented (w : Text) : Item → Item → Prop where
  | comment {line : Nat} {text : Text} : Indented w (.comment line text) (.comment line text)
  | node {m n : Node} (h : Node.Indented w m n) : Indented w (.node m) (.node n)

theorem forall₂_map_node {nodes nodes' : Option (List Node)}
    (h : Option.Rel (List.Forall₂ (Node.Indented w)) nodes nodes') :
    List.Forall₂ (Item.Indented w) ((nodes.getD []).map .node) ((nodes'.getD []).map .node) := by
  cases h with
  | none => exact .nil
  | some h =>
      exact List.forall₂_map_left_iff.2 (List.forall₂_map_right_iff.2 (h.imp fun _ _ => .node))

section Reindenting

variable (hw : ∀ c ∈ w, isIndent c = true)

include hw

theorem nestedCount_map_indentBy (n : Nat) (later : List Text) :
    nestedCount (w.length + n) (later.map (indentBy w)) = nestedCount n later :=
  nestedCount_map (Text.isNested_indentBy hw n) (Text.isBlankLine_indentBy hw) later

/-- The text of a filter is the same, as what its body is indented further by is taken off
with the rest of the indentation. -/
theorem filterOf_map_indentBy (name : Text) (line : Nat) {body : List Text} (hne : body ≠ [])
    (hlast : ∀ l ∈ body.getLast?, Text.isBlankLine l = false) :
    filterOf name line (body.map (indentBy w)) =
      { filterOf name line body with indent := w ++ (filterOf name line body).indent } := by
  obtain ⟨first, hfirst⟩ : ∃ first, body.find? (fun l => !Text.isBlankLine l) = some first := by
    refine Option.isSome_iff_exists.1 (List.find?_isSome.2 ⟨_, List.getLast_mem hne, ?_⟩)
    rw [hlast _ (List.getLast?_eq_some_getLast hne)]
    rfl
  have hfirst_ne : first ≠ [] := by
    rintro rfl
    cases List.find?_some hfirst
  have hfirst' : (body.map (indentBy w)).find? (fun l => !Text.isBlankLine l) =
      some (indentBy w first) := by
    rw [List.find?_map]
    simp only [Function.comp_def, Text.isBlankLine_indentBy hw, hfirst, Option.map_some]
  have houtdent : (body.map (indentBy w)).map (Text.outdent (w ++ Text.indentation first)) =
      body.map (Text.outdent (Text.indentation first)) := by
    rw [List.map_map]
    exact List.map_congr_left fun l _ => Text.outdent_indentBy hw _ l
  simp only [filterOf, hfirst, hfirst', Option.map_some, Option.getD_some, List.length_map,
    Text.indentation_indentBy hw hfirst_ne]
  exact congrArg (fun ls => Filter.mk _ (Text.unlines ls) _ _) houtdent

theorem filterOf_indented (name : Text) (line n : Nat) (later : List Text) :
    Node.Indented w ⟨line, .filter (filterOf name line (later.take (nestedCount n later)))⟩
      ⟨line, .filter
        (filterOf name line ((later.take (nestedCount n later)).map (indentBy w)))⟩ := by
  have hlast := (isBody_take n later).last
  generalize later.take (nestedCount n later) = body at hlast
  by_cases hbody : body = []
  · rw [hbody]
    exact .empty rfl
  · rw [filterOf_map_indentBy hw name line hbody hlast]
    exact .filter

/-- All items take the same lines. -/
theorem items_indented (line : Nat) (hfeed : ∀ l ∈ ls, '\n' ∉ l) :
    List.Forall₂ (Item.Indented w) (items line ls) (items line (ls.map (indentBy w))) := by
  fun_induction items line ls with
  | case1 line =>
      rw [List.map_nil, items]
      exact .nil
  | case2 line text later hblank ih =>
      rw [List.map_cons, items_of_isBlankLine (by rwa [Text.isBlankLine_indentBy hw])]
      exact ih (forall_mem_drop_of_cons hfeed 0)
  | case3 line text later hblank indent body comment hcomment k ih =>
      have hne : text ≠ [] := fun hnil => hblank (hnil ▸ rfl)
      rw [List.map_cons, items_of_comment (by rwa [Text.isBlankLine_indentBy hw])
        (by rwa [Text.unindented_indentBy hw])
        (by rw [Text.indentation_indentBy hw hne, List.length_append,
          nestedCount_map_indentBy hw]), ← List.map_drop]
      exact .cons .comment (ih (forall_mem_drop_of_cons hfeed k))
  | case4 line text later hblank indent body hcomment name hname k ih =>
      have hne : text ≠ [] := fun hnil => hblank (hnil ▸ rfl)
      rw [List.map_cons, items_of_filter (by rwa [Text.isBlankLine_indentBy hw])
        (by rwa [Text.unindented_indentBy hw]) (by rwa [Text.unindented_indentBy hw])
        (by rw [Text.indentation_indentBy hw hne, List.length_append,
          nestedCount_map_indentBy hw]), ← List.map_drop, ← List.map_take]
      exact .cons (.node (filterOf_indented hw name line _ later))
        (ih (forall_mem_drop_of_cons hfeed k))
  | case5 line text later hblank indent body hcomment hname nodes k hgather ih =>
      have hne : text ≠ [] := fun hnil => hblank (hnil ▸ rfl)
      have hbody : body ≠ [] := fun hnil => hblank <| List.all_eq_true.2 fun c hc =>
        isBlank_of_isIndent (List.dropWhile_eq_nil_iff.1 hnil c hc)
      obtain ⟨hk, hgathers, hnodes⟩ := TemplateLine.gathers_of_gather hgather
      have hgather' := @TemplateLine.gather_append line _ _ _ _ (hgathers.map_indentBy hw)
      rw [← List.map_append, List.take_append_drop, List.length_map, List.length_take,
        Nat.min_eq_left hk] at hgather'
      have hrel := hgathers.rel_nodes? hw line
        (fun hmem => hfeed text List.mem_cons_self ((List.takeWhile_prefix _).subset hmem)) hbody
        (fun hmem => hfeed text List.mem_cons_self ((List.dropWhile_suffix _).subset hmem))
        (fun l hl => hfeed l (List.mem_cons_of_mem text (List.mem_of_mem_take hl)))
      rw [List.map_cons, items_of_gather (by rwa [Text.isBlankLine_indentBy hw])
        (by rwa [Text.unindented_indentBy hw]) (by rwa [Text.unindented_indentBy hw])
        (by rw [Text.indentation_indentBy hw hne, Text.unindented_indentBy hw, hgather']),
        ← List.map_drop, hnodes]
      exact List.rel_append (forall₂_map_node hrel) (ih (forall_mem_drop_of_cons hfeed k))

end Reindenting

/-! ### Templates -/

section Nesting

variable {source : Text} (hw : ∀ c ∈ w, isIndent c = true) (hreturn : '\r' ∉ source)

include hw hreturn

theorem items_nest :
    List.Forall₂ (Item.Indented w) (items 1 (Text.lines source))
      (items 1 (Text.lines (Text.nest w source))) := by
  rw [Text.lines_nest hw hreturn]
  exact items_indented hw 1 fun _ => Text.not_mem_of_mem_lines

theorem nodes_parse_nest (name : Text) :
    List.Forall₂ (Node.Indented w) (parse source name).nodes
      (parse (Text.nest w source) name).nodes := by
  refine List.rel_filterMap ?_ (items_nest hw hreturn)
  rintro _ _ (_ | hn)
  · exact .none
  · exact .some hn

/-- Comments are the same, and so is what they disable. -/
theorem disabled_parse_nest (name : Text) :
    (parse (Text.nest w source) name).disabled = (parse source name).disabled := by
  have hrecord : (items 1 (Text.lines source)).foldl Item.record {} =
      (items 1 (Text.lines (Text.nest w source))).foldl Item.record {} := by
    refine List.rel_foldl (P := Eq) ?_ rfl (items_nest hw hreturn)
    rintro d _ rfl _ _ (_ | _) <;> rfl
  exact congrArg DisabledLines.finish hrecord.symm

theorem enabledNodes_parse_nest (name : Text) :
    List.Forall₂ (Node.Indented w) (parse source name).enabledNodes
      (parse (Text.nest w source) name).enabledNodes := by
  rw [enabledNodes, enabledNodes, disabled_parse_nest hw hreturn name]
  refine List.rel_filter ?_ (nodes_parse_nest hw hreturn name)
  intro m n h
  simp only [h.line_eq]

end Nesting

end Template

/-! ### Extraction -/

/-- The attribute hashes of a node. -/
def Node.hashes (n : Node) : List Text :=
  match n.kind with
  | .attributes hashes => hashes
  | .plain _ | .tag _ | .script _ _ | .filter _ => []

/-- A failure that is `k` characters further to the right. -/
def FragmentError.moveRight (k : Nat) (e : FragmentError) : FragmentError :=
  { e with column := e.column + k }

/-- A warning that is `k` characters further to the right. -/
def LiteralWarning.moveRight (k : Nat) (w : LiteralWarning) : LiteralWarning :=
  { w with column := w.column + k }

theorem FragmentError.ofFragment_add (k : Nat) (file : Text) (line column : Nat) (t : Text)
    (cause : Error) : ofFragment file line (k + column) t cause =
      (ofFragment file line column t cause).moveRight k := by
  simp only [ofFragment, moveRight, mk.injEq, true_and, and_true]
  omega

namespace Extraction

/-- What is found, with warnings that are further to the right. -/
def moveRight (k : Nat) (e : Extraction) : Extraction :=
  { e with warnings := e.warnings.map (LiteralWarning.moveRight k) }

theorem moveRight_of_warnings_eq_nil {e : Extraction} (h : e.warnings = []) (k : Nat) :
    e.moveRight k = e := by
  rw [moveRight, h, List.map_nil, ← h]

theorem concat_map_moveRight (k : Nat) (es : List Extraction) :
    concat (es.map (moveRight k)) = (concat es).moveRight k := by
  simp only [concat, moveRight, List.flatMap_map, List.map_flatMap]

theorem ofScriptCall_add (k : Nat) (file : Text) (line indent : Nat) (p : CallLiteral.Placed) :
    ofScriptCall file line (k + indent) p = (ofScriptCall file line indent p).moveRight k := by
  rw [ofScriptCall, ofScriptCall]
  cases p.literal.decodeScript with
  | ok msgid => rfl
  | error cause =>
      have hcolumn : k + indent + p.before.length + 1 = indent + p.before.length + 1 + k := by omega
      rw [hcolumn]
      rfl

theorem ofScript_add (k : Nat) (file : Text) (line indent : Nat) (codes : List Text) :
    ofScript file line (k + indent) codes = (ofScript file line indent codes).moveRight k := by
  induction codes generalizing line with
  | nil => rfl
  | cons code codes ih =>
      have hcalls : (CallLiteral.inScript code).map (ofScriptCall file line (k + indent)) =
          ((CallLiteral.inScript code).map (ofScriptCall file line indent)).map (moveRight k) := by
        rw [List.map_map]
        exact List.map_congr_left fun p _ => ofScriptCall_add k file line indent p
      rw [ofScript, ofScript, hcalls, ih, concat_map_moveRight, ← concat_map_moveRight k [_, _],
        List.map_cons, List.map_singleton]

theorem ofFragment_add (k : Nat) (file : Text) (line column : Nat) (t : Text) :
    ofFragment file line (k + column) t =
      ((ofFragment file line column t).map (moveRight k)).mapError (.moveRight k) := by
  rw [ofFragment, ofFragment]
  cases Phrase.ofText false t with
  | ok phrase => rfl
  | error cause => exact congrArg _ (FragmentError.ofFragment_add k file line column t cause)

/-- Calls are found with the same literals if none of these takes several lines. -/
theorem ofRuby_of_indents {w s t : Text} (file : Text) (line : Nat)
    (hw : ∀ c ∈ w, isIndent c = true) (h : Respaced (Indents w) s t)
    (hcalls : ∀ p ∈ CallLiteral.inRuby s, '\n' ∉ p.literal.raw) :
    ofRuby file line t = ofRuby file line s := by
  have hliterals : List.Forall₂ (CallLiteral.RespacedLiteral (Indents w))
      ((CallLiteral.inRuby s).map CallLiteral.Placed.literal)
      ((CallLiteral.inRuby t).map CallLiteral.Placed.literal) := by
    rw [CallLiteral.inRuby, CallLiteral.inRuby, CallLiteral.literal_place,
      CallLiteral.literal_place]
    exact CallLiteral.forall₂_scan (Text.isSpacing_indents hw) h
  rw [List.forall₂_map_left_iff, List.forall₂_map_right_iff] at hliterals
  refine congrArg (Extraction.mk · []) (map_eq_of_forall₂ hliterals fun p hp q hpq => ?_)
  rw [CallLiteral.decodeRuby, hpq.2.eq_of_feed_not_mem (hcalls p hp), CallLiteral.decodeRuby]

theorem ofFilter_append_indent (file : Text) (line : Nat) (w : Text) (f : Filter) :
    ofFilter file line { f with indent := w ++ f.indent } =
      (ofFilter file line f).moveRight w.length := by
  obtain ⟨kind, text, indent, endLine⟩ := f
  cases kind with
  | markdown => rfl
  | other name => rfl
  | javascript =>
      simp only [ofFilter, List.length_append]
      exact ofScript_add w.length file (line + 1) indent.length (Text.pieces text)

/-- Nothing is called in an empty filter. -/
theorem warnings_ofFilter_of_text_eq_nil (file : Text) (line : Nat) {f : Filter}
    (h : f.text = []) : (ofFilter file line f).warnings = [] := by
  obtain ⟨kind, text, indent, endLine⟩ := f
  cases kind with
  | markdown => rfl
  | other name => rfl
  | javascript =>
      obtain rfl : text = [] := h
      have hpieces : Text.pieces [] = [[]] := rfl
      simp only [ofFilter, hpieces, ofScript, CallLiteral.inScript_nil]
      rfl

/-- What is found in a node that is indented further is further to the right. -/
theorem ofNode_of_indented {w : Text} {m n : Node} (file : Text) (hw : ∀ c ∈ w, isIndent c = true)
    (h : m.Indented w n)
    (hcalls : ∀ hash ∈ m.hashes, ∀ p ∈ CallLiteral.inRuby hash, '\n' ∉ p.literal.raw) :
    ofNode file n =
      ((ofNode file m).map (moveRight w.length)).mapError (.moveRight w.length) := by
  cases h with
  | plain => exact ofFragment_add _ _ _ _ _
  | @tag line t =>
      obtain ⟨name, action, value, offset, column⟩ := t
      cases hevaluated : action.any TagAction.isEvaluated with
      | true =>
          simp only [ofNode, Tag.isEvaluated, hevaluated, if_true]
          rfl
      | false =>
          simp only [ofNode, Tag.isEvaluated, hevaluated, Bool.false_eq_true, if_false]
          exact ofFragment_add _ _ _ _ _
  | @attributes line hashes hashes' h =>
      have hfound : hashes'.map (ofRuby file line) = hashes.map (ofRuby file line) :=
        map_eq_of_forall₂ h fun hash hmem hash' hhash =>
          ofRuby_of_indents file line hw hhash (hcalls hash hmem)
      have hwarnings : (concat (hashes.map (ofRuby file line))).warnings = [] :=
        List.flatMap_eq_nil_iff.2 (List.forall_mem_map.2 fun _ _ => rfl)
      simp only [ofNode, hfound]
      exact congrArg Except.ok (moveRight_of_warnings_eq_nil hwarnings w.length).symm
  | script => rfl
  | filter => exact congrArg Except.ok (ofFilter_append_indent file _ w _)
  | @empty line f h =>
      have hwarnings := warnings_ofFilter_of_text_eq_nil file line h
      exact congrArg Except.ok (moveRight_of_warnings_eq_nil hwarnings w.length).symm

/-- A template has the same catalog when its lines are indented further by `w`, and the
columns of its failure or of its warnings grow by as much.  A call in an attribute hash
must have its literal on one line; the space would come into the msgid of another. -/
theorem ofTemplate_nest {source w : Text} (name : Text) (hreturn : '\r' ∉ source)
    (hw : ∀ c ∈ w, isIndent c = true)
    (hcalls : ∀ n ∈ (Template.parse source name).nodes, ∀ hash ∈ n.hashes,
      ∀ p ∈ CallLiteral.inRuby hash, '\n' ∉ p.literal.raw) :
    match ofTemplate (Template.parse source name) with
    | .error e =>
        ofTemplate (Template.parse (Text.nest w source) name) =
          .error { e with column := e.column + w.length }
    | .ok found =>
        ∃ found', ofTemplate (Template.parse (Text.nest w source) name) = .ok found' ∧
          found'.catalog = found.catalog ∧
          found'.warnings =
            found.warnings.map fun x => { x with column := x.column + w.length } := by
  have hcalls' : ∀ n ∈ (Template.parse source name).enabledNodes, ∀ hash ∈ n.hashes,
      ∀ p ∈ CallLiteral.inRuby hash, '\n' ∉ p.literal.raw :=
    fun n hn => hcalls n (List.mem_of_mem_filter hn)
  have hnodes : List.Forall₂ (fun m n => ofNode name n =
      ((ofNode name m).map (moveRight w.length)).mapError (.moveRight w.length))
      (Template.parse source name).enabledNodes
      (Template.parse (Text.nest w source) name).enabledNodes := by
    have hindented := Template.enabledNodes_parse_nest hw hreturn name
    refine ((List.forall₂_and_left _ _).2 ⟨hcalls', hindented⟩).imp ?_
    rintro m n ⟨hcalls, h⟩
    exact ofNode_of_indented name hw h hcalls
  have hrun' := mapM_eq_of_forall₂ hnodes
  have htemplate (source : Text) : ofTemplate (Template.parse source name) =
      ((Template.parse source name).enabledNodes.mapM (ofNode name)).map concat := rfl
  rw [htemplate, htemplate, hrun']
  cases (Template.parse source name).enabledNodes.mapM (ofNode name) with
  | error e => exact rfl
  | ok found =>
      have hconcat := concat_map_moveRight w.length found
      have hcatalog := congrArg catalog hconcat
      exact ⟨_, rfl, hcatalog, congrArg warnings hconcat⟩

/-- An attribute hash with a call on its second line, a fragment of text, and a script with
a literal that cannot be decoded. -/
theorem ofTemplate_nest_mixed :
    let source := "%a\x7bb: 1,\n c: _('x')\x7d Hi\n:javascript\n  f(_('\\u'))\n".toList
    let nested := "\t %a\x7bb: 1,\n\t  c: _('x')\x7d Hi\n\t :javascript\n\t   f(_('\\u'))\n".toList
    let cause : Error := .malformedLiteral "\\u".toList
      "EOF while parsing a string at line 1 column 4".toList
    let found : Extraction := ⟨[⟨"x".toList, ⟨[], 1⟩⟩, ⟨"Hi".toList, ⟨[], 2⟩⟩], [⟨4, 5, cause⟩]⟩
    ofTemplate (Template.parse source []) = .ok found ∧
      ∃ found', ofTemplate (Template.parse nested []) = .ok found' ∧
        found'.catalog = found.catalog ∧ found'.warnings = [⟨4, 7, cause⟩] := by
  intro source nested cause found
  have hfound : ofTemplate (Template.parse source []) = .ok found := by decide +kernel
  have hnested : nested = Text.nest ['\t', ' '] source := by decide +kernel
  have hsame := @ofTemplate_nest source ['\t', ' '] [] (by decide) (by simp [isIndent])
    (by decide +kernel)
  rw [hfound, ← hnested] at hsame
  exact ⟨hfound, hsame⟩

end Extraction

end Phrasebook
