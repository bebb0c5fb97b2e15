import Phrasebook.Proofs.Extents

/-!
Outlines of templates.

The outline of a template tells what it is made of and not where that stands.
Which parts some lines are read as depends on the lines alone, so their outline is
the same from whatever line on they are numbered.
-/

namespace Phrasebook

/-- A part of a template without its place. -/
inductive Outline where
  | plain (text : Text) (escape : Option Bool)
  | tag (name : Text) (action : Option TagAction) (value : Text)
  | attributes
  | script (code : Text) (silent : Bool)
  | filter (kind : FilterKind)
  deriving DecidableEq, Repr

def Node.outline (n : Node) : Outline :=
  match n.kind with
  | .plain p => .plain p.text p.escape
  | .tag t => .tag t.name t.action t.value
  | .attributes _ => .attributes
  | .script code silent => .script code silent
  | .filter f => .filter f.kind

/-! ### Line bodies -/

namespace TagLine

def Head.outline (h : Head) : List Outline :=
  let tag : Outline := .tag h.name h.action (Text.trimEnd h.rest)
  if h.hashes.isEmpty then [tag] else [.attributes, tag]

theorem map_outline_nodes? (line : Nat) (before body : Text) :
    (nodes? line before body).map (List.map Node.outline) = (read? body).map Head.outline := by
  cases hread : read? body with
  | none => simp [nodes?, hread]
  | some head =>
      simp only [nodes?, hread, Option.bind_eq_bind, Option.bind_some, Option.pure_def,
        Option.map_some, Head.outline]
      split <;> rfl

end TagLine

namespace TemplateLine

/-- The outline of literal text. -/
def plainOutline (escape : Option Bool) (rest : Text) : List Outline :=
  let text := Text.trimEnd (Text.unindented rest)
  if text.isEmpty then [] else [.plain text escape]

theorem map_outline_plain (line : Nat) (before : Text) (escape : Option Bool) (rest : Text) :
    (plain line before escape rest).map Node.outline = plainOutline escape rest := by
  simp only [plain, plainOutline]
  split <;> rfl

def scriptOutline (code : Text) (silent : Bool) : List Outline :=
  [.script (Text.trim code) silent]

theorem map_outline_script (line : Nat) (code : Text) (silent : Bool) :
    (script line code silent).map Node.outline = scriptOutline code silent := rfl

/-- The outline of a line body that is no tag. -/
def lineOutline (body : Text) : List Outline :=
  match body with
  | '!' :: '!' :: '!' :: _ => []
  | '/' :: _ => []
  | '\\' :: rest => plainOutline none rest
  | '=' :: code => scriptOutline code false
  | '~' :: code => scriptOutline code false
  | '&' :: '=' :: code => scriptOutline code false
  | '!' :: '=' :: code => scriptOutline code false
  | '&' :: rest => plainOutline (some true) rest
  | '!' :: rest => plainOutline (some false) rest
  | '-' :: code => scriptOutline code true
  | body => plainOutline none body

/-- The outline of a line body; `none` where a group is open at its end. -/
def outline? (body : Text) : Option (List Outline) :=
  if TagLine.startsTag body then (TagLine.read? body).map TagLine.Head.outline
  else some (lineOutline body)

theorem map_outline_nodes? (line : Nat) (indent body : Text) :
    (nodes? line indent body).map (List.map Node.outline) = outline? body := by
  unfold outline? nodes? lineOutline
  split
  · exact TagLine.map_outline_nodes? line indent body
  · rw [Option.map_some]
    split <;> simp [map_outline_plain, map_outline_script]

/-- The outline of the lines that are gathered for a line body. -/
theorem map_outline_gather {indent body : Text} {block rest : List Text} (line : Nat)
    (h : Gathers indent.length body block rest) :
    (gather line indent body (block ++ rest)).1.map Node.outline =
      (outline? (gathered body block)).getD [] := by
  rw [gather_append h, ← map_outline_nodes? line indent]
  cases nodes? line indent (gathered body block) <;> rfl

end TemplateLine

/-! ### Lines -/

namespace Template

/-- The outline of the lines from line `line` on. -/
def outline (line : Nat) (ls : List Text) : List Outline :=
  ((items line ls).filterMap Item.node?).map Node.outline

variable {line : Nat} {text : Text} {block rest later : List Text}

@[simp] theorem outline_nil (line : Nat) : outline line [] = [] := by
  simp [outline, items]

theorem outline_of_isBlankLine (h : Text.isBlankLine text = true) :
    outline line (text :: later) = outline (line + 1) later := by
  rw [outline, items_of_isBlankLine h, outline]

/-- A comment takes the lines nested below it. -/
theorem outline_of_comment (hblank : Text.isBlankLine text = false)
    (hcomment : Text.startsWith ['-', '#'] (Text.unindented text) = true) :
    let n := nestedCount (Text.indentation text).length later
    outline line (text :: later) = outline (line + 1 + n) (later.drop n) := by
  obtain ⟨comment, hlead⟩ := Option.isSome_iff_exists.1 hcomment
  rw [outline, items_of_comment (by simp [hblank]) hlead rfl]
  rfl

/-- A filter takes the lines nested below it. -/
theorem outline_of_filter {name : Text} (hblank : Text.isBlankLine text = false)
    (hcomment : Text.startsWith ['-', '#'] (Text.unindented text) = false)
    (hname : filterName? (Text.unindented text) = some name) :
    let n := nestedCount (Text.indentation text).length later
    outline line (text :: later) =
      .filter (FilterKind.ofName name) :: outline (line + 1 + n) (later.drop n) := by
  have hlead := Option.isSome_eq_false_iff.1 hcomment
  rw [outline, items_of_filter (by simp [hblank]) (Option.isNone_iff_eq_none.1 hlead) hname rfl]
  rfl

/-- A line that is not blank and starts neither a comment nor a filter. -/
structure IsContent (text : Text) : Prop where
  blank : Text.isBlankLine text = false
  comment : Text.startsWith ['-', '#'] (Text.unindented text) = false
  filter : filterName? (Text.unindented text) = none

/-- A line of content takes the lines that are gathered for it. -/
theorem outline_of_gathers (hcontent : IsContent text)
    (h : TemplateLine.Gathers (Text.indentation text).length (Text.unindented text) block rest) :
    outline line (text :: (block ++ rest)) =
      (TemplateLine.outline? (TemplateLine.gathered (Text.unindented text) block)).getD [] ++
        outline (line + 1 + block.length) rest := by
  obtain ⟨hblank, hcomment, hname⟩ := hcontent
  have hlead := Option.isSome_eq_false_iff.1 hcomment
  have hgather : TemplateLine.gather line _ _ (block ++ rest) = _ :=
    TemplateLine.gather_append h
  rw [outline, items_of_gather (by simp [hblank]) (Option.isNone_iff_eq_none.1 hlead) hname hgather,
    ← TemplateLine.map_outline_gather line h]
  simp only [hgather, List.drop_left, List.filterMap_append, filterMap_node?_map, List.map_append]
  rfl

end Template

end Phrasebook
