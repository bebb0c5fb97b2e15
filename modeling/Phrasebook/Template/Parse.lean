import Phrasebook.Template.Line

/-!
Splitting a template into its parts.

The lines are read from the top.  A silent comment and a filter each take the
lines nested below them; a tag whose attribute groups are open takes further
lines until they close; every other line stands alone.
-/

namespace Phrasebook.Template

/-- A template read from a stream has no path. -/
def streamName : Text := "(haml)".toList

/-- What a template is made of, in order. -/
inductive Item where
  | comment (line : Nat) (text : Text)
  | node (n : Node)
  deriving DecidableEq, Repr

/-- A line nested below one that is indented by `indent` characters. -/
def isNested (indent : Nat) (line : Text) : Bool :=
  Text.isBlankLine line || indent < (Text.indentation line).length

/-- The number of lines at the front of `later` that are nested below a line
indented by `indent` characters; the last of them is not blank. -/
def nestedCount (indent : Nat) (later : List Text) : Nat :=
  ((later.takeWhile (isNested indent)).reverse.dropWhile Text.isBlankLine).length

/-- The name of the filter that a line body starts, if it starts one. -/
def filterName? (body : Text) : Option Text :=
  match body with
  | ':' :: t =>
      let (name, rest) := Text.cut TagLine.isNameChar t
      if name.isEmpty || !Text.isBlankLine rest then none else some name
  | _ => none

/-- The filter named `name` on line `line` with the given body lines.  The
indentation of its first line that is not blank is taken off each line as far
as that line is indented. -/
def filterOf (name : Text) (line : Nat) (body : List Text) : Filter :=
  let indent := ((body.find? fun l => !Text.isBlankLine l).map Text.indentation).getD []
  { kind := FilterKind.ofName name
    text := Text.unlines
      (body.map fun l => l.drop (min (Text.indentation l).length indent.length))
    indent := indent
    endLine := line + body.length }

/-- The items of the lines from line `line` on. -/
def items (line : Nat) : List Text → List Item
  | [] => []
  | text :: later =>
      if Text.isBlankLine text then items (line + 1) later
      else
        let indent := Text.indentation text
        let body := Text.unindented text
        match Text.afterLead? ['-', '#'] body with
        | some comment =>
            let n := nestedCount indent.length later
            .comment line comment :: items (line + 1 + n) (later.drop n)
        | none =>
            match filterName? body with
            | some name =>
                let n := nestedCount indent.length later
                .node ⟨line, .filter (filterOf name line (later.take n))⟩ ::
                  items (line + 1 + n) (later.drop n)
            | none =>
                let (nodes, n) := TemplateLine.gather line indent body later
                nodes.map .node ++ items (line + 1 + n) (later.drop n)
  termination_by ls => ls.length
  decreasing_by all_goals simp only [List.length_cons, List.length_drop]; omega

section Steps

variable {line k : Nat} {text : Text} {later : List Text}

theorem items_of_isBlankLine (h : Text.isBlankLine text = true) :
    items line (text :: later) = items (line + 1) later := by
  rw [items, if_pos h]

theorem items_of_comment {comment : Text} (hblank : ¬ Text.isBlankLine text = true)
    (hcomment : Text.afterLead? ['-', '#'] (Text.unindented text) = some comment)
    (hk : nestedCount (Text.indentation text).length later = k) :
    items line (text :: later) =
      .comment line comment :: items (line + 1 + k) (later.drop k) := by
  rw [items, if_neg hblank]
  simp only [hcomment, hk]

theorem items_of_filter {name : Text} (hblank : ¬ Text.isBlankLine text = true)
    (hcomment : Text.afterLead? ['-', '#'] (Text.unindented text) = none)
    (hname : filterName? (Text.unindented text) = some name)
    (hk : nestedCount (Text.indentation text).length later = k) :
    items line (text :: later) =
      .node ⟨line, .filter (filterOf name line (later.take k))⟩ ::
        items (line + 1 + k) (later.drop k) := by
  rw [items, if_neg hblank]
  simp only [hcomment, hname, hk]

theorem items_of_gather {nodes : List Node} (hblank : ¬ Text.isBlankLine text = true)
    (hcomment : Text.afterLead? ['-', '#'] (Text.unindented text) = none)
    (hname : filterName? (Text.unindented text) = none)
    (hgather : TemplateLine.gather line (Text.indentation text) (Text.unindented text) later =
      (nodes, k)) :
    items line (text :: later) =
      nodes.map .node ++ items (line + 1 + k) (later.drop k) := by
  rw [items, if_neg hblank]
  simp only [hcomment, hname, hgather]

end Steps

/-- The node that an item is. -/
def Item.node? : Item → Option Node
  | .comment _ _ => none
  | .node n => some n

/-- The effect of an item on the disabled lines. -/
def Item.record (d : DisabledLines) : Item → DisabledLines
  | .comment line text => d.record line text
  | .node _ => d

/-- The template made of the given items. -/
def ofItems (name : Text) (items : List Item) : Template where
  name := name
  nodes := items.filterMap Item.node?
  disabled := (items.foldl Item.record {}).finish

def parse (source name : Text) : Template :=
  ofItems name (items 1 (Text.lines source))

end Phrasebook.Template
