import Phrasebook.Proofs.Lines
import Phrasebook.Template.Parse

/-!
What holds of every node that a template is parsed into: no blank character
ends its text, a line of plain text is not empty, and the body of a filter is
made of the source lines after its header, the last of which is not blank.
-/

namespace Phrasebook

/-- A node as the parser makes it from the given lines. -/
inductive Node.Parsed (sourceLines : List Text) : Node → Prop where
  | plain {line : Nat} {p : PlainText} (hne : p.text ≠ []) (htrimmed : Text.Trimmed p.text) :
      Parsed sourceLines ⟨line, .plain p⟩
  | tag {line : Nat} {t : Tag} (htrimmed : Text.Trimmed t.value) :
      Parsed sourceLines ⟨line, .tag t⟩
  | attributes {line : Nat} {hashes : List Text} : Parsed sourceLines ⟨line, .attributes hashes⟩
  | script {line : Nat} {code : Text} {silent : Bool} :
      Parsed sourceLines ⟨line, .script code silent⟩
  | filter {line : Nat} {name : Text} {body later : List Text}
      (hbody : sourceLines.drop line = body ++ later)
      (hlast : ∀ l ∈ body.getLast?, Text.isBlankLine l = false) :
      Parsed sourceLines ⟨line, .filter (Template.filterOf name line body)⟩

variable {sourceLines : List Text} {n : Node}

theorem mem_of_mem_body {line : Nat} {body later : List Text}
    (hbody : sourceLines.drop line = body ++ later) {t : Text} (ht : t ∈ body) :
    t ∈ sourceLines := by
  have hmem : t ∈ sourceLines.drop line := by
    rw [hbody]
    exact List.mem_append_left later ht
  exact List.mem_of_mem_drop hmem

namespace TemplateLine

theorem parsed_of_mem_plain {line : Nat} {before rest : Text} {escape : Option Bool}
    (h : n ∈ plain line before escape rest) : n.Parsed sourceLines := by
  simp only [plain] at h
  split at h
  · simp at h
  · rename_i hne
    rw [List.mem_singleton] at h
    subst h
    exact .plain (by simpa using hne) (Text.trimmed_trimEnd _)

theorem parsed_of_mem_script {line : Nat} {code : Text} {silent : Bool}
    (h : n ∈ script line code silent) : n.Parsed sourceLines := by
  rw [script, List.mem_singleton] at h
  subst h
  exact .script

theorem parsed_of_mem_tag {line : Nat} {before body : Text} {nodes : List Node}
    (h : TagLine.nodes? line before body = some nodes) (hn : n ∈ nodes) :
    n.Parsed sourceLines := by
  obtain ⟨head, -, heq⟩ := Option.bind_eq_some_iff.1 h
  have htag (m : Nat) (a b : Nat) : Node.Parsed sourceLines
      ⟨m, .tag ⟨head.name, head.action, Text.trimEnd head.rest, a, b⟩⟩ :=
    .tag (Text.trimmed_trimEnd _)
  cases heq
  split at hn
  · rw [List.mem_singleton] at hn
    subst hn
    exact htag _ _ _
  · rcases List.mem_cons.1 hn with rfl | hn
    · exact .attributes
    · rw [List.mem_singleton] at hn
      subst hn
      exact htag _ _ _

theorem parsed_of_mem_nodes? {line : Nat} {indent body : Text} {nodes : List Node}
    (h : nodes? line indent body = some nodes) (hn : n ∈ nodes) : n.Parsed sourceLines := by
  unfold nodes? at h
  split at h
  · exact parsed_of_mem_tag h hn
  · rw [Option.some.injEq] at h
    subst h
    split at hn
    · simp at hn
    · simp at hn
    all_goals
      first
      | exact parsed_of_mem_plain hn
      | exact parsed_of_mem_script hn

/-- Lines are gathered until a line body gives nodes; otherwise there are none. -/
theorem parsed_of_mem_gather {line : Nat} {indent body : Text} {later : List Text}
    (h : n ∈ (gather line indent body later).1) : n.Parsed sourceLines := by
  induction later generalizing body with
  | nil =>
      rw [gather] at h
      cases hnodes : nodes? line indent body with
      | none => simp [hnodes] at h
      | some nodes =>
          rw [hnodes] at h
          exact parsed_of_mem_nodes? hnodes h
  | cons next later ih =>
      rw [gather] at h
      split at h
      · rename_i nodes hnodes
        exact parsed_of_mem_nodes? hnodes h
      · split at h
        · exact ih h
        · simp at h

end TemplateLine

namespace Template

/-- The lines nested below a line, up to the last one that is not blank. -/
theorem take_nestedCount (indent : Nat) (later : List Text) :
    later.take (nestedCount indent later) =
      (later.takeWhile (isNested indent)).rdropWhile Text.isBlankLine := by
  have hnested : (later.takeWhile (isNested indent)).rdropWhile Text.isBlankLine <+: later :=
    (List.rdropWhile_prefix _ _).trans (List.takeWhile_prefix _)
  have hlength : nestedCount indent later =
      ((later.takeWhile (isNested indent)).rdropWhile Text.isBlankLine).length := by
    simp [nestedCount, List.rdropWhile]
  rw [hlength]
  exact (List.prefix_iff_eq_take.1 hnested).symm

theorem isBlankLine_of_mem_take_nestedCount {indent : Nat} {later : List Text} {l : Text}
    (h : l ∈ (later.take (nestedCount indent later)).getLast?) :
    Text.isBlankLine l = false := by
  rw [take_nestedCount] at h
  have hne : (later.takeWhile (isNested indent)).rdropWhile Text.isBlankLine ≠ [] := by
    intro hnil
    simp [hnil] at h
  rw [List.getLast?_eq_some_getLast hne, Option.mem_some_iff] at h
  subst h
  simpa using List.rdropWhile_last_not Text.isBlankLine _ hne

theorem filterMap_node?_map (nodes : List Node) :
    (nodes.map Item.node).filterMap Item.node? = nodes := by
  rw [List.filterMap_map]
  exact List.filterMap_some

section Later

variable {line : Nat} {text : Text} {later : List Text}

/-- Whatever lines an item takes, those after them are the lines from there on. -/
theorem drop_of_cons (hline : 1 ≤ line) (hls : sourceLines.drop (line - 1) = text :: later)
    (k : Nat) : sourceLines.drop (line + 1 + k - 1) = later.drop k := by
  have hplace : line + 1 + k - 1 = line - 1 + (k + 1) := by omega
  rw [hplace, ← List.drop_drop, hls, List.drop_succ_cons]

theorem forall_mem_drop_of_cons {P : Text → Prop} (h : ∀ l ∈ text :: later, P l) (k : Nat) :
    ∀ l ∈ later.drop k, P l :=
  fun l hl => h l (List.mem_cons_of_mem text (List.mem_of_mem_drop hl))

end Later

/-- Where a node comes from: it is the filter of a header line, or it is among the nodes that
lines are gathered for, of which the first is not blank. -/
inductive Origin (sourceLines : List Text) : Node → Prop where
  | filter {first : Nat} {text name : Text} {later : List Text} (hfirst : 1 ≤ first)
      (hlines : sourceLines.drop (first - 1) = text :: later) :
      Origin sourceLines ⟨first, .filter (filterOf name first
        (later.take (nestedCount (Text.indentation text).length later)))⟩
  | gathered {first k : Nat} {text : Text} {later : List Text} {nodes : List Node} {n : Node}
      (hfirst : 1 ≤ first) (hlines : sourceLines.drop (first - 1) = text :: later)
      (hgather : TemplateLine.gather first (Text.indentation text) (Text.unindented text) later =
        (nodes, k)) (hn : n ∈ nodes) : Origin sourceLines n

theorem origin_of_mem_items {line : Nat} {ls : List Text} (hline : 1 ≤ line)
    (hls : sourceLines.drop (line - 1) = ls)
    (h : n ∈ (items line ls).filterMap Item.node?) : Origin sourceLines n := by
  fun_induction items line ls with
  | case1 line => simp at h
  | case2 line text later hblank ih =>
      exact ih (by omega) (drop_of_cons hline hls 0) h
  | case3 line text later hblank indent body comment hcomment k ih =>
      rw [List.filterMap_cons_none rfl] at h
      exact ih (by omega) (drop_of_cons hline hls k) h
  | case4 line text later hblank indent body hcomment name hname k ih =>
      simp only [List.filterMap_cons, Item.node?, List.mem_cons] at h
      rcases h with rfl | h
      · exact .filter hline hls
      · exact ih (by omega) (drop_of_cons hline hls k) h
  | case5 line text later hblank indent body hcomment hname nodes k hgather ih =>
      simp only [List.filterMap_append, filterMap_node?_map, List.mem_append] at h
      rcases h with h | h
      · exact .gathered hline hls hgather h
      · exact ih (by omega) (drop_of_cons hline hls k) h

theorem origin_of_mem_parse {source name : Text} (h : n ∈ (parse source name).nodes) :
    Origin (Text.lines source) n :=
  origin_of_mem_items Nat.le.refl rfl h

/-- Every node is made from the lines of its source. -/
theorem Origin.parsed (h : Origin sourceLines n) : n.Parsed sourceLines := by
  cases h with
  | @filter first text name later hfirst hlines =>
      let k := nestedCount (Text.indentation text).length later
      have hbody : sourceLines.drop first = later.take k ++ later.drop k := by
        rw [List.take_append_drop]
        exact drop_of_cons hfirst hlines 0
      exact .filter hbody fun l => isBlankLine_of_mem_take_nestedCount
  | @gathered first k text later nodes n hfirst hlines hgather hn =>
      have hn' : n ∈ (TemplateLine.gather first (Text.indentation text)
          (Text.unindented text) later).1 := by
        rw [hgather]
        exact hn
      exact TemplateLine.parsed_of_mem_gather hn'

theorem parsed_of_mem_parse {source name : Text} (h : n ∈ (parse source name).nodes) :
    n.Parsed (Text.lines source) :=
  (origin_of_mem_parse h).parsed

theorem parsed_of_mem_enabledNodes {source name : Text}
    (h : n ∈ (parse source name).enabledNodes) : n.Parsed (Text.lines source) :=
  parsed_of_mem_parse (List.mem_of_mem_filter h)

end Template

end Phrasebook
