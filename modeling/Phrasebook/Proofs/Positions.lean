import Phrasebook.Proofs.Extents

/-!
Where text and values stand.

The parser cuts the text of a node off its line, behind some front part of the line and
before the blank characters at its end.  That front part is what the offset and the
column of the node measure.  On a tag that is spread over several lines it is a part of
the last one, where the value is.
-/

namespace Phrasebook

/-! ### Text on a line -/

namespace Text

/-- A text is part of a line from a byte offset and a column on, and only blank
characters come after it. -/
def StandsOn (l t : Text) (offset column : Nat) : Prop :=
  ∃ lead blanks, l = lead ++ t ++ blanks ∧ isBlankLine blanks = true ∧
    offset = utf8Size lead ∧ column = lead.length + 1

theorem standsOn_trimEnd (lead rest : Text) :
    StandsOn (lead ++ rest) (trimEnd rest) (utf8Size lead) (lead.length + 1) := by
  refine ⟨lead, rest.rtakeWhile isBlank, ?_, ?_, rfl, rfl⟩
  · rw [List.append_assoc, trimEnd, dropEnd_eq_rdropWhile, List.rdropWhile_append_rtakeWhile]
  · exact List.all_eq_true.2 fun c hc => List.mem_rtakeWhile_imp hc

theorem takeBytes?_append (s t : Text) : takeBytes? (s ++ t) (utf8Size s) = some s := by
  induction s with
  | nil => cases t <;> rfl
  | cons c s ih =>
      obtain ⟨k, hk⟩ := Nat.exists_eq_succ_of_ne_zero (Nat.ne_of_gt c.utf8Size_pos)
      have hsize : utf8Size (c :: s) = (k + utf8Size s) + 1 := by
        rw [utf8Size_cons, hk]
        omega
      rw [hsize, List.cons_append, takeBytes?, if_pos (by omega)]
      have hrest : k + utf8Size s + 1 - c.utf8Size = utf8Size s := by omega
      rw [hrest, ih]
      rfl

end Text

/-- The text of a node is part of a line, at the offset and column that the node has. -/
def Node.StandsOn (l : Text) (n : Node) : Prop :=
  match n.kind with
  | .plain p => Text.StandsOn l p.text p.offset p.column
  | .tag t => Text.StandsOn l t.value t.offset t.column
  | .attributes _ | .script _ _ | .filter _ => True

/-! ### Single lines -/

namespace TemplateLine

variable {line : Nat} {indent body : Text} {nodes : List Node} {n : Node}

theorem standsOn_of_mem_plain {before rest : Text} {escape : Option Bool}
    (h : n ∈ plain line before escape rest) : n.line = line ∧ n.StandsOn (before ++ rest) := by
  simp only [plain] at h
  split at h
  · cases h
  · rw [List.mem_singleton] at h
    subst h
    refine ⟨rfl, ?_⟩
    have hrest : before ++ rest = (before ++ Text.indentation rest) ++ Text.unindented rest := by
      rw [List.append_assoc]
      congr 1
      exact List.takeWhile_append_dropWhile.symm
    rw [hrest]
    exact Text.standsOn_trimEnd _ _

theorem standsOn_of_mem_script {code : Text} {silent : Bool} (h : n ∈ script line code silent)
    (l : Text) : n.line = line ∧ n.StandsOn l := by
  rw [script, List.mem_singleton] at h
  subst h
  exact ⟨rfl, trivial⟩

theorem standsOn_of_not_startsTag (h : nodes? line indent body = some nodes)
    (htag : TagLine.startsTag body = false) (hn : n ∈ nodes) :
    n.line = line ∧ n.StandsOn (indent ++ body) := by
  have hmarked {c : Char} {rest : Text} {escape : Option Bool}
      (hn : n ∈ plain line (indent ++ [c]) escape rest) :
      n.line = line ∧ n.StandsOn (indent ++ c :: rest) := by
    have hplain := standsOn_of_mem_plain hn
    rwa [List.append_assoc, List.singleton_append] at hplain
  simp only [nodes?, htag, Bool.false_eq_true, if_false, Option.some.injEq] at h
  subst h
  split at hn
  · cases hn
  · cases hn
  · exact hmarked hn
  · exact standsOn_of_mem_script hn _
  · exact standsOn_of_mem_script hn _
  · exact standsOn_of_mem_script hn _
  · exact standsOn_of_mem_script hn _
  · exact hmarked hn
  · exact hmarked hn
  · exact standsOn_of_mem_script hn _
  · exact standsOn_of_mem_plain hn

end TemplateLine

/-! ### Tags -/

/-- The nodes of a tag whose value comes after `lead` on the last of its lines. -/
theorem TagLine.nodes?_of_read? {before w s lead : Text} {head : Head} (line : Nat)
    (hread : read? (w ++ head.rest) = some head) (hfront : before ++ w = s ++ lead)
    (hs : s = [] ∨ ∃ r, s = r ++ ['\n']) (hlead : '\n' ∉ lead) :
    nodes? line before (w ++ head.rest) =
      some ((if head.hashes.isEmpty then [] else [⟨line, .attributes head.hashes⟩]) ++
        [⟨line + s.count '\n', .tag ⟨head.name, head.action, Text.trimEnd head.rest,
          Text.utf8Size lead, lead.length + 1⟩⟩]) := by
  have htake : (w ++ head.rest).take ((w ++ head.rest).length - head.rest.length) = w := by
    rw [List.length_append, Nat.add_sub_cancel, List.take_left]
  have hspan : ((s ++ lead).reverse.takeWhile (· ≠ '\n')).reverse = lead := by
    have hrest : s.reverse.takeWhile (· ≠ '\n') = [] := by
      rcases hs with rfl | ⟨r, rfl⟩ <;> simp
    rw [List.reverse_append, List.takeWhile_append_of_pos, hrest, List.append_nil,
      List.reverse_reverse]
    intro c hc
    have hne : c ≠ '\n' := by
      rintro rfl
      exact hlead (List.mem_reverse.1 hc)
    simpa using hne
  have hcount : (s ++ lead).count '\n' = s.count '\n' := by
    rw [List.count_append, List.count_eq_zero.2 hlead, Nat.add_zero]
  simp only [nodes?, hread, Option.bind_eq_bind, Option.bind_some, Option.pure_def, htake, hfront,
    hspan, hcount]
  split <;> rfl

namespace TemplateLine

variable {line : Nat} {indent body : Text} {block rest later : List Text} {nodes : List Node}
  {n : Node}

/-- A tag stands on the last of the lines that it takes. -/
theorem Gathers.nodes?_eq {head : TagLine.Head} (line : Nat)
    (h : Gathers indent.length body block rest)
    (htag : TagLine.startsTag (gathered body block) = true)
    (hread : TagLine.read? (gathered body block) = some head) (hindent : '\n' ∉ indent)
    (hbody : '\n' ∉ body) (hblock : ∀ l ∈ block, '\n' ∉ l) :
    ∃ lead, ((indent ++ body) :: block)[block.length]? = some (lead ++ head.rest) ∧
      nodes? line indent (gathered body block) =
        some ((if head.hashes.isEmpty then [] else [⟨line, .attributes head.hashes⟩]) ++
          [⟨line + block.length, .tag ⟨head.name, head.action, Text.trimEnd head.rest,
            Text.utf8Size lead, lead.length + 1⟩⟩]) := by
  rw [nodes?_of_startsTag htag]
  rcases h.rest_cases hread with ⟨rfl, w, hw⟩ | ⟨init, lead, rfl, -⟩
  · subst hw
    rw [gathered_nil] at hread ⊢
    have hfront : '\n' ∉ indent ++ w := by
      rw [List.mem_append, not_or]
      exact ⟨hindent, fun hmem => hbody (List.mem_append_left _ hmem)⟩
    refine ⟨indent ++ w, by simp, ?_⟩
    exact TagLine.nodes?_of_read? line hread (List.nil_append _).symm (.inl rfl) hfront
  · have hgathered : gathered body (init ++ [lead ++ head.rest]) =
        (gathered body init ++ '\n' :: lead) ++ head.rest := by
      simp [gathered_append_singleton]
    have hfront : indent ++ (gathered body init ++ '\n' :: lead) =
        (indent ++ gathered body init ++ ['\n']) ++ lead := by simp
    have hlead : '\n' ∉ lead := fun hmem =>
      hblock (lead ++ head.rest) (by simp) (List.mem_append_left _ hmem)
    have hcount : (indent ++ gathered body init ++ ['\n']).count '\n' =
        (init ++ [lead ++ head.rest]).length := by
      rw [List.count_append, List.count_append, List.count_eq_zero.2 hindent,
        count_gathered hbody fun l hl => hblock l (by simp [hl]), List.count_singleton_self,
        List.length_append, List.length_singleton, Nat.zero_add]
    refine ⟨lead, by simp, ?_⟩
    rw [hgathered] at hread ⊢
    rw [TagLine.nodes?_of_read? line hread hfront (.inr ⟨_, rfl⟩) hlead, hcount]

/-- What comes before the value on that line tells its place. -/
theorem Gathers.nodes?_eq_of_last {head : TagLine.Head} {lead : Text} (line : Nat)
    (h : Gathers indent.length body block rest)
    (htag : TagLine.startsTag (gathered body block) = true)
    (hread : TagLine.read? (gathered body block) = some head) (hindent : '\n' ∉ indent)
    (hbody : '\n' ∉ body) (hblock : ∀ l ∈ block, '\n' ∉ l)
    (hlast : ((indent ++ body) :: block)[block.length]? = some (lead ++ head.rest)) :
    nodes? line indent (gathered body block) =
      some ((if head.hashes.isEmpty then [] else [⟨line, .attributes head.hashes⟩]) ++
        [⟨line + block.length, .tag ⟨head.name, head.action, Text.trimEnd head.rest,
          Text.utf8Size lead, lead.length + 1⟩⟩]) := by
  obtain ⟨lead', hlast', heq⟩ := h.nodes?_eq line htag hread hindent hbody hblock
  obtain rfl := List.append_cancel_right (Option.some.inj (hlast.symm.trans hlast'))
  exact heq

/-! ### Nodes of a template -/

theorem standsOn_of_gathers (h : Gathers indent.length body block rest)
    (hnodes : nodes? line indent (gathered body block) = some nodes) (hindent : '\n' ∉ indent)
    (hbody : '\n' ∉ body) (hblock : ∀ l ∈ block, '\n' ∉ l) (hn : n ∈ nodes) :
    ∃ k l, n.line = line + k ∧ ((indent ++ body) :: block)[k]? = some l ∧ n.StandsOn l := by
  cases htag : TagLine.startsTag (gathered body block) with
  | false =>
      obtain rfl := h.eq_nil_of_startsTag_eq_false htag
      rw [gathered_nil] at hnodes htag
      obtain ⟨hline, hstands⟩ := standsOn_of_not_startsTag hnodes htag hn
      exact ⟨0, indent ++ body, hline, rfl, hstands⟩
  | true =>
      have hread := hnodes
      rw [nodes?_of_startsTag htag] at hread
      obtain ⟨head, -, -, hhead, -⟩ := TagLine.nodes?_eq_some hread
      obtain ⟨lead, hlast, heq⟩ := h.nodes?_eq line htag hhead hindent hbody hblock
      obtain rfl := Option.some.inj (hnodes.symm.trans heq)
      rcases List.mem_append.1 hn with hn | hn
      · split at hn
        · cases hn
        · rw [List.mem_singleton] at hn
          subst hn
          exact ⟨0, indent ++ body, rfl, rfl, trivial⟩
      · rw [List.mem_singleton] at hn
        subst hn
        exact ⟨block.length, lead ++ head.rest, rfl, hlast, Text.standsOn_trimEnd lead head.rest⟩

end TemplateLine

namespace Template

variable {sourceLines : List Text} {n : Node}

/-- Nodes that there are have been read. -/
theorem exists_of_mem_getD {found : Option (List Node)} {nodes : List Node}
    (hnodes : nodes = found.getD []) (hn : n ∈ nodes) : ∃ ms, found = some ms ∧ nodes = ms := by
  cases found with
  | none =>
      subst hnodes
      exact absurd hn List.not_mem_nil
  | some ms => exact ⟨ms, rfl, hnodes⟩

theorem Origin.standsOn (h : Origin sourceLines n) (hfeed : ∀ l ∈ sourceLines, '\n' ∉ l) :
    ∃ l, sourceLines[n.line - 1]? = some l ∧ n.StandsOn l := by
  cases h with
  | @filter first text name later hfirst hlines =>
      refine ⟨text, ?_, trivial⟩
      rw [← List.head?_drop, hlines, List.head?_cons]
  | @gathered first k text later nodes n hfirst hlines hgather hn =>
      have hfeed' : ∀ l ∈ text :: later, '\n' ∉ l := fun l hl =>
        hfeed l (List.mem_of_mem_drop (hlines ▸ hl))
      obtain ⟨hk, hgathers, hnodes⟩ := TemplateLine.gathers_of_gather hgather
      obtain ⟨found, hread, rfl⟩ := exists_of_mem_getD hnodes hn
      have htext := hfeed' text List.mem_cons_self
      obtain ⟨i, l, hi, hl, hstands⟩ := TemplateLine.standsOn_of_gathers hgathers hread
        (fun hmem => htext ((List.takeWhile_prefix _).subset hmem))
        (fun hmem => htext ((List.dropWhile_suffix _).subset hmem))
        (fun t ht => hfeed' t (List.mem_cons_of_mem text (List.mem_of_mem_take ht))) hn
      refine ⟨l, ?_, hstands⟩
      have hwhole : Text.indentation text ++ Text.unindented text = text :=
        List.takeWhile_append_dropWhile
      have hplace : n.line - 1 = first - 1 + i := by omega
      have htake : (text :: later).take (k + 1) = text :: later.take k := rfl
      rw [hwhole, ← htake] at hl
      rw [hplace, ← List.getElem?_drop, hlines]
      exact (List.getElem?_eq_some_iff.1 hl).elim fun hlt heq => by
        rw [← heq, List.getElem_take, List.getElem?_eq_getElem]

theorem standsOn_of_mem_parse {source name : Text} (h : n ∈ (parse source name).nodes) :
    ∃ l, (Text.lines source)[n.line - 1]? = some l ∧ n.StandsOn l :=
  (origin_of_mem_parse h).standsOn fun _ => Text.not_mem_of_mem_lines

end Template

end Phrasebook
