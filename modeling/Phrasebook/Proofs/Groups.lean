import Phrasebook.Template.Line

/-!
Tags whose attribute groups are spread over several lines.

A tag takes one more line only while a group of it is open, so the last group
closes on the last line that the tag takes.  What follows the groups, the value
among it, is therefore part of that one line.
-/

namespace Phrasebook

namespace Delimited

variable {opener closer : Char} {depth : Nat} {t inside rest : Text}

/-- A group that ends in a text ends there whatever comes after it. -/
theorem split?_append_of_some (h : split? opener closer depth t = some (inside, rest))
    (u : Text) : split? opener closer depth (t ++ u) = some (inside, rest ++ u) := by
  fun_induction split? opener closer depth t generalizing inside with
  | case1 => exact absurd h (by simp)
  | case2 depth t ih =>
      obtain ⟨i, hs, rfl⟩ := Text.exists_of_map_cons_eq_some h
      simp [split?, ih hs]
  | case3 t hopen =>
      cases h
      simp [split?, hopen]
  | case4 t depth hopen ih =>
      obtain ⟨i, hs, rfl⟩ := Text.exists_of_map_cons_eq_some h
      simp [split?, hopen, ih hs]
  | case5 depth c t hopen hclose ih =>
      obtain ⟨i, hs, rfl⟩ := Text.exists_of_map_cons_eq_some h
      simp [split?, hopen, hclose, ih hs]

theorem suffix_of_split? (h : split? opener closer depth t = some (inside, rest)) :
    rest <:+ t := by
  rw [split?_eq_append h]
  exact ⟨inside ++ [closer], by simp⟩

/-- A group that is open at the end of `t` takes at least the closer from the text
after it. -/
theorem exists_closer_of_split?_append {u : Text} (hopen : split? opener closer depth t = none)
    (h : split? opener closer depth (t ++ u) = some (inside, rest)) :
    ∃ s, u = s ++ closer :: rest := by
  fun_induction split? opener closer depth t generalizing inside with
  | case1 => exact ⟨inside, split?_eq_append h⟩
  | case2 depth t ih =>
      simp only [List.cons_append, split?, if_true] at h
      obtain ⟨i, hs, -⟩ := Text.exists_of_map_cons_eq_some h
      exact ih (Option.map_eq_none_iff.1 hopen) hs
  | case3 t hne => exact absurd hopen (by simp)
  | case4 t depth hne ih =>
      simp only [List.cons_append, split?, hne, if_false, if_true] at h
      obtain ⟨i, hs, -⟩ := Text.exists_of_map_cons_eq_some h
      exact ih (Option.map_eq_none_iff.1 hopen) hs
  | case5 depth c t hne hclose ih =>
      simp only [List.cons_append, split?, hne, hclose, if_false] at h
      obtain ⟨i, hs, -⟩ := Text.exists_of_map_cons_eq_some h
      exact ih (Option.map_eq_none_iff.1 hopen) hs

end Delimited

namespace TagLine

/-! ### Names and actions -/

section Readers

variable {t : Text}

theorem readName_of_ne (h : ∀ u, t = '%' :: u → False) : readName t = ("div".toList, t) := by
  simp [readName]

theorem readAction_escaped (h : ∀ u, t = '=' :: u → False) :
    readAction ('&' :: t) = (some .escaped, t) := by
  simp [readAction]

theorem readAction_unescaped (h : ∀ u, t = '=' :: u → False) :
    readAction ('!' :: t) = (some .unescaped, t) := by
  simp [readAction]

theorem readAction_of_ne (hequals : ∀ u, t = '=' :: u → False) (htilde : ∀ u, t = '~' :: u → False)
    (hescaped : ∀ u, t = '&' :: u → False) (hunescaped : ∀ u, t = '!' :: u → False)
    (hslash : ∀ u, t = '/' :: u → False) : readAction t = (none, t) := by
  have hevaluate₁ := fun u => hescaped ('=' :: u)
  have hevaluate₂ := fun u => hunescaped ('=' :: u)
  simp [readAction]

end Readers

/-! ### What the parts of a tag leave over -/

theorem suffix_of_readGroups? {t rest : Text} {hashes : List Text}
    (h : readGroups? t = some (hashes, rest)) : rest <:+ t := by
  fun_induction readGroups? t generalizing hashes with
  | case1 =>
      cases h
      exact List.suffix_rfl
  | case2 c t hcloser =>
      cases h
      exact List.suffix_rfl
  | case3 c t closer hcloser hsplit => exact absurd h (by simp)
  | case4 c t closer hcloser inside rest' hsplit _ ih =>
      obtain ⟨⟨hashes', r⟩, hread, heq⟩ := Option.map_eq_some_iff.1 h
      obtain ⟨-, rfl⟩ := Prod.mk.inj heq
      have hgroup : rest' <:+ c :: t :=
        (Delimited.suffix_of_split? hsplit).trans (List.suffix_cons c t)
      exact (ih hread).trans hgroup

theorem skipShortcuts_eq_self {t : Text}
    (h : ∀ c d u, t = c :: d :: u → (isShortcutMark c && isShortcutChar d) = false) :
    skipShortcuts t = t := by
  fun_cases skipShortcuts t with
  | case1 => rfl
  | case2 c => rfl
  | case3 c d t hcd => exact absurd hcd (by simp [h c d t rfl])
  | case4 c d t hcd => rfl

/-- Groups have ended where no opener follows. -/
theorem readGroups?_of_head? {t : Text} (h : ∀ c ∈ t.head?, groupCloser? c = none) :
    readGroups? t = some ([], t) := by
  cases t with
  | nil => rw [readGroups?]
  | cons c t =>
      rw [readGroups?]
      simp only [h c rfl]

variable {c closer : Char} {t : Text}

theorem readGroups?_of_split?_eq_none (hcloser : groupCloser? c = some closer)
    (h : Delimited.split? c closer 0 t = none) : readGroups? (c :: t) = none := by
  rw [readGroups?]
  simp only [hcloser]
  split
  · rfl
  · rename_i hsplit
    rw [h] at hsplit
    cases hsplit

theorem readGroups?_of_split?_eq_some {inside rest : Text} (hcloser : groupCloser? c = some closer)
    (h : Delimited.split? c closer 0 t = some (inside, rest)) :
    readGroups? (c :: t) = (readGroups? rest).map fun found =>
      (if c = '{' then inside :: found.1 else found.1, found.2) := by
  rw [readGroups?]
  simp only [hcloser]
  split
  · rename_i hsplit
    rw [h] at hsplit
    cases hsplit
  · rename_i hsplit
    rw [h] at hsplit
    cases hsplit
    rfl

theorem suffix_readName (t : Text) : (readName t).2 <:+ t := by
  unfold readName
  split
  · exact (List.dropWhile_suffix _).trans (List.suffix_cons _ _)
  · exact List.suffix_rfl

theorem suffix_skipShortcuts (t : Text) : skipShortcuts t <:+ t := by
  fun_induction skipShortcuts t with
  | case1 => exact List.suffix_rfl
  | case2 c => exact List.suffix_rfl
  | case3 c d t hcd ih =>
      have htail : t <:+ c :: d :: t := (List.suffix_cons d t).trans (List.suffix_cons c _)
      exact ih.trans ((List.dropWhile_suffix _).trans htail)
  | case4 c d t hcd => exact List.suffix_rfl

theorem suffix_readAction (t : Text) : (readAction t).2 <:+ t := by
  fun_cases readAction t with
  | case1 t => exact ⟨['&', '='], rfl⟩
  | case2 t => exact ⟨['!', '='], rfl⟩
  | case3 t | case4 t | case5 t | case6 t | case7 t => exact List.suffix_cons _ t
  | case8 => exact List.suffix_rfl

/-- A name does not go on after a line feed. -/
theorem readName_append (t u : Text) :
    (readName (t ++ '\n' :: u)).2 = (readName t).2 ++ '\n' :: u := by
  have hfeed : isNameChar '\n' = false := by decide
  cases t with
  | nil => rfl
  | cons c t =>
      by_cases hc : c = '%'
      · subst hc
        simp only [readName, List.cons_append, Text.cut]
        rw [List.dropWhile_append]
        split
        · rename_i hall
          simp [List.isEmpty_iff.1 hall, hfeed]
        · rfl
      · simp [readName, hc]

theorem skipShortcuts_append (t u : Text) :
    skipShortcuts (t ++ '\n' :: u) = skipShortcuts t ++ '\n' :: u := by
  have hmark : isShortcutMark '\n' = false := by decide
  have hchar : isShortcutChar '\n' = false := by decide
  fun_induction skipShortcuts t with
  | case1 => cases u <;> simp [skipShortcuts, hmark]
  | case2 c => simp [skipShortcuts, hchar]
  | case3 c d t hcd ih =>
      rw [List.cons_append, List.cons_append, skipShortcuts, if_pos hcd, ← ih]
      rw [List.dropWhile_append]
      split
      · rename_i hall
        simp [List.isEmpty_iff.1 hall, hchar]
      · rfl
  | case4 c d t hcd => rw [List.cons_append, List.cons_append, skipShortcuts, if_neg hcd]

theorem eq_of_groupCloser? (h : groupCloser? c = some closer) :
    (c = '{' ∧ closer = '}') ∨ (c = '(' ∧ closer = ')') ∨ (c = '[' ∧ closer = ']') := by
  unfold groupCloser? at h
  grind

theorem isBlank_of_groupCloser? (h : groupCloser? c = some closer) : isBlank closer = false := by
  rcases eq_of_groupCloser? h with ⟨-, rfl⟩ | ⟨-, rfl⟩ | ⟨-, rfl⟩ <;> decide

/-- Groups that are open at the end of `t` and close later close in the text after
it: before what they leave over there is a closer. -/
theorem exists_lead_of_readGroups?_append {u rest : Text} {hashes : List Text}
    (hopen : readGroups? t = none) (h : readGroups? (t ++ u) = some (hashes, rest)) :
    ∃ lead, u = lead ++ rest ∧ ∃ c ∈ lead, isBlank c = false := by
  fun_induction readGroups? t generalizing hashes with
  | case1 => exact absurd hopen (by simp)
  | case2 => exact absurd hopen (by simp)
  | case3 c t closer hcloser hsplit =>
      -- This group is the open one, and what it leaves over is all that others can take.
      cases hsplit' : Delimited.split? c closer 0 (t ++ u) with
      | none =>
          rw [List.cons_append, readGroups?_of_split?_eq_none hcloser hsplit'] at h
          cases h
      | some p =>
          obtain ⟨inside, rest'⟩ := p
          rw [List.cons_append, readGroups?_of_split?_eq_some hcloser hsplit'] at h
          obtain ⟨⟨hashes', r⟩, hread, heq⟩ := Option.map_eq_some_iff.1 h
          obtain ⟨-, rfl⟩ := Prod.mk.inj heq
          obtain ⟨s, hs⟩ := Delimited.exists_closer_of_split?_append hsplit hsplit'
          obtain ⟨m, hm⟩ := suffix_of_readGroups? hread
          refine ⟨s ++ closer :: m, ?_, closer, by simp, isBlank_of_groupCloser? hcloser⟩
          rw [hs, ← hm]
          simp
  | case4 c t closer hcloser inside rest' hsplit _ ih =>
      have hsplit' := Delimited.split?_append_of_some hsplit u
      rw [List.cons_append, readGroups?_of_split?_eq_some hcloser hsplit'] at h
      obtain ⟨⟨hashes', r⟩, hread, heq⟩ := Option.map_eq_some_iff.1 h
      obtain ⟨-, rfl⟩ := Prod.mk.inj heq
      exact ih (Option.map_eq_none_iff.1 hopen) hread

/-! ### Tags -/

/-- The parts of a tag are read one after the other. -/
theorem read?_eq_some_iff {head : Head} :
    read? t = some head ↔ ∃ afterName afterGroups afterAction,
      readName t = (head.name, afterName) ∧
      readGroups? (skipShortcuts afterName) = some (head.hashes, afterGroups) ∧
      readAction (afterGroups.dropWhile fun c => c = '<' || c = '>') =
        (head.action, afterAction) ∧
      head.rest = Text.unindented afterAction := by
  constructor
  · intro h
    obtain ⟨⟨hashes, afterGroups⟩, hgroups, heq⟩ := Option.bind_eq_some_iff.1 h
    cases heq
    exact ⟨_, afterGroups, _, rfl, hgroups, rfl, rfl⟩
  · rintro ⟨afterName, afterGroups, afterAction, hname, hgroups, haction, hrest⟩
    simp [read?, hname, hgroups, haction, ← hrest]

theorem read?_eq_some {head : Head} (h : read? t = some head) :
    ∃ rest, readGroups? (skipShortcuts (readName t).2) = some (head.hashes, rest) ∧
      head.rest <:+ rest := by
  obtain ⟨afterName, afterGroups, afterAction, hname, hgroups, haction, hrest⟩ :=
    read?_eq_some_iff.1 h
  have hread := suffix_readAction (afterGroups.dropWhile fun c => c = '<' || c = '>')
  rw [haction] at hread
  refine ⟨afterGroups, by rw [hname]; exact hgroups, ?_⟩
  rw [hrest]
  exact (List.dropWhile_suffix _).trans (hread.trans (List.dropWhile_suffix _))

theorem suffix_of_read? {head : Head} (h : read? t = some head) : head.rest <:+ t := by
  obtain ⟨rest, hgroups, hrest⟩ := read?_eq_some h
  exact hrest.trans ((suffix_of_readGroups? hgroups).trans
    ((suffix_skipShortcuts _).trans (suffix_readName t)))

theorem read?_eq_none_iff :
    read? t = none ↔ readGroups? (skipShortcuts (readName t).2) = none := by
  cases hgroups : readGroups? (skipShortcuts (readName t).2) <;> simp [read?, hgroups]

/-- If a line closes the groups of a tag, then what follows them is part of that
line, and the closer is before it. -/
theorem exists_lead_of_read? {next : Text} {head : Head} (hopen : read? t = none)
    (h : read? (t ++ '\n' :: next) = some head) :
    ∃ lead, next = lead ++ head.rest ∧ ∃ c ∈ lead, isBlank c = false := by
  obtain ⟨rest, hgroups, m, rfl⟩ := read?_eq_some h
  rw [readName_append, skipShortcuts_append] at hgroups
  obtain ⟨lead, hlead, c, hc, hblank⟩ :=
    exists_lead_of_readGroups?_append (read?_eq_none_iff.1 hopen) hgroups
  cases lead with
  | nil => exact absurd hc List.not_mem_nil
  | cons d lead =>
      obtain ⟨rfl, rfl⟩ := List.cons.inj hlead
      have hc' : c ∈ lead := by
        refine (List.mem_cons.1 hc).resolve_left ?_
        rintro rfl
        exact absurd hblank (by decide)
      exact ⟨lead ++ m, by simp, c, List.mem_append_left m hc', hblank⟩

/-- A tag line gives one tag, and before it the hashes, if there are any. -/
theorem nodes?_eq_some {line : Nat} {before body : Text} {nodes : List Node}
    (h : nodes? line before body = some nodes) :
    ∃ head tag k, read? body = some head ∧ tag.value = Text.trimEnd head.rest ∧
      k ≤ (before ++ body).count '\n' ∧
      (nodes = [⟨line + k, .tag tag⟩] ∨
        nodes = [⟨line, .attributes head.hashes⟩, ⟨line + k, .tag tag⟩]) := by
  obtain ⟨head, hhead, heq⟩ := Option.bind_eq_some_iff.1 h
  have hfront : (before ++ body.take (body.length - head.rest.length)).count '\n' ≤
      (before ++ body).count '\n' := by
    rw [List.count_append, List.count_append]
    exact Nat.add_le_add_left ((List.take_sublist _ _).count_le _) _
  cases heq
  by_cases hnone : head.hashes.isEmpty = true
  · rw [if_pos hnone]
    refine ⟨head, _, _, hhead, ?_, hfront, .inl rfl⟩
    rfl
  · rw [if_neg hnone]
    refine ⟨head, _, _, hhead, ?_, hfront, .inr rfl⟩
    rfl

end TagLine

end Phrasebook
