import Phrasebook.Proofs.LineEnds
import Phrasebook.Proofs.Rereading
import Phrasebook.Proofs.Respacing
import Phrasebook.Proofs.Unchanged

/-!
Tags whose attribute groups are spread over lines.

Spaces in the attribute groups of a tag may become line feeds.  A tag that is cut at
one of them has an open group, so it takes the next line as long as that can continue
the group, up to the line on which the last group closes.  The value stands there, and
nothing is different from the tag on one line but the space in the hashes.
-/

namespace Phrasebook

namespace Text

/-- A line feed in the place of a space. -/
def Break (c : Char) (v : Text) : Prop :=
  c = ' ' ∧ v = ['\n']

theorem isSpacing_break : IsSpacing Break := by
  rintro c v ⟨rfl, rfl⟩
  exact ⟨rfl, List.cons_ne_nil _ _, by simp [isSpace]⟩

theorem mem_of_break {s t : Text} (h : Respaced Break s t) {c : Char} (hc : c ∈ t) :
    c ∈ s ∨ c = '\n' := by
  induction h with
  | nil => cases hc
  | keep d _ ih =>
      rcases List.mem_cons.1 hc with rfl | hc
      · exact .inl List.mem_cons_self
      · exact (ih hc).imp_left (List.mem_cons_of_mem d)
  | @change d v s t hchange _ ih =>
      rw [hchange.2, List.singleton_append] at hc
      rcases List.mem_cons.1 hc with rfl | hc
      · exact .inr rfl
      · exact (ih hc).imp_left (List.mem_cons_of_mem d)

theorem length_of_break {s t : Text} (h : Respaced Break s t) : t.length = s.length := by
  induction h with
  | nil => rfl
  | keep c _ ih => simp [ih]
  | change hchange _ ih => simp [hchange.2, ih]

end Text

/-- A part of the inside of a group does not end it. -/
theorem Delimited.split?_eq_none_of_length_le {opener closer : Char} {depth : Nat}
    {p u inside rest : Text} (h : split? opener closer depth (p ++ u) = some (inside, rest))
    (hlength : p.length ≤ inside.length) : split? opener closer depth p = none := by
  cases hp : split? opener closer depth p with
  | none => rfl
  | some parts =>
      have hwhole := split?_append_of_some hp u
      rw [h] at hwhole
      obtain ⟨rfl, -⟩ := Prod.mk.inj (Option.some.inj hwhole)
      have hlt := congrArg List.length (split?_eq_append hp)
      rw [List.length_append, List.length_cons] at hlt
      omega

namespace TagLine

open Text (Respaced Break)

variable {body spread t p q : Text} {head : Head}

/-- Some spaces in the attribute groups of a tag line become line feeds. -/
def Spreads (body spread : Text) : Prop :=
  ∃ front groups groups' rest hashes, body = front ++ groups ++ rest ∧
    spread = front ++ groups' ++ rest ∧ skipShortcuts (readName body).2 = groups ++ rest ∧
    readGroups? (groups ++ rest) = some (hashes, rest) ∧ Respaced Break groups groups'

/-- The nodes of a tag that starts on line `line`.  Its value stands on line `last`, where
`lead` is before it. -/
def Head.nodes (h : Head) (line last : Nat) (lead : Text) : List Node :=
  (if h.hashes.isEmpty then [] else [⟨line, .attributes h.hashes⟩]) ++
    [⟨last, .tag ⟨h.name, h.action, Text.trimEnd h.rest, Text.utf8Size lead, lead.length + 1⟩⟩]

/-! ### Reading a spread tag -/

/-- A tag is told by its first two characters, and neither is a line feed. -/
theorem startsTag_append_feed (t u : Text) : startsTag (t ++ '\n' :: u) = startsTag t := by
  have hfeed : isShortcutChar '\n' = false := by decide
  rcases t with _ | ⟨c, _ | ⟨d, t⟩⟩
  · rfl
  · simp [startsTag, hfeed]
  · rfl

/-- Groups that are read beyond a line feed are open at it. -/
theorem readGroups?_eq_none_of_feed {rest : Text} {hashes : List Text}
    (h : readGroups? (p ++ '\n' :: q) = some (hashes, rest)) (hlength : rest.length ≤ q.length) :
    readGroups? p = none := by
  generalize hx : p ++ '\n' :: q = x at h
  have hlt : q.length < x.length := by
    rw [← hx, List.length_append, List.length_cons]
    omega
  fun_induction readGroups? x generalizing p hashes with
  | case1 =>
      cases hlt
  | case2 c t hcloser =>
      cases h
      exact absurd hlength (Nat.not_le.2 hlt)
  | case3 => cases h
  | case4 c t closer hcloser inside rest' hsplit _ ih =>
      obtain ⟨⟨hashes', r⟩, hread, heq⟩ := Option.map_eq_some_iff.1 h
      obtain ⟨-, rfl⟩ := Prod.mk.inj heq
      cases p with
      | nil =>
          obtain ⟨rfl, -⟩ := List.cons.inj hx
          cases hcloser
      | cons d p =>
          obtain rfl := (List.cons.inj hx).1
          have ht : p ++ '\n' :: q = t := (List.cons.inj hx).2
          have hne : d ≠ closer := by
            rcases eq_of_groupCloser? hcloser with ⟨rfl, rfl⟩ | ⟨rfl, rfl⟩ | ⟨rfl, rfl⟩ <;> decide
          have happend := ht.trans (Delimited.split?_eq_append hsplit)
          rcases List.append_eq_append_iff.1 happend with ⟨u, rfl, -⟩ | ⟨u, rfl, hu⟩
          · -- The line feed is in this group.
            rw [← ht] at hsplit
            exact readGroups?_of_split?_eq_none hcloser
              (Delimited.split?_eq_none_of_length_le hsplit (by simp))
          · cases u with
            | nil =>
                obtain ⟨rfl, -⟩ := List.cons.inj hu
                exact absurd (isBlank_of_groupCloser? hcloser) (by decide)
            | cons e u =>
                obtain rfl := (List.cons.inj hu).1
                have hrest : rest' = u ++ '\n' :: q := (List.cons.inj hu).2
                have hsplit' : Delimited.split? d closer 0 (inside ++ closer :: u) =
                    some (inside, u) :=
                  (Delimited.split?_eq_some_iff hne).2
                    ⟨rfl, ((Delimited.split?_eq_some_iff hne).1 hsplit).2⟩
                have hlt' : q.length < rest'.length := by
                  rw [hrest, List.length_append, List.length_cons]
                  omega
                rw [readGroups?_of_split?_eq_some hcloser hsplit', ih hrest.symm hread hlt']
                rfl

theorem Spreads.respaced (h : Spreads body spread) : Respaced Break body spread := by
  obtain ⟨front, groups, groups', rest, hashes, rfl, rfl, -, -, hbreak⟩ := h
  exact ((Respaced.refl Break front).append hbreak).append (Respaced.refl Break rest)

/-- The name and the groups of a spread tag are those of the tag, but for line feeds in its
hashes, and the same text comes after them. -/
theorem Spreads.exists_readGroups? (h : Spreads body spread) :
    (readName spread).1 = (readName body).1 ∧ ∃ hashes hashes' rest,
      readGroups? (skipShortcuts (readName body).2) = some (hashes, rest) ∧
      readGroups? (skipShortcuts (readName spread).2) = some (hashes', rest) ∧
      List.Forall₂ (Respaced Break) hashes hashes' := by
  obtain ⟨hname, hafter⟩ := readName_of_respaced Text.isSpacing_break h.respaced
  obtain ⟨front, groups, groups', rest, hashes, -, hspread, hskip, hgroups, -⟩ := h
  have hrel := rel_readGroups? Text.isSpacing_break
    (skipShortcuts_of_respaced Text.isSpacing_break hafter)
  rw [← hskip] at hgroups
  rw [hgroups] at hrel
  generalize hgroups' : readGroups? (skipShortcuts (readName spread).2) = found at hrel
  cases hrel with
  | @some _ found hfound =>
      obtain ⟨hashes', rest'⟩ := found
      -- What comes after the groups is as long as before and ends the same text.
      have hlength : rest'.length = rest.length := Text.length_of_break hfound.2
      have hsuffix : rest' <:+ spread := (suffix_of_readGroups? hgroups').trans
        ((suffix_skipShortcuts _).trans (suffix_readName spread))
      have hsuffix' : rest <:+ spread := ⟨front ++ groups', hspread.symm⟩
      have hsame : rest' = rest :=
        (List.suffix_of_suffix_length_le hsuffix hsuffix' (Nat.le_of_eq hlength)).eq_of_length
          hlength
      subst hsame
      exact ⟨hname, hashes, hashes', rest', hgroups, rfl, hfound.1⟩

/-- A spread tag has the parts of the tag, but for line feeds in its hashes. -/
theorem Spreads.exists_read? (h : Spreads body spread) (hread : read? body = some head) :
    ∃ hashes, List.Forall₂ (Respaced Break) head.hashes hashes ∧
      read? spread = some { head with hashes := hashes } := by
  obtain ⟨hname, hashes, hashes', rest, hgroups, hgroups', hbreak⟩ := h.exists_readGroups?
  obtain ⟨rfl, hread'⟩ := read?_of_readGroups? hread hname hgroups hgroups'
  exact ⟨hashes', hbreak, hread'⟩

/-- What comes before a line feed in a spread tag has an open group. -/
theorem Spreads.read?_eq_none (h : Spreads body spread) (hbody : '\n' ∉ body)
    (hfeed : spread = p ++ '\n' :: q) : read? p = none := by
  obtain ⟨-, hashes, hashes', rest, hgroups, hgroups', -⟩ := h.exists_readGroups?
  have hsuffix : rest <:+ body := (suffix_of_readGroups? hgroups).trans
    ((suffix_skipShortcuts _).trans (suffix_readName body))
  have hsuffix' : rest <:+ spread := (suffix_of_readGroups? hgroups').trans
    ((suffix_skipShortcuts _).trans (suffix_readName spread))
  have hlength : rest.length ≤ q.length := by
    refine Nat.le_of_not_lt fun hlt => ?_
    have hinside : '\n' :: q <:+ rest :=
      List.suffix_of_suffix_length_le ⟨p, hfeed.symm⟩ hsuffix' hlt
    exact hbody (hsuffix.subset (hinside.subset List.mem_cons_self))
  rw [hfeed, readName_append, skipShortcuts_append] at hgroups'
  exact read?_eq_none_iff.2 (readGroups?_eq_none_of_feed hgroups' hlength)

end TagLine

/-! ### Lines of a spread tag -/

/-- A line is cut where its indentation ends. -/
theorem Text.indentation_append {indent : Text} {c : Char}
    (hindent : ∀ d ∈ indent, isIndent d = true) (hc : isIndent c = false) (t : Text) :
    indentation (indent ++ c :: t) = indent ∧ unindented (indent ++ c :: t) = c :: t := by
  rw [indentation_append_cons hc, unindented_append_cons hc, indentation, unindented,
    List.takeWhile_eq_self_iff.2 hindent, List.dropWhile_eq_nil_iff.2 hindent]
  exact ⟨rfl, rfl⟩

theorem Text.unlines_lines_of_endsLine {t : Text} (hreturn : '\r' ∉ t) (hend : endsLine t = false) :
    unlines (lines t) = t := by
  have hjoined := unlines_lines t
  have hplain : plainEnds t = t := plainEnds_eq_self_iff.2 fun hinside =>
    hreturn (hinside.subset List.mem_cons_self)
  rw [hend, if_neg Bool.false_ne_true, List.append_nil, hplain] at hjoined
  exact hjoined

namespace TemplateLine

/-- What is gathered of lines is the lines joined. -/
theorem gathered_eq_unlines (l : Text) (ls : List Text) :
    gathered l ls = Text.unlines (l :: ls) := by
  induction ls generalizing l with
  | nil => simp [Text.unlines, Text.join]
  | cons m ls ih =>
      rw [Text.unlines_cons (List.cons_ne_nil m ls), ← ih, gathered, gathered,
        List.flatMap_cons, List.cons_append]

/-- The lines of a text after some indentation. -/
theorem exists_lines_indent {indent t : Text} (hindent : '\n' ∉ indent)
    (hreturn : '\r' ∉ indent ++ t) (hne : t ≠ []) (hend : Text.endsLine t = false) :
    ∃ body block, Text.lines (indent ++ t) = (indent ++ body) :: block ∧
      t = gathered body block := by
  have hend' : Text.endsLine (indent ++ t) = false := by
    rwa [Text.endsLine, List.getLast?_append_of_ne_nil _ hne]
  have hjoined := Text.unlines_lines_of_endsLine hreturn hend'
  cases hlines : Text.lines (indent ++ t) with
  | nil => simp [Text.lines_eq_nil_iff, hne] at hlines
  | cons l block =>
      rw [hlines, ← gathered_eq_unlines, gathered] at hjoined
      rcases List.append_eq_append_iff.1 hjoined with ⟨a, rfl, ht⟩ | ⟨c, rfl, ht⟩
      · cases a with
        | nil => exact ⟨[], block, by simp, by simpa [gathered] using ht.symm⟩
        | cons x a =>
            cases block with
            | nil => cases ht
            | cons m block =>
                obtain ⟨rfl, -⟩ := List.cons.inj ht
                exact absurd (List.mem_append_right l List.mem_cons_self) hindent
      · exact ⟨c, block, rfl, ht⟩

theorem startsTag_of_gathered {body : Text} {block : List Text}
    (h : TagLine.startsTag (gathered body block) = true) : TagLine.startsTag body = true := by
  cases block with
  | nil => rwa [gathered_nil] at h
  | cons l block =>
      have hcut : gathered body (l :: block) =
          body ++ '\n' :: (l ++ block.flatMap fun l => '\n' :: l) := by
        simp [gathered]
      rwa [hcut, TagLine.startsTag_append_feed] at h

/-- All lines of a tag are gathered if a group is open at the end of each but the last. -/
theorem gathers_of_read? {n : Nat} {body : Text} {block : List Text}
    (htag : TagLine.startsTag (gathered body block) = true)
    (hread : TagLine.read? (gathered body block) ≠ none)
    (hopen : ∀ p q, gathered body block = p ++ '\n' :: q → TagLine.read? p = none)
    (hcontinues : ∀ l ∈ block, continuesGroup n l = true) : Gathers n body block [] where
  opened := by
    rintro ls ⟨ms, rfl⟩ hlength
    cases ms with
    | nil => simp at hlength
    | cons m ms =>
        have hcut : gathered body (ls ++ m :: ms) =
            gathered body ls ++ '\n' :: (m ++ ms.flatMap fun l => '\n' :: l) := by
          simp [gathered]
        rw [hcut, TagLine.startsTag_append_feed] at htag
        exact ⟨htag, hopen _ _ hcut⟩
  continued := hcontinues
  ended := fun hstill => absurd hstill.2 hread

end TemplateLine

namespace Template

variable {indent t : Text} {head : TagLine.Head}

/-- The nodes of a tag that has the lines of a template to itself. -/
theorem nodes_parse_of_read? (name : Text) (hindent : ∀ c ∈ indent, isIndent c = true)
    (hreturn : '\r' ∉ t) (htag : TagLine.startsTag t = true) (hread : TagLine.read? t = some head)
    (hopen : ∀ p q, t = p ++ '\n' :: q → TagLine.read? p = none)
    (hlines : ∀ l ∈ (Text.lines (indent ++ t)).tail,
      TemplateLine.continuesGroup indent.length l = true) :
    ∃ lead, (Text.lines (indent ++ t)).getLast? = some (lead ++ head.rest) ∧
      (parse (indent ++ t) name).nodes = head.nodes 1 (Text.lines (indent ++ t)).length lead := by
  have hspace {c : Char} (hc : isIndent c = false) : c ∉ indent := fun hmem => by
    rw [hindent c hmem] at hc
    cases hc
  have hne : t ≠ [] := by
    obtain ⟨c, u, rfl, -⟩ := TagLine.exists_cons_of_startsTag htag
    exact List.cons_ne_nil c u
  have hend : Text.endsLine t = false := by
    by_contra hend
    rw [Bool.not_eq_false, Text.endsLine, beq_iff_eq] at hend
    obtain ⟨p, rfl⟩ := List.getLast?_eq_some_iff.1 hend
    obtain ⟨lead, hnil, c, hc, -⟩ := TagLine.exists_lead_of_read? (hopen p [] rfl) hread
    rw [(List.append_eq_nil_iff.1 hnil.symm).1] at hc
    cases hc
  have hreturn' : '\r' ∉ indent ++ t := by
    rw [List.mem_append, not_or]
    exact ⟨hspace (by decide), hreturn⟩
  obtain ⟨body, block, hsource, rfl⟩ :=
    TemplateLine.exists_lines_indent (hspace (by decide)) hreturn' hne hend
  have hfeed : ∀ l ∈ (indent ++ body) :: block, '\n' ∉ l := fun l hl =>
    Text.not_mem_of_mem_lines (hsource ▸ hl)
  have hbody : '\n' ∉ body := fun hmem =>
    hfeed _ List.mem_cons_self (List.mem_append_right indent hmem)
  have hgathers := TemplateLine.gathers_of_read? htag (by simp [hread]) hopen
    (by simpa [hsource] using hlines)
  have hstarts := TemplateLine.startsTag_of_gathered htag
  obtain ⟨lead, hlast, hnodes⟩ := hgathers.nodes?_eq 1 htag hread (hspace (by decide)) hbody
    fun l hl => hfeed l (List.mem_cons_of_mem _ hl)
  have hunindented : Text.indentation (indent ++ body) = indent ∧
      Text.unindented (indent ++ body) = body := by
    obtain ⟨c, u, rfl, hc⟩ := TagLine.exists_cons_of_startsTag hstarts
    exact Text.indentation_append hindent (by rcases hc with rfl | rfl | rfl <;> decide) u
  obtain ⟨hblank, hcomment, hname⟩ : IsContent (indent ++ body) :=
    isContent_of_startsTag (by rw [hunindented.2]; exact hstarts)
  have hnone := Option.isNone_iff_eq_none.1 (Option.isSome_eq_false_iff.1 hcomment)
  have hgather : TemplateLine.gather 1 (Text.indentation (indent ++ body))
      (Text.unindented (indent ++ body)) block =
        (head.nodes 1 (1 + block.length) lead, block.length) := by
    have hgather : TemplateLine.gather 1 indent body (block ++ []) = _ :=
      TemplateLine.gather_append hgathers
    rw [List.append_nil, hnodes] at hgather
    rw [hunindented.1, hunindented.2]
    exact hgather
  refine ⟨lead, ?_, ?_⟩
  · rw [hsource, List.getLast?_eq_getElem?]
    exact hlast
  · rw [parse, ofItems, hsource, items_of_gather (by simp [hblank]) hnone hname hgather,
      List.drop_length, items, List.append_nil, filterMap_node?_map, List.length_cons, Nat.add_comm]

/-- A tag on one line and the tag with its groups spread over lines have the same nodes,
but for the lines that they stand on and the line feeds in the hashes. -/
theorem nodes_parse_of_spreads {body spread : Text} (name : Text)
    (hindent : ∀ c ∈ indent, isIndent c = true) (hfeed : '\n' ∉ body) (hreturn : '\r' ∉ body)
    (htag : TagLine.startsTag body = true) (hread : TagLine.read? body = some head)
    (hspread : TagLine.Spreads body spread)
    (hlines : ∀ l ∈ (Text.lines (indent ++ spread)).tail, Text.isBlankLine l = true ∨
      indent.length < (Text.indentation l).length ∨
      ∃ c ∈ (Text.unindented l).head?, c = '}' ∨ c = ')' ∨ c = ']') :
    ∃ lead lead' hashes, indent ++ body = lead ++ head.rest ∧
      (Text.lines (indent ++ spread)).getLast? = some (lead' ++ head.rest) ∧
      List.Forall₂ (Text.Respaced Text.Break) head.hashes hashes ∧
      (parse (indent ++ body) name).nodes = head.nodes 1 1 lead ∧
      (parse (indent ++ spread) name).nodes =
        { head with hashes := hashes }.nodes 1 (Text.lines (indent ++ spread)).length lead' := by
  obtain ⟨hashes, hhashes, hread'⟩ := hspread.exists_read? hread
  have hspace := hspread.respaced
  have hfeed' : '\n' ∉ indent ++ body := by
    rw [List.mem_append, not_or]
    exact ⟨fun hmem => absurd (hindent _ hmem) (by decide), hfeed⟩
  have hne : indent ++ body ≠ [] := by
    obtain ⟨c, u, rfl, -⟩ := TagLine.exists_cons_of_startsTag htag
    simp
  have hlone : Text.lines (indent ++ body) = [indent ++ body] := Text.lines_of_not_mem hne hfeed'
  have hreturn' : '\r' ∉ spread := fun hmem =>
    (Text.mem_of_break hspace hmem).elim hreturn (by decide)
  have htag' : TagLine.startsTag spread = true := by
    rw [TagLine.startsTag_of_respaced Text.isSpacing_break hspace, htag]
  have hcontinues : ∀ l ∈ (Text.lines (indent ++ spread)).tail,
      TemplateLine.continuesGroup indent.length l = true := by
    intro l hl
    simp only [TemplateLine.continuesGroup, Bool.or_eq_true, decide_eq_true_eq, Option.any_eq_true]
    rcases hlines l hl with hblank | hdeeper | ⟨c, hc, hcloser⟩
    · exact .inl (.inr hblank)
    · exact .inl (.inl hdeeper)
    · exact .inr ⟨c, hc, by simpa [or_assoc] using hcloser⟩
  obtain ⟨lead, hlast, hnodes⟩ := nodes_parse_of_read? name hindent hreturn htag hread
    (fun p q hcut => absurd (hcut ▸ by simp) hfeed) (by simp [hlone])
  obtain ⟨lead', hlast', hnodes'⟩ := nodes_parse_of_read? name hindent hreturn' htag' hread'
    (fun p q hcut => hspread.read?_eq_none hfeed hcut) hcontinues
  rw [hlone] at hlast hnodes
  exact ⟨lead, lead', hashes, Option.some.inj hlast, hlast', hhashes, hnodes, hnodes'⟩

/-- A hash and a list of attributes over three lines, of which the last starts with a
closer. -/
theorem nodes_parse_of_spreads_lines :
    let body := "%p\x7ba:  1\x7d( )= v".toList
    let spread := "%p\x7ba:\n 1\x7d(\n)= v".toList
    let head : TagLine.Head := ⟨['p'], ["a:  1".toList], some .evaluate, ['v']⟩
    ∃ lead lead' hashes, [] ++ body = lead ++ head.rest ∧
      (Text.lines ([] ++ spread)).getLast? = some (lead' ++ head.rest) ∧
      List.Forall₂ (Text.Respaced Text.Break) head.hashes hashes ∧
      (parse ([] ++ body) []).nodes = head.nodes 1 1 lead ∧
      (parse ([] ++ spread) []).nodes = { head with hashes := hashes }.nodes 1 3 lead' := by
  intro body spread head
  have hkeep := Text.Respaced.refl Text.Break
  have hbreak : Text.Respaced Text.Break [' '] ['\n'] := .change (v := ['\n']) ⟨rfl, rfl⟩ .nil
  have hgroups := (hkeep "\x7ba:".toList).append <| hbreak.append <|
    (hkeep " 1\x7d(".toList).append <| hbreak.append (hkeep [')'])
  have hspread : TagLine.Spreads body spread :=
    ⟨"%p".toList, _, _, "= v".toList, ["a:  1".toList], by decide, by decide, by decide +kernel,
      by decide +kernel, hgroups⟩
  refine nodes_parse_of_spreads [] (by simp) (by decide) (by decide) (by decide +kernel)
    (by decide +kernel) hspread ?_
  have hlines : (Text.lines ([] ++ spread)).tail = [" 1\x7d(".toList, ")= v".toList] := by
    decide +kernel
  rw [hlines]
  intro l hl
  rcases List.mem_cons.1 hl with rfl | hl
  · exact .inr (.inl (by decide))
  · obtain rfl := List.mem_singleton.1 hl
    exact .inr (.inr ⟨')', rfl, by decide⟩)

end Template

end Phrasebook
