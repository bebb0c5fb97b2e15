import Phrasebook.Proofs.Nesting
import Phrasebook.Proofs.Outline

/-!
Carriage returns at the ends of lines.

No part of a template is told by a carriage return at the end of a line: it is
neither indentation nor part of a name, it opens and closes nothing, and values are
trimmed.  So the outline of some lines is the same with and without such carriage
returns.
-/

namespace Phrasebook

namespace Text

/-- A text without the carriage returns at the ends of its lines. -/
def dropReturns : Text → Text
  | [] => []
  | c :: t =>
      let u := dropReturns t
      if c = '\r' && u.head?.all (· = '\n') then u else c :: u

variable {c : Char} {t u : Text}

@[simp] theorem dropReturns_nil : dropReturns [] = [] := rfl

/-- A character stays, unless it is a carriage return with only a line end after it. -/
theorem dropReturns_cons (c : Char) (t : Text) :
    (c = '\r' ∧ (dropReturns t = [] ∨ ∃ u, dropReturns t = '\n' :: u) ∧
        dropReturns (c :: t) = dropReturns t) ∨
      dropReturns (c :: t) = c :: dropReturns t := by
  rw [dropReturns]
  split
  · rename_i hdrop
    simp only [Bool.and_eq_true, decide_eq_true_eq] at hdrop
    refine .inl ⟨hdrop.1, ?_, rfl⟩
    cases ht : dropReturns t with
    | nil => exact .inl rfl
    | cons d u => exact .inr ⟨u, by simpa [ht] using hdrop.2⟩
  · exact .inr rfl

theorem dropReturns_cons_of_ne (h : c ≠ '\r') (t : Text) :
    dropReturns (c :: t) = c :: dropReturns t := by
  rcases dropReturns_cons c t with ⟨hc, -⟩ | heq
  · exact absurd hc h
  · exact heq

/-- A character other than a line end that a text starts with was at its start. -/
theorem exists_cons_of_dropReturns_eq_cons (hreturn : c ≠ '\r') (hfeed : c ≠ '\n')
    (h : dropReturns t = c :: u) : ∃ v, t = c :: v ∧ dropReturns v = u := by
  cases t with
  | nil => cases h
  | cons d t =>
      rcases dropReturns_cons d t with ⟨-, hnil | ⟨v, hv⟩, heq⟩ | heq
      · rw [heq, hnil] at h
        cases h
      · rw [heq, hv] at h
        exact absurd (List.cons.inj h).1.symm hfeed
      · obtain ⟨rfl, rfl⟩ := List.cons.inj (heq.symm.trans h)
        exact ⟨t, rfl, rfl⟩

theorem dropReturns_ne_cons (hreturn : c ≠ '\r') (hfeed : c ≠ '\n') (h : ∀ v, t = c :: v → False)
    (u : Text) (hu : dropReturns t = c :: u) : False := by
  obtain ⟨v, hv, -⟩ := exists_cons_of_dropReturns_eq_cons hreturn hfeed hu
  exact h v hv

theorem dropReturns_ne_cons_cons {d : Char} (hc : c ≠ '\r' ∧ c ≠ '\n') (hd : d ≠ '\r' ∧ d ≠ '\n')
    (h : ∀ v, t = c :: d :: v → False) (u : Text) (hu : dropReturns t = c :: d :: u) : False := by
  obtain ⟨v, rfl, hv⟩ := exists_cons_of_dropReturns_eq_cons hc.1 hc.2 hu
  refine dropReturns_ne_cons hd.1 hd.2 ?_ u hv
  rintro w rfl
  exact h w rfl

theorem dropReturns_append_feed (s t : Text) :
    dropReturns (s ++ '\n' :: t) = dropReturns s ++ '\n' :: dropReturns t := by
  induction s with
  | nil => exact dropReturns_cons_of_ne (by decide) t
  | cons c s ih =>
      rw [List.cons_append, dropReturns, ih, dropReturns]
      cases hs : dropReturns s with
      | nil => by_cases hc : c = '\r' <;> simp [hc]
      | cons d u => by_cases hc : c = '\r' <;> by_cases hd : d = '\n' <;> simp [hc, hd]

/-! ### Lines that are cut and joined -/

/-- A text before a line feed is its own line, up to a carriage return. -/
theorem lines_append_feed (h : '\n' ∉ t) (u : Text) :
    ∃ l, lines (t ++ '\n' :: u) = l :: lines u ∧ dropReturns l = dropReturns t := by
  induction t with
  | nil => exact ⟨[], rfl, rfl⟩
  | cons c t ih =>
      rw [List.mem_cons, not_or] at h
      obtain ⟨l, hl, hdrop⟩ := ih h.2
      by_cases hreturn : c = '\r' ∧ t = []
      · obtain ⟨rfl, rfl⟩ := hreturn
        exact ⟨[], by rw [List.cons_append, List.nil_append, lines], rfl⟩
      · refine ⟨c :: l, ?_, ?_⟩
        · rw [List.cons_append, lines, hl]
          · exact fun hc => h.1 hc.symm
          · intro v hc hv
            cases t with
            | nil => exact hreturn ⟨hc, rfl⟩
            | cons d t =>
                obtain ⟨rfl, -⟩ := List.cons.inj hv
                exact h.2 List.mem_cons_self
        · rw [dropReturns, dropReturns, hdrop]

theorem map_dropReturns_lines_unlines {ts : List Text} (h : ∀ t ∈ ts, '\n' ∉ t) (t : Text) :
    (lines (unlines (ts ++ [t]))).map dropReturns =
      ts.map dropReturns ++ (lines t).map dropReturns := by
  induction ts with
  | nil => rfl
  | cons u ts ih =>
      obtain ⟨l, hl, hdrop⟩ := lines_append_feed (h u List.mem_cons_self) (unlines (ts ++ [t]))
      rw [List.cons_append, unlines_cons (by simp), hl, List.map_cons, hdrop, List.map_cons,
        List.cons_append, ih fun v hv => h v (List.mem_cons_of_mem u hv)]

theorem unlines_append_nil {ts : List Text} (h : ts ≠ []) :
    unlines (ts ++ [[]]) = unlines ts ++ ['\n'] := by
  induction ts with
  | nil => exact absurd rfl h
  | cons t ts ih =>
      cases ts with
      | nil => simp [unlines, join]
      | cons u ts =>
          have hne : u :: ts ++ [[]] ≠ [] := by simp
          rw [List.cons_append, unlines_cons hne, ih (by simp),
            unlines_cons (List.cons_ne_nil u ts) t, List.append_assoc, List.cons_append]

theorem lines_of_not_mem (hne : t ≠ []) (h : '\n' ∉ t) : lines t = [t] := by
  induction t with
  | nil => exact absurd rfl hne
  | cons c t ih =>
      rw [List.mem_cons, not_or] at h
      rw [lines]
      · cases t with
        | nil => rfl
        | cons d t => rw [ih (by simp) h.2]
      · exact fun hc => h.1 hc.symm
      · rintro v - rfl
        exact h.2 List.mem_cons_self

/-! ### Characters that end no line -/

section Span

variable {p : Char → Bool}

theorem takeWhile_dropReturns (hreturn : p '\r' = false) (hfeed : p '\n' = false) (t : Text) :
    (dropReturns t).takeWhile p = t.takeWhile p := by
  induction t with
  | nil => rfl
  | cons c t ih =>
      rcases dropReturns_cons c t with ⟨rfl, hnil | ⟨u, hu⟩, heq⟩ | heq
      · simp [heq, hnil, hreturn]
      · simp [heq, hu, hreturn, hfeed]
      · rw [heq, List.takeWhile_cons, List.takeWhile_cons, ih]

theorem dropWhile_dropReturns (hreturn : p '\r' = false) (hfeed : p '\n' = false) (t : Text) :
    (dropReturns t).dropWhile p = dropReturns (t.dropWhile p) := by
  induction t with
  | nil => rfl
  | cons c t ih =>
      rcases dropReturns_cons c t with ⟨rfl, hnil | ⟨u, hu⟩, heq⟩ | heq
      · simp [heq, hnil, hreturn]
      · simp [heq, hu, hreturn, hfeed]
      · by_cases hc : p c = true
        · rw [heq, List.dropWhile_cons_of_pos hc, List.dropWhile_cons_of_pos hc, ih]
        · rw [heq, List.dropWhile_cons_of_neg hc, List.dropWhile_cons_of_neg hc, heq]

theorem cut_dropReturns (hreturn : p '\r' = false) (hfeed : p '\n' = false) (t : Text) :
    cut p (dropReturns t) = ((cut p t).1, dropReturns (cut p t).2) := by
  rw [cut, takeWhile_dropReturns hreturn hfeed, dropWhile_dropReturns hreturn hfeed]
  rfl

theorem any_head?_dropReturns (hreturn : p '\r' = false) (hfeed : p '\n' = false) (t : Text) :
    (dropReturns t).head?.any p = t.head?.any p := by
  cases t with
  | nil => rfl
  | cons c t =>
      rcases dropReturns_cons c t with ⟨rfl, hnil | ⟨u, hu⟩, heq⟩ | heq
      · simp [heq, hnil, hreturn]
      · simp [heq, hu, hreturn, hfeed]
      · simp [heq]

end Span

theorem startsWith_dropReturns {lead : Text} (hreturn : '\r' ∉ lead) (hfeed : '\n' ∉ lead)
    (t : Text) : startsWith lead (dropReturns t) = startsWith lead t := by
  induction lead generalizing t with
  | nil => rfl
  | cons a lead ih =>
      rw [List.mem_cons, not_or] at hreturn hfeed
      cases t with
      | nil => rfl
      | cons c t =>
          rcases dropReturns_cons c t with ⟨rfl, hnil | ⟨u, hu⟩, heq⟩ | heq
          · simp [heq, hnil, startsWith, afterLead?, Ne.symm hreturn.1]
          · simp [heq, hu, startsWith, afterLead?, Ne.symm hreturn.1, Ne.symm hfeed.1]
          · have hrest := ih hreturn.2 hfeed.2 t
            by_cases hac : a = c <;> simp_all [startsWith, afterLead?]

@[simp] theorem indentation_dropReturns (t : Text) : indentation (dropReturns t) = indentation t :=
  takeWhile_dropReturns (by decide) (by decide) t

theorem unindented_dropReturns (t : Text) :
    unindented (dropReturns t) = dropReturns (unindented t) :=
  dropWhile_dropReturns (by decide) (by decide) t

/-! ### Blank characters -/

theorem isBlank_return : isBlank '\r' = true := by decide

@[simp] theorem isBlankLine_dropReturns (t : Text) :
    isBlankLine (dropReturns t) = isBlankLine t := by
  induction t with
  | nil => rfl
  | cons c t ih =>
      rcases dropReturns_cons c t with ⟨rfl, -, heq⟩ | heq
      · rw [heq, ih]
        simp [isBlankLine, isBlank_return]
      · rw [heq]
        simpa [isBlankLine] using congrArg (isBlank c && ·) ih

/-- Without line feeds, the carriage returns that are dropped are at the end. -/
theorem exists_eq_dropReturns_append (h : '\n' ∉ t) :
    ∃ k, t = dropReturns t ++ List.replicate k '\r' := by
  induction t with
  | nil => exact ⟨0, rfl⟩
  | cons c t ih =>
      rw [List.mem_cons, not_or] at h
      obtain ⟨k, hk⟩ := ih h.2
      rcases dropReturns_cons c t with ⟨rfl, hnil | ⟨u, hu⟩, heq⟩ | heq
      · rw [hnil, List.nil_append] at hk
        exact ⟨k + 1, by rw [heq, hnil, List.nil_append, List.replicate_succ, ← hk]⟩
      · rw [hk, hu] at h
        exact absurd List.mem_cons_self h.2
      · exact ⟨k, by rw [heq, List.cons_append, ← hk]⟩

theorem trimEnd_dropReturns (h : '\n' ∉ t) : trimEnd (dropReturns t) = trimEnd t := by
  obtain ⟨k, hk⟩ := exists_eq_dropReturns_append h
  conv => rhs; rw [hk]
  simp [trimEnd, dropEnd, isBlank_return]

theorem trim_dropReturns (h : '\n' ∉ t) : trim (dropReturns t) = trim t := by
  obtain ⟨k, hk⟩ := exists_eq_dropReturns_append h
  conv => rhs; rw [hk]
  rw [trim, trim, trimStart, trimStart, List.dropWhile_append]
  split
  · rename_i hall
    simp [List.isEmpty_iff.1 hall, trimEnd, dropEnd, isBlank_return]
  · simp [trimEnd, dropEnd, isBlank_return]

end Text

/-! ### Tags -/

namespace Delimited

/-- Line ends neither open nor close a group. -/
theorem map_snd_split?_dropReturns {opener closer : Char} (hopener : opener ≠ '\r')
    (hcloser : closer ≠ '\r') (depth : Nat) (t : Text) :
    (split? opener closer depth (Text.dropReturns t)).map Prod.snd =
      (split? opener closer depth t).map fun p => Text.dropReturns p.2 := by
  have hmap (c : Char) (found : Option (Text × Text)) :
      (found.map (Prod.map (c :: ·) id)).map Prod.snd = found.map Prod.snd := by
    cases found <;> rfl
  have hmap' (c : Char) (found : Option (Text × Text)) :
      (found.map (Prod.map (c :: ·) id)).map (fun p => Text.dropReturns p.2) =
        found.map fun p => Text.dropReturns p.2 := by
    cases found <;> rfl
  induction t generalizing depth with
  | nil => rfl
  | cons c t ih =>
      rcases Text.dropReturns_cons c t with ⟨rfl, -, heq⟩ | heq
      · rw [heq, split?.eq_def _ _ _ ('\r' :: t)]
        simp only [hopener.symm, hcloser.symm, if_false, hmap', ih]
      · rw [heq, split?.eq_def, split?.eq_def _ _ _ (c :: t)]
        simp only
        split
        · rw [hmap, hmap', ih]
        · split
          · cases depth with
            | zero => rfl
            | succ depth => rw [hmap, hmap', ih]
          · rw [hmap, hmap', ih]

end Delimited

namespace TagLine

open Text (dropReturns)

theorem ne_return_of_groupCloser? {c closer : Char} (h : groupCloser? c = some closer) :
    c ≠ '\r' ∧ closer ≠ '\r' := by
  rcases eq_of_groupCloser? h with ⟨rfl, rfl⟩ | ⟨rfl, rfl⟩ | ⟨rfl, rfl⟩ <;> decide

theorem startsTag_dropReturns (t : Text) : startsTag (dropReturns t) = startsTag t := by
  cases t with
  | nil => rfl
  | cons c t =>
      rcases Text.dropReturns_cons c t with ⟨rfl, hnil | ⟨u, hu⟩, heq⟩ | heq
      · rw [heq, hnil]
        rfl
      · rw [heq, hu]
        rfl
      · rw [heq, startsTag, startsTag, Text.any_head?_dropReturns (by decide) (by decide)]

theorem readName_dropReturns (t : Text) :
    readName (dropReturns t) = ((readName t).1, dropReturns (readName t).2) := by
  cases t with
  | nil => rfl
  | cons c t =>
      by_cases hc : c = '%'
      · subst hc
        rw [Text.dropReturns_cons_of_ne (by decide)]
        exact Text.cut_dropReturns (by decide) (by decide) t
      · have hne : ∀ u, c :: t = '%' :: u → False := fun u hu => hc (List.cons.inj hu).1
        rw [readName_of_ne hne,
          readName_of_ne (Text.dropReturns_ne_cons (by decide) (by decide) hne)]

theorem skipShortcuts_dropReturns (t : Text) :
    skipShortcuts (dropReturns t) = dropReturns (skipShortcuts t) := by
  have hmark : ∀ c, isShortcutMark c = true → c ≠ '\r' ∧ c ≠ '\n' := by
    rintro c hc
    constructor <;> rintro rfl <;> exact absurd hc (by decide)
  have hchar : ∀ c, isShortcutChar c = true → c ≠ '\r' ∧ c ≠ '\n' := by
    rintro c hc
    constructor <;> rintro rfl <;> exact absurd hc (by decide)
  fun_induction skipShortcuts t with
  | case1 => exact skipShortcuts_eq_self (by simp)
  | case2 c =>
      rcases Text.dropReturns_cons c [] with ⟨-, -, heq⟩ | heq <;> rw [heq] <;>
        exact skipShortcuts_eq_self (by simp)
  | case3 c d t hcd ih =>
      have hcd' := hcd
      rw [Bool.and_eq_true] at hcd
      rw [Text.dropReturns_cons_of_ne (hmark c hcd.1).1,
        Text.dropReturns_cons_of_ne (hchar d hcd.2).1, skipShortcuts, if_pos hcd',
        Text.dropWhile_dropReturns (by decide) (by decide), ih]
  | case4 c d t hcd =>
      refine skipShortcuts_eq_self fun c' d' u hu => ?_
      by_contra hcd'
      rw [Bool.not_eq_false, Bool.and_eq_true] at hcd'
      obtain ⟨v, hv, hrest⟩ := Text.exists_cons_of_dropReturns_eq_cons
        (hmark c' hcd'.1).1 (hmark c' hcd'.1).2 hu
      obtain ⟨rfl, rfl⟩ := List.cons.inj hv
      obtain ⟨w, hw, -⟩ := Text.exists_cons_of_dropReturns_eq_cons
        (hchar d' hcd'.2).1 (hchar d' hcd'.2).2 hrest
      obtain ⟨rfl, rfl⟩ := List.cons.inj hw
      exact hcd (by simp [hcd'])

/-- Groups are the same with and without line ends, but for what is in them. -/
theorem readGroups?_dropReturns (t : Text) :
    (readGroups? (dropReturns t)).map (Prod.map List.isEmpty id) =
      (readGroups? t).map (Prod.map List.isEmpty dropReturns) := by
  fun_induction readGroups? t with
  | case1 =>
      rw [Text.dropReturns_nil, readGroups?_of_head? (by simp)]
      rfl
  | case2 c t hcloser =>
      have hhead : ∀ d ∈ (dropReturns (c :: t)).head?, groupCloser? d = none := by
        intro d hd
        rcases Text.dropReturns_cons c t with ⟨-, hnil | ⟨u, hu⟩, heq⟩ | heq
        · simp [heq, hnil] at hd
        · obtain rfl : '\n' = d := by simpa [heq, hu] using hd
          rfl
        · obtain rfl : c = d := by simpa [heq] using hd
          exact hcloser
      rw [readGroups?_of_head? hhead]
      rfl
  | case3 c t closer hcloser hsplit =>
      obtain ⟨hc, hclose⟩ := ne_return_of_groupCloser? hcloser
      have hnone := Delimited.map_snd_split?_dropReturns hc hclose 0 t
      rw [hsplit, Option.map_none, Option.map_eq_none_iff] at hnone
      rw [Text.dropReturns_cons_of_ne hc, readGroups?_of_split?_eq_none hcloser hnone]
      rfl
  | case4 c t closer hcloser inside rest hsplit _ ih =>
      obtain ⟨hc, hclose⟩ := ne_return_of_groupCloser? hcloser
      have hsome := Delimited.map_snd_split?_dropReturns hc hclose 0 t
      rw [hsplit, Option.map_some, Option.map_eq_some_iff] at hsome
      obtain ⟨⟨inside', rest'⟩, hsplit', rfl⟩ := hsome
      rw [Text.dropReturns_cons_of_ne hc, readGroups?_of_split?_eq_some hcloser hsplit']
      have hmap (inside : Text) (f : Text → Text) (read : Option (List Text × Text)) :
          (read.map fun found => (if c = '{' then inside :: found.1 else found.1, found.2)).map
              (Prod.map List.isEmpty f) =
            (read.map (Prod.map List.isEmpty f)).map
              (Prod.map (fun none => if c = '{' then false else none) id) := by
        cases read with
        | none => rfl
        | some found => by_cases hc : c = '{' <;> simp [hc, Prod.map]
      rw [hmap, hmap, ih]

theorem readAction_dropReturns (t : Text) :
    readAction (dropReturns t) = ((readAction t).1, dropReturns (readAction t).2) := by
  fun_cases readAction t with
  | case1 t | case2 t =>
      rw [Text.dropReturns_cons_of_ne (by decide), Text.dropReturns_cons_of_ne (by decide)]
      rfl
  | case3 t | case4 t | case7 t =>
      rw [Text.dropReturns_cons_of_ne (by decide)]
      rfl
  | case5 t hequals =>
      rw [Text.dropReturns_cons_of_ne (by decide)]
      exact readAction_escaped (Text.dropReturns_ne_cons (by decide) (by decide) hequals)
  | case6 t hequals =>
      rw [Text.dropReturns_cons_of_ne (by decide)]
      exact readAction_unescaped (Text.dropReturns_ne_cons (by decide) (by decide) hequals)
  | case8 _ _ _ hequals htilde hescaped hunescaped hslash =>
      exact readAction_of_ne (Text.dropReturns_ne_cons (by decide) (by decide) hequals)
        (Text.dropReturns_ne_cons (by decide) (by decide) htilde)
        (Text.dropReturns_ne_cons (by decide) (by decide) hescaped)
        (Text.dropReturns_ne_cons (by decide) (by decide) hunescaped)
        (Text.dropReturns_ne_cons (by decide) (by decide) hslash)

theorem read?_dropReturns_of_eq_none {t : Text} (h : read? t = none) :
    read? (dropReturns t) = none := by
  have hgroups := readGroups?_dropReturns (skipShortcuts (readName t).2)
  rw [read?_eq_none_iff.1 h, Option.map_none, Option.map_eq_none_iff] at hgroups
  rw [read?_eq_none_iff, readName_dropReturns, skipShortcuts_dropReturns, hgroups]

/-- A tag is read the same with and without line ends, but for what is in its hashes. -/
theorem read?_dropReturns_of_eq_some {t : Text} {head : Head} (h : read? t = some head) :
    ∃ hashes, hashes.isEmpty = head.hashes.isEmpty ∧
      read? (dropReturns t) =
        some ⟨head.name, hashes, head.action, dropReturns head.rest⟩ := by
  obtain ⟨afterName, afterGroups, afterAction, hname, hread, haction, hrest⟩ :=
    read?_eq_some_iff.1 h
  have hgroups := readGroups?_dropReturns (skipShortcuts afterName)
  rw [hread, Option.map_some, Option.map_eq_some_iff] at hgroups
  obtain ⟨⟨hashes, afterGroups'⟩, hread', heq⟩ := hgroups
  simp only [Prod.map_apply, id_eq, Prod.mk.injEq] at heq
  obtain ⟨hempty, rfl⟩ := heq
  refine ⟨hashes, hempty, read?_eq_some_iff.2
    ⟨dropReturns afterName, dropReturns afterGroups, dropReturns afterAction, ?_, ?_, ?_, ?_⟩⟩
  · rw [readName_dropReturns, hname]
  · rw [skipShortcuts_dropReturns, hread']
  · rw [Text.dropWhile_dropReturns (by decide) (by decide), readAction_dropReturns, haction]
  · rw [hrest, Text.unindented_dropReturns]

theorem map_outline_read?_dropReturns {t : Text}
    (h : ∀ head, read? t = some head → '\n' ∉ head.rest) :
    (read? (dropReturns t)).map Head.outline = (read? t).map Head.outline := by
  cases hread : read? t with
  | none => rw [read?_dropReturns_of_eq_none hread]
  | some head =>
      obtain ⟨hashes, hempty, hread'⟩ := read?_dropReturns_of_eq_some hread
      simp only [hread', Option.map_some, Head.outline, hempty,
        Text.trimEnd_dropReturns (h head hread)]

end TagLine

namespace TemplateLine

open Text (dropReturns)

variable {body : Text}

theorem isOpen_dropReturns_iff : IsOpen (dropReturns body) ↔ IsOpen body := by
  unfold IsOpen
  rw [TagLine.startsTag_dropReturns]
  refine and_congr_right fun _ => ⟨fun h => ?_, TagLine.read?_dropReturns_of_eq_none⟩
  cases hread : TagLine.read? body with
  | none => rfl
  | some head =>
      obtain ⟨hashes, -, hread'⟩ := TagLine.read?_dropReturns_of_eq_some hread
      rw [h] at hread'
      cases hread'

theorem plainOutline_dropReturns {rest : Text} (h : '\n' ∉ rest) (escape : Option Bool) :
    plainOutline escape (dropReturns rest) = plainOutline escape rest := by
  have hunindented : '\n' ∉ Text.unindented rest :=
    fun hmem => h ((List.dropWhile_suffix _).subset hmem)
  rw [plainOutline, plainOutline, Text.unindented_dropReturns, Text.trimEnd_dropReturns hunindented]

theorem scriptOutline_dropReturns {code : Text} (h : '\n' ∉ code) (silent : Bool) :
    scriptOutline (dropReturns code) silent = scriptOutline code silent := by
  rw [scriptOutline, scriptOutline, Text.trim_dropReturns h]

theorem lineOutline_dropReturns (h : '\n' ∉ body) :
    lineOutline (dropReturns body) = lineOutline body := by
  fun_cases lineOutline body with
  | case1 t =>
      repeat rw [Text.dropReturns_cons_of_ne (by decide)]
      rfl
  | case2 t =>
      rw [Text.dropReturns_cons_of_ne (by decide)]
      rfl
  | case3 rest =>
      rw [Text.dropReturns_cons_of_ne (by decide)]
      exact plainOutline_dropReturns (fun hmem => h (List.mem_cons_of_mem _ hmem)) none
  | case4 code | case5 code | case10 code =>
      rw [Text.dropReturns_cons_of_ne (by decide)]
      exact scriptOutline_dropReturns (fun hmem => h (List.mem_cons_of_mem _ hmem)) _
  | case6 code | case7 code =>
      rw [Text.dropReturns_cons_of_ne (by decide), Text.dropReturns_cons_of_ne (by decide)]
      have hcode : '\n' ∉ code :=
        fun hmem => h (List.mem_cons_of_mem _ (List.mem_cons_of_mem _ hmem))
      exact scriptOutline_dropReturns hcode false
  | case8 rest hequals =>
      have hequals' := Text.dropReturns_ne_cons (by decide) (by decide) hequals
      have hrest : '\n' ∉ rest := fun hmem => h (List.mem_cons_of_mem _ hmem)
      rw [Text.dropReturns_cons_of_ne (by decide), ← plainOutline_dropReturns hrest]
      simp [lineOutline]
  | case9 rest hdoctype hequals =>
      have hequals' := Text.dropReturns_ne_cons (by decide) (by decide) hequals
      have hdoctype' := Text.dropReturns_ne_cons_cons (by decide) (by decide) hdoctype
      have hrest : '\n' ∉ rest := fun hmem => h (List.mem_cons_of_mem _ hmem)
      rw [Text.dropReturns_cons_of_ne (by decide), ← plainOutline_dropReturns hrest]
      simp [lineOutline]
  | case11 _ h₁ h₂ h₃ h₄ h₅ h₆ h₇ h₈ h₉ h₁₀ =>
      have h₂' := Text.dropReturns_ne_cons (by decide) (by decide) h₂
      have h₃' := Text.dropReturns_ne_cons (by decide) (by decide) h₃
      have h₄' := Text.dropReturns_ne_cons (by decide) (by decide) h₄
      have h₅' := Text.dropReturns_ne_cons (by decide) (by decide) h₅
      have h₈' := Text.dropReturns_ne_cons (by decide) (by decide) h₈
      have h₉' := Text.dropReturns_ne_cons (by decide) (by decide) h₉
      have h₁₀' := Text.dropReturns_ne_cons (by decide) (by decide) h₁₀
      have h₁' := fun u => h₉' ('!' :: '!' :: u)
      have h₆' := fun u => h₈' ('=' :: u)
      have h₇' := fun u => h₉' ('=' :: u)
      rw [← plainOutline_dropReturns h]
      simp [lineOutline]

/-- The outline of a line body is the same with and without line ends. -/
theorem outline?_dropReturns (htag : ∀ head, TagLine.read? body = some head → '\n' ∉ head.rest)
    (hline : TagLine.startsTag body = false → '\n' ∉ body) :
    outline? (dropReturns body) = outline? body := by
  rw [outline?, outline?, TagLine.startsTag_dropReturns]
  split
  · exact TagLine.map_outline_read?_dropReturns htag
  · rename_i hstarts
    rw [lineOutline_dropReturns (hline (by simpa using hstarts))]

theorem continuesGroup_dropReturns (indent : Nat) (line : Text) :
    continuesGroup indent (dropReturns line) = continuesGroup indent line := by
  rw [continuesGroup, continuesGroup, Text.indentation_dropReturns, Text.isBlankLine_dropReturns,
    Text.unindented_dropReturns, Text.any_head?_dropReturns (by decide) (by decide)]

theorem dropReturns_gathered (body : Text) (ls : List Text) :
    dropReturns (gathered body ls) = gathered (dropReturns body) (ls.map dropReturns) := by
  induction ls generalizing body with
  | nil => simp
  | cons l ls ih => rw [List.map_cons, gathered_cons, gathered_cons, ih,
      Text.dropReturns_append_feed]

theorem Gathers.map_dropReturns {n : Nat} {block rest : List Text} (h : Gathers n body block rest) :
    Gathers n (dropReturns body) (block.map dropReturns) (rest.map dropReturns) := by
  refine h.map (fun ls _ => ?_) (continuesGroup_dropReturns n)
  rw [← dropReturns_gathered]
  exact isOpen_dropReturns_iff

theorem outline?_gathered_map_dropReturns {n : Nat} {block rest : List Text}
    (h : Gathers n body block rest) (hbody : '\n' ∉ body) (hblock : ∀ l ∈ block, '\n' ∉ l) :
    outline? (gathered (dropReturns body) (block.map dropReturns)) =
      outline? (gathered body block) := by
  rw [← dropReturns_gathered]
  refine outline?_dropReturns (fun head => h.not_mem_rest hbody hblock) fun htag => ?_
  obtain rfl := h.eq_nil_of_startsTag_eq_false htag
  rwa [gathered_nil]

end TemplateLine

/-! ### Lines -/

namespace Template

open Text (dropReturns)

theorem filterName?_dropReturns (t : Text) : filterName? (dropReturns t) = filterName? t := by
  cases t with
  | nil => rfl
  | cons c t =>
      by_cases hc : c = ':'
      · subst hc
        have hcut := Text.cut_dropReturns (p := TagLine.isNameChar) (by decide) (by decide) t
        rw [Text.dropReturns_cons_of_ne (by decide)]
        simp only [filterName?, hcut, Text.isBlankLine_dropReturns]
      · have hhead : ∀ u, dropReturns (c :: t) = ':' :: u → False :=
          Text.dropReturns_ne_cons (by decide) (by decide) fun v hv => hc (List.cons.inj hv).1
        simp [filterName?, hc]

theorem nestedCount_map_dropReturns (indent : Nat) (later : List Text) :
    nestedCount indent (later.map dropReturns) = nestedCount indent later :=
  nestedCount_map (fun l => by simp [isNested]) (fun l => by simp) later

variable {ls : List Text}

/-- The outline of some lines is the same with and without line ends. -/
theorem outline_map_dropReturns (hfeed : ∀ l ∈ ls, '\n' ∉ l) (line line' : Nat) :
    outline line' (ls.map dropReturns) = outline line ls := by
  have hstarts (text : Text) : Text.startsWith ['-', '#'] (Text.unindented (dropReturns text)) =
      Text.startsWith ['-', '#'] (Text.unindented text) := by
    rw [Text.unindented_dropReturns, Text.startsWith_dropReturns (by decide) (by decide)]
  have hfilter (text : Text) : filterName? (Text.unindented (dropReturns text)) =
      filterName? (Text.unindented text) := by
    rw [Text.unindented_dropReturns, filterName?_dropReturns]
  fun_induction items line ls generalizing line' with
  | case1 line => simp
  | case2 line text later hblank ih =>
      rw [List.map_cons, outline_of_isBlankLine hblank, outline_of_isBlankLine (by simpa)]
      exact ih (forall_mem_drop_of_cons hfeed 0) _
  | case3 line text later hblank indent body comment hcomment k ih =>
      rw [Bool.not_eq_true] at hblank
      have hlead : Text.startsWith ['-', '#'] body = true := by simp [Text.startsWith, hcomment]
      rw [List.map_cons, outline_of_comment hblank hlead,
        outline_of_comment (by simpa) ((hstarts text).trans hlead), nestedCount_map_dropReturns,
        Text.indentation_dropReturns, ← List.map_drop]
      exact ih (forall_mem_drop_of_cons hfeed k) _
  | case4 line text later hblank indent body hcomment name hname k ih =>
      rw [Bool.not_eq_true] at hblank
      have hlead : Text.startsWith ['-', '#'] body = false := by simp [Text.startsWith, hcomment]
      rw [List.map_cons, outline_of_filter hblank hlead hname,
        outline_of_filter (by simpa) ((hstarts text).trans hlead) ((hfilter text).trans hname),
        nestedCount_map_dropReturns, Text.indentation_dropReturns, ← List.map_drop]
      exact congrArg _ (ih (forall_mem_drop_of_cons hfeed k) _)
  | case5 line text later hblank indent body hcomment hname nodes k hgather ih =>
      rw [Bool.not_eq_true] at hblank
      have hlead : Text.startsWith ['-', '#'] body = false := by simp [Text.startsWith, hcomment]
      have hcontent : IsContent text := ⟨hblank, hlead, hname⟩
      have hcontent' : IsContent (dropReturns text) :=
        ⟨by simpa, (hstarts text).trans hlead, (hfilter text).trans hname⟩
      obtain ⟨hk, hgathers, -⟩ := TemplateLine.gathers_of_gather hgather
      have hbody : '\n' ∉ body :=
        fun hmem => hfeed text List.mem_cons_self ((List.dropWhile_suffix _).subset hmem)
      have hblock : ∀ l ∈ later.take k, '\n' ∉ l :=
        fun l hl => hfeed l (List.mem_cons_of_mem text (List.mem_of_mem_take hl))
      have houtline := TemplateLine.outline?_gathered_map_dropReturns hgathers hbody hblock
      have hgathers' : TemplateLine.Gathers (Text.indentation (dropReturns text)).length
          (Text.unindented (dropReturns text)) ((later.take k).map dropReturns)
          ((later.drop k).map dropReturns) := by
        rw [Text.indentation_dropReturns, Text.unindented_dropReturns]
        exact hgathers.map_dropReturns
      rw [← List.take_append_drop k later, outline_of_gathers hcontent hgathers, List.map_cons,
        List.map_append, outline_of_gathers hcontent' hgathers', Text.unindented_dropReturns,
        houtline, List.length_map, List.length_take, Nat.min_eq_left hk]
      exact congrArg _ (ih (forall_mem_drop_of_cons hfeed k) _)

end Template

end Phrasebook
