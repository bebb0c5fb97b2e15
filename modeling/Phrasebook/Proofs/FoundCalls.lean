import Phrasebook.Proofs.Positions
import Phrasebook.Proofs.ScriptCalls
import Phrasebook.Proofs.Tokens

/-!
Which explicit calls a scan finds.

The body of a literal is a repetition of two things, a character other than the quote
and a backslash with a quote after it.  Both may take a backslash, so a body can be
read in several ways; they are listed here in the order in which a backtracking search
tries them.  The first of them ends at the first quote that a closing parenthesis
follows, and the reader goes there straight away.  Hence a call starts wherever one can
be told from the text alone, and a scan passes over such a place only when it is inside
a call that starts before it.
-/

namespace Phrasebook

namespace Text

/-- The text from byte `first` up to byte `last`, if both are ends of characters. -/
def slice? (t : Text) (first last : Nat) : Option Text :=
  (dropBytes? t first).bind fun u => takeBytes? u (last - first)

theorem slice?_append (s t u : Text) :
    slice? (s ++ t ++ u) (utf8Size s) (utf8Size s + utf8Size t) = some t := by
  rw [slice?, List.append_assoc, dropBytes?_append, Option.bind_some, Nat.add_sub_cancel_left,
    takeBytes?_append]

theorem exists_append_of_dropBytes? {t u : Text} {n : Nat} (h : dropBytes? t n = some u) :
    ∃ s, t = s ++ u ∧ utf8Size s = n := by
  fun_induction dropBytes? t n with
  | case1 t =>
      cases h
      exact ⟨[], rfl, rfl⟩
  | case2 n => cases h
  | case3 c t n hc ih =>
      obtain ⟨s, rfl, hs⟩ := ih h
      refine ⟨c :: s, rfl, ?_⟩
      rw [utf8Size_cons, hs]
      omega
  | case4 => cases h

theorem utf8Size_pos {t : Text} (h : t ≠ []) : 0 < utf8Size t := by
  obtain ⟨c, t, rfl⟩ := List.exists_cons_of_ne_nil h
  exact Nat.add_pos_left c.utf8Size_pos _

end Text

theorem QuoteMark.char_ne_escape (mark : QuoteMark) : mark.char ≠ '\\' := by
  cases mark <;> decide

namespace CallLiteral

variable {marks : List QuoteMark} {mark : QuoteMark} {quote : Char} {t body rest : Text}
  {l : CallLiteral}

/-! ### Bodies -/

/-- The ways to read a body and the closer after it, in the order in which a backtracking
search tries them: it repeats as often as it can, and takes a backslash for a character of
its own before it takes it for the escape of a quote. -/
def attempts (quote : Char) : Text → List (Text × Text)
  | [] => []
  | c :: t =>
      (if c = quote then [] else (attempts quote t).map (Prod.map (c :: ·) id)) ++
      (match t with
        | [] => []
        | d :: u =>
            if c = '\\' ∧ d = quote then
              (attempts quote u).map (Prod.map ([c, d] ++ ·) id)
            else []) ++
      (if c = quote ∧ t.head? = some ')' then [([], t.tail)] else [])

/-- The body that a search settles on, which is not empty, and the text after the call. -/
def firstAttempt? (quote : Char) (t : Text) : Option (Text × Text) :=
  (attempts quote t).find? fun a => !a.1.isEmpty

/-- A quote is no part of a repetition by itself. -/
theorem attempts_quote (hquote : quote ≠ '\\') (t : Text) :
    attempts quote (quote :: t) = if t.head? = some ')' then [([], t.tail)] else [] := by
  cases t <;> simp [attempts, hquote]

theorem attempts_of_ne {c : Char} (hc : c ≠ quote) (h : c = '\\' → t.head? ≠ some quote) :
    attempts quote (c :: t) = (attempts quote t).map (Prod.map (c :: ·) id) := by
  cases t with
  | nil => simp [attempts, hc]
  | cons d u =>
      have hescape : ¬ (c = '\\' ∧ d = quote) := fun ⟨hslash, hd⟩ => h hslash (by simp [hd])
      simp [attempts, hc, hescape]

theorem attempts_escape (hquote : quote ≠ '\\') (t : Text) :
    attempts quote ('\\' :: quote :: t) =
      (attempts quote (quote :: t)).map (Prod.map ('\\' :: ·) id) ++
        (attempts quote t).map (Prod.map (['\\', quote] ++ ·) id) := by
  rw [attempts]
  simp [hquote.symm]

theorem readBody_quote (escaped : Bool) (t : Text) :
    readBody quote escaped (quote :: t) =
      if t.head? = some ')' then some ([], t.tail)
      else if escaped then (readBody quote false t).map (Prod.map (quote :: ·) id) else none := by
  rw [readBody, if_pos rfl]

theorem readBody_of_ne {c : Char} (hc : c ≠ quote) (escaped : Bool) (t : Text) :
    readBody quote escaped (c :: t) =
      (readBody quote (c = '\\') t).map (Prod.map (c :: ·) id) := by
  rw [readBody, if_neg hc]

/-- What comes just before matters to a quote only. -/
theorem readBody_eq_of_head?_ne (h : t.head? ≠ some quote) (escaped : Bool) :
    readBody quote escaped t = readBody quote false t := by
  cases t with
  | nil => rfl
  | cons c t =>
      have hc : c ≠ quote := fun heq => h (by simp [heq])
      rw [readBody_of_ne hc, readBody_of_ne hc]

/-- The reader goes straight to the first attempt that succeeds. -/
theorem head?_attempts (hquote : quote ≠ '\\') :
    ∀ t : Text, (attempts quote t).head? = readBody quote false t
  | [] => rfl
  | c :: t => by
      by_cases hc : c = quote
      · subst hc
        rw [attempts_quote hquote, readBody_quote]
        split <;> rfl
      · rw [readBody_of_ne hc]
        by_cases hescape : c = '\\' ∧ t.head? = some quote
        · obtain ⟨rfl, hhead⟩ := hescape
          obtain ⟨u, rfl⟩ := List.head?_eq_some_iff.1 hhead
          have hrest := head?_attempts hquote u
          rw [attempts_escape hquote, attempts_quote hquote, readBody_quote]
          -- The quote ends the body if it can, although it is escaped.
          split
          · rfl
          · rw [List.map_nil, List.nil_append, List.head?_map, hrest]
            simp only [decide_true, if_true, Option.map_map]
            rfl
        · have hplain : readBody quote (decide (c = '\\')) t = readBody quote false t := by
            by_cases hslash : c = '\\'
            · exact readBody_eq_of_head?_ne (fun hhead => hescape ⟨hslash, hhead⟩) _
            · rw [decide_eq_false hslash]
          rw [attempts_of_ne hc fun hslash hhead => hescape ⟨hslash, hhead⟩, List.head?_map,
            head?_attempts hquote t, hplain]

theorem firstAttempt?_eq_filter (hquote : quote ≠ '\\') (t : Text) :
    firstAttempt? quote t = (readBody quote false t).filter fun a => !a.1.isEmpty := by
  cases t with
  | nil => rfl
  | cons c t =>
      by_cases hc : c = quote
      · subst hc
        rw [firstAttempt?, attempts_quote hquote, readBody_quote]
        split <;> rfl
      · have hfirst := head?_attempts hquote (c :: t)
        rw [readBody_of_ne hc] at hfirst ⊢
        rw [firstAttempt?]
        cases hread : readBody quote (decide (c = '\\')) t with
        | none =>
            rw [hread, Option.map_none, List.head?_eq_none_iff] at hfirst
            rw [hfirst]
            rfl
        | some found =>
            rw [hread, Option.map_some] at hfirst
            obtain ⟨others, hattempts⟩ := List.head?_eq_some_iff.1 hfirst
            rw [hattempts]
            rfl

/-- A quote in a body has a backslash just before it, which may be the last character of
what comes before the body. -/
def Escapes (quote : Char) (before body : Text) : Prop :=
  ∀ a b, body = a ++ quote :: b → (before ++ a).getLast? = some '\\'

theorem escapes_cons_iff {before : Text} {c : Char} :
    Escapes quote before (c :: body) ↔
      (c = quote → before.getLast? = some '\\') ∧ Escapes quote (before ++ [c]) body := by
  constructor
  · intro h
    refine ⟨?_, fun a b hbody => ?_⟩
    · rintro rfl
      simpa using h [] body rfl
    · have hlast := h (c :: a) b (by rw [hbody, List.cons_append])
      rwa [List.append_assoc, List.singleton_append]
  · rintro ⟨hfirst, hrest⟩ a b hbody
    rcases List.cons_eq_append_iff.1 hbody with ⟨rfl, hquote⟩ | ⟨a, rfl, rfl⟩
    · rw [List.append_nil]
      exact hfirst (List.cons.inj hquote).1.symm
    · have hlast := hrest a b rfl
      rwa [List.append_assoc, List.singleton_append] at hlast

theorem escapes_of_readBody {escaped : Bool} {before : Text}
    (hescaped : escaped = true → before.getLast? = some '\\')
    (h : readBody quote escaped t = some (body, rest)) : Escapes quote before body := by
  induction t generalizing escaped before body with
  | nil => cases h
  | cons c t ih =>
      by_cases hc : c = quote
      · subst hc
        rw [readBody_quote] at h
        split at h
        · cases h
          intro a b hnil
          simp at hnil
        · split at h
          · rename_i htrue
            obtain ⟨body, hrest, rfl⟩ := Text.exists_of_map_cons_eq_some h
            exact escapes_cons_iff.2 ⟨fun _ => hescaped htrue, ih (by simp) hrest⟩
          · cases h
      · rw [readBody_of_ne hc] at h
        obtain ⟨body, hrest, rfl⟩ := Text.exists_of_map_cons_eq_some h
        exact escapes_cons_iff.2 ⟨fun heq => absurd heq hc, ih (by simp) hrest⟩

/-- A body ends at the first closer. -/
theorem not_closer_infix_of_readBody {escaped : Bool}
    (h : readBody quote escaped t = some (body, rest)) : ¬ [quote, ')'] <:+: body := by
  induction t generalizing escaped body with
  | nil => cases h
  | cons c t ih =>
      by_cases hc : c = quote
      · subst hc
        rw [readBody_quote] at h
        split at h
        · cases h
          simp
        · rename_i hopen
          split at h
          · obtain ⟨body, hrest, rfl⟩ := Text.exists_of_map_cons_eq_some h
            rw [List.infix_cons_iff, not_or]
            refine ⟨?_, ih hrest⟩
            rintro ⟨b, hb⟩
            obtain ⟨-, rfl⟩ := List.cons.inj hb
            rw [readBody_eq_append hrest] at hopen
            exact hopen rfl
          · cases h
      · rw [readBody_of_ne hc] at h
        obtain ⟨body, hrest, rfl⟩ := Text.exists_of_map_cons_eq_some h
        rw [List.infix_cons_iff, not_or]
        refine ⟨?_, ih hrest⟩
        rintro ⟨b, hb⟩
        exact hc (List.cons.inj hb).1.symm

/-- A body whose quotes are escaped is read, if only up to a closer that is part of it. -/
theorem exists_readBody_append (hquote : quote ≠ '\\') {escaped : Bool} {before : Text}
    (hescaped : before.getLast? = some '\\' → escaped = true) (h : Escapes quote before body)
    (after : Text) : ∃ found, readBody quote escaped (body ++ quote :: ')' :: after) = some found := by
  induction body generalizing escaped before with
  | nil =>
      rw [List.nil_append, readBody_quote]
      exact ⟨_, rfl⟩
  | cons c body ih =>
      obtain ⟨hfirst, hrest⟩ := escapes_cons_iff.1 h
      by_cases hc : c = quote
      · subst hc
        have hlast : (before ++ [c]).getLast? = some '\\' → false = true := by simp [hquote]
        obtain ⟨found, hfound⟩ := ih hlast hrest
        rw [List.cons_append, readBody_quote, hescaped (hfirst rfl), hfound]
        split <;> exact ⟨_, rfl⟩
      · have hlast : (before ++ [c]).getLast? = some '\\' → decide (c = '\\') = true := by simp
        obtain ⟨found, hfound⟩ := ih hlast hrest
        rw [List.cons_append, readBody_of_ne hc, hfound]
        exact ⟨_, rfl⟩

/-! ### Calls -/

/-- What ends the literal of a call. -/
def closer (l : CallLiteral) : Text := [l.quote.char, ')']

/-- A literal that a call can have: it is not empty and all quotes in it are escaped. -/
structure WellFormed (l : CallLiteral) : Prop where
  raw_ne_nil : l.raw ≠ []
  escaped : ∀ a b, l.raw = a ++ l.quote.char :: b → a.getLast? = some '\\'

theorem readWith_eq_some_iff : readWith mark t = some (l, rest) ↔
    l.quote = mark ∧ t = l.source ++ rest ∧
      readBody mark.char false (l.raw ++ mark.char :: ')' :: rest) = some (l.raw, rest) ∧
      l.raw ≠ [] := by
  constructor
  · intro h
    unfold readWith at h
    split at h
    · split at h
      · rename_i hq
        subst hq
        split at h
        · rename_i hbody
          cases h
          have happend := readBody_eq_append hbody
          subst happend
          exact ⟨rfl, by simp [source], hbody, List.cons_ne_nil _ _⟩
        · cases h
      · cases h
    · cases h
  · rintro ⟨rfl, rfl, hbody, hne⟩
    obtain ⟨c, raw, hraw⟩ := List.exists_cons_of_ne_nil hne
    rw [hraw] at hbody
    obtain ⟨raw', mark⟩ := l
    subst hraw
    simp only [List.cons_append] at hbody
    simp [readWith, source, hbody]

/-- What is read of a call is what a search settles on, and ends at the first closer. -/
theorem wellFormed_of_readWith (h : readWith mark t = some (l, rest)) :
    l.WellFormed ∧ ¬ l.closer <:+: l.raw ∧
      firstAttempt? l.quote.char (l.raw ++ l.closer ++ rest) = some (l.raw, rest) := by
  obtain ⟨rfl, -, hbody, hne⟩ := readWith_eq_some_iff.1 h
  have hescapes : Escapes l.quote.char [] l.raw := escapes_of_readBody (by simp) hbody
  refine ⟨⟨hne, hescapes⟩, not_closer_infix_of_readBody hbody, ?_⟩
  have happend : l.raw ++ l.closer ++ rest = l.raw ++ l.quote.char :: ')' :: rest := by
    simp [closer]
  rw [happend, firstAttempt?_eq_filter l.quote.char_ne_escape, hbody]
  simp [hne]

theorem WellFormed.exists_readWith (h : l.WellFormed) (after : Text) :
    ∃ found, readWith l.quote (l.source ++ after) = some found := by
  obtain ⟨raw, mark⟩ := l
  obtain ⟨c, raw, rfl⟩ := List.exists_cons_of_ne_nil h.raw_ne_nil
  have hescapes : Escapes mark.char [] (c :: raw) := h.escaped
  -- The literal does not start with its quote, so what is read of it is not empty.
  have hc : c ≠ mark.char := by
    rintro rfl
    simpa using hescapes [] raw rfl
  have hnone : ([] : Text).getLast? = some '\\' → false = true := by simp
  obtain ⟨found, hfound⟩ := exists_readBody_append mark.char_ne_escape hnone hescapes after
  rw [List.cons_append, readBody_of_ne hc] at hfound
  obtain ⟨⟨body, rest⟩, hrest, -⟩ := Option.map_eq_some_iff.1 hfound
  refine ⟨(⟨c :: body, mark⟩, rest), ?_⟩
  simp [readWith, source, readBody_of_ne hc, hrest]

theorem WellFormed.read_ne_none (h : l.WellFormed) (hmark : l.quote ∈ marks) (after : Text) :
    read marks (l.source ++ after) ≠ none := by
  intro hnone
  obtain ⟨found, hfound⟩ := h.exists_readWith after
  rw [List.findSome?_eq_none_iff.1 hnone l.quote hmark] at hfound
  cases hfound

/-! ### Scanning -/

/-- A search from the left gets no further than to where a call can be read. -/
theorem exists_splitAtCall?_append {u : Text} (h : read marks u ≠ none) (a : Text) :
    ∃ before l rest, splitAtCall? marks (a ++ u) = some (before, l, rest) ∧
      before.length ≤ a.length := by
  have hfound (c : Char) (t : Text) (ht : read marks (c :: t) ≠ none) :
      ∃ l rest, splitAtCall? marks (c :: t) = some ([], l, rest) := by
    obtain ⟨⟨l, rest⟩, hread⟩ := Option.ne_none_iff_exists'.1 ht
    exact ⟨l, rest, by rw [splitAtCall?, hread]⟩
  induction a with
  | nil =>
      cases u with
      | nil =>
          refine absurd ?_ h
          rw [read, List.findSome?_eq_none_iff]
          intro mark _
          rfl
      | cons c u =>
          obtain ⟨l, rest, hsplit⟩ := hfound c u h
          exact ⟨[], l, rest, hsplit, Nat.le_refl 0⟩
  | cons c a ih =>
      by_cases hread : read marks (c :: (a ++ u)) = none
      · obtain ⟨before, l, rest, hsplit, hlength⟩ := ih
        refine ⟨c :: before, l, rest, ?_, Nat.succ_le_succ hlength⟩
        rw [List.cons_append, splitAtCall?, hread, hsplit]
        rfl
      · obtain ⟨l, rest, hsplit⟩ := hfound c (a ++ u) hread
        exact ⟨[], l, rest, hsplit, Nat.zero_le _⟩

theorem stop_eq (p : Placed) : p.stop = Text.utf8Size (p.before ++ p.literal.source) :=
  (Text.utf8Size_append _ _).symm

/-- Wherever a call can be read, it starts in one that the scan finds. -/
theorem exists_covering {u : Text} (h : read marks u ≠ none) (front a : Text) :
    ∃ p ∈ place front (scan marks (a ++ u)).calls,
      p.start ≤ Text.utf8Size (front ++ a) ∧ Text.utf8Size (front ++ a) < p.stop := by
  generalize ht : a ++ u = t
  fun_induction scan marks t generalizing front a with
  | case1 t hnone =>
      obtain ⟨before, l, rest, hsplit, -⟩ := exists_splitAtCall?_append h a
      rw [ht, hnone] at hsplit
      cases hsplit
  | case2 t before l rest hsome _ s ih =>
      obtain ⟨before', l', rest', hsplit, hlength⟩ := exists_splitAtCall?_append h a
      rw [ht, hsome] at hsplit
      cases hsplit
      have happend : a ++ u = before ++ l.source ++ rest :=
        ht.trans (splitAtCall?_eq_append hsome)
      obtain ⟨gap, rfl⟩ : ∃ gap, a = before ++ gap := by
        have hlead : before <+: a := List.prefix_of_prefix_length_le
          ⟨l.source ++ rest, by rw [happend, List.append_assoc]⟩ (List.prefix_append a u) hlength
        exact hlead.imp fun _ => Eq.symm
      rw [List.append_assoc, List.append_assoc, List.append_cancel_left_eq] at happend
      rcases List.append_eq_append_iff.1 happend with ⟨c, hsource, hu⟩ | ⟨c, rfl, rfl⟩
      · cases c with
        | nil =>
            obtain rfl : l.source = gap := by simpa using hsource
            obtain rfl : u = rest := by simpa using hu
            obtain ⟨p, hp, hstart, hstop⟩ := ih (front ++ before ++ l.source) [] rfl
            refine ⟨p, List.mem_cons_of_mem _ hp, ?_⟩
            rw [List.append_nil, List.append_assoc] at hstart hstop
            exact ⟨hstart, hstop⟩
        | cons d c =>
            refine ⟨_, List.mem_cons_self, ?_, ?_⟩
            · simp [Placed.start]
            · have hpos := Text.utf8Size_pos (List.cons_ne_nil d c)
              simp only [stop_eq, hsource, Text.utf8Size_append]
              omega
      · obtain ⟨p, hp, hstart, hstop⟩ := ih (front ++ before ++ l.source) c rfl
        refine ⟨p, List.mem_cons_of_mem _ hp, ?_⟩
        simp only [List.append_assoc] at hstart hstop ⊢
        exact ⟨hstart, hstop⟩

theorem le_start_of_mem_place {front : Text} {calls : List (Text × CallLiteral)} {p : Placed}
    (h : p ∈ place front calls) : Text.utf8Size front ≤ p.start := by
  induction calls generalizing front with
  | nil => cases h
  | cons call calls ih =>
      rcases List.mem_cons.1 h with rfl | h
      · simp [Placed.start]
      · refine Nat.le_trans ?_ (ih h)
        simp only [Text.utf8Size_append]
        omega

theorem pairwise_place (front : Text) (calls : List (Text × CallLiteral)) :
    (place front calls).Pairwise fun p q => p.stop ≤ q.start := by
  induction calls generalizing front with
  | nil => exact .nil
  | cons call calls ih =>
      refine List.pairwise_cons.2 ⟨fun q hq => ?_, ih _⟩
      rw [stop_eq]
      exact le_start_of_mem_place hq

/-- What a search of `code` for calls in quotes of the given kinds has to find. -/
structure Finds (marks : List QuoteMark) (code : Text) (found : List Placed) : Prop where
  /-- No call starts before the one in front of it has stopped. -/
  ordered : found.Pairwise fun p q => p.stop ≤ q.start
  /-- Each call is that part of the code, and its body ends at the first closer. -/
  sound : ∀ p ∈ found, p.start < p.stop ∧
    Text.slice? code p.start p.stop = some p.literal.source ∧ p.literal.quote ∈ marks ∧
    p.literal.WellFormed ∧ ¬ p.literal.closer <:+: p.literal.raw
  /-- The body is the one that a backtracking search settles on at that place. -/
  preferred : ∀ p ∈ found, ∃ after, code = p.before ++ p.literal.source ++ after ∧
    firstAttempt? p.literal.quote.char (p.literal.raw ++ p.literal.closer ++ after) =
      some (p.literal.raw, after)
  /-- A call that can be told from the text alone starts in a call that is found. -/
  complete : ∀ l : CallLiteral, l.quote ∈ marks → l.WellFormed → ∀ i rest,
    Text.dropBytes? code i = some rest → l.source <+: rest →
      ∃ p ∈ found, p.start ≤ i ∧ i < p.stop

theorem finds_place (marks : List QuoteMark) (code : Text) :
    Finds marks code (place [] (scan marks code).calls) where
  ordered := pairwise_place [] _
  sound := by
    intro p hp
    obtain ⟨after, hcode, hread⟩ := read_of_mem_place [] hp
    obtain ⟨mark, hmark, hwith⟩ := List.exists_of_findSome?_eq_some hread
    obtain ⟨hformed, hcloser, -⟩ := wellFormed_of_readWith hwith
    have hsize : 0 < Text.utf8Size p.literal.source := Text.utf8Size_pos (by simp [source])
    refine ⟨Nat.lt_add_of_pos_right hsize, ?_, ?_, hformed, hcloser⟩
    · rw [List.nil_append] at hcode
      rw [hcode]
      exact Text.slice?_append _ _ _
    · rw [(readWith_eq_some_iff.1 hwith).1]
      exact hmark
  preferred := by
    intro p hp
    obtain ⟨after, hcode, hread⟩ := read_of_mem_place [] hp
    obtain ⟨mark, -, hwith⟩ := List.exists_of_findSome?_eq_some hread
    exact ⟨after, hcode, (wellFormed_of_readWith hwith).2.2⟩
  complete := by
    rintro l hmark hformed i rest hdrop ⟨after, rfl⟩
    obtain ⟨a, rfl, rfl⟩ := Text.exists_append_of_dropBytes? hdrop
    exact exists_covering (hformed.read_ne_none hmark after) [] a

/-- A scan finds the calls that a search has to find, in Ruby code those in single quotes and
in script code those in quotes of either kind. -/
theorem finds_calls (code : Text) :
    Finds [.single] code (inRuby code) ∧ Finds [.single, .double] code (inScript code) :=
  ⟨finds_place _ code, finds_place _ code⟩

/-- A call in single quotes inside the literal of one in double quotes. -/
theorem finds_calls_nested :
    let code := "f(_(\"it's _('b')\"))".toList
    let inner : CallLiteral := ⟨['b'], .single⟩
    inScript code = [⟨"f(".toList, ⟨"it's _('b')".toList, .double⟩⟩] ∧
      inner.WellFormed ∧ Text.dropBytes? code 10 = some "_('b')\"))".toList ∧
      ∃ p ∈ inScript code, p.start ≤ 10 ∧ 10 < p.stop := by
  intro code inner
  have hformed : inner.WellFormed := by
    refine ⟨by decide, fun a b hraw => ?_⟩
    have hmem : inner.quote.char ∈ inner.raw := hraw ▸ by simp
    exact absurd hmem (by decide)
  have hdrop : Text.dropBytes? code 10 = some "_('b')\"))".toList := by decide +kernel
  refine ⟨by decide +kernel, hformed, hdrop, ?_⟩
  exact (finds_calls code).2.complete inner (by decide) hformed 10 _ hdrop ⟨"\"))".toList, rfl⟩

end CallLiteral

end Phrasebook
