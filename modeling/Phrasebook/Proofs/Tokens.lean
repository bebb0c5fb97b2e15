import Phrasebook.Proofs.Unterminated

/-!
The tokens that a scan for markers cuts a text into.

A token is a marker together with the text before it.  What makes it one can be told
without the scan: its lead does not end in a backslash, there is no earlier marker in
front of it, it has all the backslashes before its sigil, and its expression is the
shortest that the delimiters allow.  A text can be cut into such tokens in one way
only, and the scan finds it, byte by byte from where the last token stopped.
-/

namespace Phrasebook

namespace Text

theorem dropBytes?_append (s t : Text) : dropBytes? (s ++ t) (utf8Size s) = some t := by
  induction s with
  | nil => cases t <;> rfl
  | cons c s ih =>
      obtain ⟨k, hk⟩ := Nat.exists_eq_succ_of_ne_zero (Nat.ne_of_gt c.utf8Size_pos)
      have hsize : utf8Size (c :: s) = (k + utf8Size s) + 1 := by
        rw [utf8Size_cons, hk]
        omega
      rw [hsize, List.cons_append, dropBytes?, if_pos (by omega)]
      have hrest : k + utf8Size s + 1 - c.utf8Size = utf8Size s := by omega
      rw [hrest, ih]

theorem utf8Size_of_dropBytes? {t u : Text} {n : Nat} (h : dropBytes? t n = some u) :
    utf8Size t = n + utf8Size u := by
  fun_induction dropBytes? t n with
  | case1 t =>
      cases h
      rw [Nat.zero_add]
  | case2 n => cases h
  | case3 c t n hc ih =>
      have hrest := ih h
      rw [utf8Size_cons, hrest]
      omega
  | case4 => cases h

end Text

namespace Marker

variable {t before after front rest tail content : Text} {m : Marker} {ms : List Marker}

/-- The sigil and the brace that a marker starts with. -/
abbrev opening : Text := ['#', '{']

/-- The closer after `content` brings the depth of nesting, which is one at the start,
to zero. -/
structure ClosesAfter (after content : Text) : Prop where
  closer_prefix : content ++ ['}'] <+: after
  depth : (content ++ ['}']).count '}' = 1 + (content ++ ['}']).count '{'

/-- The shortest such content. -/
structure Shortest (after content : Text) : Prop extends ClosesAfter after content where
  length_le : ∀ s, ClosesAfter after s → content.length ≤ s.length

/-- A marker that was read between `front` and `rest`. -/
structure Token (front : Text) (m : Marker) (rest : Text) : Prop where
  lead : m.lead.getLast? ≠ some escape
  first : ¬ opening <:+: m.before ++ ['#']
  escapes : m.escapes = trailingEscapes (front ++ m.before)
  escaped : m.content = none ↔ m.escapes % 2 = 1
  shortest : ∀ content ∈ m.content, Shortest (content ++ '}' :: rest) content

/-- A text is the sources of tokens and the rest of it. -/
structure Tokenized (t : Text) (ms : List Marker) (tail : Text) : Prop where
  eq_append : t = ms.flatMap (source '{' '}') ++ tail
  token : ∀ xs m ys, ms = xs ++ m :: ys →
    Token (xs.flatMap (source '{' '}')) m (ys.flatMap (source '{' '}') ++ tail)

/-! ### Expressions -/

theorem shortest_of_split? (h : Delimited.split? '{' '}' 0 after = some (content, rest)) :
    Shortest after content := by
  obtain ⟨rfl, hbalanced⟩ := (Delimited.split?_eq_some_iff (by decide)).1 h
  have hsettled := hbalanced.settled
  refine ⟨⟨⟨rest, by simp⟩, ?_⟩, ?_⟩
  · simp [hsettled, Nat.add_comm]
  · intro s hs
    -- A shorter one would close more inside of the content than is open there.
    have hdepth := hs.depth
    have hprefix := Delimited.Balanced.prefix_of_closes_more hbalanced hs.closer_prefix (by omega)
    exact hprefix.length_le

theorem Shortest.eq {s : Text} (h : Shortest after content) (h' : Shortest after s) :
    content = s := by
  have hlength := Nat.le_antisymm (h.length_le s h'.toClosesAfter)
    (h'.length_le content h.toClosesAfter)
  have hsame : content ++ ['}'] = s ++ ['}'] :=
    (List.prefix_of_prefix_length_le h.closer_prefix h'.closer_prefix
      (by simp [hlength])).eq_of_length (by simp [hlength])
  exact List.append_cancel_right hsame

/-- An expression ends at the first closer that brings the depth to zero. -/
theorem split?_eq_some_iff_shortest :
    Delimited.split? '{' '}' 0 after = some (content, rest) ↔
      after = content ++ '}' :: rest ∧ Shortest after content := by
  refine ⟨fun h => ⟨Delimited.split?_eq_append h, shortest_of_split? h⟩, ?_⟩
  rintro ⟨happend, hshortest⟩
  cases hsplit : Delimited.split? '{' '}' 0 after with
  | none =>
      have hopen := unclosed_iff.2 hsplit _ hshortest.closer_prefix
      have hdepth := hshortest.depth
      omega
  | some group =>
      obtain ⟨inside, rest'⟩ := group
      obtain rfl := hshortest.eq (shortest_of_split? hsplit)
      have hsame := happend.symm.trans (Delimited.split?_eq_append hsplit)
      simp_all

/-! ### The first marker -/

theorem splitAtOpener?_eq_none_iff : splitAtOpener? '{' t = none ↔ ¬ opening <:+: t := by
  fun_induction splitAtOpener? '{' t with
  | case1 => simp
  | case2 c => simp [List.infix_cons_iff]
  | case3 c d t hcd =>
      obtain ⟨rfl, rfl⟩ := hcd
      simp only [reduceCtorEq, false_iff, Decidable.not_not]
      exact ⟨[], t, rfl⟩
  | case4 c d t hcd ih =>
      have hhead : ¬ opening <+: c :: d :: t := by
        simpa [sigil, eq_comm] using hcd
      rw [Option.map_eq_none_iff, ih, List.infix_cons_iff (a := c), not_or]
      exact (and_iff_right hhead).symm

theorem splitAtOpener?_eq_some_iff :
    splitAtOpener? '{' t = some (before, after) ↔
      t = before ++ '#' :: '{' :: after ∧ ¬ opening <:+: before ++ ['#'] := by
  constructor
  · intro h
    refine ⟨splitAtOpener?_eq_append h, ?_⟩
    rintro ⟨b, a, hba⟩
    have hlength := length_le_of_splitAtOpener? (b := b) (a := a ++ '{' :: after) h (by
      rw [splitAtOpener?_eq_append h, sigil, List.append_cons, ← hba]
      simp)
    have hsum := congrArg List.length hba
    simp at hsum
    omega
  · rintro ⟨rfl, hfirst⟩
    cases hsplit : splitAtOpener? '{' (before ++ '#' :: '{' :: after) with
    | none => exact absurd ⟨before, after, by simp⟩ (splitAtOpener?_eq_none_iff.1 hsplit)
    | some parts =>
        rcases cases_of_splitAtOpener? hsplit rfl with ⟨hb, ha⟩ | ⟨s, hb, -⟩
        · rw [hb, ha]
        · exact absurd ⟨parts.1, s ++ ['#'], by simp [hb]⟩ hfirst

theorem getLast?_dropEnd_ne (t : Text) :
    (Text.dropEnd (· = escape) t).getLast? ≠ some escape := by
  intro h
  rw [Text.dropEnd, List.getLast?_reverse] at h
  have hstop := List.head?_dropWhile_not (· = escape) t.reverse
  simp [h] at hstop

/-- The backslashes of a marker are all there are before its sigil. -/
theorem escapes_of_lead (hlead : m.lead.getLast? ≠ some escape) :
    trailingEscapes m.before = m.escapes ∧ Text.dropEnd (· = escape) m.before = m.lead := by
  rcases List.eq_nil_or_concat m.lead with hnil | ⟨s, c, hconcat⟩
  · rw [before, hnil, List.nil_append]
    exact ⟨trailingEscapes_replicate m.escapes, dropEnd_replicate m.escapes⟩
  · have hc : c ≠ escape := by simpa [hconcat] using hlead
    rw [before, hconcat, List.concat_eq_append, List.append_assoc, List.singleton_append,
      trailingEscapes_append_cons hc, dropEnd_append_cons hc, trailingEscapes_replicate,
      dropEnd_replicate]
    exact ⟨rfl, rfl⟩

/-! ### One step of a scan -/

theorem next_eq_finished_iff : next '{' '}' t = .finished ↔ ¬ opening <:+: t := by
  rw [← splitAtOpener?_eq_none_iff]
  refine ⟨next_eq_finished, fun h => ?_⟩
  rw [next, h]

/-- What is found is the token that a text starts with. -/
theorem next_eq_found_iff :
    next '{' '}' t = .found m rest ↔ t = m.source '{' '}' ++ rest ∧ Token [] m rest := by
  constructor
  · intro h
    obtain ⟨before, after, hs, hlead, hescapes, hread⟩ := next_eq_found h
    have hbefore : m.before = before := by
      rw [Marker.before, hlead, hescapes, dropEnd_append_trailingEscapes]
    refine ⟨next_eq_append h, ?_, ?_, ?_, ?_, ?_⟩
    · rw [hlead]
      exact getLast?_dropEnd_ne before
    · rw [hbefore]
      exact (splitAtOpener?_eq_some_iff.1 hs).2
    · rw [hescapes, hbefore, List.nil_append]
    · rcases hread with ⟨hodd, hcontent, -⟩ | ⟨heven, content, hcontent, -⟩
      · simp [hodd, hcontent]
      · simp [heven, hcontent]
    · intro content hcontent
      rcases hread with ⟨-, hnone, -⟩ | ⟨-, content', hsome, hsplit⟩
      · simp [hnone] at hcontent
      · obtain rfl := Option.some.inj (hcontent.symm.trans hsome)
        obtain ⟨happend, hshortest⟩ := split?_eq_some_iff_shortest.1 hsplit
        exact happend ▸ hshortest
  · rintro ⟨rfl, h⟩
    obtain ⟨hescapes, hlead⟩ := escapes_of_lead h.lead
    cases hcontent : m.content with
    | none =>
        have hs : splitAtOpener? '{' (m.source '{' '}' ++ rest) = some (m.before, rest) :=
          splitAtOpener?_eq_some_iff.2 ⟨by simp [source, hcontent, sigil], h.first⟩
        have hodd := h.escaped.1 hcontent
        simp [next, hs, hescapes, hlead, hodd, ← hcontent]
    | some content =>
        have hs : splitAtOpener? '{' (m.source '{' '}' ++ rest) =
            some (m.before, content ++ '}' :: rest) :=
          splitAtOpener?_eq_some_iff.2 ⟨by simp [source, hcontent, sigil], h.first⟩
        have hsplit := split?_eq_some_iff_shortest.2 ⟨rfl, h.shortest content hcontent⟩
        have heven : ¬ m.escapes % 2 = 1 := by simp [← h.escaped, hcontent]
        simp [next, hs, hescapes, hlead, heven, hsplit, ← hcontent]

theorem next_eq_unterminated_iff :
    next '{' '}' t = .unterminated before ↔ ∃ after, t = before ++ '#' :: '{' :: after ∧
      ¬ opening <:+: before ++ ['#'] ∧ Unterminated before after := by
  constructor
  · intro h
    obtain ⟨after, hs, heven, hsplit⟩ := next_eq_unterminated h
    obtain ⟨happend, hfirst⟩ := splitAtOpener?_eq_some_iff.1 hs
    exact ⟨after, happend, hfirst, heven, unclosed_iff.2 hsplit⟩
  · rintro ⟨after, happend, hfirst, h⟩
    have hs := splitAtOpener?_eq_some_iff.2 ⟨happend, hfirst⟩
    simp [next, hs, h.unescaped, unclosed_iff.1 h.unclosed]

/-! ### Cutting a text into tokens -/

theorem trailingEscapes_flatMap_append (ms : List Marker) (t : Text) :
    trailingEscapes (ms.flatMap (source '{' '}') ++ t) = trailingEscapes t := by
  induction ms with
  | nil => rfl
  | cons m ms ih => rw [List.flatMap_cons, List.append_assoc, trailingEscapes_source_append, ih]

/-- The backslashes of a token are counted from the end of the one before it, since a
brace is none. -/
theorem token_flatMap_iff : Token (ms.flatMap (source '{' '}')) m rest ↔ Token [] m rest := by
  constructor
  · intro h
    refine { h with escapes := ?_ }
    rw [h.escapes, trailingEscapes_flatMap_append, List.nil_append]
  · intro h
    refine { h with escapes := ?_ }
    rw [h.escapes, trailingEscapes_flatMap_append, List.nil_append]

theorem tokenized_nil_iff : Tokenized t [] tail ↔ t = tail := by
  constructor
  · intro h
    exact h.eq_append
  · rintro rfl
    exact ⟨rfl, by simp⟩

theorem tokenized_cons_iff : Tokenized t (m :: ms) tail ↔
    ∃ rest, t = m.source '{' '}' ++ rest ∧ Token [] m rest ∧ Tokenized rest ms tail := by
  constructor
  · intro h
    refine ⟨ms.flatMap (source '{' '}') ++ tail, ?_, h.token [] m ms rfl, rfl, ?_⟩
    · rw [h.eq_append, List.flatMap_cons, List.append_assoc]
    · intro xs m' ys hms
      have htoken := h.token (m :: xs) m' ys (by rw [hms, List.cons_append])
      exact token_flatMap_iff.2 (token_flatMap_iff.1 htoken)
  · rintro ⟨rest, rfl, htoken, hrest⟩
    refine ⟨by rw [List.flatMap_cons, List.append_assoc, ← hrest.eq_append], ?_⟩
    intro xs m' ys hms
    cases xs with
    | nil =>
        obtain ⟨rfl, rfl⟩ := List.cons.inj hms
        rwa [← hrest.eq_append]
    | cons x xs =>
        obtain ⟨rfl, hrests⟩ := List.cons.inj hms
        exact token_flatMap_iff.2 (token_flatMap_iff.1 (hrest.token xs m' ys hrests))

theorem scan_eq_cons_iff {e : Ending} : scan '{' '}' t = ⟨m :: ms, e⟩ ↔
    ∃ rest, next '{' '}' t = .found m rest ∧ scan '{' '}' rest = ⟨ms, e⟩ := by
  cases hnext : next '{' '}' t with
  | finished => simp [scan_of_finished hnext]
  | unterminated before => simp [scan_of_unterminated hnext]
  | found m' rest =>
      rw [scan_of_found hnext]
      constructor
      · intro h
        cases h
        exact ⟨rest, rfl, rfl⟩
      · rintro ⟨rest', hfound, hscan⟩
        cases hfound
        rw [hscan]

/-- A scan finds the tokens of a text, up to where there are no more. -/
theorem scan_eq_iff {e : Ending} : scan '{' '}' t = ⟨ms, e⟩ ↔
    ∃ tail, Tokenized t ms tail ∧ scan '{' '}' tail = ⟨[], e⟩ := by
  induction ms generalizing t with
  | nil => simp [tokenized_nil_iff]
  | cons m ms ih =>
      rw [scan_eq_cons_iff]
      constructor
      · rintro ⟨rest, hnext, hscan⟩
        obtain ⟨happend, htoken⟩ := next_eq_found_iff.1 hnext
        obtain ⟨tail, htokens, htail⟩ := ih.1 hscan
        exact ⟨tail, tokenized_cons_iff.2 ⟨rest, happend, htoken, htokens⟩, htail⟩
      · rintro ⟨tail, htokens, htail⟩
        obtain ⟨rest, happend, htoken, hrest⟩ := tokenized_cons_iff.1 htokens
        exact ⟨rest, next_eq_found_iff.2 ⟨happend, htoken⟩, ih.2 ⟨tail, hrest, htail⟩⟩

theorem scan_eq_text_iff : scan '{' '}' t = ⟨ms, .text tail⟩ ↔
    Tokenized t ms tail ∧ ¬ opening <:+: tail := by
  rw [scan_eq_iff]
  constructor
  · rintro ⟨u, htokens, hu⟩
    cases hnext : next '{' '}' u with
    | finished =>
        rw [scan_of_finished hnext] at hu
        cases hu
        exact ⟨htokens, next_eq_finished_iff.1 hnext⟩
    | found m rest => simp [scan_of_found hnext] at hu
    | unterminated before => simp [scan_of_unterminated hnext] at hu
  · rintro ⟨htokens, hfree⟩
    exact ⟨tail, htokens, scan_of_finished (next_eq_finished_iff.2 hfree)⟩

theorem scan_eq_unterminated_iff : scan '{' '}' t = ⟨ms, .unterminated before⟩ ↔
    ∃ after, Tokenized t ms (before ++ '#' :: '{' :: after) ∧
      ¬ opening <:+: before ++ ['#'] ∧ Unterminated before after := by
  rw [scan_eq_iff]
  constructor
  · rintro ⟨u, htokens, hu⟩
    cases hnext : next '{' '}' u with
    | finished => simp [scan_of_finished hnext] at hu
    | found m rest => simp [scan_of_found hnext] at hu
    | unterminated before' =>
        rw [scan_of_unterminated hnext] at hu
        cases hu
        obtain ⟨after, rfl, hfirst, hopen⟩ := next_eq_unterminated_iff.1 hnext
        exact ⟨after, htokens, hfirst, hopen⟩
  · rintro ⟨after, htokens, hfirst, hopen⟩
    exact ⟨_, htokens,
      scan_of_unterminated (next_eq_unterminated_iff.2 ⟨after, rfl, hfirst, hopen⟩)⟩

/-! ### Searching again and again -/

/-- The searches in `t` from byte `pos` on, each of which starts where the one before
found its marker to stop.  They end at the byte from which no marker is left, or fail
at the byte of one whose delimiters never balance. -/
inductive Searches (t : Text) : Nat → List Placed → Except Error Nat → Prop
  | finished {pos : Nat} {rest : Text} (hrest : Text.dropBytes? t pos = some rest)
      (hnext : next '{' '}' rest = .finished) : Searches t pos [] (.ok pos)
  | unterminated {pos : Nat} {rest before : Text} (hrest : Text.dropBytes? t pos = some rest)
      (hnext : next '{' '}' rest = .unterminated before) :
      Searches t pos [] (.error (.unbalancedDelimiter (pos + Text.utf8Size before)))
  | found {pos : Nat} {rest after : Text} {m : Marker} {ps : List Placed}
      {outcome : Except Error Nat} (hrest : Text.dropBytes? t pos = some rest)
      (hnext : next '{' '}' rest = .found m after)
      (hsearches : Searches t (pos + Text.utf8Size (m.source '{' '}')) ps outcome) :
      Searches t pos
        (⟨m, pos + Text.utf8Size m.before, pos + Text.utf8Size (m.source '{' '}')⟩ :: ps) outcome

/-- Where the searches end that a scan from byte `start` on makes. -/
def Scan.outcome (s : Scan) (start : Nat) : Except Error Nat :=
  match s.failure? '{' '}' start with
  | none => .ok (start + size '{' '}' s.markers)
  | some offset => .error (.unbalancedDelimiter offset)

theorem Scan.outcome_cons (m : Marker) (s : Scan) (start : Nat) :
    (Scan.mk (m :: s.markers) s.ending).outcome start =
      s.outcome (start + Text.utf8Size (m.source '{' '}')) := by
  cases hending : s.ending with
  | text tail => simp [outcome, failure?, hending, size, Nat.add_assoc]
  | unterminated before => simp [outcome, failure?, hending, size, Nat.add_assoc]

theorem Scan.outcome_eq_ok_iff {s : Scan} {start pos : Nat} : s.outcome start = .ok pos ↔
    pos = start + size '{' '}' s.markers ∧ ∃ tail, s.ending = .text tail := by
  cases hending : s.ending with
  | text tail => simp [outcome, failure?, hending, eq_comm]
  | unterminated before => simp [outcome, failure?, hending]

theorem Scan.outcome_eq_error_iff {s : Scan} {start offset : Nat} :
    s.outcome start = .error (.unbalancedDelimiter offset) ↔
      ∃ before, s.ending = .unterminated before ∧
        offset = start + size '{' '}' s.markers + Text.utf8Size before := by
  cases hending : s.ending with
  | text tail => simp [outcome, failure?, hending]
  | unterminated before => simp [outcome, failure?, hending, eq_comm]

/-- The scan of what comes after `front` makes the searches from there. -/
theorem searches_scan (front rest : Text) :
    Searches (front ++ rest) (Text.utf8Size front)
      (place '{' '}' (Text.utf8Size front) (scan '{' '}' rest).markers)
      ((scan '{' '}' rest).outcome (Text.utf8Size front)) := by
  have hdrop := Text.dropBytes?_append front rest
  fun_induction scan '{' '}' rest generalizing front with
  | case1 rest hnext => exact .finished hdrop hnext
  | case2 rest before hnext => exact .unterminated hdrop hnext
  | case3 rest m after hnext _ s ih =>
      have happend : front ++ rest = front ++ m.source '{' '}' ++ after := by
        rw [next_eq_append hnext, List.append_assoc]
      have hsearches := ih (front ++ m.source '{' '}') (Text.dropBytes?_append _ _)
      rw [← happend, Text.utf8Size_append] at hsearches
      rw [Scan.outcome_cons]
      exact .found hdrop hnext hsearches

theorem Searches.eq {pos : Nat} {ps ps' : List Placed} {outcome outcome' : Except Error Nat}
    (h : Searches t pos ps outcome) (h' : Searches t pos ps' outcome') :
    ps' = ps ∧ outcome' = outcome := by
  induction h generalizing ps' outcome' with
  | finished hrest hnext =>
      cases h' <;> simp_all
  | unterminated hrest hnext =>
      cases h' <;> simp_all
  | found hrest hnext hsearches ih =>
      cases h' with
      | finished hrest' hnext' => simp_all
      | unterminated hrest' hnext' => simp_all
      | found hrest' hnext' hsearches' =>
          obtain rfl := Option.some.inj (hrest.symm.trans hrest')
          obtain ⟨rfl, rfl⟩ := Step.found.inj (hnext.symm.trans hnext')
          obtain ⟨rfl, rfl⟩ := ih hsearches'
          exact ⟨rfl, rfl⟩

/-- No marker stops where the search for it started. -/
theorem pairwise_stop_place (start : Nat) (ms : List Marker) :
    (start :: (place '{' '}' start ms).map Placed.stop).Pairwise (· < ·) := by
  induction ms generalizing start with
  | nil => simp [place]
  | cons m ms ih =>
      have hstop : start < start + Text.utf8Size (m.source '{' '}') := by
        have hsigil : 0 < sigil.utf8Size := Char.utf8Size_pos sigil
        rw [source, Text.utf8Size_append, Text.utf8Size_cons]
        omega
      have hrest := ih (start + Text.utf8Size (m.source '{' '}'))
      refine List.pairwise_cons.2 ⟨?_, hrest⟩
      intro stop hmem
      rcases List.mem_cons.1 hmem with rfl | hmem
      · exact hstop
      · exact Nat.lt_trans hstop ((List.pairwise_cons.1 hrest).1 stop hmem)

theorem Tokenized.pos_eq {pos : Nat} (h : Tokenized t ms tail)
    (hdrop : Text.dropBytes? t pos = some tail) : pos = size '{' '}' ms := by
  have hsize := Text.utf8Size_of_dropBytes? hdrop
  rw [h.eq_append, Text.utf8Size_append] at hsize
  rw [size]
  omega

/-- The searches for markers in a text are those of its scan.  Each stops further on than
the one before.  They end if the text can be cut into tokens and a tail without any
marker, which can be done in one way only, and the scan finds it.  They fail if the
first marker that is no token is not escaped and its braces never balance. -/
theorem scan_tokenized (t : Text) :
    let s := scan '{' '}' t
    let ps := place '{' '}' 0 s.markers
    (∀ found outcome, Searches t 0 found outcome ↔ found = ps ∧ outcome = s.outcome 0) ∧
      (0 :: ps.map Placed.stop).Pairwise (· < ·) ∧
      (∀ ms pos, s.markers = ms ∧ s.outcome 0 = .ok pos ↔ ∃ tail,
        Text.dropBytes? t pos = some tail ∧ Tokenized t ms tail ∧ ¬ opening <:+: tail) ∧
      ∀ ms offset, s.markers = ms ∧ s.outcome 0 = .error (.unbalancedDelimiter offset) ↔
        ∃ before after, Tokenized t ms (before ++ '#' :: '{' :: after) ∧
          ¬ opening <:+: before ++ ['#'] ∧
          Unterminated (ms.flatMap (source '{' '}') ++ before) after ∧
          offset = Text.utf8Size (ms.flatMap (source '{' '}') ++ before) := by
  intro s ps
  refine ⟨?_, pairwise_stop_place 0 s.markers, ?_, ?_⟩
  · have hscan : Searches t 0 ps (s.outcome 0) := searches_scan [] t
    intro found outcome
    constructor
    · exact hscan.eq
    · rintro ⟨rfl, rfl⟩
      exact hscan
  · intro ms pos
    constructor
    · rintro ⟨rfl, h⟩
      obtain ⟨hpos, tail, hending⟩ := Scan.outcome_eq_ok_iff.1 h
      obtain ⟨htokens, hfree⟩ := scan_eq_text_iff.1 (show s = ⟨s.markers, .text tail⟩ by
        rw [← hending])
      refine ⟨tail, ?_, htokens, hfree⟩
      have hdrop := Text.dropBytes?_append (s.markers.flatMap (source '{' '}')) tail
      rwa [← htokens.eq_append, ← size, ← Nat.zero_add (size _ _ _), ← hpos] at hdrop
    · rintro ⟨tail, hdrop, htokens, hfree⟩
      have hscan : s = ⟨ms, .text tail⟩ := scan_eq_text_iff.2 ⟨htokens, hfree⟩
      refine ⟨by rw [hscan], Scan.outcome_eq_ok_iff.2 ⟨?_, tail, by rw [hscan]⟩⟩
      rw [hscan, Nat.zero_add]
      exact htokens.pos_eq hdrop
  · intro ms offset
    constructor
    · rintro ⟨rfl, h⟩
      obtain ⟨before, hending, hoffset⟩ := Scan.outcome_eq_error_iff.1 h
      obtain ⟨after, htokens, hfirst, hopen⟩ :=
        scan_eq_unterminated_iff.1 (show s = ⟨s.markers, .unterminated before⟩ by rw [← hending])
      refine ⟨before, after, htokens, hfirst, ⟨?_, hopen.unclosed⟩, ?_⟩
      · rw [trailingEscapes_flatMap_append]
        exact hopen.unescaped
      · rw [hoffset, size, Nat.zero_add, Text.utf8Size_append]
    · rintro ⟨before, after, htokens, hfirst, hopen, rfl⟩
      have heven := hopen.unescaped
      rw [trailingEscapes_flatMap_append] at heven
      have hscan : s = ⟨ms, .unterminated before⟩ :=
        scan_eq_unterminated_iff.2 ⟨after, htokens, hfirst, heven, hopen.unclosed⟩
      refine ⟨by rw [hscan], Scan.outcome_eq_error_iff.2 ⟨before, by rw [hscan], ?_⟩⟩
      rw [hscan, size, Nat.zero_add, Text.utf8Size_append]

end Marker

end Phrasebook
