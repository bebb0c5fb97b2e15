import Phrasebook.Localizer
import Phrasebook.Proofs.Bodies
import Phrasebook.Proofs.Placeholders
import Phrasebook.Proofs.ScriptCalls

/-!
Line feeds in text and in the code of lookups.

A text takes up one line more than it has line feeds.  The scans for markers and
for calls lose nothing and add nothing, so a phrase has only the line feeds of its
fragment, and a rewritten line of script code has only those of the msgids in it.
These come from escape sequences, which were decoded.
-/

namespace Phrasebook

namespace Text

/-- The number of lines that a text takes up between line feeds. -/
def height (t : Text) : Nat :=
  t.count '\n' + 1

/-- A text that ends in a character other than a line feed. -/
def EndsOpen (t : Text) : Prop :=
  ∃ c ∈ t.getLast?, c ≠ '\n'

theorem endsOpen_concat {c : Char} (h : c ≠ '\n') (t : Text) : EndsOpen (t ++ [c]) :=
  ⟨c, by simp, h⟩

theorem EndsOpen.ne_nil {t : Text} (h : EndsOpen t) : t ≠ [] := by
  rintro rfl
  simp [EndsOpen] at h

theorem endsOpen_append_iff (s : Text) {t : Text} (ht : t ≠ []) :
    EndsOpen (s ++ t) ↔ EndsOpen t := by
  simp [EndsOpen, List.getLast?_append, List.getLast?_eq_some_getLast ht]

theorem EndsOpen.append_left {t : Text} (h : EndsOpen t) (s : Text) : EndsOpen (s ++ t) :=
  (endsOpen_append_iff s h.ne_nil).2 h

theorem endsOpen_of_not_mem {t : Text} (hne : t ≠ []) (h : '\n' ∉ t) : EndsOpen t := by
  refine ⟨t.getLast hne, List.getLast?_eq_some_getLast hne, ?_⟩
  rintro hfeed
  exact h (hfeed ▸ List.getLast_mem hne)

theorem endsLine_eq_false_of_endsOpen {t : Text} (h : EndsOpen t) : endsLine t = false := by
  obtain ⟨c, hc, hne⟩ := h
  rw [Option.mem_def] at hc
  simp [endsLine, hc, hne]

/-! ### Counting lines -/

theorem endsLine_cons_of_ne_nil (c : Char) {t : Text} (h : t ≠ []) :
    endsLine (c :: t) = endsLine t := by
  obtain ⟨d, t, rfl⟩ := List.exists_cons_of_ne_nil h
  simp [endsLine]

theorem endsLine_cons_feed (t : Text) : endsLine ('\n' :: t) = (t.isEmpty || endsLine t) := by
  cases t with
  | nil => rfl
  | cons c t => rw [endsLine_cons_of_ne_nil _ (by simp), List.isEmpty_cons, Bool.false_or]

theorem lines_eq_nil_iff {t : Text} : lines t = [] ↔ t = [] := by
  fun_cases lines t <;> simp_all

/-- The line after the last line feed counts if there is anything on it. -/
theorem length_lines (t : Text) :
    (lines t).length = t.count '\n' + if t.isEmpty || endsLine t then 0 else 1 := by
  fun_induction lines t with
  | case1 => rfl
  | case2 t ih =>
      rw [List.length_cons, ih, endsLine_cons_feed, List.count_cons_self]
      simp [Nat.add_right_comm]
  | case3 t ih =>
      rw [List.length_cons, ih, endsLine_cons_of_ne_nil _ (by simp), endsLine_cons_feed,
        List.count_cons_of_ne (by decide), List.count_cons_self]
      simp [Nat.add_right_comm]
  | case4 c t hfeed _ hnil ih =>
      obtain rfl := lines_eq_nil_iff.1 hnil
      have hc : c ≠ '\n' := hfeed
      simp [endsLine, hc]
  | case5 c t hfeed _ l ls hlines ih =>
      have ht : t ≠ [] := by
        rintro rfl
        simp [lines] at hlines
      rw [hlines] at ih
      rw [List.length_cons] at ih ⊢
      rw [ih, endsLine_cons_of_ne_nil c ht, List.count_cons_of_ne hfeed]
      simp [ht]

theorem length_lines_of_endsOpen {t : Text} (h : EndsOpen t) : (lines t).length = height t := by
  simp [length_lines, height, endsLine_eq_false_of_endsOpen h, h.ne_nil]

theorem length_lines_concat (t : Text) : (lines (t ++ ['\n'])).length = height t := by
  simp [length_lines, height, endsLine]

theorem getLast?_cons_lines (l : Text) {t : Text} (h : t ≠ []) :
    (l :: lines t).getLast? = (lines t).getLast? := by
  obtain ⟨m, ms, hms⟩ := List.exists_cons_of_ne_nil (mt lines_eq_nil_iff.1 h)
  rw [hms, List.getLast?_cons_cons]

/-- A text that no line feed ends has its end on its last line. -/
theorem endsOpen_getLast_lines {t l : Text} (h : endsLine t = false)
    (hl : l ∈ (lines t).getLast?) : EndsOpen l := by
  refine endsOpen_of_not_mem ?_ (not_mem_of_mem_lines (List.mem_of_getLast? hl))
  fun_induction lines t with
  | case1 => simp at hl
  | case2 t ih =>
      rw [endsLine_cons_feed, Bool.or_eq_false_iff] at h
      rw [getLast?_cons_lines [] (by simpa using h.1)] at hl
      exact ih h.2 hl
  | case3 t ih =>
      rw [endsLine_cons_of_ne_nil _ (by simp), endsLine_cons_feed, Bool.or_eq_false_iff] at h
      rw [getLast?_cons_lines [] (by simpa using h.1)] at hl
      exact ih h.2 hl
  | case4 c t hfeed _ hnil ih =>
      cases hl
      simp
  | case5 c t hfeed _ m ms hlines ih =>
      have ht : t ≠ [] := by
        rintro rfl
        simp [lines] at hlines
      rw [endsLine_cons_of_ne_nil c ht] at h
      cases ms with
      | nil =>
          cases hl
          simp
      | cons k ms =>
          refine ih h ?_
          rw [hlines]
          simpa using hl

/-! ### Joining lines -/

theorem height_unlines {ts : List Text} (h : ts ≠ []) :
    height (unlines ts) = (ts.map height).sum := by
  induction ts with
  | nil => exact absurd rfl h
  | cons t ts ih =>
      cases ts with
      | nil => simp [unlines, join]
      | cons u ts =>
          have hrest := ih (by simp)
          have hjoin : unlines (t :: u :: ts) = t ++ ['\n'] ++ unlines (u :: ts) := rfl
          rw [List.map_cons, List.sum_cons, ← hrest, hjoin]
          simp only [height, List.count_append, List.count_singleton_self]
          omega

theorem endsOpen_unlines {ts : List Text} (hne : ts ≠ []) (h : ∀ t ∈ ts.getLast?, EndsOpen t) :
    EndsOpen (unlines ts) := by
  induction ts with
  | nil => exact absurd rfl hne
  | cons t ts ih =>
      cases ts with
      | nil => exact h t rfl
      | cons u ts =>
          have hrest : EndsOpen (unlines (u :: ts)) := ih (by simp) (by simpa using h)
          exact hrest.append_left (t ++ ['\n'])

end Text

/-! ### Phrases -/

namespace Marker

theorem dropEnd_append_trailingEscapes (t : Text) :
    Text.dropEnd (· = escape) t ++ List.replicate (trailingEscapes t) escape = t := by
  have hescapes : List.replicate (trailingEscapes t) escape =
      (t.reverse.takeWhile (· = escape)).reverse := by
    rw [trailingEscapes, ← List.length_reverse, eq_comm, List.eq_replicate_iff]
    refine ⟨rfl, ?_⟩
    intro c hc
    simpa using List.mem_takeWhile_imp (List.mem_reverse.1 hc)
  rw [hescapes, Text.dropEnd, ← List.reverse_append, List.takeWhile_append_dropWhile,
    List.reverse_reverse]

variable {opener closer : Char} {t : Text}

theorem next_eq_append {m : Marker} {rest : Text} (h : next opener closer t = .found m rest) :
    t = m.source opener closer ++ rest := by
  obtain ⟨before, after, hs, hlead, hescapes, hread⟩ := next_eq_found h
  have hbefore : m.before = before := by
    rw [Marker.before, hlead, hescapes, dropEnd_append_trailingEscapes]
  rw [splitAtOpener?_eq_append hs, source, hbefore]
  rcases hread with ⟨-, hcontent, rfl⟩ | ⟨-, content, hcontent, hsplit⟩
  · simp [hcontent]
  · simp [hcontent, Delimited.split?_eq_append hsplit]

/-- Scanning loses nothing. -/
theorem scan_eq_append {tail : Text} (h : (scan opener closer t).ending = .text tail) :
    t = (scan opener closer t).markers.flatMap (source opener closer) ++ tail := by
  fun_induction scan opener closer t with
  | case1 t hnext =>
      cases h
      rfl
  | case2 t before hnext => exact absurd h (by simp)
  | case3 t m rest hnext _ s ih =>
      rw [List.flatMap_cons, List.append_assoc, ← ih h]
      exact next_eq_append hnext

theorem feed_not_mem_template {m : Marker} (h : '\n' ∉ m.source '{' '}') : '\n' ∉ m.template := by
  have hlead : '\n' ∉ m.lead := by
    intro hc
    exact h (List.mem_append_left _ (List.mem_append_left _ hc))
  have hescapes : '\n' ∉ List.replicate (m.escapes / 2) escape := by
    intro hc
    exact absurd (List.eq_of_mem_replicate hc) (by decide)
  cases hcontent : m.content <;>
    simp [template, hcontent, hlead, hescapes, placeholder, sigil]

end Marker

theorem Snippet.feed_not_mem_escapeHtml {code : Text} (h : '\n' ∉ code) :
    '\n' ∉ escapeHtml code := by
  have hopen : '\n' ∉ "Haml::Helpers.html_escape(".toList := by simp
  unfold escapeHtml
  intro hc
  rcases List.mem_append.1 hc with hc | hc
  · rcases List.mem_append.1 hc with hc | hc
    · exact hopen hc
    · exact h hc
  · exact absurd hc (by decide)

/-- A phrase has no line feed that its fragment does not have. -/
theorem Phrase.feed_not_mem_of_ofText {escapeHtml : Bool} {t : Text} {p : Phrase}
    (h : ofText escapeHtml t = .ok p) (hfeed : '\n' ∉ t) :
    '\n' ∉ p.template ∧ ∀ a ∈ p.args, '\n' ∉ a := by
  obtain ⟨tail, hending, rfl⟩ := ofText_eq_ok_iff.1 h
  rw [Marker.scan_eq_append hending, List.mem_append, not_or] at hfeed
  obtain ⟨hmarkers, htail⟩ := hfeed
  have hsource : ∀ m ∈ (Marker.scan '{' '}' t).markers, '\n' ∉ m.source '{' '}' :=
    fun m hm hc => hmarkers (List.mem_flatMap.2 ⟨m, hm, hc⟩)
  constructor
  · intro hc
    rcases List.mem_append.1 hc with hc | hc
    · obtain ⟨m, hm, hc⟩ := List.mem_flatMap.1 hc
      exact Marker.feed_not_mem_template (hsource m hm) hc
    · exact htail (Text.mem_of_mem_chomp hc)
  · intro a ha hc
    obtain ⟨content, hmem, rfl⟩ := List.mem_map.1 ha
    obtain ⟨m, hm, hcontent⟩ := List.mem_filterMap.1 hmem
    have hinside : '\n' ∉ content := by
      intro hc
      refine hsource m hm ?_
      simp [Marker.source, hcontent, hc]
    cases escapeHtml with
    | false => exact hinside hc
    | true => exact Snippet.feed_not_mem_escapeHtml hinside hc

/-! ### Lookups -/

theorem Literal.SingleQuoted.count_feed_encode (t : Text) :
    (encode t).count '\n' = t.count '\n' := by
  induction t with
  | nil => rfl
  | cons c t ih =>
      rw [encode]
      split
      · rw [List.count_cons_of_ne (by decide), List.count_cons, List.count_cons, ih]
      · rw [List.count_cons, List.count_cons, ih]

namespace Snippet

theorem count_feed_call (msgid : Text) : (call msgid).count '\n' = msgid.count '\n' := by
  simp [call, Literal.SingleQuoted.count_feed_encode]

theorem count_feed_interpolation (code : Text) :
    (interpolation code).count '\n' = code.count '\n' := by
  simp [interpolation]

theorem feed_not_mem_interpolation {code : Text} (h : '\n' ∉ code) :
    '\n' ∉ interpolation code := by
  rwa [← List.count_eq_zero, count_feed_interpolation, List.count_eq_zero]

theorem count_feed_scriptLookup (msgid : Text) :
    (scriptLookup msgid).count '\n' = msgid.count '\n' := by
  have hsuffix : ".to_json".toList.count '\n' = 0 := by decide
  rw [scriptLookup, List.count_append, count_feed_call, hsuffix, Nat.add_zero]

theorem feed_not_mem_lookup {msgid : Text} {args : List Text} (h : '\n' ∉ msgid)
    (hargs : ∀ a ∈ args, '\n' ∉ a) : '\n' ∉ lookup msgid args := by
  have hcall : '\n' ∉ call msgid := by
    rw [← List.count_eq_zero, count_feed_call]
    exact List.count_eq_zero.2 h
  have hjoin : '\n' ∉ Text.join [',', ' '] args := by
    fun_induction Text.join [',', ' '] args with
    | case1 => simp
    | case2 t => exact hargs t List.mem_cons_self
    | case3 t u ts ih =>
        have hts := ih fun a ha => hargs a (List.mem_cons_of_mem t ha)
        simp [hargs t List.mem_cons_self, hts]
  simp [lookup, hcall, hjoin]

end Snippet

/-! ### Script code -/

namespace CallLiteral

/-- Scanning loses nothing. -/
theorem scan_eq_append (marks : List QuoteMark) (t : Text) :
    t = ((scan marks t).calls.flatMap fun (before, l) => before ++ l.source) ++
      (scan marks t).tail := by
  fun_induction scan marks t with
  | case1 t hnone => rfl
  | case2 t before l rest hsome _ s ih =>
      rw [List.flatMap_cons, List.append_assoc, ← ih]
      exact splitAtCall?_eq_append hsome

end CallLiteral

namespace Localizer

theorem count_feed_scriptCall {l : CallLiteral} (h : '\n' ∉ l.source) :
    (scriptCall l).count '\n' = (l.decodeScript.toOption.map (List.count '\n')).getD 0 := by
  unfold scriptCall
  cases l.decodeScript with
  | ok msgid => exact (Snippet.count_feed_interpolation _).trans (Snippet.count_feed_scriptLookup _)
  | error e => exact List.count_eq_zero.2 h

/-- A line of script code gets the line feeds of its msgids. -/
theorem count_feed_scriptLine {code : Text} (h : '\n' ∉ code) :
    (scriptLine code).count '\n' =
      ((CallLiteral.scriptMsgids code).map (List.count '\n')).sum := by
  rw [CallLiteral.scan_eq_append [.single, .double] code, List.mem_append, not_or] at h
  obtain ⟨hcalls, htail⟩ := h
  rw [scriptLine, CallLiteral.scriptMsgids, List.count_append, List.count_eq_zero.2 htail,
    Nat.add_zero]
  generalize (CallLiteral.scan [.single, .double] code).calls = calls at hcalls ⊢
  induction calls with
  | nil => rfl
  | cons call calls ih =>
      rw [List.flatMap_cons, List.mem_append, List.mem_append, not_or, not_or] at hcalls
      obtain ⟨⟨hbefore, hsource⟩, hcalls⟩ := hcalls
      rw [List.flatMap_cons, List.count_append, List.count_append, ih hcalls,
        List.count_eq_zero.2 hbefore, count_feed_scriptCall hsource, List.map_cons]
      cases hdecode : call.2.decodeScript.toOption <;> simp [hdecode]

end Localizer

end Phrasebook
