import Phrasebook.Proofs.Balance
import Phrasebook.Proofs.Edits
import Phrasebook.Proofs.Scan

/-!
Lookups that localization embeds in text.

An embedded lookup ends where its braces balance, and nothing in a literal is
exempt from that count.  The code around the msgid has no braces, the expressions
of a fragment were found by the same count, and a backslash is no brace.  So the
lookup is read back as a whole if and only if the braces of its msgid balance;
otherwise it ends too early or not at all.
-/

namespace Phrasebook

open Delimited

/-! ### Code around msgids -/

theorem Literal.SingleQuoted.closes_encode_iff (t : Text) (depth : Nat) :
    Closes '{' '}' depth (encode t) ↔ Closes '{' '}' depth t := by
  induction t generalizing depth with
  | nil => rfl
  | cons c t ih =>
      have hcons : Closes '{' '}' depth (c :: encode t) ↔ Closes '{' '}' depth (c :: t) :=
        closes_cons_congr (by decide) ih c
      rw [encode]
      split
      · rw [closes_cons_of_ne (by decide) (by decide), hcons]
      · exact hcons

namespace Snippet

variable {msgid : Text}

theorem balanced_call_iff : Balanced '{' '}' (call msgid) ↔ Balanced '{' '}' msgid := by
  have hopen : Balanced '{' '}' ['_', '(', '\''] := .of_not_mem (by decide) (by decide)
  have hclose : Balanced '{' '}' ['\'', ')'] := .of_not_mem (by decide) (by decide)
  rw [call, hclose.append_iff_left, hopen.append_iff_right]
  exact Literal.SingleQuoted.closes_encode_iff msgid 0

theorem balanced_lookup_iff {args : List Text} (hargs : ∀ a ∈ args, Balanced '{' '}' a) :
    Balanced '{' '}' (lookup msgid args) ↔ Balanced '{' '}' msgid := by
  have hsep : Balanced '{' '}' [',', ' '] := .of_not_mem (by decide) (by decide)
  have hopen : Balanced '{' '}' [' ', '%', ' ', '['] := .of_not_mem (by decide) (by decide)
  have hclose : Balanced '{' '}' [']'] := .of_not_mem (by decide) (by decide)
  rw [lookup, hclose.append_iff_left, (Balanced.join hsep hargs).append_iff_left,
    hopen.append_iff_left, balanced_call_iff]

theorem balanced_scriptLookup_iff :
    Balanced '{' '}' (scriptLookup msgid) ↔ Balanced '{' '}' msgid := by
  have hsuffix : Balanced '{' '}' ".to_json".toList := .of_not_mem (by decide) (by decide)
  rw [scriptLookup, hsuffix.append_iff_left, balanced_call_iff]

end Snippet

/-! ### Markers -/

namespace Marker

/-- A text is one marker that embeds `code`, with nothing before or after it. -/
def Embeds (t code : Text) : Prop :=
  next '{' '}' t = .found ⟨[], 0, some code⟩ []

theorem embeds_interpolation_iff (code : Text) :
    Embeds (Snippet.interpolation code) code ↔ Balanced '{' '}' code := by
  have hopener : splitAtOpener? '{' (Snippet.interpolation code) = some ([], code ++ ['}']) := by
    simp [Snippet.interpolation, splitAtOpener?, sigil]
  calc
    Embeds (Snippet.interpolation code) code ↔
        split? '{' '}' 0 (code ++ ['}']) = some (code, []) := by
      rw [Embeds, next, hopener]
      cases hsplit : split? '{' '}' 0 (code ++ ['}']) with
      | none => simp [trailingEscapes, hsplit]
      | some group => simp [trailingEscapes, Text.dropEnd, hsplit, Prod.ext_iff]
    _ ↔ Balanced '{' '}' code := by
      rw [split?_eq_some_iff (by decide)]
      exact and_iff_right rfl

theorem balanced_of_mem_scan {t content : Text} {m : Marker}
    (hm : m ∈ (scan '{' '}' t).markers) (hcontent : m.content = some content) :
    Balanced '{' '}' content := by
  fun_induction scan '{' '}' t with
  | case1 t h => exact absurd hm List.not_mem_nil
  | case2 t before h => exact absurd hm List.not_mem_nil
  | case3 t m' rest h _ s ih =>
      rcases List.mem_cons.1 hm with rfl | hm
      · obtain ⟨before, after, -, -, -, hread⟩ := next_eq_found h
        rcases hread with ⟨-, hnone, -⟩ | ⟨-, content', hsome, hsplit⟩
        · simp [hnone] at hcontent
        · obtain rfl := Option.some.inj (hcontent.symm.trans hsome)
          exact ((split?_eq_some_iff (by decide)).1 hsplit).2
      · exact ih hm

end Marker

theorem Phrase.balanced_of_mem_args {t a : Text} {p : Phrase} (h : ofText false t = .ok p)
    (ha : a ∈ p.args) : Balanced '{' '}' a := by
  obtain ⟨tail, -, rfl⟩ := ofText_eq_ok_iff.1 h
  obtain ⟨content, hmem, rfl⟩ := List.mem_map.1 ha
  obtain ⟨m, hm, hcontent⟩ := List.mem_filterMap.1 hmem
  exact Marker.balanced_of_mem_scan hm hcontent

/-! ### Embedded lookups -/

namespace Localizer

open Marker (Embeds)

/-- What localization embeds in the value of a tag, in a markdown body or in script
code is read back as the whole lookup if and only if the braces of the msgid
balance. -/
theorem embeds_lookup_iff (l : Localizer) :
    (∀ tag out, l.tagValue tag = .ok (some out) →
      ∃ phrase, Phrase.ofText false tag.value = .ok phrase ∧
        (Embeds out (Snippet.lookup phrase.template phrase.args) ↔
          Balanced '{' '}' phrase.template)) ∧
    (∀ f out, markdownLine f = some out →
      (Embeds out (Snippet.lookup f.msgid []) ↔ Balanced '{' '}' f.msgid)) ∧
    ∀ (call : CallLiteral) (msgid : Text), call.decodeScript = .ok msgid →
      (Embeds (scriptCall call) (Snippet.scriptLookup msgid) ↔ Balanced '{' '}' msgid) := by
  refine ⟨?_, ?_, ?_⟩
  · intro tag out h
    obtain ⟨phrase, hphrase, rfl⟩ := tagValue_eq_some h
    refine ⟨phrase, hphrase, ?_⟩
    rw [Marker.embeds_interpolation_iff]
    exact Snippet.balanced_lookup_iff fun a ha => Phrase.balanced_of_mem_args hphrase ha
  · intro f out h
    rw [markdownLine_eq_some h, Marker.embeds_interpolation_iff]
    exact Snippet.balanced_lookup_iff (by simp)
  · intro call msgid h
    rw [scriptCall, h]
    rw [Marker.embeds_interpolation_iff]
    exact Snippet.balanced_scriptLookup_iff

/-- An escaped marker and nested braces balance, and a single closing brace does not. -/
theorem embeds_lookup_braces :
    let l : Localizer := ⟨⟨true, .i18n⟩, none, false⟩
    let tag : Tag := ⟨['p'], none, "\\#\x7ba\x7d #\x7bh(\x7b\x7d)\x7d".toList, 2, 3⟩
    let code := Snippet.lookup "#\x7ba\x7d %s".toList ["h(\x7b\x7d)".toList]
    let f : Filter := ⟨.markdown, "a \x7d b".toList, [], 2⟩
    let call : CallLiteral := ⟨"\x7d".toList, .single⟩
    l.tagValue tag = .ok (some (Snippet.interpolation code)) ∧
      Embeds (Snippet.interpolation code) code ∧
      markdownLine f = some (Snippet.interpolation (Snippet.lookup f.msgid [])) ∧
      ¬ Embeds (Snippet.interpolation (Snippet.lookup f.msgid [])) (Snippet.lookup f.msgid []) ∧
      call.decodeScript = .ok ['\x7d'] ∧
      ¬ Embeds (scriptCall call) (Snippet.scriptLookup ['\x7d']) := by
  intro l tag code f call
  obtain ⟨htags, hmarkdown, hscript⟩ := embeds_lookup_iff l
  have hphrase : Phrase.ofText false tag.value =
      .ok ⟨"#\x7ba\x7d %s".toList, ["h(\x7b\x7d)".toList]⟩ :=
    Phrase.ofText_eq_ok_iff.2 ⟨[], by decide +kernel, by decide +kernel⟩
  have htag : l.tagValue tag = .ok (some (Snippet.interpolation code)) := by
    decide +kernel
  have hline : markdownLine f = some (Snippet.interpolation (Snippet.lookup f.msgid [])) := by
    decide +kernel
  have hcall : call.decodeScript = .ok ['\x7d'] := by decide +kernel
  refine ⟨htag, ?_, hline, ?_, hcall, ?_⟩
  · obtain ⟨phrase, hphrase', hiff⟩ := htags tag _ htag
    obtain rfl := Except.ok.inj (hphrase.symm.trans hphrase')
    refine hiff.2 ?_
    have hgroup : split? '\x7b' '\x7d' 0 "#\x7ba\x7d %s\x7d".toList =
        some ("#\x7ba\x7d %s".toList, []) := by decide +kernel
    exact ((split?_eq_some_iff (by decide)).1 hgroup).2
  · rw [hmarkdown f _ hline]
    intro h
    exact absurd h.settled (by decide +kernel)
  · rw [hscript call _ hcall]
    exact not_balanced_cons_closer (by decide) []

/-- No kind of embedded lookup is always read back as a whole. -/
theorem not_forall_embeds_lookup :
    (¬ ∀ (l : Localizer) (tag : Tag) (phrase : Phrase) (out : Text),
        l.tagValue tag = .ok (some out) → Phrase.ofText false tag.value = .ok phrase →
          Embeds out (Snippet.lookup phrase.template phrase.args)) ∧
      (¬ ∀ (f : Filter) (out : Text), markdownLine f = some out →
        Embeds out (Snippet.lookup f.msgid [])) ∧
      ¬ ∀ (call : CallLiteral) (msgid : Text), call.decodeScript = .ok msgid →
        Embeds (scriptCall call) (Snippet.scriptLookup msgid) := by
  refine ⟨?_, ?_, ?_⟩
  · intro h
    have hphrase : Phrase.ofText false "a \x7d b".toList = .ok ⟨"a \x7d b".toList, []⟩ :=
      Phrase.ofText_eq_ok_iff.2 ⟨"a \x7d b".toList, by decide +kernel, by decide +kernel⟩
    have hembeds := h ⟨⟨true, .i18n⟩, none, false⟩ ⟨['p'], none, "a \x7d b".toList, 3, 4⟩
      _ (Snippet.interpolation (Snippet.lookup "a \x7d b".toList [])) (by decide +kernel) hphrase
    exact absurd hembeds (by unfold Embeds; decide +kernel)
  · intro h
    have hembeds := h ⟨.markdown, "a \x7d b".toList, [], 2⟩ _ (by rfl)
    exact absurd hembeds (by unfold Embeds; decide +kernel)
  · intro h
    have hembeds := h ⟨"\x7d".toList, .single⟩ ['\x7d'] (by decide +kernel)
    exact absurd hembeds (by unfold Embeds; decide +kernel)

end Localizer

end Phrasebook
