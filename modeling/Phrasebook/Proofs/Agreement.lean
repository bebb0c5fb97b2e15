import Phrasebook.Localizer
import Phrasebook.Proofs.Fragments
import Phrasebook.Proofs.Runs

/-!
Localization and extraction fail together.

Both go through the enabled nodes in order and both turn the fragments of a
node into phrases, but they dispatch on nodes separately, skip different ones
and differ in whether expressions are escaped.  Escaping does not decide on
failure, and a fragment that only one of the two looks at cannot fail, so node
by node the failures are the same.
-/

namespace Phrasebook

namespace Phrase

/-- Escaping changes the arguments of a phrase and nothing else. -/
theorem ofText_eq_map (escapeHtml : Bool) (t : Text) :
    ofText escapeHtml t =
      (ofText false t).map fun p => ⟨p.template, p.args.map (wrapExpression escapeHtml)⟩ := by
  have hid : wrapExpression false = id := rfl
  simp only [ofText]
  cases (Marker.scan '{' '}' t).ending <;> simp [Except.map, ofMarkers, hid]

theorem ofText_eq_error_iff (escapeHtml : Bool) {t : Text} {e : Error} :
    ofText escapeHtml t = .error e ↔ ofText false t = .error e := by
  rw [ofText_eq_map, map_eq_error_iff]

theorem ofText_nil (escapeHtml : Bool) : ofText escapeHtml [] = .ok ⟨[], []⟩ := by
  simp [ofText, Marker.scan, Marker.next, Marker.splitAtOpener?, ofMarkers, Text.chomp]

end Phrase

namespace Localizer

variable {l : Localizer}

theorem plainLookup_eq_error_iff {p : PlainText} {e : Error} :
    l.plainLookup p = .error e ↔ Phrase.ofText false p.text = .error e := by
  rw [← Phrase.ofText_eq_error_iff (p.escape.getD l.escapeHtml)]
  exact map_eq_error_iff

/-- The value of a literal tag fails with the failure of its phrase; an empty
one, which is skipped, has a phrase. -/
theorem tagValue_eq_error_iff (hactive : l.isActive = true) {tag : Tag}
    (hliteral : tag.isEvaluated = false) {e : Error} :
    l.tagValue tag = .error e ↔ Phrase.ofText false tag.value = .error e := by
  unfold tagValue
  by_cases hvalue : tag.value = []
  · rw [hvalue, Phrase.ofText_nil]
    simp
  · simp only [hactive, hliteral, List.isEmpty_eq_false_iff.2 hvalue, Bool.not_true,
      Bool.or_self, Bool.false_eq_true, if_false]
    exact map_eq_error_iff

theorem tagValue_of_evaluated {tag : Tag} (h : tag.isEvaluated = true) :
    l.tagValue tag = .ok none := by
  simp [tagValue, h]

/-- A node fails a localization exactly as it fails an extraction. -/
theorem edits_eq_error_iff (hactive : l.isActive = true) (name : Text)
    (sourceLines : List Text) (n : Node) (e : FragmentError) :
    l.edits name sourceLines n = .error e ↔ Extraction.ofNode name n = .error e := by
  obtain ⟨line, kind⟩ := n
  cases kind with
  | plain p =>
      simp only [edits, Extraction.ofNode]
      rw [Extraction.ofFragment_eq_error_iff]
      simp only [← plainLookup_eq_error_iff (l := l)]
      cases l.plainLookup p <;> simp
  | tag tag =>
      simp only [edits, Extraction.ofNode]
      cases hliteral : tag.isEvaluated with
      -- An evaluated value is code for both, and code cannot fail.
      | true => simp [tagValue_of_evaluated hliteral]
      | false =>
          simp only [Bool.false_eq_true, if_false]
          rw [Extraction.ofFragment_eq_error_iff]
          simp only [← tagValue_eq_error_iff hactive hliteral]
          cases l.tagValue tag with
          | error cause => simp
          | ok value => cases value <;> simp
  | attributes hashes => simp [edits, Extraction.ofNode]
  | script code silent => simp [edits, Extraction.ofNode]
  | filter f => simp [edits, Extraction.ofNode]

/-- Over the nodes of a template both stop at the same one. -/
theorem mapM_edits_eq_error_iff (hactive : l.isActive = true) (name : Text)
    (sourceLines : List Text) (nodes : List Node) (e : FragmentError) :
    nodes.mapM (l.edits name sourceLines) = .error e ↔
      nodes.mapM (Extraction.ofNode name) = .error e :=
  mapM_eq_error_congr (fun n _ => edits_eq_error_iff hactive name sourceLines n) e

/-- Localization of a template fails if and only if extraction from it does, and
then both fail with one and the same failure. -/
theorem localize_eq_error_iff (hactive : l.isActive = true) (source name : Text)
    (e : FragmentError) :
    l.localize source name = .error e ↔
      Extraction.ofTemplate (Template.parse source name) = .error e := by
  let template := Template.parse source name
  have hlocalize : l.localize source name = .error e ↔
      template.enabledNodes.mapM (l.edits name (Text.lines source)) = .error e := by
    simp only [localize, hactive, Bool.not_true, Bool.false_eq_true, if_false]
    exact map_eq_error_iff
  have hextract : Extraction.ofTemplate template = .error e ↔
      template.enabledNodes.mapM (Extraction.ofNode name) = .error e :=
    map_eq_error_iff
  rw [hlocalize, hextract]
  exact mapM_edits_eq_error_iff hactive name _ _ e

/-- Both fail at the last line: its marker has an even number of backslashes, and
the script line above is not searched for markers. -/
theorem localize_unterminated :
    (⟨⟨true, .gettext⟩, none, true⟩ : Localizer).isActive = true ∧
      localize ⟨⟨true, .gettext⟩, none, true⟩
          "%p Hi #\x7ba\x7d\n= #\x7b\n  & b \\\\#\x7bc".toList "t".toList =
        .error ⟨"t".toList, 3, 9, .unbalancedDelimiter 4⟩ := by
  refine ⟨rfl, (localize_eq_error_iff rfl _ _ _).2 ?_⟩
  decide +kernel

end Localizer

end Phrasebook
