import Phrasebook.Phrase

/-!
One step of a scan for markers at a time.
-/

namespace Phrasebook

namespace Marker

variable {opener closer : Char} {t : Text}

theorem scan_of_finished (h : next opener closer t = .finished) :
    scan opener closer t = ⟨[], .text t⟩ := by
  rw [scan]
  split <;> simp_all

theorem scan_of_unterminated {before : Text}
    (h : next opener closer t = .unterminated before) :
    scan opener closer t = ⟨[], .unterminated before⟩ := by
  rw [scan]
  split <;> simp_all

theorem scan_of_found {m : Marker} {rest : Text} (h : next opener closer t = .found m rest) :
    scan opener closer t =
      ⟨m :: (scan opener closer rest).markers, (scan opener closer rest).ending⟩ := by
  rw [scan]
  split <;> simp_all

theorem next_eq_finished (h : next opener closer t = .finished) :
    splitAtOpener? opener t = none := by
  unfold next at h
  split at h
  · assumption
  · simp only at h
    split at h
    · exact Step.noConfusion h
    · split at h <;> exact Step.noConfusion h

/-- What was found starts at the first opener.  Its backslashes decide whether
it embeds an expression, and if it does the expression ends at the next closer
that balances. -/
theorem next_eq_found {m : Marker} {rest : Text} (h : next opener closer t = .found m rest) :
    ∃ before after, splitAtOpener? opener t = some (before, after) ∧
      m.lead = Text.dropEnd (· = escape) before ∧ m.escapes = trailingEscapes before ∧
      ((m.escapes % 2 = 1 ∧ m.content = none ∧ rest = after) ∨
        (m.escapes % 2 = 0 ∧ ∃ content, m.content = some content ∧
          Delimited.split? opener closer 0 after = some (content, rest))) := by
  unfold next at h
  split at h
  · exact Step.noConfusion h
  · rename_i before after hs
    refine ⟨before, after, hs, ?_⟩
    simp only at h
    split at h
    · rename_i hodd
      obtain ⟨rfl, rfl⟩ := Step.found.inj h
      exact ⟨rfl, rfl, .inl ⟨hodd, rfl, rfl⟩⟩
    · rename_i heven
      split at h
      · exact Step.noConfusion h
      · rename_i content rest' hd
        obtain ⟨rfl, rfl⟩ := Step.found.inj h
        exact ⟨rfl, rfl, .inr ⟨by simpa using heven, content, rfl, hd⟩⟩

/-- An expression that never ends is that of the first opener, which an even number of
backslashes leaves unescaped. -/
theorem next_eq_unterminated {before : Text}
    (h : next opener closer t = .unterminated before) :
    ∃ after, splitAtOpener? opener t = some (before, after) ∧ trailingEscapes before % 2 = 0 ∧
      Delimited.split? opener closer 0 after = none := by
  unfold next at h
  split at h
  · exact Step.noConfusion h
  · rename_i before' after hs
    simp only at h
    split at h
    · exact Step.noConfusion h
    · rename_i heven
      split at h
      · rename_i hd
        obtain rfl := Step.unterminated.inj h
        exact ⟨after, hs, by simpa using heven, hd⟩
      · exact Step.noConfusion h

end Marker

/-- A fragment has a phrase when its scan ends in text. -/
theorem Phrase.ofText_eq_ok_iff {escapeHtml : Bool} {t : Text} {p : Phrase} :
    ofText escapeHtml t = .ok p ↔ ∃ tail, (Marker.scan '{' '}' t).ending = .text tail ∧
      ofMarkers escapeHtml (Marker.scan '{' '}' t).markers tail = p := by
  simp only [ofText]
  cases (Marker.scan '{' '}' t).ending <;> simp

/-- A fragment has none when its scan ends at an expression that does not, and then it
fails at the byte of that marker. -/
theorem Phrase.exists_ending_of_ofText_eq_error {escapeHtml : Bool} {t : Text} {e : Error}
    (h : ofText escapeHtml t = .error e) :
    ∃ before, (Marker.scan '{' '}' t).ending = .unterminated before ∧
      e = .unbalancedDelimiter (Text.utf8Size
        ((Marker.scan '{' '}' t).markers.flatMap (Marker.source '{' '}') ++ before)) := by
  simp only [ofText] at h
  cases hending : (Marker.scan '{' '}' t).ending with
  | text tail => simp [hending] at h
  | unterminated before =>
      rw [hending] at h
      cases h
      exact ⟨before, rfl, by rw [Text.utf8Size_append, Marker.size]⟩

end Phrasebook
