import Phrasebook.Proofs.Balance
import Phrasebook.Proofs.LineFeeds

/-!
Where a scan for markers fails.

A marker with an even number of backslashes before it embeds an expression, which has
to end.  The markers that a scan reads are not of those that never do, and neither is
any marker inside of one: what closes the outer expression closes the inner ones
before.  So a scan that fails does so at the first marker of the text that is not
escaped and never ends, nested ones included.
-/

namespace Phrasebook

namespace Marker

variable {t before after b a : Text}

/-- A marker that comes after `before` is not escaped, and the depth of nesting, which
is one at the start of its expression, never returns to zero. -/
structure Unterminated (before after : Text) : Prop where
  unescaped : trailingEscapes before % 2 = 0
  unclosed : ∀ s, s <+: after → s.count '}' < 1 + s.count '{'

/-- The first such marker of a text. -/
structure FirstUnterminated (t before after : Text) : Prop
    extends Unterminated before after where
  eq_append : t = before ++ '#' :: '{' :: after
  first : ∀ b a, t = b ++ '#' :: '{' :: a → b.length < before.length → ¬ Unterminated b a

theorem unclosed_iff : (∀ s, s <+: after → s.count '}' < 1 + s.count '{') ↔
    Delimited.split? '{' '}' 0 after = none := by
  rw [Delimited.split?_eq_none_iff (by decide)]
  refine forall₂_congr fun s _ => ?_
  omega

/-! ### The first opener -/

/-- A marker is the one that the first opener starts, or it comes after that opener. -/
theorem cases_of_splitAtOpener? (h : splitAtOpener? '{' t = some (before, after))
    (hba : t = b ++ '#' :: '{' :: a) :
    (b = before ∧ a = after) ∨
      ∃ s, b = before ++ '#' :: '{' :: s ∧ after = s ++ '#' :: '{' :: a := by
  fun_induction splitAtOpener? '{' t generalizing before b with
  | case1 => cases h
  | case2 => cases h
  | case3 c d t hcd =>
      cases h
      obtain ⟨rfl, rfl⟩ := hcd
      rcases b with _ | ⟨x, _ | ⟨y, b⟩⟩
      · cases hba
        exact .inl ⟨rfl, rfl⟩
      · obtain ⟨-, hbrace⟩ := List.cons.inj hba
        exact absurd (List.cons.inj hbrace).1 (by decide)
      · cases hba
        exact .inr ⟨b, rfl, rfl⟩
  | case4 c d t hcd ih =>
      obtain ⟨u, hu, rfl⟩ := Text.exists_of_map_cons_eq_some h
      cases b with
      | nil =>
          cases hba
          exact absurd ⟨rfl, rfl⟩ hcd
      | cons x b =>
          obtain ⟨rfl, hrest⟩ := List.cons.inj hba
          rcases ih hu hrest with ⟨rfl, rfl⟩ | ⟨s, rfl, hs⟩
          · exact .inl ⟨rfl, rfl⟩
          · exact .inr ⟨s, rfl, hs⟩

theorem length_le_of_splitAtOpener? (h : splitAtOpener? '{' t = some (before, after))
    (hba : t = b ++ '#' :: '{' :: a) : before.length ≤ b.length := by
  rcases cases_of_splitAtOpener? h hba with ⟨rfl, -⟩ | ⟨s, rfl, -⟩
  · exact Nat.le_refl _
  · simp

/-! ### Markers that end -/

/-- A marker inside of a balanced text ends there, so none that never does starts
before the end of the group that the text is in. -/
theorem exists_of_balanced {content rest s : Text} (hcontent : Delimited.Balanced '{' '}' content)
    (heq : content ++ '}' :: rest = s ++ '#' :: '{' :: a)
    (hopen : ∀ p, p <+: a → p.count '}' < 1 + p.count '{') :
    ∃ s', s = content ++ '}' :: s' ∧ rest = s' ++ '#' :: '{' :: a := by
  rcases List.append_eq_append_iff.1 heq with ⟨u, rfl, hu⟩ | ⟨u, rfl, hu⟩
  · cases u with
    | nil => exact absurd (List.cons.inj hu).1 (by decide)
    | cons c u =>
        obtain ⟨rfl, rfl⟩ := List.cons.inj hu
        exact ⟨u, rfl, rfl⟩
  · rcases u with _ | ⟨c, _ | ⟨d, v⟩⟩
    · exact absurd (List.cons.inj hu).1 (by decide)
    · exact absurd (List.cons.inj (List.cons.inj hu).2).1 (by decide)
    · obtain ⟨rfl, hbrace⟩ := List.cons.inj hu
      obtain ⟨rfl, rfl⟩ := List.cons.inj hbrace
      -- The text closes the group of this marker, and the closer after it one more.
      have hfloor := hcontent.floor s (List.prefix_append _ _)
      have hsettled := hcontent.settled
      have hv := hopen (v ++ ['}']) ⟨rest, by simp⟩
      have hclose : ('#' :: '{' :: v).count '}' = v.count '}' := by simp
      have hopens : ('#' :: '{' :: v).count '{' = v.count '{' + 1 := by simp
      rw [List.count_append, List.count_append, hclose, hopens] at hsettled
      have hlast : ['}'].count '{' = 0 := rfl
      rw [List.count_append, List.count_append, List.count_singleton_self, hlast] at hv
      omega

theorem trailingEscapes_source_append (m : Marker) (t : Text) :
    trailingEscapes (m.source '{' '}' ++ t) = trailingEscapes t := by
  cases hcontent : m.content with
  | none =>
      have hsource : m.source '{' '}' ++ t = (m.before ++ ['#']) ++ '{' :: t := by
        simp [source, hcontent, sigil]
      rw [hsource]
      exact trailingEscapes_append_cons (by decide) _ _
  | some content =>
      have hsource : m.source '{' '}' ++ t = (m.before ++ '#' :: '{' :: content) ++ '}' :: t := by
        simp [source, hcontent, sigil]
      rw [hsource]
      exact trailingEscapes_append_cons (by decide) _ _

/-- A marker that never ends comes after the one that was read. -/
theorem exists_of_next {m : Marker} {rest : Text} (h : next '{' '}' t = .found m rest)
    (hba : t = b ++ '#' :: '{' :: a) (hopen : Unterminated b a) :
    ∃ s, b = m.source '{' '}' ++ s ∧ rest = s ++ '#' :: '{' :: a := by
  obtain ⟨before, after, hs, hlead, hescapes, hread⟩ := next_eq_found h
  have hbefore : m.before = before := by
    rw [Marker.before, hlead, hescapes, dropEnd_append_trailingEscapes]
  rcases cases_of_splitAtOpener? hs hba with ⟨rfl, rfl⟩ | ⟨s, rfl, hafter⟩
  · rcases hread with ⟨hodd, -⟩ | ⟨-, content, -, hsplit⟩
    · have heven := hopen.unescaped
      rw [← hescapes] at heven
      omega
    · rw [unclosed_iff.1 hopen.unclosed] at hsplit
      cases hsplit
  · rcases hread with ⟨-, hcontent, rfl⟩ | ⟨-, content, hcontent, hsplit⟩
    · exact ⟨s, by simp [source, hcontent, hbefore, sigil], hafter⟩
    · obtain ⟨happend, hbalanced⟩ := (Delimited.split?_eq_some_iff (by decide)).1 hsplit
      obtain ⟨s', rfl, hrest⟩ :=
        exists_of_balanced hbalanced (happend.symm.trans hafter) hopen.unclosed
      exact ⟨s', by simp [source, hcontent, hbefore, sigil], hrest⟩

/-! ### Scanning -/

theorem FirstUnterminated.source_append {m : Marker} {rest : Text}
    (hnext : next '{' '}' t = .found m rest) (h : FirstUnterminated rest before after) :
    FirstUnterminated t (m.source '{' '}' ++ before) after where
  unescaped := by
    rw [trailingEscapes_source_append]
    exact h.unescaped
  unclosed := h.unclosed
  eq_append := by rw [next_eq_append hnext, List.append_assoc, ← h.eq_append]
  first := by
    intro b a hba hlength hopen
    obtain ⟨s, rfl, hrest⟩ := exists_of_next hnext hba hopen
    rw [List.length_append, List.length_append] at hlength
    refine h.first s a hrest (by omega) ⟨?_, hopen.unclosed⟩
    rw [← trailingEscapes_source_append m s]
    exact hopen.unescaped

/-- A scan fails at the first marker that never ends. -/
theorem exists_firstUnterminated (h : (scan '{' '}' t).ending = .unterminated before) :
    ∃ after, FirstUnterminated t
      ((scan '{' '}' t).markers.flatMap (source '{' '}') ++ before) after := by
  fun_induction scan '{' '}' t with
  | case1 t hnext => cases h
  | case2 t before' hnext =>
      cases h
      obtain ⟨after, hs, heven, hsplit⟩ := next_eq_unterminated hnext
      refine ⟨after, ⟨heven, unclosed_iff.2 hsplit⟩, splitAtOpener?_eq_append hs, ?_⟩
      intro b a hba hlength
      exact absurd (length_le_of_splitAtOpener? hs hba) (Nat.not_le.2 hlength)
  | case3 t m rest hnext _ s ih =>
      obtain ⟨after, hafter⟩ := ih h
      refine ⟨after, ?_⟩
      rw [List.flatMap_cons, List.append_assoc]
      exact hafter.source_append hnext

end Marker

/-- A fragment that cannot become a phrase fails at the byte of its first marker that
never ends. -/
theorem Phrase.exists_firstUnterminated {escapeHtml : Bool} {t : Text} {e : Error}
    (h : ofText escapeHtml t = .error e) :
    ∃ before after, Marker.FirstUnterminated t before after ∧
      e = .unbalancedDelimiter (Text.utf8Size before) := by
  obtain ⟨before, hending, rfl⟩ := exists_ending_of_ofText_eq_error h
  obtain ⟨after, hfirst⟩ := Marker.exists_firstUnterminated hending
  exact ⟨_, after, hfirst, rfl⟩

end Phrasebook
