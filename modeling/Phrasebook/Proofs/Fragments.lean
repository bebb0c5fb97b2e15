import Phrasebook.Extraction

/-!
Fragments of templates.

Plain text and the literal values of tags go the same way through an extraction: each
becomes a phrase, whose template is the one msgid that is found.  Nothing else in a
template can fail.
-/

namespace Phrasebook

/-- The literal text of a node that becomes a phrase, with its column. -/
def Node.fragment? (n : Node) : Option (Text × Nat) :=
  match n.kind with
  | .plain p => some (p.text, p.column)
  | .tag t => if t.isEvaluated then none else some (t.value, t.column)
  | .attributes _ | .script _ _ | .filter _ => none

namespace Extraction

variable {file text : Text} {n : Node} {column : Nat} {found : Extraction} {e : FragmentError}

/-! ### Phrases of fragments -/

theorem ofFragment_eq_ok_iff {line : Nat} :
    ofFragment file line column text = .ok found ↔
      ∃ p, Phrase.ofText false text = .ok p ∧ ofMsgid file line p.template = found := by
  unfold ofFragment
  cases Phrase.ofText false text <;> simp

/-- A fragment fails an extraction with the failure of its phrase. -/
theorem ofFragment_eq_error_iff {line : Nat} :
    ofFragment file line column text = .error e ↔
      ∃ cause, Phrase.ofText false text = .error cause ∧
        FragmentError.ofFragment file line column text cause = e := by
  unfold ofFragment
  cases Phrase.ofText false text <;> simp

/-! ### Fragments of nodes -/

theorem ofNode_of_fragment? (h : n.fragment? = some (text, column)) :
    ofNode file n = ofFragment file n.line column text := by
  obtain ⟨line, kind⟩ := n
  cases kind with
  | plain p =>
      cases h
      rfl
  | tag t =>
      simp only [Node.fragment?] at h
      split at h
      · cases h
      · rename_i hliteral
        cases h
        simp only [ofNode, if_neg hliteral]
  | attributes hashes => cases h
  | script code silent => cases h
  | filter f => cases h

theorem exists_ofNode_of_fragment?_eq_none (file : Text) (h : n.fragment? = none) :
    ∃ found, ofNode file n = .ok found := by
  obtain ⟨line, kind⟩ := n
  cases kind with
  | plain p => cases h
  | tag t =>
      simp only [Node.fragment?] at h
      split at h
      · rename_i hevaluated
        exact ⟨_, if_pos hevaluated⟩
      · cases h
  | attributes hashes => exact ⟨_, rfl⟩
  | script code silent => exact ⟨_, rfl⟩
  | filter f => exact ⟨_, rfl⟩

theorem exists_fragment_of_ofNode_eq_error (h : ofNode file n = .error e) :
    ∃ text column, n.fragment? = some (text, column) ∧
      ofFragment file n.line column text = .error e := by
  cases hfragment : n.fragment? with
  | none =>
      obtain ⟨found, hfound⟩ := exists_ofNode_of_fragment?_eq_none file hfragment
      rw [hfound] at h
      cases h
  | some fragment => exact ⟨_, _, rfl, (ofNode_of_fragment? hfragment).symm.trans h⟩

theorem exists_ofText_of_ofNode_eq_ok (h : ofNode file n = .ok found)
    (hfragment : n.fragment? = some (text, column)) : ∃ p, Phrase.ofText false text = .ok p := by
  rw [ofNode_of_fragment? hfragment] at h
  obtain ⟨p, hp, -⟩ := ofFragment_eq_ok_iff.1 h
  exact ⟨p, hp⟩

theorem line_of_ofNode_eq_error (h : ofNode file n = .error e) : e.line = n.line := by
  obtain ⟨text, column, -, hfragment⟩ := exists_fragment_of_ofNode_eq_error h
  obtain ⟨cause, -, rfl⟩ := ofFragment_eq_error_iff.1 hfragment
  rfl

end Extraction

end Phrasebook
