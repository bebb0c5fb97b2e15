import Phrasebook.Text.Basic

/-!
Delimited groups: finding the closing delimiter that matches an opening one.

Inside a group every further opener must be closed before the group can be.
The depth below is the number of groups still open inside the group that is
being read, so it cannot drop below zero: the closer met at depth zero ends
the group.
-/

namespace Phrasebook.Delimited

/-- The inside of a group whose opener has been read, and the text after its
closer; `none` if the group never ends. -/
def split? (opener closer : Char) : Nat → Text → Option (Text × Text)
  | _, [] => none
  | depth, c :: t =>
      if c = opener then (split? opener closer (depth + 1) t).map (Prod.map (c :: ·) id)
      else if c = closer then
        match depth with
        | 0 => some ([], t)
        | depth + 1 => (split? opener closer depth t).map (Prod.map (c :: ·) id)
      else (split? opener closer depth t).map (Prod.map (c :: ·) id)

/-- The byte offset of the closer that matches an opener read before byte
`start`. -/
def closerOffset? (opener closer : Char) (text : Text) (start : Nat) : Option Nat := do
  let rest ← Text.dropBytes? text start
  let (inside, _) ← split? opener closer 0 rest
  return start + Text.utf8Size inside

/-- A split loses nothing but the closer. -/
theorem split?_eq_append {opener closer : Char} {depth : Nat} {t inside rest : Text}
    (h : split? opener closer depth t = some (inside, rest)) :
    t = inside ++ closer :: rest := by
  induction t generalizing depth inside rest with
  | nil => simp [split?] at h
  | cons c t ih =>
      have step : ∀ d, (split? opener closer d t).map (Prod.map (c :: ·) id) =
          some (inside, rest) → c :: t = inside ++ closer :: rest := by
        intro d hd
        obtain ⟨i, hs, rfl⟩ := Text.exists_of_map_cons_eq_some hd
        rw [ih hs]
        rfl
      simp only [split?] at h
      split at h
      · exact step _ h
      · split at h
        · rename_i hc
          subst hc
          split at h
          · cases h
            rfl
          · exact step _ h
        · exact step _ h

theorem length_lt_of_split? {opener closer : Char} {depth : Nat} {t inside rest : Text}
    (h : split? opener closer depth t = some (inside, rest)) :
    rest.length < t.length := by
  rw [split?_eq_append h]
  simp
  omega

end Phrasebook.Delimited
