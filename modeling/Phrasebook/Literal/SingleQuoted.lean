import Phrasebook.Text.Basic

/-!
Single-quoted Ruby literals.  Between the quotes a backslash before a
backslash or an apostrophe stands for that character, and any other backslash
stands for itself.
-/

namespace Phrasebook.Literal.SingleQuoted

def quote : Char := '\''

/-- Characters that need a backslash before them. -/
def isSpecial (c : Char) : Bool :=
  c = '\\' || c = quote

/-- The body of a literal that stands for a text. -/
def encode : Text → Text
  | [] => []
  | c :: t => if isSpecial c then '\\' :: c :: encode t else c :: encode t

/-- The text that the body of a literal stands for. -/
def decode : Text → Text
  | [] => []
  | [c] => [c]
  | c :: d :: t =>
      if c = '\\' ∧ isSpecial d then d :: decode t else c :: decode (d :: t)

theorem decode_encode (t : Text) : decode (encode t) = t := by
  induction t with
  | nil => rfl
  | cons c t ih =>
      rw [encode]
      split
      · rename_i hc
        simp [decode, hc, ih]
      · rename_i hc
        cases t with
        | nil => rfl
        | cons d t =>
            obtain ⟨e, s, he⟩ : ∃ e s, encode (d :: t) = e :: s := by
              rw [encode]
              split <;> exact ⟨_, _, rfl⟩
            have hslash : c ≠ '\\' := by
              rintro rfl
              simp [isSpecial] at hc
            rw [he, decode, if_neg (fun h => hslash h.1), ← he, ih]

end Phrasebook.Literal.SingleQuoted
