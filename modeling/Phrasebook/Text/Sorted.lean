import Phrasebook.Text.Basic

/-!
Sorted sets of texts.  Texts are compared character by character, which is the
order of their UTF-8 bytes.
-/

namespace Phrasebook.Text

/-- A sorted list of distinct texts with one more. -/
def insertSorted (t : Text) : List Text → List Text
  | [] => [t]
  | u :: us =>
      if t = u then u :: us
      else if t < u then t :: u :: us
      else u :: insertSorted t us

/-- The distinct ones of some texts, in increasing order. -/
def sortDistinct (ts : List Text) : List Text :=
  ts.foldr insertSorted []

theorem mem_insertSorted {t x : Text} {us : List Text} :
    x ∈ insertSorted t us ↔ x = t ∨ x ∈ us := by
  induction us with
  | nil => simp [insertSorted]
  | cons u us ih =>
      rw [insertSorted]
      split
      · rename_i h
        subst h
        simp
      · split
        · simp
        · simp only [List.mem_cons, ih]
          grind

theorem mem_sortDistinct {x : Text} {ts : List Text} : x ∈ sortDistinct ts ↔ x ∈ ts := by
  induction ts with
  | nil => simp [sortDistinct]
  | cons t ts ih =>
      simp only [sortDistinct, List.foldr_cons, List.mem_cons] at ih ⊢
      rw [mem_insertSorted, ih]

theorem pairwise_insertSorted (t : Text) {us : List Text} (h : us.Pairwise (· < ·)) :
    (insertSorted t us).Pairwise (· < ·) := by
  induction us with
  | nil => simp [insertSorted]
  | cons u us ih =>
      obtain ⟨hu, hus⟩ := List.pairwise_cons.1 h
      rw [insertSorted]
      split
      · exact h
      · rename_i hne
        split
        · rename_i hlt
          refine List.pairwise_cons.2 ⟨?_, h⟩
          intro x hx
          rcases List.mem_cons.1 hx with rfl | hx
          · exact hlt
          · exact List.lt_trans hlt (hu x hx)
        · rename_i hnlt
          refine List.pairwise_cons.2 ⟨?_, ih hus⟩
          intro x hx
          rcases mem_insertSorted.1 hx with rfl | hx
          · exact Std.lt_of_le_of_ne (Std.not_lt.1 hnlt) (Ne.symm hne)
          · exact hu x hx

theorem pairwise_sortDistinct (ts : List Text) : (sortDistinct ts).Pairwise (· < ·) := by
  induction ts with
  | nil => exact .nil
  | cons t ts ih => exact pairwise_insertSorted t ih

end Phrasebook.Text
