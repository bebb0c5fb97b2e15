import Mathlib.Data.List.DropRight
import Phrasebook.Text.Blank

/-!
Lines and the characters at their ends.

Lines hold no line feeds, so joining lines and cutting the text again gives the
same lines.
-/

namespace Phrasebook

namespace Text

/-! ### Cutting and joining -/

theorem split_ne_nil (sep : Char) (t : Text) : split sep t ≠ [] := by
  cases t with
  | nil => simp [split]
  | cons c t =>
      rw [split]
      split
      · simp
      · split <;> simp

theorem split_cons_self (sep : Char) (t : Text) : split sep (sep :: t) = [] :: split sep t := by
  obtain ⟨l, ls, hl⟩ := List.exists_cons_of_ne_nil (split_ne_nil sep t)
  simp [split, hl]

theorem split_append_sep (sep : Char) (s t : Text) :
    split sep (s ++ sep :: t) = split sep s ++ split sep t := by
  induction s with
  | nil => exact split_cons_self sep t
  | cons c s ih =>
      obtain ⟨l, ls, hl⟩ := List.exists_cons_of_ne_nil (split_ne_nil sep s)
      rw [List.cons_append, split, ih, split, hl]
      simp only [List.cons_append]
      split <;> rfl

theorem split_of_not_mem {sep : Char} {l : Text} (h : sep ∉ l) : split sep l = [l] := by
  induction l with
  | nil => rfl
  | cons c l ih =>
      rw [List.mem_cons, not_or] at h
      rw [split, ih h.2]
      simp [Ne.symm h.1]

theorem split_append_cons {sep : Char} {l : Text} (h : sep ∉ l) (t : Text) :
    split sep (l ++ sep :: t) = l :: split sep t := by
  rw [split_append_sep, split_of_not_mem h, List.singleton_append]

theorem mem_of_mem_split {sep c : Char} {l t : Text} (hl : l ∈ split sep t) (hc : c ∈ l) :
    c ≠ sep ∧ c ∈ t := by
  induction t generalizing l with
  | nil =>
      rw [List.mem_singleton.1 hl] at hc
      cases hc
  | cons d t ih =>
      obtain ⟨m, ms, hms⟩ := List.exists_cons_of_ne_nil (split_ne_nil sep t)
      have hrest {k : Text} (hk : k ∈ m :: ms) (hck : c ∈ k) : c ≠ sep ∧ c ∈ d :: t :=
        (ih (hms ▸ hk) hck).imp_right (List.mem_cons_of_mem d)
      rw [split, hms] at hl
      by_cases hd : d = sep
      · simp only [if_pos hd, List.mem_cons] at hl
        rcases hl with rfl | hl
        · cases hc
        · exact hrest (List.mem_cons.2 hl) hc
      · simp only [if_neg hd, List.mem_cons] at hl
        rcases hl with rfl | hl
        · rcases List.mem_cons.1 hc with rfl | hc
          · exact ⟨hd, List.mem_cons_self⟩
          · exact hrest List.mem_cons_self hc
        · exact hrest (List.mem_cons_of_mem m hl) hc

theorem join_cons (sep : Char) {ls : List Text} (h : ls ≠ []) (l : Text) :
    join [sep] (l :: ls) = l ++ sep :: join [sep] ls := by
  obtain ⟨m, ms, rfl⟩ := List.exists_cons_of_ne_nil h
  simp [join]

/-- Cutting gives back the texts that were joined. -/
theorem split_join {sep : Char} {ls : List Text} (hne : ls ≠ []) (h : ∀ l ∈ ls, sep ∉ l) :
    split sep (join [sep] ls) = ls := by
  induction ls with
  | nil => exact absurd rfl hne
  | cons l ls ih =>
      have hl := h l List.mem_cons_self
      cases ls with
      | nil => exact split_of_not_mem hl
      | cons m ls =>
          have hrest := ih (by simp) fun k hk => h k (List.mem_cons_of_mem l hk)
          rw [join_cons sep (List.cons_ne_nil m ls), split_append_cons hl, hrest]

/-- Joining gives back the text that was cut. -/
theorem join_split (sep : Char) (t : Text) : join [sep] (split sep t) = t := by
  induction t with
  | nil => rfl
  | cons c t ih =>
      obtain ⟨l, ls, hls⟩ := List.exists_cons_of_ne_nil (split_ne_nil sep t)
      rw [hls] at ih
      rw [split, hls]
      by_cases hc : c = sep
      · simp only [if_pos hc]
        rw [join_cons sep (List.cons_ne_nil l ls), ih, hc]
        rfl
      · simp only [if_neg hc]
        rw [← ih]
        cases ls <;> rfl

theorem unlines_cons {ls : List Text} (h : ls ≠ []) (l : Text) :
    unlines (l :: ls) = l ++ '\n' :: unlines ls :=
  join_cons '\n' h l

theorem pieces_unlines {ls : List Text} (hne : ls ≠ []) (h : ∀ l ∈ ls, '\n' ∉ l) :
    pieces (unlines ls) = ls :=
  split_join hne h

theorem unlines_pieces (t : Text) : unlines (pieces t) = t :=
  join_split '\n' t

theorem not_mem_of_mem_lines {t l : Text} (h : l ∈ lines t) : '\n' ∉ l := by
  fun_induction lines t generalizing l with
  | case1 => simp at h
  | case2 t ih =>
      rcases List.mem_cons.1 h with rfl | h
      · simp
      · exact ih h
  | case3 t ih =>
      rcases List.mem_cons.1 h with rfl | h
      · simp
      · exact ih h
  | case4 c t hfeed _ hnil ih =>
      rcases List.mem_singleton.1 h with rfl
      simpa [eq_comm] using hfeed
  | case5 c t hfeed _ m ms hlines ih =>
      rw [hlines] at ih
      rcases List.mem_cons.1 h with rfl | h
      · have := ih List.mem_cons_self
        simp_all [eq_comm]
      · exact ih (List.mem_cons_of_mem m h)

/-! ### Ends of lines -/

/-- No blank character ends the text. -/
def Trimmed (t : Text) : Prop :=
  ∀ c ∈ t.getLast?, isBlank c = false

theorem dropEnd_eq_rdropWhile (p : Char → Bool) (t : Text) : dropEnd p t = t.rdropWhile p :=
  rfl

theorem trimmed_trimEnd (t : Text) : Trimmed (trimEnd t) := by
  intro c hc
  have hhead : (t.reverse.dropWhile isBlank).head? = some c := by
    simpa [trimEnd, dropEnd, List.getLast?_reverse] using hc
  have := List.head?_dropWhile_not isBlank t.reverse
  rw [hhead] at this
  exact this

/-- A text that no blank character ends has no line terminator to lose. -/
theorem chomp_of_trimmed {t : Text} (h : Trimmed t) : chomp t = t := by
  have hlast (c : Char) (r : Text) (hr : t.reverse = c :: r) : isBlank c = false := by
    apply h
    rw [List.getLast?_eq_head?_reverse, hr]
    rfl
  unfold chomp
  split
  · rename_i r hr
    exact absurd (hlast _ _ hr) (by decide)
  · rename_i r _ hr
    exact absurd (hlast _ _ hr) (by decide)
  · rename_i r hr
    exact absurd (hlast _ _ hr) (by decide)
  · rfl

end Text

end Phrasebook
