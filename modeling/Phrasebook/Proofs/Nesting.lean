import Phrasebook.Proofs.Parsed

/-!
Which lines are nested below others.

Nesting is told by blank lines and indentation alone.  So lines that are replaced by
others of the same indentation are nested below the same lines as before, and a
block ends where it did if no line after it has come to be nested.
-/

namespace Phrasebook

namespace Template

variable {n : Nat} {ls later block rest : List Text} {l : Text}

/-! ### Blocks -/

theorem isNested_of_isBlankLine (h : Text.isBlankLine l = true) : isNested n l = true := by
  simp [isNested, h]

/-- Lines nested below one that is indented by `n` characters, of which the last is not
blank. -/
structure IsBody (n : Nat) (block : List Text) : Prop where
  nested : ∀ l ∈ block, isNested n l = true
  last : ∀ l ∈ block.getLast?, Text.isBlankLine l = false

theorem isBody_take (n : Nat) (later : List Text) :
    IsBody n (later.take (nestedCount n later)) where
  nested := by
    intro l hl
    rw [take_nestedCount] at hl
    exact List.mem_takeWhile_imp ((List.rdropWhile_prefix _ _).subset hl)
  last := fun _ => isBlankLine_of_mem_take_nestedCount

/-- Nothing is nested if only blank lines come before a line that is not. -/
theorem nestedCount_eq_zero_iff :
    nestedCount n ls = 0 ↔ ∀ l ∈ ls.takeWhile (isNested n), Text.isBlankLine l = true := by
  have hcount : nestedCount n ls =
      ((ls.takeWhile (isNested n)).rdropWhile Text.isBlankLine).length := by
    simp [nestedCount, List.rdropWhile]
  rw [hcount, List.length_eq_zero_iff, List.rdropWhile_eq_nil_iff]

theorem IsBody.nestedCount_append (h : IsBody n block) (hrest : nestedCount n rest = 0) :
    nestedCount n (block ++ rest) = block.length := by
  rw [nestedCount_eq_zero_iff] at hrest
  rw [nestedCount, List.takeWhile_append_of_pos h.nested, List.reverse_append,
    List.dropWhile_append_of_pos (by simpa using hrest)]
  cases hblock : block.reverse with
  | nil => simpa using (congrArg List.length hblock).symm
  | cons l ls =>
      have hl : Text.isBlankLine l = false := by
        refine h.last l ?_
        rw [List.getLast?_eq_head?_reverse, hblock]
        rfl
      rw [List.dropWhile_cons_of_neg (by simp [hl]), ← hblock, List.length_reverse]

theorem nestedCount_drop (n : Nat) (later : List Text) :
    nestedCount n (later.drop (nestedCount n later)) = 0 := by
  have hwhole : later.drop (nestedCount n later) =
      (later.takeWhile (isNested n)).rtakeWhile Text.isBlankLine ++
        later.dropWhile (isNested n) := by
    refine (List.append_right_inj (later.take (nestedCount n later))).1 ?_
    rw [List.take_append_drop, take_nestedCount, ← List.append_assoc,
      List.rdropWhile_append_rtakeWhile, List.takeWhile_append_dropWhile]
  have hblank : ∀ l ∈ (later.takeWhile (isNested n)).rtakeWhile Text.isBlankLine,
      Text.isBlankLine l = true := fun l hl => List.mem_rtakeWhile_imp hl
  have hstop : (later.dropWhile (isNested n)).takeWhile (isNested n) = [] := by
    have hhead := List.head?_dropWhile_not (isNested n) later
    cases hrest : later.dropWhile (isNested n) with
    | nil => rfl
    | cons l ls =>
        rw [hrest] at hhead
        rw [List.takeWhile_cons_of_neg (by simpa using hhead)]
  rw [nestedCount_eq_zero_iff, hwhole,
    List.takeWhile_append_of_pos fun l hl => isNested_of_isBlankLine (hblank l hl), hstop,
    List.append_nil]
  exact hblank

/-- As many of other lines are nested as of those in the place of which they are. -/
theorem nestedCount_map {f : Text → Text} {n' : Nat}
    (hnested : ∀ l, isNested n' (f l) = isNested n l)
    (hblank : ∀ l, Text.isBlankLine (f l) = Text.isBlankLine l) (later : List Text) :
    nestedCount n' (later.map f) = nestedCount n later := by
  have hnested' : isNested n' ∘ f = isNested n := funext hnested
  have hblank' : Text.isBlankLine ∘ f = Text.isBlankLine := funext hblank
  simp only [nestedCount, List.takeWhile_map, hnested', ← List.map_reverse, List.dropWhile_map,
    hblank', List.length_map]

end Template

/-! ### Lines in the place of others -/

/-- A line that is read in the place of another as far as the lines before it can
tell. -/
structure Text.Fits (t u : Text) : Prop where
  blank : isBlankLine u = isBlankLine t
  indentation : indentation u = Text.indentation t
  continued : ∀ n, TemplateLine.continuesGroup n u = true → TemplateLine.continuesGroup n t = true

theorem Text.Fits.rfl {t : Text} : Fits t t :=
  ⟨Eq.refl _, Eq.refl _, fun _ h => h⟩

namespace Template

/-- Lines of which the first that is not blank fits in the place of another. -/
inductive Fits : List Text → List Text → Prop where
  | nil : Fits [] []
  | blank {t : Text} {ls ms : List Text} (hblank : Text.isBlankLine t = true) (h : Fits ls ms) :
      Fits (t :: ls) (t :: ms)
  | line {t u : Text} {ls ms : List Text} (hblank : Text.isBlankLine t = false)
      (h : Text.Fits t u) : Fits (t :: ls) (u :: ms)

namespace Fits

variable {n : Nat} {ls ms : List Text}

theorem nestedCount_eq_zero (h : Fits ls ms) (hzero : nestedCount n ls = 0) :
    nestedCount n ms = 0 := by
  rw [nestedCount_eq_zero_iff] at hzero ⊢
  induction h with
  | nil => exact hzero
  | blank hblank _ ih =>
      rw [List.takeWhile_cons_of_pos (isNested_of_isBlankLine hblank)] at hzero ⊢
      have hrest := ih fun l hl => hzero l (List.mem_cons_of_mem _ hl)
      simpa [hblank] using hrest
  | @line t u _ _ hblank h =>
      have hnested : isNested n u = isNested n t := by
        rw [isNested, isNested, h.blank, h.indentation]
      cases ht : isNested n t with
      | false => simp [hnested, ht]
      | true =>
          rw [List.takeWhile_cons_of_pos ht] at hzero
          rw [hzero t List.mem_cons_self] at hblank
          cases hblank

/-- Lines that follow a group are not taken for lines of it. -/
theorem continuesGroup_eq_false (h : Fits ls ms)
    (hnone : ∀ l ∈ ls.head?, TemplateLine.continuesGroup n l = false) :
    ∀ l ∈ ms.head?, TemplateLine.continuesGroup n l = false := by
  cases h with
  | nil => exact hnone
  | blank hblank _ => exact hnone
  | @line t u _ _ hblank h =>
      rintro l ⟨⟩
      by_contra hcontinues
      rw [Bool.not_eq_false] at hcontinues
      have ht := hnone t rfl
      rw [h.continued n hcontinues] at ht
      cases ht

end Fits

end Template

end Phrasebook
