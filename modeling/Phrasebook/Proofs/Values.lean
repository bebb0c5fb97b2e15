import Mathlib.Data.List.TakeWhile
import Phrasebook.Proofs.Balance
import Phrasebook.Proofs.Groups

/-!
Values in the place of others.

The value of a tag is what its readers leave over, so each of them stopped at or
before the value and has not seen past it.  An interpolation starts with characters
at which all of them stop as well.  A tag with an interpolation in the place of its
value is therefore read as the same tag with that value.
-/

namespace Phrasebook

variable {lead w v y : Text}

namespace Text

theorem ne_cons_interpolation {c : Char} (hc : c ≠ '#') (h : ∀ t, w ++ v = c :: t → False)
    (t : Text) (ht : w ++ '#' :: y = c :: t) : False := by
  cases w with
  | nil => exact hc (List.cons.inj ht).1.symm
  | cons d w => exact h (w ++ v) (by rw [List.cons_append, (List.cons.inj ht).1])

variable {p : Char → Bool} {s r : Text}

theorem cut_append_of_head? (hs : ∀ c ∈ s, p c = true) (hr : ∀ c ∈ r.head?, p c = false) :
    cut p (s ++ r) = (s, r) := by
  rw [cut, List.takeWhile_append_of_pos hs, List.dropWhile_append_of_pos hs]
  cases r with
  | nil => simp
  | cons c r =>
      have hc := hr c rfl
      simp [hc]

/-- What is left over after a cut starts with a character that stops it. -/
theorem cut_interpolation (hp : p '#' = false) (h : cut p (lead ++ v) = (s, w ++ v)) :
    cut p (lead ++ '#' :: y) = (s, w ++ '#' :: y) := by
  obtain ⟨htake, hdrop⟩ := Prod.mk.inj h
  have hlead : lead = s ++ w := by
    refine (List.append_left_inj v).1 ?_
    rw [List.append_assoc, ← htake, ← hdrop, List.takeWhile_append_dropWhile]
  have hs : ∀ c ∈ s, p c = true := by
    intro c hc
    rw [← htake] at hc
    exact List.mem_takeWhile_imp hc
  rw [hlead, List.append_assoc]
  refine cut_append_of_head? hs fun c hc => ?_
  cases w with
  | nil =>
      cases hc
      exact hp
  | cons d w =>
      cases hc
      have hhead := List.head?_dropWhile_not p (lead ++ v)
      rw [hdrop] at hhead
      exact hhead

theorem dropWhile_interpolation (hp : p '#' = false) (h : (lead ++ v).dropWhile p = w ++ v) :
    (lead ++ '#' :: y).dropWhile p = w ++ '#' :: y := by
  have hcut : cut p (lead ++ v) = ((lead ++ v).takeWhile p, w ++ v) := by rw [cut, h]
  exact congrArg Prod.snd (cut_interpolation hp hcut)

end Text

namespace TagLine

theorem ne_of_groupCloser? {c closer : Char} (h : groupCloser? c = some closer) : c ≠ closer := by
  rcases eq_of_groupCloser? h with ⟨rfl, rfl⟩ | ⟨rfl, rfl⟩ | ⟨rfl, rfl⟩ <;> decide

theorem readName_interpolation (h : (readName (lead ++ v)).2 = w ++ v) :
    readName (lead ++ '#' :: y) = ((readName (lead ++ v)).1, w ++ '#' :: y) := by
  by_cases hname : ∃ t, lead ++ v = '%' :: t
  · obtain ⟨t, ht⟩ := hname
    have hcut : (Text.cut isNameChar t).2 = w ++ v := by
      rw [ht] at h
      exact h
    cases lead with
    | nil =>
        -- A name leaves less over than there was.
        have hle := Text.length_dropWhile_le isNameChar t
        have hlength := congrArg List.length hcut
        have hv := congrArg List.length ht
        simp only [Text.cut, List.nil_append, List.length_append, List.length_cons] at hlength hv
        omega
    | cons c lead =>
        obtain ⟨rfl, rfl⟩ := List.cons.inj ht
        exact Text.cut_interpolation (by decide) (Prod.ext rfl hcut)
  · have hhead : ∀ t, lead ++ v = '%' :: t → False := fun t ht => hname ⟨t, ht⟩
    rw [readName_of_ne hhead] at h ⊢
    obtain rfl := List.append_cancel_right h
    exact readName_of_ne (Text.ne_cons_interpolation (by decide) hhead)

/-- Where no shortcut is left, none starts with the interpolation. -/
theorem skipShortcuts_interpolation_of_none (h : ∀ c d u, lead ++ v = c :: d :: u →
    (isShortcutMark c && isShortcutChar d) = false) :
    skipShortcuts (lead ++ '#' :: '{' :: y) = lead ++ '#' :: '{' :: y := by
  refine skipShortcuts_eq_self fun c d u hu => ?_
  rcases lead with _ | ⟨a, _ | ⟨b, lead⟩⟩
  · obtain ⟨rfl, rfl, -⟩ : '#' = c ∧ '{' = d ∧ y = u := by simpa using hu
    rfl
  · obtain ⟨rfl, rfl, -⟩ : a = c ∧ '#' = d ∧ '{' :: y = u := by simpa using hu
    rw [show isShortcutChar '#' = false from rfl, Bool.and_false]
  · obtain ⟨rfl, rfl, -⟩ : a = c ∧ b = d ∧ lead ++ '#' :: '{' :: y = u := by simpa using hu
    exact h a b (lead ++ v) rfl

theorem skipShortcuts_interpolation (h : skipShortcuts (lead ++ v) = w ++ v) :
    skipShortcuts (lead ++ '#' :: '{' :: y) = w ++ '#' :: '{' :: y := by
  generalize hu : lead ++ v = u at h
  fun_induction skipShortcuts u generalizing lead with
  | case1 | case2 c =>
      rw [← hu] at h
      obtain rfl := List.append_cancel_right h
      refine skipShortcuts_interpolation_of_none (v := v) ?_
      rw [hu]
      simp
  | case3 c d t hcd ih =>
      obtain ⟨r, hr⟩ := suffix_skipShortcuts (t.dropWhile isShortcutChar)
      obtain ⟨q, hq⟩ := List.dropWhile_suffix (l := t) isShortcutChar
      rw [h, ← List.append_assoc] at hr
      obtain rfl : lead = c :: d :: (q ++ (r ++ w)) := by
        refine (List.append_left_inj v).1 ?_
        rw [hu, ← hq, ← hr]
        simp only [List.cons_append, List.append_assoc]
      have ht : t = (q ++ (r ++ w)) ++ v := by rw [List.append_assoc, hr, hq]
      have hdrop : (q ++ (r ++ w) ++ '#' :: '{' :: y).dropWhile isShortcutChar =
          (r ++ w) ++ '#' :: '{' :: y := by
        refine Text.dropWhile_interpolation (v := v) (by decide) ?_
        rw [← ht, hr]
      rw [List.cons_append, List.cons_append, skipShortcuts, if_pos hcd, hdrop]
      exact ih hr h
  | case4 c d t hcd =>
      rw [← hu] at h
      obtain rfl := List.append_cancel_right h
      refine skipShortcuts_interpolation_of_none (v := v) ?_
      rw [hu]
      rintro c' d' u' ⟨⟩
      simpa using hcd

theorem readGroups?_interpolation {hashes : List Text}
    (h : readGroups? (lead ++ v) = some (hashes, w ++ v)) :
    readGroups? (lead ++ '#' :: y) = some (hashes, w ++ '#' :: y) := by
  generalize hu : lead ++ v = u at h
  fun_induction readGroups? u generalizing lead hashes with
  | case1 =>
      obtain ⟨rfl, hw⟩ := Prod.mk.inj (Option.some.inj h)
      rw [← hu] at hw
      obtain rfl := List.append_cancel_right hw
      obtain rfl : lead = [] := (List.append_eq_nil_iff.1 hu).1
      exact readGroups?_of_head? (by simp [groupCloser?])
  | case2 c t hcloser =>
      obtain ⟨rfl, hw⟩ := Prod.mk.inj (Option.some.inj h)
      rw [← hu] at hw
      obtain rfl := List.append_cancel_right hw
      refine readGroups?_of_head? ?_
      cases lead with
      | nil => simp [groupCloser?]
      | cons d lead =>
          obtain ⟨rfl, -⟩ := List.cons.inj hu
          rintro e ⟨⟩
          exact hcloser
  | case3 c t closer hcloser hsplit => cases h
  | case4 c t closer hcloser inside rest hsplit _ ih =>
      obtain ⟨⟨hashes', r⟩, hread, heq⟩ := Option.map_eq_some_iff.1 h
      obtain ⟨rfl, rfl⟩ := Prod.mk.inj heq
      obtain ⟨q, rfl⟩ := suffix_of_readGroups? hread
      obtain ⟨rfl, hcloses⟩ := (Delimited.split?_eq_some_iff (ne_of_groupCloser? hcloser)).1 hsplit
      obtain rfl : lead = c :: (inside ++ closer :: (q ++ w)) := by
        refine (List.append_left_inj v).1 ?_
        rw [hu]
        simp
      have hsplit' : Delimited.split? c closer 0
          (inside ++ closer :: (q ++ w ++ '#' :: y)) = some (inside, q ++ w ++ '#' :: y) :=
        (Delimited.split?_eq_some_iff (ne_of_groupCloser? hcloser)).2 ⟨rfl, hcloses⟩
      have hgroups := readGroups?_of_split?_eq_some hcloser hsplit'
      rw [ih (by simp) hread] at hgroups
      simpa using hgroups

theorem readAction_interpolation (h : (readAction (lead ++ v)).2 = w ++ v) :
    readAction (lead ++ '#' :: y) = ((readAction (lead ++ v)).1, w ++ '#' :: y) := by
  have hlead {s : Text} (hu : lead ++ v = s ++ (w ++ v)) : lead = s ++ w := by
    refine (List.append_left_inj v).1 ?_
    rw [hu, List.append_assoc]
  generalize hu : lead ++ v = u at h hlead
  fun_cases readAction u with
  | case1 t | case2 t =>
      obtain rfl : t = w ++ v := h
      rw [hlead (s := [_, _]) rfl]
      rfl
  | case3 t | case4 t | case7 t =>
      obtain rfl : t = w ++ v := h
      rw [hlead (s := [_]) rfl]
      rfl
  | case5 t hequals =>
      obtain rfl : t = w ++ v := by simpa [readAction_escaped hequals] using h
      rw [hlead (s := [_]) rfl]
      exact readAction_escaped (Text.ne_cons_interpolation (by decide) hequals)
  | case6 t hequals =>
      obtain rfl : t = w ++ v := by simpa [readAction_unescaped hequals] using h
      rw [hlead (s := [_]) rfl]
      exact readAction_unescaped (Text.ne_cons_interpolation (by decide) hequals)
  | case8 _ _ _ hequals htilde hescaped hunescaped hslash =>
      have hnone := readAction_of_ne hequals htilde hescaped hunescaped hslash
      rw [hnone] at h
      obtain rfl : u = w ++ v := h
      obtain rfl := List.append_cancel_right hu
      exact readAction_of_ne (Text.ne_cons_interpolation (by decide) hequals)
        (Text.ne_cons_interpolation (by decide) htilde)
        (Text.ne_cons_interpolation (by decide) hescaped)
        (Text.ne_cons_interpolation (by decide) hunescaped)
        (Text.ne_cons_interpolation (by decide) hslash)

/-- A tag with an interpolation in the place of its value. -/
theorem read?_interpolation {head : Head} (h : read? (lead ++ v) = some head)
    (hvalue : head.rest = v) :
    read? (lead ++ '#' :: '{' :: y) = some { head with rest := '#' :: '{' :: y } := by
  obtain ⟨afterName, afterGroups, afterAction, hname, hgroups, haction, hrest⟩ :=
    read?_eq_some_iff.1 h
  rw [hvalue] at hrest
  generalize hmarks : afterGroups.dropWhile (fun c => c = '<' || c = '>') = afterMarks at haction
  -- The value is part of what each reader leaves over, from the last one back.
  have h₅ : v <:+ afterAction := hrest ▸ List.dropWhile_suffix isIndent
  have h₄ : v <:+ afterMarks := by
    have hread := suffix_readAction afterMarks
    rw [haction] at hread
    exact h₅.trans hread
  have h₃ : v <:+ afterGroups := h₄.trans (hmarks ▸ List.dropWhile_suffix _)
  have h₂ : v <:+ skipShortcuts afterName := h₃.trans (suffix_of_readGroups? hgroups)
  have h₁ : v <:+ afterName := h₂.trans (suffix_skipShortcuts afterName)
  obtain ⟨w₁, rfl⟩ := h₁
  obtain ⟨w₂, hshortcuts⟩ := h₂
  obtain ⟨w₃, rfl⟩ := h₃
  obtain ⟨w₄, rfl⟩ := h₄
  obtain ⟨w₅, rfl⟩ := h₅
  rw [← hshortcuts] at hgroups
  -- From the first one on, each reader leaves the interpolation over instead.
  refine read?_eq_some_iff.2 ⟨w₁ ++ '#' :: '{' :: y, w₃ ++ '#' :: '{' :: y,
    w₅ ++ '#' :: '{' :: y, ?_, ?_, ?_, ?_⟩
  · rw [readName_interpolation (congrArg Prod.snd hname), hname]
  · rw [skipShortcuts_interpolation hshortcuts.symm]
    exact readGroups?_interpolation hgroups
  · rw [Text.dropWhile_interpolation (by decide) hmarks,
      readAction_interpolation (congrArg Prod.snd haction), haction]
  · have hindent : (w₅ ++ v).dropWhile isIndent = [] ++ v := hrest.symm
    exact (Text.dropWhile_interpolation (by decide) hindent).symm

/-- The value of a tag comes after what tells that there is a tag. -/
theorem startsTag_of_read? {head : Head} (h : read? (lead ++ v) = some head)
    (hvalue : head.rest = v) (htag : startsTag (lead ++ v) = true) (u : Text) :
    startsTag (lead ++ u) = true := by
  obtain ⟨rest, hgroups, hrest⟩ := read?_eq_some h
  have hshortcuts : v <:+ skipShortcuts (readName (lead ++ v)).2 :=
    (hvalue ▸ hrest).trans (suffix_of_readGroups? hgroups)
  generalize ht : lead ++ v = t at htag hshortcuts
  cases t with
  | nil => exact absurd htag (by simp [startsTag])
  | cons c t =>
      by_cases hc : c = '%'
      · subst hc
        have hle : v.length ≤ t.length :=
          (hshortcuts.trans ((suffix_skipShortcuts _).trans (List.dropWhile_suffix _))).length_le
        cases lead with
        | nil =>
            have hlength := congrArg List.length ht
            rw [List.nil_append, List.length_cons] at hlength
            omega
        | cons d lead =>
            obtain ⟨rfl, -⟩ := List.cons.inj ht
            simp [startsTag]
      · cases t with
        | nil => simp [startsTag, hc] at htag
        | cons d t =>
            have hcd : (isShortcutMark c && isShortcutChar d) = true := by
              simpa [startsTag, hc] using htag
            have hname : (readName (c :: d :: t)).2 = c :: d :: t := by simp [readName, hc]
            rw [hname, skipShortcuts, if_pos hcd] at hshortcuts
            have hle : v.length ≤ t.length :=
              (hshortcuts.trans
                ((suffix_skipShortcuts _).trans (List.dropWhile_suffix _))).length_le
            have hlength := congrArg List.length ht
            rw [List.length_append, List.length_cons, List.length_cons] at hlength
            rcases lead with _ | ⟨a, _ | ⟨b, lead⟩⟩
            · rw [List.length_nil] at hlength
              omega
            · rw [List.length_singleton] at hlength
              omega
            · obtain ⟨rfl, rfl, -⟩ : a = c ∧ b = d ∧ lead ++ v = t := by simpa using ht
              simpa [startsTag, hc] using hcd

end TagLine

end Phrasebook
