import Mathlib.Data.List.DropRight
import Mathlib.Data.List.Infix
import Phrasebook.Proofs.Resolution

/-!
Parents of paths.

The parent of a path is found in its text: it is what is left in front of the last segment
that leads anywhere.  So it has the same segments but for that one, and the trivial ones
around it.
-/

namespace Phrasebook

namespace Path

variable {p q : Text} {ss ts : List Text}

/-! ### Segments that lead anywhere -/

theorem steps_append (p q : Text) : steps (p ++ separator :: q) = steps p ++ steps q := by
  rw [steps, segments_append, List.filter_append]
  rfl

theorem steps_of_not_mem {s : Text} (h : separator ∉ s) :
    steps s = [s].filter fun t => !isTrivial t := by
  rw [steps, segments, Text.split_of_not_mem h]

theorem steps_join (h : ∀ s ∈ ss, separator ∉ s) :
    steps (Text.join [separator] ss) = ss.filter fun s => !isTrivial s := by
  induction ss with
  | nil => rfl
  | cons s ss ih =>
      have hs := h s List.mem_cons_self
      cases ss with
      | nil => exact steps_of_not_mem hs
      | cons t ts =>
          rw [Text.join_cons separator (List.cons_ne_nil t ts), steps_append, steps_of_not_mem hs,
            ih fun u hu => h u (List.mem_cons_of_mem s hu), ← List.filter_append,
            List.singleton_append]

theorem separator_not_mem_of_mem_segments {s : Text} (h : s ∈ segments p) : separator ∉ s :=
  fun hmem => (Text.mem_of_mem_split h hmem).1 rfl

/-- A relative path has a dot for its front part if its first segment is one. -/
theorem head_cases (h : isAbsolute p = false) :
    (head p = [] ∧ bodySegments p = segments p) ∨
      (head p = ['.'] ∧ ∃ t, p = '.' :: t ∧ bodySegments p = segments t ∧
        (t = [] ∨ ∃ u, t = separator :: u)) := by
  unfold bodySegments head
  rw [h, if_neg Bool.false_ne_true]
  split
  · rename_i hhead
    refine .inr ⟨rfl, ?_⟩
    obtain ⟨ss, hss⟩ := List.head?_eq_some_iff.1 hhead
    have hjoin := Text.join_split separator p
    rw [segments] at hss
    rw [hss] at hjoin
    cases ss with
    | nil => exact ⟨[], hjoin.symm, by rw [← hjoin]; rfl, .inl rfl⟩
    | cons s ss =>
        rw [Text.join_cons separator (List.cons_ne_nil s ss)] at hjoin
        exact ⟨_, hjoin.symm, by rw [← hjoin]; rfl, .inr ⟨_, rfl⟩⟩
  · exact .inl ⟨rfl, rfl⟩

theorem eq_head_append (h : isAbsolute p = false) :
    p = head p ++ Text.join [separator] (bodySegments p) := by
  rcases head_cases h with ⟨hhead, hbody⟩ | ⟨hhead, t, rfl, hbody, -⟩
  · rw [hhead, hbody, List.nil_append]
    exact (Text.join_split separator p).symm
  · rw [hhead, hbody, List.singleton_append, segments, Text.join_split]

theorem steps_eq_filter_body (h : isAbsolute p = false) :
    steps p = (bodySegments p).filter fun s => !isTrivial s := by
  rcases head_cases h with ⟨-, hbody⟩ | ⟨-, t, rfl, hbody, rfl | ⟨u, rfl⟩⟩
  · rw [hbody, steps]
  · rw [hbody]
    rfl
  · rw [hbody, ← List.singleton_append, steps_append, ← steps, ← List.nil_append (separator :: u),
      steps_append]
    rfl

/-- Some of the first segments of a path, put after its front part again. -/
theorem steps_head_append (h : isAbsolute p = false) (hss : ss <+: bodySegments p) :
    steps (head p ++ Text.join [separator] ss) = ss.filter fun s => !isTrivial s := by
  have hsep : ∀ s ∈ ss, separator ∉ s := fun s hs =>
    separator_not_mem_of_mem_segments (hss.subset hs)
  rcases head_cases h with ⟨hhead, -⟩ | ⟨hhead, t, rfl, hbody, ht⟩
  · rw [hhead, List.nil_append, steps_join hsep]
  · rw [hhead]
    rw [hbody] at hss
    cases ss with
    | nil => rfl
    | cons s ss =>
        have hs : s = [] := by
          rcases ht with rfl | ⟨u, rfl⟩
          · exact (List.cons_prefix_cons.1 hss).1
          · rw [segments, Text.split_cons_self] at hss
            exact (List.cons_prefix_cons.1 hss).1
        subst hs
        cases ss with
        | nil => rfl
        | cons s ss =>
            rw [Text.join_cons separator (List.cons_ne_nil s ss), List.nil_append, steps_append,
              steps_join fun u hu => hsep u (List.mem_cons_of_mem [] hu)]
            rfl

theorem dropTrivialEnd_eq_rdropWhile (ss : List Text) :
    dropTrivialEnd ss = ss.rdropWhile isTrivial :=
  rfl

theorem filter_dropTrivialEnd (ss : List Text) :
    ((dropTrivialEnd ss).filter fun s => !isTrivial s) = ss.filter fun s => !isTrivial s := by
  rw [dropTrivialEnd_eq_rdropWhile]
  induction ss using List.reverseRecOn with
  | nil => rfl
  | append_singleton ss s ih =>
      cases hs : isTrivial s with
      | true =>
          rw [List.rdropWhile_concat_pos _ _ _ hs, ih, List.filter_append]
          simp [hs]
      | false => rw [List.rdropWhile_concat_neg _ _ _ (by simp [hs])]

theorem prefix_join (h : ss <+: ts) :
    Text.join [separator] ss <+: Text.join [separator] ts := by
  induction ss generalizing ts with
  | nil => exact List.nil_prefix
  | cons s ss ih =>
      obtain ⟨zs, rfl⟩ := h
      cases ss with
      | nil =>
          cases zs with
          | nil => exact List.prefix_rfl
          | cons z zs =>
              rw [List.singleton_append, Text.join_cons separator (List.cons_ne_nil z zs)]
              exact List.prefix_append _ _
      | cons t ss =>
          have hrest := ih (List.prefix_append (t :: ss) zs)
          have hne : t :: ss ++ zs ≠ [] := List.cons_ne_nil t (ss ++ zs)
          rw [List.cons_append, Text.join_cons separator (List.cons_ne_nil t ss),
            Text.join_cons separator hne]
          exact (List.prefix_append_right_inj s).2 ((List.prefix_cons_inj separator).2 hrest)

theorem isTrivial_eq_false_of_dropTrivialEnd {s : Text}
    (h : (dropTrivialEnd ss).reverse = s :: ts) : isTrivial s = false := by
  have hhead := List.head?_dropWhile_not isTrivial ss.reverse
  rw [dropTrivialEnd, List.reverse_reverse] at h
  rwa [h] at hhead

/-! ### Parents -/

/-- Only a path that leads nowhere has no parent. -/
theorem steps_of_parent?_eq_none (h : isAbsolute p = false) (hp : parent? p = none) :
    steps p = [] := by
  rw [steps_eq_filter_body h, ← filter_dropTrivialEnd]
  unfold parent? at hp
  split at hp
  · rename_i hnil
    rw [List.reverse_eq_nil_iff.1 hnil]
    rfl
  · cases hp

/-- The parent of a path is a front part of it, and has all its steps but the last. -/
theorem steps_of_parent?_eq_some (h : isAbsolute p = false) (hp : parent? p = some q) :
    q <+: p ∧ q ≠ p ∧ steps q = (steps p).dropLast := by
  have hsteps : steps p = (dropTrivialEnd (bodySegments p)).filter fun s => !isTrivial s := by
    rw [filter_dropTrivialEnd, steps_eq_filter_body h]
  unfold parent? at hp
  split at hp
  · rename_i hnil
    rw [List.reverse_eq_nil_iff.1 hnil] at hsteps
    split at hp
    · rename_i hhead
      cases hp
      refine ⟨List.nil_prefix, ?_, ?_⟩
      · rintro rfl
        cases hhead
      · rw [hsteps]
        rfl
    · cases hp
  · rename_i c front hcons
    have hend : dropTrivialEnd (bodySegments p) = front.reverse ++ [c] := by
      rw [← List.reverse_cons, ← hcons, List.reverse_reverse]
    have hc := isTrivial_eq_false_of_dropTrivialEnd hcons
    cases hp
    have hfront : dropTrivialEnd front.reverse <+: bodySegments p :=
      calc
        dropTrivialEnd front.reverse <+: front.reverse := List.rdropWhile_prefix _ _
        _ <+: dropTrivialEnd (bodySegments p) := hend ▸ List.prefix_append _ _
        _ <+: bodySegments p := List.rdropWhile_prefix _ _
    have hstepsq := steps_head_append h hfront
    rw [filter_dropTrivialEnd] at hstepsq
    rw [hend, List.filter_append, List.filter_singleton, hc] at hsteps
    refine ⟨?_, ?_, ?_⟩
    · nth_rewrite 2 [eq_head_append h]
      exact (List.prefix_append_right_inj _).2 (prefix_join hfront)
    · intro heq
      rw [heq, hsteps] at hstepsq
      simp at hstepsq
    · rw [hstepsq, hsteps]
      simp

end Path

end Phrasebook
