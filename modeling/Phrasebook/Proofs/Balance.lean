import Mathlib.Data.List.Infix
import Phrasebook.Delimited

/-!
Texts whose delimiters balance.

A group ends at the first closer that no opener inside the group accounts for.  So
the inside of a group is a text with as many closers as openers in which no prefix
has more closers than openers, and every such text followed by a closer is read as
a group.  Text that balances on its own can be put around another or taken away
without a change to whether that one balances.
-/

namespace Phrasebook

namespace Delimited

variable {opener closer : Char} {depth : Nat}

/-- With `depth` groups open at its start, a text closes all of them and no more. -/
structure Closes (opener closer : Char) (depth : Nat) (t : Text) : Prop where
  floor : ∀ s, s <+: t → s.count closer ≤ depth + s.count opener
  settled : t.count closer = depth + t.count opener

/-- Every opener has its closer, and that comes later. -/
abbrev Balanced (opener closer : Char) (t : Text) : Prop :=
  Closes opener closer 0 t

theorem closes_nil_iff : Closes opener closer depth [] ↔ depth = 0 := by
  constructor
  · intro h
    simpa using h.settled.symm
  · rintro rfl
    exact ⟨by simp, by simp⟩

/-- Whether a text closes its groups can be told from a part of it on, if the groups
that are open there are known. -/
theorem closes_append_iff {depth' : Nat} {s t : Text}
    (hfloor : ∀ p, p <+: s → p.count closer ≤ depth + p.count opener)
    (hdepth : depth' + s.count closer = depth + s.count opener) :
    Closes opener closer depth (s ++ t) ↔ Closes opener closer depth' t := by
  constructor
  · intro h
    constructor
    · intro q hq
      have hpart := h.floor (s ++ q) ((List.prefix_append_right_inj s).2 hq)
      rw [List.count_append, List.count_append] at hpart
      omega
    · have hwhole := h.settled
      rw [List.count_append, List.count_append] at hwhole
      omega
  · intro h
    constructor
    · intro p hp
      rcases List.prefix_or_prefix_of_prefix hp (List.prefix_append s t) with hps | ⟨q, rfl⟩
      · exact hfloor p hps
      · have hpart := h.floor q ((List.prefix_append_right_inj s).1 hp)
        rw [List.count_append, List.count_append]
        omega
    · have hwhole := h.settled
      rw [List.count_append, List.count_append]
      omega

/-! ### One character -/

theorem closes_cons_iff {depth' : Nat} {c : Char} {t : Text}
    (hdepth : depth' + [c].count closer = depth + [c].count opener) :
    Closes opener closer depth (c :: t) ↔ Closes opener closer depth' t := by
  refine closes_append_iff (s := [c]) ?_ hdepth
  intro p hp
  rcases List.prefix_cons_iff.1 hp with rfl | ⟨q, rfl, hq⟩
  · simp
  · rw [List.prefix_nil.1 hq]
    omega

theorem closes_cons_opener (hne : opener ≠ closer) {t : Text} :
    Closes opener closer depth (opener :: t) ↔ Closes opener closer (depth + 1) t :=
  closes_cons_iff (by simp [hne])

theorem closes_cons_closer (hne : opener ≠ closer) {t : Text} :
    Closes opener closer (depth + 1) (closer :: t) ↔ Closes opener closer depth t :=
  closes_cons_iff (by simp [hne.symm])

theorem not_balanced_cons_closer (hne : opener ≠ closer) (t : Text) :
    ¬ Balanced opener closer (closer :: t) := by
  intro h
  have hfloor := h.floor [closer] ⟨t, rfl⟩
  simp [hne.symm] at hfloor

theorem closes_cons_of_ne {c : Char} (hopener : c ≠ opener) (hcloser : c ≠ closer) {t : Text} :
    Closes opener closer depth (c :: t) ↔ Closes opener closer depth t :=
  closes_cons_iff (by simp [hopener, hcloser])

/-- What comes after a character counts only for the groups that it closes. -/
theorem closes_cons_congr (hne : opener ≠ closer) {s t : Text}
    (h : ∀ depth, Closes opener closer depth s ↔ Closes opener closer depth t) (c : Char) :
    Closes opener closer depth (c :: s) ↔ Closes opener closer depth (c :: t) := by
  by_cases hopen : c = opener
  · subst hopen
    rw [closes_cons_opener hne, closes_cons_opener hne, h]
  · by_cases hclose : c = closer
    · subst hclose
      cases depth with
      | zero => simp [not_balanced_cons_closer hne]
      | succ depth => rw [closes_cons_closer hne, closes_cons_closer hne, h]
    · rw [closes_cons_of_ne hopen hclose, closes_cons_of_ne hopen hclose, h]

/-! ### Groups -/

/-- The inside of a group balances, and what balances is the inside of a group. -/
theorem split?_eq_some_iff (hne : opener ≠ closer) {t inside rest : Text} :
    split? opener closer depth t = some (inside, rest) ↔
      t = inside ++ closer :: rest ∧ Closes opener closer depth inside := by
  refine ⟨fun h => ⟨split?_eq_append h, ?_⟩, ?_⟩
  · fun_induction split? opener closer depth t generalizing inside with
    | case1 => exact absurd h (by simp)
    | case2 depth t ih =>
        obtain ⟨i, hs, rfl⟩ := Text.exists_of_map_cons_eq_some h
        exact (closes_cons_opener hne).2 (ih hs)
    | case3 t hopen =>
        cases h
        exact closes_nil_iff.2 rfl
    | case4 t depth hopen ih =>
        obtain ⟨i, hs, rfl⟩ := Text.exists_of_map_cons_eq_some h
        exact (closes_cons_closer hne).2 (ih hs)
    | case5 depth c t hopen hclose ih =>
        obtain ⟨i, hs, rfl⟩ := Text.exists_of_map_cons_eq_some h
        exact (closes_cons_of_ne hopen hclose).2 (ih hs)
  · rintro ⟨rfl, h⟩
    induction inside generalizing depth with
    | nil =>
        obtain rfl := closes_nil_iff.1 h
        simp [split?, hne.symm]
    | cons c inside ih =>
        by_cases hopen : c = opener
        · subst hopen
          simp [split?, ih ((closes_cons_opener hne).1 h)]
        · by_cases hclose : c = closer
          · subst hclose
            cases depth with
            | zero => exact absurd h (not_balanced_cons_closer hne inside)
            | succ depth => simp [split?, hopen, ih ((closes_cons_closer hne).1 h)]
          · simp [split?, hopen, hclose, ih ((closes_cons_of_ne hopen hclose).1 h)]

/-- A group never ends if no part of the text closes more than is open. -/
theorem split?_eq_none_iff (hne : opener ≠ closer) {t : Text} :
    split? opener closer depth t = none ↔
      ∀ s, s <+: t → s.count closer ≤ depth + s.count opener := by
  have hcons {c : Char} {t : Text} {P : Text → Prop} :
      (∀ s, s <+: c :: t → P s) ↔ P [] ∧ ∀ s, s <+: t → P (c :: s) := by
    constructor
    · intro h
      exact ⟨h [] List.nil_prefix, fun s hs => h (c :: s) ((List.prefix_cons_inj c).2 hs)⟩
    · rintro ⟨hnil, hrest⟩ s hs
      rcases List.prefix_cons_iff.1 hs with rfl | ⟨u, rfl, hu⟩
      · exact hnil
      · exact hrest u hu
  induction t generalizing depth with
  | nil => simp [split?]
  | cons c t ih =>
      simp only [split?]
      rw [hcons]
      by_cases hopen : c = opener
      · subst hopen
        simp only [if_pos, Option.map_eq_none_iff, ih, List.count_cons_self,
          List.count_cons_of_ne hne, List.count_nil, Nat.zero_le, true_and, Nat.add_assoc,
          Nat.add_comm 1]
      · by_cases hclose : c = closer
        · subst hclose
          rw [if_neg hopen, if_pos rfl]
          cases depth with
          | zero =>
              simp only [reduceCtorEq, false_iff]
              rintro ⟨-, h⟩
              have hfloor := h [] List.nil_prefix
              simp [hopen] at hfloor
          | succ depth =>
              simp only [Option.map_eq_none_iff, ih, List.count_cons_self,
                List.count_cons_of_ne hopen, List.count_nil, Nat.zero_le, true_and,
                Nat.add_right_comm depth 1, Nat.add_le_add_iff_right]
        · simp only [if_neg hopen, if_neg hclose, Option.map_eq_none_iff, ih,
            List.count_cons_of_ne hopen, List.count_cons_of_ne hclose, List.count_nil,
            Nat.zero_le, true_and]

/-! ### Balanced parts -/

namespace Balanced

variable {s t : Text}

/-- No closer before the end of a balanced text closes more than is open there. -/
theorem prefix_of_closes_more {rest : Text} (h : Balanced opener closer t)
    (hs : s ++ [closer] <+: t ++ closer :: rest)
    (hcount : (s ++ [closer]).count opener < (s ++ [closer]).count closer) : t <+: s := by
  have ht : t <+: t ++ closer :: rest := List.prefix_append t _
  have hfront : s <+: t ++ closer :: rest := (List.prefix_append s _).trans hs
  refine List.prefix_of_prefix_length_le ht hfront (Nat.le_of_not_lt fun hlt => ?_)
  have hinside : s ++ [closer] <+: t :=
    List.prefix_of_prefix_length_le hs ht (by simpa [Nat.succ_le_iff] using hlt)
  have hfloor := h.floor _ hinside
  omega

theorem of_not_mem (hopener : opener ∉ t) (hcloser : closer ∉ t) : Balanced opener closer t := by
  constructor
  · intro s hs
    rw [List.count_eq_zero.2 fun h => hcloser (hs.subset h)]
    exact Nat.zero_le _
  · rw [List.count_eq_zero.2 hopener, List.count_eq_zero.2 hcloser]

theorem append_iff_right (h : Balanced opener closer s) :
    Balanced opener closer (s ++ t) ↔ Balanced opener closer t := by
  refine closes_append_iff h.floor ?_
  have hs := h.settled
  omega

theorem append_iff_left (h : Balanced opener closer t) :
    Balanced opener closer (s ++ t) ↔ Balanced opener closer s := by
  refine ⟨fun hst => ⟨?_, ?_⟩, fun hs => (append_iff_right hs).2 h⟩
  · intro p hp
    exact hst.floor p (hp.trans (List.prefix_append s t))
  · have hwhole := hst.settled
    have ht := h.settled
    rw [List.count_append, List.count_append] at hwhole
    omega

theorem join {sep : Text} (hsep : Balanced opener closer sep) {ts : List Text}
    (h : ∀ t ∈ ts, Balanced opener closer t) : Balanced opener closer (Text.join sep ts) := by
  fun_induction Text.join sep ts with
  | case1 => exact closes_nil_iff.2 rfl
  | case2 t => exact h t List.mem_cons_self
  | case3 t u ts ih =>
      have ht := h t List.mem_cons_self
      have hts := ih fun v hv => h v (List.mem_cons_of_mem t hv)
      rw [List.append_assoc]
      exact (append_iff_right ht).2 ((append_iff_right hsep).2 hts)

end Balanced

end Delimited

end Phrasebook
