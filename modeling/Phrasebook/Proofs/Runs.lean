import Mathlib.Data.List.Forall2

/-!
Runs over a list that may fail: a run stops at the first element that fails,
and otherwise returns what its elements return, in order.
-/

namespace Phrasebook

variable {ε ε' α α' β β' γ : Type}

theorem map_eq_ok_iff {f : α → β} {x : Except ε α} {b : β} :
    x.map f = .ok b ↔ ∃ a, x = .ok a ∧ f a = b := by
  cases x <;> simp [Except.map]

theorem map_eq_error_iff {f : α → β} {x : Except ε α} {e : ε} :
    x.map f = .error e ↔ x = .error e := by
  cases x <;> simp [Except.map]

theorem bind_eq_ok_iff {f : α → Except ε β} {x : Except ε α} {b : β} :
    x >>= f = .ok b ↔ ∃ a, x = .ok a ∧ f a = .ok b := by
  cases x <;> simp [bind, Except.bind]

theorem mapM_cons_of_ok {f : α → Except ε β} {a : α} {b : β} (as : List α)
    (h : f a = .ok b) : (a :: as).mapM f = (as.mapM f).map (b :: ·) := by
  rw [List.mapM_cons, h]
  cases as.mapM f <;> rfl

theorem mapM_cons_of_error {f : α → Except ε β} {a : α} {e : ε} (as : List α)
    (h : f a = .error e) : (a :: as).mapM f = .error e := by
  rw [List.mapM_cons, h]
  rfl

/-- A run over other elements comes to what each of them comes to in the place of the first
ones. -/
theorem mapM_eq_of_forall₂ {f : α → Except ε β} {f' : α' → Except ε' β'} {g : β → β'} {k : ε → ε'}
    {as : List α} {as' : List α'}
    (h : List.Forall₂ (fun a a' => f' a' = ((f a).map g).mapError k) as as') :
    as'.mapM f' = ((as.mapM f).map (List.map g)).mapError k := by
  induction h with
  | nil => rfl
  | @cons a a' as as' ha _ ih =>
      cases hfa : f a with
      | error e =>
          rw [hfa] at ha
          rw [mapM_cons_of_error as hfa, mapM_cons_of_error as' ha]
          rfl
      | ok b =>
          rw [hfa] at ha
          rw [mapM_cons_of_ok as hfa, mapM_cons_of_ok as' ha, ih]
          cases as.mapM f <;> rfl

theorem mapM_map (f : α → Except ε β) (g : β → γ) (as : List α) :
    (as.mapM fun a => (f a).map g) = (as.mapM f).map (List.map g) := by
  have hid {δ : Type} (x : Except ε δ) : x.mapError id = x := by cases x <;> rfl
  have hsame : List.Forall₂ (fun a a' => (f a').map g = ((f a).map g).mapError id) as as :=
    List.forall₂_same.2 fun a _ => (hid ((f a).map g)).symm
  rw [mapM_eq_of_forall₂ hsame, hid]

theorem mapM_eq_ok_iff {f : α → Except ε β} {as : List α} {bs : List β} :
    as.mapM f = .ok bs ↔ List.Forall₂ (fun a b => f a = .ok b) as bs := by
  induction as generalizing bs with
  | nil => simp [pure, Except.pure, eq_comm]
  | cons a as ih =>
      cases hfa : f a with
      | error e => simp [mapM_cons_of_error as hfa, List.forall₂_cons_left_iff, hfa]
      | ok b =>
          rw [mapM_cons_of_ok as hfa, map_eq_ok_iff, List.forall₂_cons_left_iff]
          simp only [ih, hfa, Except.ok.injEq]
          constructor
          · rintro ⟨bs', h, rfl⟩
            exact ⟨b, bs', rfl, h, rfl⟩
          · rintro ⟨_, bs', rfl, h, rfl⟩
            exact ⟨bs', h, rfl⟩

theorem exists_mem_of_mapM_eq_ok {f : α → Except ε β} {as : List α} {bs : List β} {b : β}
    (h : as.mapM f = .ok bs) (hb : b ∈ bs) : ∃ a ∈ as, f a = .ok b := by
  rw [mapM_eq_ok_iff] at h
  induction h with
  | nil => simp at hb
  | @cons a c as bs hac _ ih =>
      rcases List.mem_cons.1 hb with rfl | hb
      · exact ⟨a, List.mem_cons_self, hac⟩
      · obtain ⟨a', ha', hab⟩ := ih hb
        exact ⟨a', List.mem_cons_of_mem a ha', hab⟩

/-- A run that fails stops at the first element that does. -/
theorem exists_append_of_mapM_eq_error {f : α → Except ε β} {as : List α} {e : ε}
    (h : as.mapM f = .error e) :
    ∃ earlier a later, as = earlier ++ a :: later ∧ (∀ c ∈ earlier, ∃ b, f c = .ok b) ∧
      f a = .error e := by
  induction as with
  | nil => exact absurd h (by simp [pure, Except.pure])
  | cons a as ih =>
      cases hfa : f a with
      | error e' =>
          rw [mapM_cons_of_error as hfa] at h
          cases h
          exact ⟨[], a, as, rfl, by simp, hfa⟩
      | ok b =>
          rw [mapM_cons_of_ok as hfa, map_eq_error_iff] at h
          obtain ⟨earlier, a', later, rfl, hearlier, he⟩ := ih h
          refine ⟨a :: earlier, a', later, rfl, ?_, he⟩
          exact List.forall_mem_cons.2 ⟨⟨b, hfa⟩, hearlier⟩

theorem exists_mem_of_mapM_eq_error {f : α → Except ε β} {as : List α} {e : ε}
    (h : as.mapM f = .error e) : ∃ a ∈ as, f a = .error e := by
  obtain ⟨earlier, a, later, rfl, -, he⟩ := exists_append_of_mapM_eq_error h
  exact ⟨a, by simp, he⟩

theorem map_eq_of_forall₂ {R : α → β → Prop} {f : α → γ} {g : β → γ} {as : List α} {bs : List β}
    (h : List.Forall₂ R as bs) (hfg : ∀ a ∈ as, ∀ b, R a b → g b = f a) :
    bs.map g = as.map f := by
  induction h with
  | nil => rfl
  | @cons a b as bs hab _ ih =>
      rw [List.map_cons, List.map_cons, hfg a List.mem_cons_self b hab,
        ih fun c hc => hfg c (List.mem_cons_of_mem a hc)]

/-- What is observed of the results of a run, told by the elements. -/
theorem map_of_mapM_eq_ok {f : α → Except ε β} {g : β → γ} {k : α → γ} {as : List α}
    {bs : List β} (h : as.mapM f = .ok bs) (hg : ∀ a ∈ as, ∀ b, f a = .ok b → g b = k a) :
    bs.map g = as.map k :=
  map_eq_of_forall₂ (mapM_eq_ok_iff.1 h) hg

theorem flatMap_of_mapM_eq_ok {f : α → Except ε β} {g : β → List γ} {k : α → List γ}
    {as : List α} {bs : List β} (h : as.mapM f = .ok bs)
    (hg : ∀ a ∈ as, ∀ b, f a = .ok b → g b = k a) : bs.flatMap g = as.flatMap k := by
  rw [List.flatMap_def, List.flatMap_def, map_of_mapM_eq_ok h hg]

theorem exists_mem_ok_of_mapM_eq_ok {f : α → Except ε β} {as : List α} {bs : List β} {a : α}
    (h : as.mapM f = .ok bs) (ha : a ∈ as) : ∃ b ∈ bs, f a = .ok b := by
  rw [mapM_eq_ok_iff] at h
  induction h with
  | nil => cases ha
  | @cons c b as bs hcb _ ih =>
      rcases List.mem_cons.1 ha with rfl | ha
      · exact ⟨b, List.mem_cons_self, hcb⟩
      · obtain ⟨b', hb', hab⟩ := ih ha
        exact ⟨b', List.mem_cons_of_mem b hb', hab⟩

theorem mapM_eq_ok_of_forall {f : α → Except ε β} {g : α → β} {as : List α}
    (h : ∀ a ∈ as, f a = .ok (g a)) : as.mapM f = .ok (as.map g) :=
  mapM_eq_ok_iff.2 (List.forall₂_map_right_iff.2 (List.forall₂_same.2 h))

/-- Two runs over one list fail alike if they fail alike on each element. -/
theorem mapM_eq_error_congr {f : α → Except ε β} {g : α → Except ε γ} {as : List α}
    (h : ∀ a ∈ as, ∀ e, f a = .error e ↔ g a = .error e) (e : ε) :
    as.mapM f = .error e ↔ as.mapM g = .error e := by
  induction as with
  | nil => simp [pure, Except.pure]
  | cons a as ih =>
      have hhead := h a List.mem_cons_self
      have htail := ih fun b hb => h b (List.mem_cons_of_mem a hb)
      cases hfa : f a with
      | error e' =>
          have hga : g a = .error e' := (hhead e').1 hfa
          rw [mapM_cons_of_error as hfa, mapM_cons_of_error as hga]
          simp
      | ok b =>
          cases hga : g a with
          | error e' =>
              have hfa' : f a = .error e' := (hhead e').2 hga
              rw [hfa] at hfa'
              cases hfa'
          | ok c =>
              -- Neither run stops at `a`, so what follows decides.
              rw [mapM_cons_of_ok as hfa, mapM_cons_of_ok as hga, map_eq_error_iff,
                map_eq_error_iff]
              exact htail

end Phrasebook
