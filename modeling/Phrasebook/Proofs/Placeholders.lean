import Mathlib.Algebra.Ring.Nat
import Phrasebook.Proofs.Literals

/-!
Placeholders in templates: how many there are and what filling them gives.

A template carries its literals unchanged, so a literal that looks like a
placeholder is one, and it takes a value that was meant for an expression.
Literals without percent signs leave filling nothing but the placeholders of
the expressions, and then it gives the fragment with its values.
-/

namespace Phrasebook

namespace Text

theorem exists_eq_chomp_append (t : Text) :
    ∃ e, t = chomp t ++ e ∧ ∀ c ∈ e, c = '\r' ∨ c = '\n' := by
  unfold chomp
  split
  · rename_i r hr
    exact ⟨['\r', '\n'], by simpa using congrArg List.reverse hr, by simp⟩
  · rename_i r _ hr
    exact ⟨['\n'], by simpa using congrArg List.reverse hr, by simp⟩
  · rename_i r hr
    exact ⟨['\r'], by simpa using congrArg List.reverse hr, by simp⟩
  · exact ⟨[], by simp, by simp⟩

theorem mem_of_mem_chomp {c : Char} {t : Text} (h : c ∈ chomp t) : c ∈ t := by
  obtain ⟨e, he, -⟩ := exists_eq_chomp_append t
  rw [he]
  exact List.mem_append_left e h

end Text

namespace Phrase

/-! ### Counting -/

/-- The number of placeholders in a text that do not overlap, counted from the
left. -/
def countPlaceholders : Text → Nat
  | [] => 0
  | [_] => 0
  | c :: d :: t =>
      if c = '%' ∧ d = 's' then countPlaceholders t + 1 else countPlaceholders (d :: t)

/-- A placeholder overlaps with no other, whatever surrounds it. -/
theorem countPlaceholders_append_placeholder (l u : Text) :
    countPlaceholders (l ++ (placeholder ++ u)) =
      countPlaceholders l + 1 + countPlaceholders u := by
  fun_induction countPlaceholders l with
  | case1 => simp [placeholder, countPlaceholders, Nat.add_comm]
  | case2 c => simp [placeholder, countPlaceholders, Nat.add_comm]
  | case3 c d t hcd ih =>
      rw [List.cons_append, List.cons_append, countPlaceholders, if_pos hcd, ih]
      omega
  | case4 c d t hcd ih =>
      rw [List.cons_append, List.cons_append, countPlaceholders, if_neg hcd]
      exact ih

theorem countPlaceholders_eq_zero_iff (l : Text) :
    countPlaceholders l = 0 ↔ ¬ placeholder <:+: l := by
  constructor
  · rintro h ⟨s, u, rfl⟩
    rw [List.append_assoc, countPlaceholders_append_placeholder] at h
    omega
  · intro h
    fun_induction countPlaceholders l with
    | case1 => rfl
    | case2 => rfl
    | case3 c d t hcd ih =>
        obtain ⟨rfl, rfl⟩ := hcd
        exact absurd ⟨[], t, rfl⟩ h
    | case4 c d t hcd ih => exact ih fun hd => h (List.infix_cons hd)

theorem countPlaceholders_append_of_not_mem (l : Text) {e : Text} (h : 's' ∉ e) :
    countPlaceholders (l ++ e) = countPlaceholders l := by
  have hnone : countPlaceholders e = 0 := by
    rw [countPlaceholders_eq_zero_iff]
    exact fun hmem => h (hmem.subset (by simp [placeholder]))
  fun_induction countPlaceholders l with
  | case1 => exact hnone
  | case2 c =>
      cases e with
      | nil => rfl
      | cons d e =>
          rw [List.mem_cons, not_or] at h
          rw [List.singleton_append, countPlaceholders, if_neg fun hcd => h.1 hcd.2.symm, hnone]
  | case3 c d t hcd ih =>
      rw [List.cons_append, List.cons_append, countPlaceholders, if_pos hcd, ih]
  | case4 c d t hcd ih =>
      rw [List.cons_append, List.cons_append, countPlaceholders, if_neg hcd]
      exact ih

theorem countPlaceholders_chomp (t : Text) :
    countPlaceholders (Text.chomp t) = countPlaceholders t := by
  obtain ⟨e, he, hmem⟩ := Text.exists_eq_chomp_append t
  have hs : 's' ∉ e := fun h => absurd (hmem 's' h) (by decide)
  have happend := countPlaceholders_append_of_not_mem (Text.chomp t) hs
  rw [← he] at happend
  exact happend.symm

/-- Placeholders woven into literals add up with those in the literals. -/
theorem countPlaceholders_weave {ls : List Text} {n : Nat} (h : ls.length = n + 1) :
    countPlaceholders (Fragment.weave ls (List.replicate n placeholder)) =
      n + (ls.map countPlaceholders).sum := by
  induction n generalizing ls with
  | zero =>
      obtain ⟨l, rfl⟩ := List.length_eq_one_iff.1 h
      simp [Fragment.weave, countPlaceholders_chomp]
  | succ n ih =>
      obtain ⟨l, ls, rfl⟩ := List.exists_cons_of_length_eq_add_one h
      rw [List.replicate_succ, Fragment.weave, List.append_assoc,
        countPlaceholders_append_placeholder, ih (by simpa using h), List.map_cons, List.sum_cons]
      omega

variable {escapeHtml : Bool} {t : Text} {p : Phrase}

/-- A template has a placeholder for every argument, and besides these the ones
that its literals contain. -/
theorem countPlaceholders_template (h : ofText escapeHtml t = .ok p) :
    countPlaceholders p.template =
        p.args.length + ((Fragment.literals (.literal 0) t).map countPlaceholders).sum ∧
      (countPlaceholders p.template = p.args.length ↔
        ∀ l ∈ Fragment.literals (.literal 0) t, ¬ placeholder <:+: l) := by
  have hcount : countPlaceholders p.template =
      p.args.length + ((Fragment.literals (.literal 0) t).map countPlaceholders).sum := by
    rw [template_eq_interpolate h]
    exact countPlaceholders_weave (length_literals h)
  refine ⟨hcount, ?_⟩
  calc
    countPlaceholders p.template = p.args.length ↔
        ((Fragment.literals (.literal 0) t).map countPlaceholders).sum = 0 := by omega
    _ ↔ ∀ l ∈ Fragment.literals (.literal 0) t, countPlaceholders l = 0 := by
      simp [List.sum_eq_zero_iff_forall_eq_nat]
    _ ↔ ∀ l ∈ Fragment.literals (.literal 0) t, ¬ placeholder <:+: l := by
      simp only [countPlaceholders_eq_zero_iff]

/-- One of these two placeholders is literal text. -/
theorem countPlaceholders_template_percent :
    ofText false "100%s of #\x7bx\x7d%".toList = .ok ⟨"100%s of %s%".toList, ["x".toList]⟩ ∧
      countPlaceholders "100%s of %s%".toList = 1 + 1 := by
  have hphrase : ofText false "100%s of #\x7bx\x7d%".toList =
      .ok ⟨"100%s of %s%".toList, ["x".toList]⟩ :=
    ofText_eq_ok_iff.2 ⟨['%'], by decide +kernel, by decide +kernel⟩
  exact ⟨hphrase, (countPlaceholders_template hphrase).1.trans (by decide +kernel)⟩

/-- Placeholders and arguments are not always equally many. -/
theorem not_forall_countPlaceholders_eq_length :
    ¬ ∀ (escapeHtml : Bool) (t : Text) (p : Phrase), ofText escapeHtml t = .ok p →
      countPlaceholders p.template = p.args.length := by
  intro h
  have hphrase : ofText false "%s #\x7bx\x7d".toList = .ok ⟨"%s %s".toList, ["x".toList]⟩ :=
    ofText_eq_ok_iff.2 ⟨[], by decide +kernel, by decide +kernel⟩
  exact absurd (h _ _ _ hphrase) (by decide +kernel)

/-! ### Filling -/

theorem fill_append_of_not_mem {l : Text} (h : '%' ∉ l) (u : Text) (values : List Text) :
    fill (l ++ u) values = l ++ fill u values := by
  induction l with
  | nil => rfl
  | cons c l ih =>
      rw [List.mem_cons, not_or] at h
      rw [List.cons_append, List.cons_append, ← ih h.2]
      cases hl : l ++ u with
      | nil => simp [fill]
      | cons d w => simp [fill, Ne.symm h.1]

theorem fill_of_not_mem {l : Text} (h : '%' ∉ l) (values : List Text) : fill l values = l := by
  simpa [fill] using fill_append_of_not_mem h [] values

theorem fill_placeholder (u v : Text) (values : List Text) :
    fill (placeholder ++ u) (v :: values) = v ++ fill u values := by
  simp [placeholder, fill]

/-- Filling never looks at a value again, so values may contain anything. -/
theorem fill_weave {ls values : List Text} (hlen : ls.length = values.length + 1)
    (h : ∀ l ∈ ls, '%' ∉ l) :
    fill (Fragment.weave ls (List.replicate values.length placeholder)) values =
      Fragment.weave ls values := by
  -- Each step fills the first placeholder and leaves a weave of one value less.
  induction values generalizing ls with
  | nil =>
      obtain ⟨l, rfl⟩ := List.length_eq_one_iff.1 hlen
      have hl : '%' ∉ Text.chomp l := fun hc => h l List.mem_cons_self (Text.mem_of_mem_chomp hc)
      exact fill_of_not_mem hl []
  | cons v values ih =>
      obtain ⟨l, ls, rfl⟩ := List.exists_cons_of_length_eq_add_one hlen
      have hl := h l List.mem_cons_self
      have hrest := ih (by simpa using hlen) fun k hk => h k (List.mem_cons_of_mem l hk)
      calc
        fill (Fragment.weave (l :: ls) (List.replicate (v :: values).length placeholder))
            (v :: values)
        _ = fill (l ++ (placeholder ++ Fragment.weave ls
              (List.replicate values.length placeholder))) (v :: values) := by
          simp [List.replicate_succ, Fragment.weave]
        _ = l ++ (v ++ fill (Fragment.weave ls (List.replicate values.length placeholder))
              values) := by
          rw [fill_append_of_not_mem hl, fill_placeholder]
        _ = Fragment.weave (l :: ls) (v :: values) := by
          rw [hrest, Fragment.weave, List.append_assoc]

/-- Without percent signs outside of its expressions, what no catalog knows renders
as the fragment with its values. -/
theorem render_template {values : List Text} (h : ofText escapeHtml t = .ok p)
    (hpercent : ∀ l ∈ Fragment.literals (.literal 0) t, '%' ∉ l)
    (hlen : values.length = p.args.length) :
    render (fun _ => none) p.template values = Fragment.interpolate t values ∧
      fill p.template values = Fragment.interpolate t values := by
  have hfill : fill p.template values = Fragment.interpolate t values := by
    rw [template_eq_interpolate h, ← hlen]
    exact fill_weave (by rw [length_literals h, hlen]) hpercent
  exact ⟨hfill, hfill⟩

/-- Two backslashes embed and three do not, a value looks like a placeholder, and a
line terminator goes. -/
theorem render_template_escapes :
    let t := "\\\\#\x7ba\x7d, \\\\\\#\x7bb\x7d #\x7b\x7b\x7d\x7ds\r\n".toList
    let p : Phrase := ⟨"\\%s, \\#\x7bb\x7d %ss".toList, [['a'], ['\x7b', '\x7d']]⟩
    let rendered := "\\%s%, \\#\x7bb\x7d vs".toList
    ofText false t = .ok p ∧
      render (fun _ => none) p.template ["%s%".toList, ['v']] = rendered ∧
      fill p.template ["%s%".toList, ['v']] = rendered := by
  intro t p rendered
  have hphrase : ofText false t = .ok p :=
    ofText_eq_ok_iff.2 ⟨"s\r\n".toList, by decide +kernel, by decide +kernel⟩
  have hrendered : Fragment.interpolate t ["%s%".toList, ['v']] = rendered := by
    decide +kernel
  have hpercent : ∀ l ∈ Fragment.literals (.literal 0) t, '%' ∉ l := by decide +kernel
  rw [← hrendered]
  exact ⟨hphrase, render_template hphrase hpercent rfl⟩

end Phrase

end Phrasebook
