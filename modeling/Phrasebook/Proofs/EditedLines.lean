import Mathlib.Algebra.BigOperators.Group.List.Basic
import Mathlib.Data.List.Nodup
import Phrasebook.Proofs.Edits
import Phrasebook.Proofs.LineFeeds

/-!
The lines of an edited source.

An edit may remove its line, and the text that it writes may be of more than one
line.  As no line is edited twice, the lines of the edited source can be counted
edit by edit.  That count is the number of lines of the template as long as the
last text ends open, since a line feed at its end would start no line.
-/

namespace Phrasebook

open Text (EndsOpen height)

/-! ### Lines of edits -/

/-- The lines that an edit takes away. -/
def LineEdit.removed (e : LineEdit) : Nat :=
  match e.text with
  | none => 1
  | some _ => 0

/-- The lines that an edit puts next to its own. -/
def LineEdit.added (e : LineEdit) : Nat :=
  match e.text with
  | none => 0
  | some t => t.count '\n'

theorem LineEdit.sum_height (e : LineEdit) :
    (e.text.toList.map height).sum + e.removed = 1 + e.added := by
  obtain ⟨line, text⟩ := e
  cases text with
  | none => rfl
  | some t => simp [removed, added, height, Nat.add_comm]

namespace Localizer

variable {l : Localizer} {es : List LineEdit} {first last line : Nat}

theorem Ordered.nodup (hes : Ordered first last es) : (es.map LineEdit.line).Nodup :=
  List.pairwise_map.2 (hes.order.imp Nat.ne_of_lt)

/-- The only edit for a line is made. -/
theorem editedLine_of_nodup (hes : (es.map LineEdit.line).Nodup) {e : LineEdit} (he : e ∈ es)
    (t : Text) : editedLine es e.line t = e.text := by
  unfold editedLine
  cases hfind : es.reverse.find? fun d => d.line = e.line with
  | none => simpa using List.find?_eq_none.1 hfind e (List.mem_reverse.2 he)
  | some d =>
      have hd := List.mem_reverse.1 (List.mem_of_find?_eq_some hfind)
      have hline : d.line = e.line := by simpa using List.find?_some hfind
      rw [List.inj_on_of_nodup_map hes hd he hline]

theorem editedLine_of_mem (hes : Ordered first last es) {e : LineEdit} (he : e ∈ es) (t : Text) :
    editedLine es e.line t = e.text :=
  editedLine_of_nodup hes.nodup he t

theorem editedLine_eq_or (es : List LineEdit) (line : Nat) (t : Text) :
    (∃ e ∈ es, e.line = line ∧ editedLine es line t = e.text) ∨
      editedLine es line t = some t := by
  unfold editedLine
  cases hfind : es.reverse.find? fun e => e.line = line with
  | none => exact .inr rfl
  | some e =>
      have he := List.mem_reverse.1 (List.mem_of_find?_eq_some hfind)
      exact .inl ⟨e, he, by simpa using List.find?_some hfind, rfl⟩

/-- A line of an edited source is a line of the source or what an edit writes. -/
theorem mem_applyEdits {ls : List Text} {t : Text} (h : t ∈ applyEdits es line ls) :
    t ∈ ls ∨ ∃ e ∈ es, e.text = some t := by
  induction ls generalizing line with
  | nil => cases h
  | cons u ls ih =>
      rw [applyEdits, List.mem_append, Option.mem_toList] at h
      rcases h with h | h
      · rcases editedLine_eq_or es line u with ⟨e, he, -, hedit⟩ | hedit
        · exact .inr ⟨e, he, hedit.symm.trans h⟩
        · obtain rfl := Option.some.inj (hedit.symm.trans h)
          exact .inl List.mem_cons_self
      · exact (ih h).imp_left (List.mem_cons_of_mem u)

/-- An edit is of no concern to the lines below it. -/
theorem applyEdits_cons_of_lt {e : LineEdit} (h : e.line < line) (ls : List Text) :
    applyEdits (e :: es) line ls = applyEdits es line ls := by
  induction ls generalizing line with
  | nil => rfl
  | cons t ls ih =>
      have hne : e.line ≠ line := Nat.ne_of_lt h
      rw [applyEdits, applyEdits, ih (Nat.lt_succ_of_lt h), editedLine, editedLine,
        List.reverse_cons, List.find?_append]
      simp [hne]

/-- The first line is edited, and no later edit is for it. -/
theorem applyEdits_cons_of_line {e : LineEdit} (hes : ∀ d ∈ es, e.line < d.line) (t : Text)
    (ls : List Text) : applyEdits (e :: es) e.line (t :: ls) =
      e.text.toList ++ applyEdits es (e.line + 1) ls := by
  have hlater : es.reverse.find? (fun d => d.line = e.line) = none := by
    rw [List.find?_eq_none]
    intro d hd
    simpa using Nat.ne_of_gt (hes d (List.mem_reverse.1 hd))
  have hedited : editedLine (e :: es) e.line t = e.text := by
    rw [editedLine, List.reverse_cons, List.find?_append, hlater]
    simp
  rw [applyEdits, hedited, applyEdits_cons_of_lt (Nat.lt_add_one _)]

/-- The first line stays, as all edits are for later ones. -/
theorem applyEdits_of_lt (hes : ∀ e ∈ es, line < e.line) (t : Text) (ls : List Text) :
    applyEdits es line (t :: ls) = t :: applyEdits es (line + 1) ls := by
  rw [applyEdits, editedLine_of_forall_ne fun e he => Nat.ne_of_gt (hes e he)]
  rfl

/-- Each edit changes the number of lines on its own. -/
theorem sum_height_applyEdits {ls : List Text} (hes : Ordered line last es)
    (hlast : last < line + ls.length) (hfeed : ∀ t ∈ ls, '\n' ∉ t) :
    ((applyEdits es line ls).map height).sum + (es.map LineEdit.removed).sum =
      ls.length + (es.map LineEdit.added).sum := by
  induction ls generalizing es line with
  | nil =>
      obtain rfl := hes.eq_nil_of_lt hlast
      rfl
  | cons t ls ih =>
      have hlast' : last < line + 1 + ls.length := by
        rw [List.length_cons] at hlast
        omega
      have hls : ∀ u ∈ ls, '\n' ∉ u := fun u hu => hfeed u (List.mem_cons_of_mem t hu)
      have ht : height t = 1 := by
        rw [height, List.count_eq_zero.2 (hfeed t List.mem_cons_self)]
      rcases hes.cases_head with ⟨e, es', rfl, rfl, hes'⟩ | hes'
      · have hrest := ih hes' hlast' hls
        have hedit := e.sum_height
        rw [applyEdits_cons_of_line fun d hd => (hes'.extent d hd).1, List.map_append,
          List.sum_append_nat]
        simp only [List.map_cons, List.sum_cons, List.length_cons]
        omega
      · have hrest := ih hes' hlast' hls
        rw [applyEdits_of_lt fun e he => (hes'.extent e he).1]
        simp only [List.map_cons, List.sum_cons, ht, List.length_cons]
        omega

/-! ### Edits of a part of the lines -/

section Edits

variable {es fs : List LineEdit} {line : Nat} {t : Text}

theorem editedLine_append_left (h : ∀ e ∈ fs, e.line ≠ line) :
    editedLine (es ++ fs) line t = editedLine es line t := by
  have hnone : fs.reverse.find? (fun e => e.line = line) = none := by
    simpa [List.find?_eq_none] using h
  rw [editedLine, editedLine, List.reverse_append, List.find?_append, hnone, Option.none_or]

theorem editedLine_append_right (h : ∀ e ∈ es, e.line ≠ line) :
    editedLine (es ++ fs) line t = editedLine fs line t := by
  have hnone : es.reverse.find? (fun e => e.line = line) = none := by
    simpa [List.find?_eq_none] using h
  rw [editedLine, editedLine, List.reverse_append, List.find?_append, hnone, Option.or_none]

theorem applyEdits_congr {ls : List Text} (h : ∀ k, line ≤ k → k < line + ls.length →
    ∀ t, editedLine es k t = editedLine fs k t) :
    applyEdits es line ls = applyEdits fs line ls := by
  induction ls generalizing line with
  | nil => rfl
  | cons t ls ih =>
      rw [applyEdits, applyEdits, h line (Nat.le_refl line) (by simp)]
      rw [ih fun k hline hk => h k (Nat.le_of_succ_le hline) (by rw [List.length_cons]; omega)]

theorem applyEdits_append (es : List LineEdit) (line : Nat) (ls ms : List Text) :
    applyEdits es line (ls ++ ms) =
      applyEdits es line ls ++ applyEdits es (line + ls.length) ms := by
  induction ls generalizing line with
  | nil => rfl
  | cons t ls ih =>
      have hline : line + 1 + ls.length = line + (t :: ls).length := by
        rw [List.length_cons]
        omega
      rw [List.cons_append, applyEdits, applyEdits, ih, hline, List.append_assoc]

/-- Edits of some lines and of lines after them are made in each part on its own. -/
theorem applyEdits_append_append {ls ms : List Text} (hes : ∀ e ∈ es, e.line < line + ls.length)
    (hfs : ∀ e ∈ fs, line + ls.length ≤ e.line) :
    applyEdits (es ++ fs) line (ls ++ ms) =
      applyEdits es line ls ++ applyEdits fs (line + ls.length) ms := by
  rw [applyEdits_append]
  congr 1
  · refine applyEdits_congr fun k _ hk t => editedLine_append_left fun e he => ?_
    have := hfs e he
    omega
  · refine applyEdits_congr fun k hk _ t => editedLine_append_right fun e he => ?_
    have := hes e he
    omega

@[simp] theorem applyEdits_nil (line : Nat) (ls : List Text) : applyEdits [] line ls = ls := by
  induction ls generalizing line with
  | nil => rfl
  | cons t ls ih => rw [applyEdits, ih]; rfl

/-- The last of some lines is edited. -/
theorem applyEdits_singleton (line : Nat) (ls : List Text) (t u : Text) :
    applyEdits [⟨line + ls.length, some u⟩] line (ls ++ [t]) = ls ++ [u] := by
  have hlines : applyEdits ([] ++ [⟨line + ls.length, some u⟩]) line (ls ++ [t]) = _ :=
    applyEdits_append_append (by simp) (by simp)
  rw [List.nil_append, applyEdits_nil] at hlines
  rw [hlines]
  simp [applyEdits, editedLine]

theorem lt_line_of_mem_map_range' {f : Nat → Option Text} {k : Nat} :
    ∀ e ∈ (List.range' (line + 1) k).map fun n => (⟨n, f n⟩ : LineEdit), line < e.line := by
  intro e he
  obtain ⟨n, hn, rfl⟩ := List.mem_map.1 he
  exact (List.mem_range'_1.1 hn).1

/-- Each line is edited. -/
theorem applyEdits_map_range' (f : Nat → Option Text) (line : Nat) (ls : List Text) :
    applyEdits ((List.range' line ls.length).map fun k => ⟨k, f k⟩) line ls =
      (List.range' line ls.length).flatMap fun k => (f k).toList := by
  induction ls generalizing line with
  | nil => rfl
  | cons t ls ih =>
      rw [List.length_cons, List.range'_succ, List.map_cons, List.flatMap_cons, ← ih]
      exact applyEdits_cons_of_line lt_line_of_mem_map_range' t ls

/-- One line is written in the place of several. -/
theorem applyEdits_block (line : Nat) (t u : Text) (ls : List Text) :
    applyEdits (⟨line, some u⟩ :: (List.range' (line + 1) ls.length).map fun k => ⟨k, none⟩) line
      (t :: ls) = [u] := by
  have hnone : ((List.range' (line + 1) ls.length).flatMap fun _ => (none : Option Text).toList) =
      [] := List.flatMap_eq_nil_iff.2 fun _ _ => rfl
  refine (applyEdits_cons_of_line lt_line_of_mem_map_range' t ls).trans ?_
  rw [applyEdits_map_range' (fun _ => none), hnone]
  rfl

end Edits

/-! ### Ends of lines -/

/-- Edits after which a line ends in a line feed only if it did before: a removed
line is below another one or below a text that ends open, and where a line ends open
the text in its place does. -/
structure Tidy (sourceLines : List Text) (es : List LineEdit) : Prop where
  removed : ∀ e ∈ es, e.text = none →
    ∃ d ∈ es, d.line + 1 = e.line ∧ ∀ t ∈ d.text, EndsOpen t
  written : ∀ e ∈ es, ∀ t ∈ e.text,
    (∀ u ∈ sourceLines[e.line - 1]?, EndsOpen u) → EndsOpen t

variable {sourceLines : List Text}

theorem Tidy.flatten {ess : List (List LineEdit)} (h : ∀ es ∈ ess, Tidy sourceLines es) :
    Tidy sourceLines ess.flatten := by
  constructor
  · intro e he hremoved
    obtain ⟨es, hes, he⟩ := List.mem_flatten.1 he
    obtain ⟨d, hd, hline, hopen⟩ := (h es hes).removed e he hremoved
    exact ⟨d, List.mem_flatten.2 ⟨es, hes, hd⟩, hline, hopen⟩
  · intro e he
    obtain ⟨es, hes, he⟩ := List.mem_flatten.1 he
    exact (h es hes).written e he

/-- One line is written in the place of several. -/
theorem Tidy.block {text : Text} (hopen : EndsOpen text) (first k : Nat) :
    Tidy sourceLines
      (⟨first, some text⟩ :: (List.range' (first + 1) k).map fun line => ⟨line, none⟩) := by
  constructor
  · intro e he hremoved
    rcases List.mem_cons.1 he with rfl | he
    · cases hremoved
    · obtain ⟨line, hline, rfl⟩ := List.mem_map.1 he
      rw [List.mem_range'_1] at hline
      by_cases hsecond : line = first + 1
      · subst hsecond
        refine ⟨_, List.mem_cons_self, rfl, ?_⟩
        rintro t ⟨⟩
        exact hopen
      · have habove : line - 1 ∈ List.range' (first + 1) k := by
          rw [List.mem_range'_1]
          omega
        refine ⟨⟨line - 1, none⟩, List.mem_cons_of_mem _ (List.mem_map_of_mem habove), ?_, ?_⟩
        · show line - 1 + 1 = line
          omega
        · rintro t ⟨⟩
  · rintro e he t ht -
    rcases List.mem_cons.1 he with rfl | he
    · cases ht
      exact hopen
    · obtain ⟨line, -, rfl⟩ := List.mem_map.1 he
      cases ht

/-- The first line stays. -/
theorem applyEdits_ne_nil (hes : Ordered 1 last es) (htidy : Tidy sourceLines es)
    (hne : sourceLines ≠ []) : applyEdits es 1 sourceLines ≠ [] := by
  obtain ⟨t, ls, rfl⟩ := List.exists_cons_of_ne_nil hne
  rw [applyEdits]
  rcases editedLine_eq_or es 1 t with ⟨e, he, hline, hedit⟩ | hedit
  · cases htext : e.text with
    | some u => simp [hedit, htext]
    | none =>
        obtain ⟨d, hd, habove, -⟩ := htidy.removed e he htext
        have hfirst := (hes.extent d hd).1
        omega
  · simp [hedit]

theorem Tidy.endsOpen_of_line (htidy : Tidy sourceLines es) {t u : Text}
    (ht : sourceLines[line - 1]? = some t) (hopen : EndsOpen t)
    (h : editedLine es line t = some u) : EndsOpen u := by
  rcases editedLine_eq_or es line t with ⟨e, he, rfl, hedit⟩ | hedit
  · refine htidy.written e he u (hedit.symm.trans h) ?_
    rw [ht]
    rintro v ⟨⟩
    exact hopen
  · obtain rfl := Option.some.inj (hedit.symm.trans h)
    exact hopen

theorem Tidy.endsOpen_above (htidy : Tidy sourceLines es) (hes : Ordered first last es)
    {t t' u : Text} (hgone : editedLine es (line + 1) t' = none)
    (h : editedLine es line t = some u) : EndsOpen u := by
  rcases editedLine_eq_or es (line + 1) t' with ⟨e, he, hbelow, hedit⟩ | hedit
  · obtain ⟨d, hd, habove, hends⟩ := htidy.removed e he (hedit.symm.trans hgone)
    obtain rfl : d.line = line := by omega
    rw [editedLine_of_mem hes hd] at h
    exact hends u h
  · rw [hgone] at hedit
    cases hedit

/-- The first of the lines from line `line` on, and those after it. -/
theorem getElem?_and_drop_of_drop {t : Text} {ls : List Text} (hline : 1 ≤ line)
    (h : sourceLines.drop (line - 1) = t :: ls) :
    sourceLines[line - 1]? = some t ∧ sourceLines.drop (line + 1 - 1) = ls := by
  have hsucc : line + 1 - 1 = line - 1 + 1 := by omega
  constructor
  · rw [← List.head?_drop, h, List.head?_cons]
  · rw [hsucc, ← List.drop_drop, h, List.drop_one, List.tail_cons]

/-- The last line of a source and the last of the edited source end open together. -/
theorem endsOpen_getLast_applyEdits (hes : Ordered first last es) (htidy : Tidy sourceLines es)
    {ls : List Text} (hline : 1 ≤ line) (hls : sourceLines.drop (line - 1) = ls)
    (hopen : ∀ t ∈ ls.getLast?, EndsOpen t) :
    ∀ t ∈ (applyEdits es line ls).getLast?, EndsOpen t := by
  induction ls generalizing line with
  | nil => simp [applyEdits]
  | cons t ls ih =>
      obtain ⟨ht, htail⟩ := getElem?_and_drop_of_drop hline hls
      intro u hu
      rw [applyEdits] at hu
      cases hrest : applyEdits es (line + 1) ls with
      | cons v vs =>
          refine ih (Nat.le_add_left 1 line) htail ?_ u ?_
          · intro w hw
            rw [Option.mem_def] at hw
            exact hopen w (by simp [List.getLast?_cons, hw])
          · rw [hrest] at hu ⊢
            simpa [List.getLast?_append] using hu
      | nil =>
          -- All lines below are gone, so the text for this one is the last.
          have hedited : editedLine es line t = some u := by
            rw [hrest, List.append_nil] at hu
            cases hedit : editedLine es line t <;> simp_all
          cases ls with
          | nil => exact htidy.endsOpen_of_line ht (hopen t rfl) hedited
          | cons t' ls =>
              rw [applyEdits, List.append_eq_nil_iff, Option.toList_eq_nil_iff] at hrest
              exact htidy.endsOpen_above hes hrest.1 hedited

/-! ### Assembling -/

theorem feed_not_mem_helpers {b : Backend} {helpers : Text} (h : helpers ∈ b.helpers?) :
    '\n' ∉ helpers := by
  cases b with
  | i18n => cases h; simp
  | gettext => cases h; simp
  | fastGettext => cases h; simp
  | custom => cases h

theorem feed_not_mem_snippet {helpers : Text} (h : '\n' ∉ helpers) :
    '\n' ∉ Snippet.preamble helpers := by
  have hlead : '\n' ∉ "- extend ".toList := by simp
  intro hmem
  rcases List.mem_append.1 hmem with hmem | hmem
  · exact hlead hmem
  · exact h hmem

theorem snippet_ne_nil (helpers : Text) : Snippet.preamble helpers ≠ [] := by
  have hlead : "- extend ".toList ≠ [] := by simp
  exact List.append_ne_nil_of_left_ne_nil hlead helpers

theorem preamble_oneLine {t : Text} (h : t ∈ l.preamble) : height t = 1 ∧ EndsOpen t := by
  unfold preamble at h
  split at h
  · obtain ⟨helpers, hhelpers, rfl⟩ := Option.map_eq_some_iff.1 h
    have hfeed := feed_not_mem_snippet (feed_not_mem_helpers hhelpers)
    refine ⟨?_, Text.endsOpen_of_not_mem (snippet_ne_nil helpers) hfeed⟩
    rw [height, List.count_eq_zero.2 hfeed]
  · cases h

/-- The last text of a localized template ends open if its source does. -/
theorem endsOpen_getLast_assemble {source : Text}
    (hes : Ordered 1 (Text.lines source).length es) (htidy : Tidy (Text.lines source) es)
    (hends : Text.endsLine source = false) :
    ∀ t ∈ (l.preamble.toList ++ applyEdits es 1 (Text.lines source)).getLast?, EndsOpen t := by
  intro t ht
  rw [Option.mem_def, List.getLast?_append, Option.or_eq_some_iff] at ht
  rcases ht with ht | ⟨-, ht⟩
  · exact endsOpen_getLast_applyEdits hes htidy (Nat.le_refl 1) rfl
      (fun u hu => Text.endsOpen_getLast_lines hends hu) t ht
  · have hmem := Option.mem_toList.1 (List.mem_of_getLast? ht)
    exact (preamble_oneLine hmem).2

/-- The texts of a localized template fill as many lines as they are high. -/
theorem length_lines_assemble {source : Text}
    (hes : Ordered 1 (Text.lines source).length es) (htidy : Tidy (Text.lines source) es) :
    (Text.lines (l.assemble source es)).length =
      l.preamble.toList.length + ((applyEdits es 1 (Text.lines source)).map height).sum := by
  have hpreamble : (l.preamble.toList.map height).sum = l.preamble.toList.length := by
    cases h : l.preamble with
    | none => rfl
    | some t => simp [(preamble_oneLine h).1]
  rw [← hpreamble, ← List.sum_append_nat, ← List.map_append]
  unfold assemble
  split
  · rename_i hends
    have hsource : Text.lines source ≠ [] := by
      rw [Ne, Text.lines_eq_nil_iff]
      rintro rfl
      cases hends
    have hbody := applyEdits_ne_nil hes htidy hsource
    rw [Text.length_lines_concat, Text.height_unlines (by simp [hbody])]
  · rename_i hends
    rw [Bool.not_eq_true] at hends
    by_cases hne : l.preamble.toList ++ applyEdits es 1 (Text.lines source) = []
    · rw [hne]
      rfl
    · rw [← Text.height_unlines hne]
      exact Text.length_lines_of_endsOpen
        (Text.endsOpen_unlines hne (endsOpen_getLast_assemble hes htidy hends))

end Localizer

end Phrasebook
