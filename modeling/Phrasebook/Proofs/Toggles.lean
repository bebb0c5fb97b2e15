import Phrasebook.Proofs.Extents

/-!
Which lines are disabled after any number of comments.

Ranges are opened and closed by comments further and further down, so what stands above the
last of them does not change any more.  Below it only two things matter: whether a range is
open, which is what the last directive that opens or closes one has asked for, and that all
closed ranges end above.  The end of the template makes no difference to any line.
-/

namespace Phrasebook

/-- A directive that opens or closes a range. -/
def Directive.isToggle : Directive → Bool
  | .disable | .enable => true
  | .disableNextLine => false

/-- A silent comment on a line. -/
structure Comment where
  line : Nat
  text : Text
  deriving DecidableEq, Repr

def Comment.directive? (c : Comment) : Option Directive :=
  Directive.ofComment? c.text

/-- The last directive on `line` or above it that opens or closes a range. -/
def lastToggle? (cs : List Comment) (line : Nat) : Option Directive :=
  (((cs.filter fun c => c.line ≤ line).filterMap Comment.directive?).filter
    Directive.isToggle).getLast?

section LastToggle

variable {cs : List Comment} {c : Comment} {line : Nat}

theorem lastToggle?_concat_of_lt (h : line < c.line) :
    lastToggle? (cs ++ [c]) line = lastToggle? cs line := by
  simp [lastToggle?, Nat.not_le.2 h]

theorem lastToggle?_concat_of_isToggle {d : Directive} (h : c.line ≤ line)
    (hd : c.directive? = some d) (htoggle : d.isToggle = true) :
    lastToggle? (cs ++ [c]) line = some d := by
  simp [lastToggle?, h, hd, htoggle]

theorem lastToggle?_concat_of_not_isToggle (h : ∀ d ∈ c.directive?, d.isToggle = false) :
    lastToggle? (cs ++ [c]) line = lastToggle? cs line := by
  rcases Nat.lt_or_ge line c.line with hlt | hle
  · exact lastToggle?_concat_of_lt hlt
  · cases hd : c.directive? with
    | none => simp [lastToggle?, hle, hd]
    | some d => simp [lastToggle?, hle, hd, h d hd]

end LastToggle

namespace DisabledLines

variable {d : DisabledLines} {cs : List Comment} {c : Comment} {stop line : Nat}

/-- The disabled lines after comments. -/
def ofComments (cs : List Comment) : DisabledLines :=
  cs.foldl (fun d c => d.record c.line c.text) {}

theorem record_of_eq_none (h : c.directive? = none) : d.record c.line c.text = d := by
  rw [DisabledLines.record]
  split
  · rfl
  · rename_i hsome
    cases h.symm.trans hsome

theorem record_of_eq_some {directive : Directive} (h : c.directive? = some directive) :
    d.record c.line c.text = d.obey c.line directive := by
  rw [DisabledLines.record]
  split
  · rename_i hnone
    cases h.symm.trans hnone
  · rename_i hsome
    cases h.symm.trans hsome
    rfl

/-- A line of a closed range or of the open one. -/
def InRange (d : DisabledLines) (line : Nat) : Prop :=
  (∃ first ∈ d.openFrom, first ≤ line) ∨ ∃ r ∈ d.ranges, r.contains line = true

theorem contains_iff : d.contains line = true ↔ line ∈ d.single ∨ d.InRange line := by
  simp only [contains, InRange, Bool.or_eq_true, List.contains_iff_mem, Option.any_eq_true,
    decide_eq_true_eq, List.any_eq_true, or_assoc]
  exact Iff.rfl

theorem inRange_finish : d.finish.InRange line ↔ d.InRange line := by
  unfold finish
  cases hopen : d.openFrom with
  | none => rfl
  | some first => simp [InRange, hopen, LineRange.contains, or_comm]

theorem single_finish (d : DisabledLines) : d.finish.single = d.single := by
  unfold finish
  split <;> rfl

/-- An open range and one without an end have the same lines. -/
theorem contains_finish (d : DisabledLines) (line : Nat) :
    d.finish.contains line = d.contains line := by
  rw [Bool.eq_iff_iff, contains_iff, contains_iff, inRange_finish, single_finish]

/-! ### Comments one after the other -/

/-- The disabled lines after the comments `cs`, all of which stand above the line `stop`. -/
structure Tracks (d : DisabledLines) (cs : List Comment) (stop : Nat) : Prop where
  single : ∀ line, line ∈ d.single ↔
    ∃ c ∈ cs, c.line + 1 = line ∧ c.directive? = some .disableNextLine
  inRange : ∀ line, d.InRange line ↔ lastToggle? cs line = some .disable
  open_lt : ∀ first ∈ d.openFrom, first < stop
  closed : ∀ r ∈ d.ranges, ∀ line, stop ≤ line → r.contains line = false

namespace Tracks

theorem empty : Tracks {} [] 0 where
  single := by simp
  inRange := by simp [InRange, lastToggle?]
  open_lt := by simp
  closed := by simp

theorem mono (h : Tracks d cs stop) {stop' : Nat} (hle : stop ≤ stop') : Tracks d cs stop' where
  single := h.single
  inRange := h.inRange
  open_lt := fun first hfirst => Nat.lt_of_lt_of_le (h.open_lt first hfirst) hle
  closed := fun r hr line hline => h.closed r hr line (Nat.le_trans hle hline)

/-- Only a directive for the next line disables a line by itself. -/
theorem single_concat (h : Tracks d cs stop) (hc : c.directive? ≠ some .disableNextLine)
    (line : Nat) : line ∈ d.single ↔
      ∃ c' ∈ cs ++ [c], c'.line + 1 = line ∧ c'.directive? = some .disableNextLine := by
  rw [h.single]
  constructor
  · rintro ⟨c', hc', hline⟩
    exact ⟨c', List.mem_append_left _ hc', hline⟩
  · rintro ⟨c', hc', hline⟩
    rcases List.mem_append.1 hc' with hc' | hc'
    · exact ⟨c', hc', hline⟩
    · obtain rfl := List.mem_singleton.1 hc'
      exact absurd hline.2 hc

/-- From `stop` on, being in a range is the same as a range being open. -/
theorem inRange_iff_of_le (h : Tracks d cs stop) (hline : stop ≤ line) :
    d.InRange line ↔ d.openFrom ≠ none := by
  constructor
  · rintro (⟨first, hfirst, -⟩ | ⟨r, hr, hcontains⟩)
    · rw [Option.mem_def.1 hfirst]
      exact Option.some_ne_none first
    · rw [h.closed r hr line hline] at hcontains
      cases hcontains
  · intro hopen
    obtain ⟨first, hfirst⟩ := Option.ne_none_iff_exists'.1 hopen
    have hlt := h.open_lt first hfirst
    exact .inl ⟨first, hfirst, by omega⟩

/-- A range that a comment leaves open does not start below the comment. -/
theorem getD_openFrom_le (h : Tracks d cs stop) (hline : stop ≤ line) :
    d.openFrom.getD line ≤ line := by
  cases hfirst : d.openFrom with
  | none => exact Nat.le_refl line
  | some first =>
      have hlt := h.open_lt first hfirst
      exact Nat.le_trans (Nat.le_of_lt hlt) hline

theorem skip (h : Tracks d cs stop) (hc : c.directive? = none) : Tracks d (cs ++ [c]) stop where
  single := h.single_concat (by simp [hc])
  inRange := by
    intro line
    rw [h.inRange, lastToggle?_concat_of_not_isToggle (by simp [hc])]
  open_lt := h.open_lt
  closed := h.closed

theorem disableNextLine (h : Tracks d cs stop) (hc : c.directive? = some .disableNextLine) :
    Tracks (d.obey c.line .disableNextLine) (cs ++ [c]) stop where
  single := by
    intro line
    simp only [obey, List.mem_append, List.mem_singleton, h.single]
    grind
  inRange := by
    intro line
    rw [lastToggle?_concat_of_not_isToggle (by simp [hc, Directive.isToggle]), ← h.inRange]
    rfl
  open_lt := h.open_lt
  closed := h.closed

theorem disable (h : Tracks d cs stop) (hline : stop ≤ c.line)
    (hc : c.directive? = some .disable) :
    Tracks (d.obey c.line .disable) (cs ++ [c]) (c.line + 1) where
  single := h.single_concat (by simp [hc])
  inRange := by
    intro line
    have hclosed : (d.obey c.line .disable).ranges = d.ranges := rfl
    have hopen : (d.obey c.line .disable).openFrom = some (d.openFrom.getD c.line) := rfl
    rcases Nat.lt_or_ge line c.line with hlt | hle
    · -- A range opened here has none of the lines above.
      rw [lastToggle?_concat_of_lt hlt, ← h.inRange, InRange, InRange, hclosed, hopen]
      cases hfirst : d.openFrom <;> simp [Nat.not_le.2 hlt]
    · rw [lastToggle?_concat_of_isToggle hle hc rfl]
      exact iff_of_true (.inl ⟨_, hopen, Nat.le_trans (h.getD_openFrom_le hline) hle⟩) rfl
  open_lt := by
    rintro first ⟨⟩
    exact Nat.lt_succ_of_le (h.getD_openFrom_le hline)
  closed := (h.mono (by omega)).closed

theorem enable (h : Tracks d cs stop) (hline : stop ≤ c.line) (hc : c.directive? = some .enable) :
    Tracks (d.obey c.line .enable) (cs ++ [c]) (c.line + 1) := by
  have hlater : stop ≤ c.line + 1 := by omega
  cases hopen : d.openFrom with
  | none =>
      have hsame : d.obey c.line .enable = d := by rw [obey, hopen]
      rw [hsame]
      refine ⟨h.single_concat (by simp [hc]), ?_, (h.mono hlater).open_lt, (h.mono hlater).closed⟩
      intro line
      rcases Nat.lt_or_ge line c.line with hlt | hle
      · rw [lastToggle?_concat_of_lt hlt, h.inRange]
      · rw [lastToggle?_concat_of_isToggle hle hc rfl, h.inRange_iff_of_le (by omega), hopen]
        simp
  | some first =>
      have hfirst := h.open_lt first hopen
      have hclosed : d.obey c.line .enable =
          { d with ranges := d.ranges ++ [⟨first, some (c.line - 1)⟩], openFrom := none } := by
        rw [obey, hopen]
      rw [hclosed]
      have hends : ∀ r ∈ d.ranges ++ [⟨first, some (c.line - 1)⟩], ∀ line, c.line ≤ line →
          r.contains line = false := by
        intro r hr line hle
        rcases List.mem_append.1 hr with hr | hr
        · exact h.closed r hr line (Nat.le_trans hline hle)
        · obtain rfl := List.mem_singleton.1 hr
          have hlast : ¬ line ≤ c.line - 1 := by omega
          simp [LineRange.contains, hlast]
      refine ⟨h.single_concat (by simp [hc]), ?_, by simp,
        fun r hr line hle => hends r hr line (by omega)⟩
      intro line
      rcases Nat.lt_or_ge line c.line with hlt | hle
      · -- The lines above that were in the open range are in the closed one.
        rw [lastToggle?_concat_of_lt hlt, ← h.inRange]
        have hlast : line ≤ c.line - 1 := by omega
        simp [InRange, hopen, LineRange.contains, hlast, or_comm]
      · rw [lastToggle?_concat_of_isToggle hle hc rfl]
        refine iff_of_false ?_ (by simp)
        rintro (⟨f, hf, -⟩ | ⟨r, hr, hcontains⟩)
        · cases hf
        · rw [hends r hr line hle] at hcontains
          cases hcontains

/-- What one comment does, if it stands below all others. -/
theorem record (h : Tracks d cs stop) (hline : stop ≤ c.line) :
    Tracks (d.record c.line c.text) (cs ++ [c]) (c.line + 1) := by
  have hlater : stop ≤ c.line + 1 := by omega
  cases hc : c.directive? with
  | none =>
      rw [record_of_eq_none hc]
      exact (h.skip hc).mono hlater
  | some directive =>
      rw [record_of_eq_some hc]
      cases directive with
      | disable => exact h.disable hline hc
      | enable => exact h.enable hline hc
      | disableNextLine => exact (h.disableNextLine hc).mono hlater

theorem foldl_record {later : List Comment} (h : Tracks d cs stop)
    (hlater : ∀ c ∈ later, stop ≤ c.line) (horder : later.Pairwise fun a b => a.line < b.line) :
    ∃ stop', Tracks (later.foldl (fun d c => d.record c.line c.text) d) (cs ++ later) stop' := by
  induction later generalizing d cs stop with
  | nil => exact ⟨stop, by simpa using h⟩
  | cons c later ih =>
      obtain ⟨hc, horder⟩ := List.pairwise_cons.1 horder
      have hnext := ih (h.record (hlater c List.mem_cons_self)) hc horder
      rwa [List.append_assoc, List.singleton_append] at hnext

theorem ofComments (h : cs.Pairwise fun a b => a.line < b.line) :
    ∃ stop, Tracks (.ofComments cs) cs stop := by
  obtain ⟨stop, htracks⟩ := Tracks.empty.foldl_record (fun _ _ => Nat.zero_le _) h
  exact ⟨stop, by rwa [List.nil_append] at htracks⟩

theorem contains_iff (h : Tracks d cs stop) : d.contains line = true ↔
    (∃ c ∈ cs, c.line + 1 = line ∧ c.directive? = some .disableNextLine) ∨
      lastToggle? cs line = some .disable := by
  rw [DisabledLines.contains_iff, h.single, h.inRange]

end Tracks

end DisabledLines

/-! ### The comments of a template -/

namespace Template

def Item.comment? : Item → Option Comment
  | .comment line text => some ⟨line, text⟩
  | .node _ => none

/-- The silent comments of a template, each on its first line. -/
def comments (source : Text) : List Comment :=
  (items 1 (Text.lines source)).filterMap Item.comment?

theorem foldl_record_items (d : DisabledLines) (is : List Item) :
    is.foldl Item.record d =
      (is.filterMap Item.comment?).foldl (fun d c => d.record c.line c.text) d := by
  induction is generalizing d with
  | nil => rfl
  | cons i is ih => cases i <;> exact ih _

theorem disabled_parse_eq_ofComments (source name : Text) :
    (parse source name).disabled = (DisabledLines.ofComments (comments source)).finish :=
  congrArg DisabledLines.finish (foldl_record_items {} _)

/-- No two comments start on one line. -/
theorem pairwise_comments (source : Text) :
    (comments source).Pairwise fun a b => a.line < b.line := by
  refine (laid_parse source).order.filterMap _ ?_
  intro i j hij a ha b hb
  cases i with
  | node n => cases ha
  | comment line text =>
      cases j with
      | node n => cases hb
      | comment line' text' =>
          cases ha
          cases hb
          rcases hij with hlt | ⟨line, hashes, hattributes, -⟩
          · exact hlt
          · cases hattributes

end Template

/-- After comments further and further down, a line is disabled if the line above it asks for
that, or if the last directive so far that opens or closes a range has opened one.  The end of
the template changes nothing.  The comments of a template are such comments. -/
theorem DisabledLines.disabled_iff_lastToggle :
    (∀ cs : List Comment, (cs.Pairwise fun a b => a.line < b.line) → ∀ line,
      ((ofComments cs).finish.contains line = true ↔
        (∃ c ∈ cs, c.line + 1 = line ∧ c.directive? = some .disableNextLine) ∨
          lastToggle? cs line = some .disable) ∧
      (ofComments cs).contains line = (ofComments cs).finish.contains line) ∧
    ∀ source name, ((Template.comments source).Pairwise fun a b => a.line < b.line) ∧
      (Template.parse source name).disabled = (ofComments (Template.comments source)).finish := by
  refine ⟨fun cs h line => ?_, fun source name => ?_⟩
  · obtain ⟨stop, htracks⟩ := Tracks.ofComments h
    exact ⟨(contains_finish _ line).symm ▸ htracks.contains_iff, (contains_finish _ line).symm⟩
  · exact ⟨Template.pairwise_comments source, Template.disabled_parse_eq_ofComments source name⟩

/-- Ranges that are closed before they are opened, opened twice, or left open. -/
theorem DisabledLines.disabled_iff_lastToggle_repeated :
    let cs : List Comment := [⟨1, " i18n-enable".toList⟩, ⟨2, "i18n-disable-next-line x".toList⟩,
      ⟨5, " i18n-disable".toList⟩, ⟨6, "i18n-disable".toList⟩, ⟨9, " i18n-enable x".toList⟩,
      ⟨12, " i18n-disable".toList⟩]
    (cs.Pairwise fun a b => a.line < b.line) ∧
      (List.range 15).filter (ofComments cs).finish.contains = [3, 5, 6, 7, 8, 12, 13, 14] ∧
      ((ofComments cs).finish.contains 8 = true ↔
        (∃ c ∈ cs, c.line + 1 = 8 ∧ c.directive? = some .disableNextLine) ∨
          lastToggle? cs 8 = some .disable) := by
  intro cs
  have horder : cs.Pairwise fun a b => a.line < b.line := by decide +kernel
  exact ⟨horder, by decide +kernel, (disabled_iff_lastToggle.1 cs horder 8).1⟩

end Phrasebook
