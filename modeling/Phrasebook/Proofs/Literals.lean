import Phrasebook.Proofs.Scan

/-!
Literal text between embedded expressions, read in one pass.

A fragment is read here one character at a time.  The only memory is the number
of backslashes just read or, inside an expression, the number of open braces.
That gives the literals in order, one more than there are expressions, and so
the text in which values stand for the expressions.  Nothing here looks for a
marker ahead of the character being read, yet a phrase has the same literals.
-/

namespace Phrasebook

namespace Fragment

/-- What was read last: `escapes` backslashes in literal text, or part of an
expression around which `depth` braces are open. -/
inductive Mode where
  | literal (escapes : Nat)
  | expression (depth : Nat)
  deriving DecidableEq, Repr

/-- The literals between the embedded expressions that are left in a text.  A
pair of backslashes in front of a marker gives one, and the last backslash of an
odd number makes the marker literal. -/
def literals : Mode → Text → List Text
  | .literal k, [] => [List.replicate k Marker.escape]
  | .literal k, c :: t =>
      if c = Marker.escape then literals (.literal (k + 1)) t
      else if c = Marker.sigil ∧ t.head? = some '{' then
        if k % 2 = 1 then
          (literals (.literal 0) t).modifyHead (List.replicate (k / 2) Marker.escape ++ [c] ++ ·)
        else List.replicate (k / 2) Marker.escape :: literals (.expression 0) t
      else (literals (.literal 0) t).modifyHead (List.replicate k Marker.escape ++ [c] ++ ·)
  | .expression _, [] => [[]]
  | .expression depth, c :: t =>
      if c = '{' then literals (.expression (depth + 1)) t
      else if c = '}' then
        if depth ≤ 1 then literals (.literal 0) t else literals (.expression (depth - 1)) t
      else literals (.expression depth) t

/-- Literals with one value after each but the last, which loses one line
terminator at its end. -/
def weave : List Text → List Text → Text
  | [], _ => []
  | l :: _, [] => Text.chomp l
  | l :: ls, v :: vs => l ++ v ++ weave ls vs

/-- The text with `values` in place of the expressions embedded in it. -/
def interpolate (t : Text) (values : List Text) : Text :=
  weave (literals (.literal 0) t) values

end Fragment

/-! ### Ends of texts -/

namespace Text

/-- A line terminator does not start before a brace. -/
theorem chomp_append {s : Text} (h : s.getLast? = some '{') (t : Text) :
    chomp (s ++ t) = s ++ chomp t := by
  obtain ⟨s, rfl⟩ := List.getLast?_eq_some_iff.1 h
  obtain ⟨r, rfl⟩ : ∃ r, t = r.reverse := ⟨t.reverse, by simp⟩
  have hrev : (s ++ ['{'] ++ r.reverse).reverse = r ++ '{' :: s.reverse := by simp
  unfold chomp
  rw [hrev, List.reverse_reverse]
  -- A terminator has at most two characters, and the brace is none of them.
  rcases r with _ | ⟨x, _ | ⟨y, r⟩⟩
  · simp
  · by_cases hn : x = '\n'
    · simp [hn]
    · by_cases hx : x = '\r' <;> simp [hn, hx]
  · by_cases hn : x = '\n'
    · by_cases hy : y = '\r' <;> simp [hn, hy]
    · by_cases hx : x = '\r' <;> simp [hn, hx]

end Text

namespace Marker

theorem trailingEscapes_replicate (k : Nat) :
    trailingEscapes (List.replicate k escape) = k := by
  simp [trailingEscapes]

theorem dropEnd_replicate (k : Nat) :
    Text.dropEnd (· = escape) (List.replicate k escape) = [] := by
  simp [Text.dropEnd]

variable {c : Char}

/-- The backslashes at the end of a text come after any other character. -/
theorem trailingEscapes_append_cons (h : c ≠ escape) (s t : Text) :
    trailingEscapes (s ++ c :: t) = trailingEscapes t := by
  have hstop : (c :: s.reverse).takeWhile (· = escape) = [] := by simp [h]
  rw [trailingEscapes, List.reverse_append, List.reverse_cons, List.append_assoc,
    List.singleton_append, List.takeWhile_append, hstop, trailingEscapes]
  split
  · rename_i hall
    simp [hall]
  · rfl

theorem dropEnd_append_cons (h : c ≠ escape) (s t : Text) :
    Text.dropEnd (· = escape) (s ++ c :: t) = s ++ c :: Text.dropEnd (· = escape) t := by
  have hstop : (c :: s.reverse).dropWhile (· = escape) = c :: s.reverse := by simp [h]
  rw [Text.dropEnd, List.reverse_append, List.reverse_cons, List.append_assoc,
    List.singleton_append, List.dropWhile_append, hstop, Text.dropEnd]
  split
  · rename_i hall
    simp [List.isEmpty_iff.1 hall]
  · simp

end Marker

namespace Fragment

/-! ### The literals of a text -/

theorem literals_ne_nil (mode : Mode) (t : Text) : literals mode t ≠ [] := by
  fun_induction literals mode t <;> simp_all

theorem modifyHead_append (s u : Text) (ls : List Text) :
    (ls.modifyHead (u ++ ·)).modifyHead (s ++ ·) = ls.modifyHead (s ++ u ++ ·) := by
  cases ls <;> simp

theorem literals_brace (t : Text) :
    literals (.literal 0) ('{' :: t) = (literals (.literal 0) t).modifyHead (['{'] ++ ·) := by
  simp [literals, Marker.escape, Marker.sigil]

/-- A text without openers is literal as it stands. -/
theorem literals_of_splitAtOpener?_eq_none {t : Text}
    (h : Marker.splitAtOpener? '{' t = none) (k : Nat) :
    literals (.literal k) t = [List.replicate k Marker.escape ++ t] := by
  fun_induction Marker.splitAtOpener? '{' t generalizing k with
  | case1 => simp [literals]
  | case2 c =>
      by_cases hc : c = Marker.escape
      · simp [literals, hc, List.replicate_succ']
      · simp [literals, hc]
  | case3 c d t hcd => exact absurd h (by simp)
  | case4 c d t hcd ih =>
      have hrest := ih (Option.map_eq_none_iff.1 h)
      by_cases hc : c = Marker.escape
      · rw [literals, if_pos hc, hrest, hc]
        simp [List.replicate_succ']
      · rw [literals, if_neg hc, if_neg (by simpa using hcd), hrest]
        simp

/-- The literals of a text whose first opener comes after the text `before`. -/
def literalsAt (before after : Text) : List Text :=
  let escapes := Marker.trailingEscapes before
  let lead := Text.dropEnd (· = Marker.escape) before ++ List.replicate (escapes / 2) Marker.escape
  if escapes % 2 = 1 then
    (literals (.literal 0) after).modifyHead (lead ++ [Marker.sigil, '{'] ++ ·)
  else lead :: literals (.expression 1) after

/-- What is pending counts as text before the opener. -/
theorem literals_of_splitAtOpener?_eq_some {t before after : Text}
    (h : Marker.splitAtOpener? '{' t = some (before, after)) (k : Nat) :
    literals (.literal k) t = literalsAt (List.replicate k Marker.escape ++ before) after := by
  -- A backslash adds to those that are pending; any other character makes them text.
  fun_induction Marker.splitAtOpener? '{' t generalizing k before with
  | case1 => exact absurd h (by simp)
  | case2 => exact absurd h (by simp)
  | case3 c d t hcd =>
      obtain ⟨rfl, rfl⟩ := hcd
      cases h
      simp only [literalsAt, List.append_nil, Marker.trailingEscapes_replicate,
        Marker.dropEnd_replicate, List.nil_append]
      rw [literals, if_neg (by decide), if_pos ⟨rfl, rfl⟩]
      split
      · rw [literals_brace, modifyHead_append, List.append_assoc]
        rfl
      · simp [literals]
  | case4 c d t hcd ih =>
      obtain ⟨b, hs, rfl⟩ := Text.exists_of_map_cons_eq_some h
      by_cases hc : c = Marker.escape
      · rw [literals, if_pos hc, ih hs, hc, List.replicate_succ', List.append_assoc]
        rfl
      · rw [literals, if_neg hc, if_neg (by simpa using hcd), ih hs]
        simp only [literalsAt, List.replicate_zero, List.nil_append,
          Marker.trailingEscapes_append_cons hc, Marker.dropEnd_append_cons hc]
        split
        · rw [modifyHead_append]
          simp
        · simp

/-- An expression ends where its braces balance. -/
theorem literals_of_split? {depth : Nat} {t content rest : Text}
    (h : Delimited.split? '{' '}' depth t = some (content, rest)) :
    literals (.expression (depth + 1)) t = literals (.literal 0) rest := by
  fun_induction Delimited.split? '{' '}' depth t generalizing content with
  | case1 => exact absurd h (by simp)
  | case2 depth t ih =>
      obtain ⟨inside, hs, -⟩ := Text.exists_of_map_cons_eq_some h
      rw [literals, if_pos rfl]
      exact ih hs
  | case3 t hopen =>
      cases h
      rw [literals, if_neg hopen, if_pos rfl, if_pos (Nat.le_refl 1)]
  | case4 t depth hopen ih =>
      obtain ⟨inside, hs, -⟩ := Text.exists_of_map_cons_eq_some h
      rw [literals, if_neg hopen, if_pos rfl, if_neg (by omega)]
      exact ih hs
  | case5 depth c t hopen hclose ih =>
      obtain ⟨inside, hs, -⟩ := Text.exists_of_map_cons_eq_some h
      rw [literals, if_neg hopen, if_neg hclose]
      exact ih hs

/-- An escaped marker belongs to the literal that it stands in. -/
theorem literals_of_escaped {t rest : Text} {m : Marker}
    (h : Marker.next '{' '}' t = .found m rest) (hm : m.content = none) :
    literals (.literal 0) t = (literals (.literal 0) rest).modifyHead (m.template ++ ·) := by
  obtain ⟨before, after, hs, hlead, hescapes, hcases⟩ := Marker.next_eq_found h
  obtain ⟨hodd, -, rfl⟩ | ⟨-, content, hcontent, -⟩ := hcases
  · rw [hescapes] at hodd
    rw [literals_of_splitAtOpener?_eq_some hs 0, List.replicate_zero, List.nil_append,
      literalsAt]
    simp only [hodd, if_true, Marker.template, hm, hlead, hescapes]
  · cases hm.symm.trans hcontent

/-- An embedded expression ends a literal. -/
theorem literals_of_embedded {t rest content : Text} {m : Marker}
    (h : Marker.next '{' '}' t = .found m rest) (hm : m.content = some content) :
    ∃ l, m.template = l ++ placeholder ∧
      literals (.literal 0) t = l :: literals (.literal 0) rest := by
  obtain ⟨before, after, hs, hlead, hescapes, hcases⟩ := Marker.next_eq_found h
  obtain ⟨-, hnone, -⟩ | ⟨heven, inside, -, hd⟩ := hcases
  · cases hm.symm.trans hnone
  · refine ⟨m.lead ++ List.replicate (m.escapes / 2) Marker.escape, ?_, ?_⟩
    · simp [Marker.template, hm]
    · have hnotOdd : ¬ Marker.trailingEscapes before % 2 = 1 := by omega
      rw [literals_of_splitAtOpener?_eq_some hs 0, List.replicate_zero, List.nil_append,
        literalsAt]
      simp only [hnotOdd, if_false, literals_of_split? hd, hlead, hescapes]

theorem literals_of_finished {t : Text} (h : Marker.next '{' '}' t = .finished) :
    literals (.literal 0) t = [t] := by
  rw [literals_of_splitAtOpener?_eq_none (Marker.next_eq_finished h)]
  rfl

/-! ### Phrases -/

theorem weave_modifyHead {s : Text} (hs : s.getLast? = some '{') {ls : List Text}
    (hls : ls ≠ []) (vs : List Text) :
    weave (ls.modifyHead (s ++ ·)) vs = s ++ weave ls vs := by
  obtain ⟨l, ls, rfl⟩ := List.exists_cons_of_ne_nil hls
  cases vs with
  | nil => exact Text.chomp_append hs l
  | cons v vs => simp [weave]

variable {t tail : Text}

/-- There is a literal in front of every expression, and one at the end. -/
theorem length_literals (h : (Marker.scan '{' '}' t).ending = .text tail) :
    (literals (.literal 0) t).length =
      ((Marker.scan '{' '}' t).markers.filterMap Marker.content).length + 1 := by
  fun_induction Marker.scan '{' '}' t with
  | case1 t hnext => simp [literals_of_finished hnext]
  | case2 t before hnext => exact absurd h (by simp)
  | case3 t m rest hnext _ s ih =>
      cases hm : m.content with
      | none =>
          rw [literals_of_escaped hnext hm, List.length_modifyHead, ih h,
            List.filterMap_cons_none hm]
      | some content =>
          obtain ⟨l, -, hl⟩ := literals_of_embedded hnext hm
          rw [hl, List.length_cons, ih h, List.filterMap_cons_some hm, List.length_cons]

/-- A template is what interpolating placeholders gives. -/
theorem interpolate_placeholders (h : (Marker.scan '{' '}' t).ending = .text tail) :
    interpolate t (List.replicate
        ((Marker.scan '{' '}' t).markers.filterMap Marker.content).length placeholder) =
      (Marker.scan '{' '}' t).markers.flatMap Marker.template ++ Text.chomp tail := by
  fun_induction Marker.scan '{' '}' t with
  | case1 t hnext =>
      cases h
      simp [interpolate, literals_of_finished hnext, weave]
  | case2 t before hnext => exact absurd h (by simp)
  | case3 t m rest hnext _ s ih =>
      rw [interpolate] at ih ⊢
      cases hm : m.content with
      | none =>
          have hlast : m.template.getLast? = some '{' := by simp [Marker.template, hm]
          rw [literals_of_escaped hnext hm, weave_modifyHead hlast (literals_ne_nil _ _),
            List.filterMap_cons_none hm, ih h, List.flatMap_cons, List.append_assoc]
      | some content =>
          obtain ⟨l, htemplate, hl⟩ := literals_of_embedded hnext hm
          rw [hl, List.filterMap_cons_some hm, List.length_cons, List.replicate_succ, weave, ih h,
            List.flatMap_cons, htemplate]
          simp [s]

end Fragment

namespace Phrase

variable {escapeHtml : Bool} {t : Text} {p : Phrase}

theorem length_literals (h : ofText escapeHtml t = .ok p) :
    (Fragment.literals (.literal 0) t).length = p.args.length + 1 := by
  obtain ⟨tail, hend, rfl⟩ := ofText_eq_ok_iff.1 h
  rw [Fragment.length_literals hend, ofMarkers, List.length_map]

theorem template_eq_interpolate (h : ofText escapeHtml t = .ok p) :
    p.template = Fragment.interpolate t (List.replicate p.args.length placeholder) := by
  obtain ⟨tail, hend, rfl⟩ := ofText_eq_ok_iff.1 h
  rw [ofMarkers, List.length_map, Fragment.interpolate_placeholders hend]

end Phrase

end Phrasebook
