import Phrasebook.Proofs.Edits
import Phrasebook.Proofs.Nesting
import Phrasebook.Proofs.Outline
import Phrasebook.Proofs.LineFeeds
import Phrasebook.Proofs.Positions
import Phrasebook.Proofs.Values

/-!
Reading localized lines.

An edited line keeps its indentation and what tells its kind, so the lines of a
localized template are taken by the same items as before.
-/

namespace Phrasebook

/-! ### Lines with the same front -/

namespace Text

variable {c d : Char} {s t u : Text}

/-- Indentation ends at a character that does not indent. -/
theorem indentation_append_cons (hc : isIndent c = false) (s t : Text) :
    indentation (s ++ c :: t) = indentation s := by
  rw [indentation, List.takeWhile_append]
  split
  · rename_i hall
    have hs : s.takeWhile isIndent = s :=
      (List.takeWhile_prefix isIndent).eq_of_length hall
    rw [List.takeWhile_cons_of_neg (by simp [hc]), List.append_nil, indentation, hs]
  · rfl

theorem unindented_append_cons (hc : isIndent c = false) (s t : Text) :
    unindented (s ++ c :: t) = unindented s ++ c :: t := by
  rw [unindented, List.dropWhile_append]
  split
  · rename_i hall
    rw [List.dropWhile_cons_of_neg (by simp [hc]), unindented, List.isEmpty_iff.1 hall,
      List.nil_append]
  · rfl

theorem isBlankLine_append_cons (hc : isBlank c = false) (s t : Text) :
    isBlankLine (s ++ c :: t) = false := by
  simp [isBlankLine, hc]

theorem isIndent_of_isBlank_eq_false (hc : isBlank c = false) : isIndent c = false := by
  by_contra h
  rw [Bool.not_eq_false] at h
  rw [isBlank_of_isIndent h] at hc
  cases hc

theorem indentation_append_unindented (t : Text) : indentation t ++ unindented t = t :=
  List.takeWhile_append_dropWhile

/-- A line with other text after its indentation. -/
theorem indentation_indentation_append (hc : isIndent c = false) (t u : Text) :
    indentation (indentation t ++ c :: u) = indentation t := by
  rw [indentation_append_cons hc, indentation, indentation, List.takeWhile_eq_self_iff]
  exact fun d hd => List.mem_takeWhile_imp hd

theorem unindented_indentation_append (hc : isIndent c = false) (t u : Text) :
    unindented (indentation t ++ c :: u) = c :: u := by
  have hnil : unindented (indentation t) = [] := by
    rw [unindented, List.dropWhile_eq_nil_iff]
    exact fun d hd => List.mem_takeWhile_imp hd
  rw [unindented_append_cons hc, hnil, List.nil_append]

end Text

namespace TemplateLine

variable {c d : Char} {n : Nat} {t u : Text}

theorem continuesGroup_append_cons (hc : isBlank c = false) (s t u : Text) :
    continuesGroup n (s ++ c :: t) = continuesGroup n (s ++ c :: u) := by
  have hindent := Text.isIndent_of_isBlank_eq_false hc
  simp only [continuesGroup, Text.indentation_append_cons hindent,
    Text.unindented_append_cons hindent, Text.isBlankLine_append_cons hc]
  cases Text.unindented s <;> rfl

/-- A line with other text after its indentation fits in its place, unless that starts
with a closer. -/
theorem fits_indentation_append (hblank : Text.isBlankLine t = false) (hc : isBlank c = false)
    (hcloser : c ≠ '}' ∧ c ≠ ')' ∧ c ≠ ']') (u : Text) :
    Text.Fits t (Text.indentation t ++ c :: u) := by
  have hindent := Text.isIndent_of_isBlank_eq_false hc
  refine ⟨?_, Text.indentation_indentation_append hindent t u, ?_⟩
  · rw [Text.isBlankLine_append_cons hc, hblank]
  · intro n hcontinues
    simp only [continuesGroup, Text.indentation_indentation_append hindent,
      Text.unindented_indentation_append hindent, Text.isBlankLine_append_cons hc,
      List.head?_cons, Option.any_some, hcloser, Bool.or_false, decide_false] at hcontinues
    rw [continuesGroup, hcontinues]
    rfl

end TemplateLine

/-- The same lines are gathered if no line after them has come to continue a group. -/
theorem TemplateLine.Gathers.of_fits {n : Nat} {body : Text} {block rest rest' : List Text}
    (h : Gathers n body block rest) (hrest : Template.Fits rest rest') :
    Gathers n body block rest' :=
  ⟨h.opened, h.continued, fun hopen => hrest.continuesGroup_eq_false (h.ended hopen)⟩

/-- The last line of a block may go on differently after a character that is not blank,
if that closes the groups. -/
theorem TemplateLine.Gathers.of_last {n : Nat} {body lead u v : Text} {block rest : List Text}
    (h : Gathers n body (block ++ [lead ++ u]) rest) (hlead : ∃ c ∈ lead, isBlank c = false)
    (hclosed : ¬ IsOpen (gathered body (block ++ [lead ++ v]))) :
    Gathers n body (block ++ [lead ++ v]) rest := by
  refine ⟨?_, ?_, fun hopen => absurd hopen hclosed⟩
  · intro ls hls hlength
    rw [List.length_append, List.length_singleton] at hlength
    have hblock : ls <+: block :=
      List.prefix_of_prefix_length_le hls (List.prefix_append _ _) (by omega)
    refine h.opened ls (hblock.trans (List.prefix_append _ _)) ?_
    rw [List.length_append, List.length_singleton]
    exact hlength
  · intro l hl
    rcases List.mem_append.1 hl with hl | hl
    · exact h.continued l (List.mem_append_left _ hl)
    · rw [List.mem_singleton] at hl
      subst hl
      obtain ⟨c, hc, hblank⟩ := hlead
      obtain ⟨a, b, rfl⟩ := List.append_of_mem hc
      have hlast := h.continued (a ++ c :: b ++ u) (by simp)
      rw [List.append_assoc, List.cons_append] at hlast ⊢
      rw [continuesGroup_append_cons hblank a _ (b ++ u)]
      exact hlast

namespace TagLine

/-- A line body that is a tag starts with a character that nothing else starts with. -/
theorem exists_cons_of_startsTag {t : Text} (h : startsTag t = true) :
    ∃ c u, t = c :: u ∧ (c = '%' ∨ c = '.' ∨ c = '#') := by
  cases t with
  | nil => exact absurd h (by simp [startsTag])
  | cons c t =>
      refine ⟨c, t, rfl, ?_⟩
      simp only [startsTag, isShortcutMark, Bool.or_eq_true, Bool.and_eq_true,
        decide_eq_true_eq] at h
      tauto

end TagLine

/-! ### Outlines of edited lines -/

namespace Snippet

theorem trimEnd_interpolation (code : Text) :
    Text.trimEnd (interpolation code) = interpolation code :=
  List.rdropWhile_concat_neg isBlank _ _ (by decide)

theorem trim_lookup (template : Text) (args : List Text) :
    Text.trim (' ' :: lookup template args) = lookup template args := by
  have hstart : Text.trimStart (' ' :: lookup template args) = lookup template args := rfl
  rw [Text.trim, hstart]
  exact List.rdropWhile_concat_neg isBlank _ _ (by decide)

end Snippet

namespace Template

open TemplateLine (Gathers gathered)

/-- The lines `ms` are read as `os` in the place of `ls`, before any lines that fit in
the place of `rest`, and these are read on their own. -/
structure Reread (ls rest ms : List Text) (os : List Outline) : Prop where
  outline_append : ∀ (line : Nat) {rest' : List Text}, Fits rest rest' →
    outline line (ms ++ rest') = os ++ outline (line + ms.length) rest'
  fits_append : ∀ {rest' : List Text}, Fits rest rest' → Fits (ls ++ rest) (ms ++ rest')

namespace Reread

variable {text : Text} {block body rest : List Text}

theorem of_isBlankLine (h : Text.isBlankLine text = true) : Reread [text] rest [text] [] where
  outline_append := fun _ _ _ => outline_of_isBlankLine h
  fits_append := fun hrest => .blank h hrest

theorem of_comment (hblank : Text.isBlankLine text = false)
    (hcomment : Text.startsWith ['-', '#'] (Text.unindented text) = true)
    (hblock : IsBody (Text.indentation text).length block)
    (hrest : nestedCount (Text.indentation text).length rest = 0) :
    Reread (text :: block) rest (text :: block) [] where
  outline_append := by
    intro line rest' hfits
    have hcount := hblock.nestedCount_append (hfits.nestedCount_eq_zero hrest)
    rw [List.cons_append, outline_of_comment hblank hcomment, hcount, List.drop_left,
      List.length_cons, List.nil_append, Nat.add_right_comm, Nat.add_assoc]
  fits_append := fun _ => .line hblank .rfl

/-- The body of a filter may have other lines. -/
theorem of_filter {name : Text} (hblank : Text.isBlankLine text = false)
    (hcomment : Text.startsWith ['-', '#'] (Text.unindented text) = false)
    (hname : filterName? (Text.unindented text) = some name)
    (hbody : IsBody (Text.indentation text).length body)
    (hrest : nestedCount (Text.indentation text).length rest = 0) :
    Reread (text :: block) rest (text :: body) [.filter (FilterKind.ofName name)] where
  outline_append := by
    intro line rest' hfits
    have hcount := hbody.nestedCount_append (hfits.nestedCount_eq_zero hrest)
    rw [List.cons_append, outline_of_filter hblank hcomment hname, hcount, List.drop_left,
      List.length_cons, List.singleton_append, Nat.add_right_comm, Nat.add_assoc]
  fits_append := fun _ => .line hblank .rfl

theorem of_gathers (hcontent : IsContent text)
    (h : Gathers (Text.indentation text).length (Text.unindented text) block rest) :
    Reread (text :: block) rest (text :: block)
      ((TemplateLine.outline? (gathered (Text.unindented text) block)).getD []) where
  outline_append := by
    intro line rest' hfits
    rw [List.cons_append, outline_of_gathers hcontent (h.of_fits hfits), List.length_cons,
      Nat.add_right_comm, Nat.add_assoc]
  fits_append := fun _ => .line hcontent.blank .rfl

/-- A line that stands alone is read in the place of one that it fits. -/
theorem of_line {new : Text} (hfits : Text.Fits text new) (hcontent : IsContent new)
    (hclosed : ¬ TemplateLine.IsOpen (Text.unindented new)) (rest : List Text) :
    Reread [text] rest [new] ((TemplateLine.outline? (Text.unindented new)).getD []) where
  outline_append := by
    intro line rest' _
    have houtline : outline line (new :: ([] ++ rest')) = _ :=
      outline_of_gathers hcontent (Gathers.nil hclosed rest')
    rwa [TemplateLine.gathered_nil] at houtline
  fits_append := fun _ => .line (hfits.blank.symm.trans hcontent.blank) hfits

end Reread

variable {text : Text} {block rest : List Text}

/-- A line of plain text has become a line of code. -/
theorem reread_lookup (hblank : Text.isBlankLine text = false) (template : Text)
    (args : List Text) :
    Reread [text] rest
      [Text.indentation text ++ ['!', '=', ' '] ++ Snippet.lookup template args]
      [.script (Snippet.lookup template args) false] := by
  have hsource : Text.indentation text ++ ['!', '=', ' '] ++ Snippet.lookup template args =
      Text.indentation text ++ '!' :: '=' :: ' ' :: Snippet.lookup template args := by simp
  have hbody : Text.unindented (Text.indentation text ++
      '!' :: '=' :: ' ' :: Snippet.lookup template args) =
        '!' :: '=' :: ' ' :: Snippet.lookup template args :=
    Text.unindented_indentation_append (by decide) text _
  have hfits : Text.Fits text (Text.indentation text ++
      '!' :: '=' :: ' ' :: Snippet.lookup template args) :=
    TemplateLine.fits_indentation_append hblank (by decide) (by decide) _
  have htag : TagLine.startsTag ('!' :: '=' :: ' ' :: Snippet.lookup template args) = false := rfl
  have hcontent : IsContent (Text.indentation text ++
      '!' :: '=' :: ' ' :: Snippet.lookup template args) :=
    ⟨hfits.blank.trans hblank, by rw [hbody]; rfl, by rw [hbody]; rfl⟩
  have hreread := Reread.of_line hfits hcontent (by simp [hbody, TemplateLine.IsOpen, htag]) rest
  rw [hbody, TemplateLine.outline?, htag, if_neg Bool.false_ne_true, Option.getD_some,
    TemplateLine.lineOutline, TemplateLine.scriptOutline, Snippet.trim_lookup] at hreread
  rw [hsource]
  exact hreread

theorem isContent_of_startsTag (h : TagLine.startsTag (Text.unindented text) = true) :
    IsContent text := by
  obtain ⟨c, u, hbody, hc⟩ := TagLine.exists_cons_of_startsTag h
  refine ⟨?_, ?_, ?_⟩
  · rw [← Text.indentation_append_unindented text, hbody]
    exact Text.isBlankLine_append_cons (by rcases hc with rfl | rfl | rfl <;> decide) _ u
  · rw [hbody]
    rcases hc with rfl | rfl | rfl <;> rfl
  · rw [hbody]
    rcases hc with rfl | rfl | rfl <;> rfl

/-! ### Values of tags -/

section Values

variable {head : TagLine.Head}

/-- The outline of a tag with an interpolation for its value. -/
theorem outline?_interpolation {w : Text} (htag : TagLine.startsTag (w ++ head.rest) = true)
    (hread : TagLine.read? (w ++ head.rest) = some head) (code : Text) :
    TagLine.startsTag (w ++ Snippet.interpolation code) = true ∧
      TagLine.read? (w ++ Snippet.interpolation code) =
        some { head with rest := Snippet.interpolation code } ∧
      TemplateLine.outline? (w ++ Snippet.interpolation code) =
        some { head with rest := Snippet.interpolation code }.outline := by
  have hread' : TagLine.read? (w ++ Snippet.interpolation code) =
      some { head with rest := Snippet.interpolation code } :=
    TagLine.read?_interpolation hread rfl
  have htag' := TagLine.startsTag_of_read? hread rfl htag (Snippet.interpolation code)
  refine ⟨htag', hread', ?_⟩
  rw [TemplateLine.outline?, if_pos htag', hread']
  rfl

/-- A tag of one line whose value an interpolation takes the place of. -/
theorem reread_value_of_line {w : Text} (htag : TagLine.startsTag (Text.unindented text) = true)
    (hbody : Text.unindented text = w ++ head.rest)
    (hread : TagLine.read? (Text.unindented text) = some head) (code : Text) :
    Reread [text] rest [Text.indentation text ++ w ++ Snippet.interpolation code]
      { head with rest := Snippet.interpolation code }.outline := by
  have hblank := (isContent_of_startsTag htag).blank
  rw [hbody] at htag hread
  obtain ⟨htag', hread', houtline⟩ := outline?_interpolation htag hread code
  obtain ⟨c, u, hnew, hc⟩ := TagLine.exists_cons_of_startsTag htag'
  have hcblank : isBlank c = false := by rcases hc with rfl | rfl | rfl <;> decide
  have hcloser : c ≠ '}' ∧ c ≠ ')' ∧ c ≠ ']' := by rcases hc with rfl | rfl | rfl <;> decide
  have hunindented : Text.unindented (Text.indentation text ++ (w ++ Snippet.interpolation code)) =
      w ++ Snippet.interpolation code := by
    rw [hnew]
    exact Text.unindented_indentation_append (Text.isIndent_of_isBlank_eq_false hcblank) text u
  have hfits : Text.Fits text (Text.indentation text ++ (w ++ Snippet.interpolation code)) := by
    rw [hnew]
    exact TemplateLine.fits_indentation_append hblank hcblank hcloser u
  rw [← hunindented] at htag'
  have hreread := Reread.of_line hfits (isContent_of_startsTag htag') (by
    simp [TemplateLine.IsOpen, hunindented, hread']) rest
  rw [hunindented, houtline, Option.getD_some] at hreread
  rw [List.append_assoc]
  exact hreread

/-- A tag of several lines whose value an interpolation takes the place of. -/
theorem reread_value_of_block {lead : Text}
    (htag : TagLine.startsTag (Text.unindented text) = true)
    (h : Gathers (Text.indentation text).length (Text.unindented text)
      (block ++ [lead ++ head.rest]) rest)
    (hread : TagLine.read? (gathered (Text.unindented text) (block ++ [lead ++ head.rest])) =
      some head)
    (hlead : ∃ c ∈ lead, isBlank c = false) (code : Text) :
    Reread (text :: (block ++ [lead ++ head.rest])) rest
      (text :: (block ++ [lead ++ Snippet.interpolation code]))
      { head with rest := Snippet.interpolation code }.outline := by
  have htagBlock := TemplateLine.startsTag_gathered htag (block ++ [lead ++ head.rest])
  have hgathered (value : Text) :
      gathered (Text.unindented text) (block ++ [lead ++ value]) =
        (gathered (Text.unindented text) block ++ '\n' :: lead) ++ value := by
    simp [TemplateLine.gathered_append_singleton]
  rw [hgathered] at hread htagBlock
  obtain ⟨-, hread', houtline⟩ := outline?_interpolation htagBlock hread code
  have hclosed : ¬ TemplateLine.IsOpen (gathered (Text.unindented text)
      (block ++ [lead ++ Snippet.interpolation code])) := by
    rintro ⟨-, hopen⟩
    rw [hgathered, hread'] at hopen
    cases hopen
  have hgathers := h.of_last hlead hclosed
  have hcontent := isContent_of_startsTag htag
  have hreread := Reread.of_gathers hcontent hgathers
  rw [hgathered, houtline, Option.getD_some] at hreread
  exact ⟨hreread.outline_append, fun _ => .line hcontent.blank .rfl⟩

end Values

end Template

end Phrasebook
