import Phrasebook.Proofs.Groups
import Phrasebook.Proofs.Runs
import Phrasebook.Proofs.ScriptCalls

/-!
Texts that differ in their space only.

Space is what indents lines and what ends them.  The readers of a tag line look at
other characters, so they read the same parts from a text whose space has been
changed, and each part that they hand back differs in its space only.
-/

namespace Phrasebook

/-- Characters that indent a line or end it. -/
def isSpace (c : Char) : Bool :=
  isIndent c || c = '\n'

theorem isSpace_iff {c : Char} : isSpace c = true ↔ c = ' ' ∨ c = '\t' ∨ c = '\n' := by
  simp [isSpace, isIndent, or_assoc]

/-- A test that no space passes can be told from three characters. -/
theorem not_of_isSpace {p : Char → Bool} (hblank : p ' ' = false) (htab : p '\t' = false)
    (hfeed : p '\n' = false) : ∀ c, isSpace c = true → p c = false := by
  intro c hc
  rcases isSpace_iff.1 hc with rfl | rfl | rfl
  · exact hblank
  · exact htab
  · exact hfeed

namespace Text

/-- The second text is the first one after some changes `P` of its characters: each
character is kept, or another text takes its place. -/
inductive Respaced (P : Char → Text → Prop) : Text → Text → Prop where
  | nil : Respaced P [] []
  | keep (c : Char) {s t : Text} (h : Respaced P s t) : Respaced P (c :: s) (c :: t)
  | change {c : Char} {v s t : Text} (hchange : P c v) (h : Respaced P s t) :
      Respaced P (c :: s) (v ++ t)

/-- Changes of space to other space. -/
def IsSpacing (P : Char → Text → Prop) : Prop :=
  ∀ c v, P c v → isSpace c = true ∧ v ≠ [] ∧ ∀ d ∈ v, isSpace d = true

namespace Respaced

variable {P : Char → Text → Prop} {s t u v : Text} {c : Char}

theorem refl (P : Char → Text → Prop) (s : Text) : Respaced P s s := by
  induction s with
  | nil => exact .nil
  | cons c s ih => exact .keep c ih

theorem append (h : Respaced P s t) (h' : Respaced P u v) : Respaced P (s ++ u) (t ++ v) := by
  induction h with
  | nil => exact h'
  | keep c _ ih => exact .keep c ih
  | change hchange _ ih =>
      rw [List.append_assoc]
      exact .change hchange ih

theorem nil_iff : Respaced P [] t ↔ t = [] := by
  constructor
  · rintro ⟨⟩
    rfl
  · rintro rfl
    exact .nil

/-- Only changes make a difference. -/
theorem eq_of_forall_not (h : Respaced P s t) (hnone : ∀ c ∈ s, ∀ v, ¬ P c v) : t = s := by
  induction h with
  | nil => rfl
  | keep c _ ih => rw [ih fun d hd => hnone d (List.mem_cons_of_mem c hd)]
  | change hchange _ _ => exact absurd hchange (hnone _ List.mem_cons_self _)

theorem exists_cons (hP : IsSpacing P) (hc : isSpace c = false) (h : Respaced P (c :: s) t) :
    ∃ u, t = c :: u ∧ Respaced P s u := by
  cases h with
  | keep _ h => exact ⟨_, rfl, h⟩
  | change hchange _ =>
      rw [(hP _ _ hchange).1] at hc
      cases hc

theorem exists_cons_right (hP : IsSpacing P) (hc : isSpace c = false)
    (h : Respaced P s (c :: t)) : ∃ u, s = c :: u ∧ Respaced P u t := by
  generalize hct : c :: t = ct at h
  cases h with
  | nil => cases hct
  | keep d h =>
      obtain ⟨rfl, rfl⟩ := List.cons.inj hct
      exact ⟨_, rfl, h⟩
  | change hchange h =>
      obtain ⟨-, hne, hspace⟩ := hP _ _ hchange
      obtain ⟨d, w, rfl⟩ := List.exists_cons_of_ne_nil hne
      obtain ⟨rfl, -⟩ := List.cons.inj hct
      rw [hspace c List.mem_cons_self] at hc
      cases hc

/-- A text that starts with space does so after changes. -/
theorem head?_of_isSpace (hP : IsSpacing P) (hc : isSpace c = true) (h : Respaced P (c :: s) t) :
    ∃ d u, t = d :: u ∧ isSpace d = true := by
  cases h with
  | keep _ _ => exact ⟨c, _, rfl, hc⟩
  | @change _ v _ _ hchange _ =>
      obtain ⟨-, hne, hspace⟩ := hP _ _ hchange
      obtain ⟨d, w, rfl⟩ := List.exists_cons_of_ne_nil hne
      exact ⟨d, _, rfl, hspace d List.mem_cons_self⟩

theorem ne_nil (hP : IsSpacing P) (h : Respaced P s t) (hne : s ≠ []) : t ≠ [] := by
  obtain ⟨c, s, rfl⟩ := List.exists_cons_of_ne_nil hne
  cases hc : isSpace c with
  | false =>
      obtain ⟨u, rfl, -⟩ := h.exists_cons hP hc
      exact List.cons_ne_nil c u
  | true =>
      obtain ⟨d, u, rfl, -⟩ := h.head?_of_isSpace hP hc
      exact List.cons_ne_nil d u

theorem any_head? (hP : IsSpacing P) {p : Char → Bool} (hp : ∀ c, isSpace c = true → p c = false)
    (h : Respaced P s t) : t.head?.any p = s.head?.any p := by
  cases s with
  | nil => rw [nil_iff.1 h]
  | cons c s =>
      cases hc : isSpace c with
      | false =>
          obtain ⟨u, rfl, -⟩ := h.exists_cons hP hc
          rfl
      | true =>
          obtain ⟨d, u, rfl, hd⟩ := h.head?_of_isSpace hP hc
          simp [hp c hc, hp d hd]

/-- A longest front part without space is the same. -/
theorem cut (hP : IsSpacing P) {p : Char → Bool} (hp : ∀ c, isSpace c = true → p c = false)
    (h : Respaced P s t) :
    t.takeWhile p = s.takeWhile p ∧ Respaced P (s.dropWhile p) (t.dropWhile p) := by
  induction h with
  | nil => exact ⟨rfl, .nil⟩
  | @keep c s t h ih =>
      cases hc : p c with
      | true => simp [hc, ih]
      | false =>
          simp only [List.takeWhile_cons, List.dropWhile_cons, hc, Bool.false_eq_true, if_false,
            true_and]
          exact .keep c h
  | @change c v s t hchange h ih =>
      obtain ⟨hc, hne, hspace⟩ := hP _ _ hchange
      have hchanged := Respaced.change hchange h
      obtain ⟨d, w, rfl⟩ := List.exists_cons_of_ne_nil hne
      have hd := hp d (hspace d List.mem_cons_self)
      rw [List.cons_append] at hchanged ⊢
      simp only [List.takeWhile_cons, List.dropWhile_cons, hp c hc, hd, Bool.false_eq_true,
        if_false, true_and]
      exact hchanged

end Respaced

end Text

/-- What is made of related results is related if it is so for every two of them. -/
theorem rel_map {α β γ δ : Type} {R : α → β → Prop} {S : γ → δ → Prop} {f : α → γ} {g : β → δ}
    (hfg : ∀ a b, R a b → S (f a) (g b)) {x : Option α} {y : Option β} (h : Option.Rel R x y) :
    Option.Rel S (x.map f) (y.map g) := by
  cases h with
  | none => exact .none
  | some hab => exact .some (hfg _ _ hab)

/-! ### Groups -/

/-- Parts of texts that differ in their space. -/
def Text.RespacedParts (P : Char → Text → Prop) (a b : Text × Text) : Prop :=
  Respaced P a.1 b.1 ∧ Respaced P a.2 b.2

namespace Delimited

variable {P : Char → Text → Prop} {opener closer : Char}

theorem split?_append_of_not_mem {v : Text} (hopener : opener ∉ v) (hcloser : closer ∉ v)
    (depth : Nat) (t : Text) : split? opener closer depth (v ++ t) =
      (split? opener closer depth t).map (Prod.map (v ++ ·) id) := by
  induction v with
  | nil =>
      rw [List.nil_append]
      cases split? opener closer depth t <;> rfl
  | cons c v ih =>
      rw [List.mem_cons, not_or] at hopener hcloser
      rw [List.cons_append, split?.eq_def]
      simp only [Ne.symm hopener.1, Ne.symm hcloser.1, if_false, ih hopener.2 hcloser.2]
      cases split? opener closer depth t <;> rfl

/-- Groups end at the same closers, whatever space is in them. -/
theorem rel_split? (hP : Text.IsSpacing P) (hopener : isSpace opener = false)
    (hcloser : isSpace closer = false) {s t : Text} (h : Text.Respaced P s t) (depth : Nat) :
    Option.Rel (Text.RespacedParts P) (split? opener closer depth s)
      (split? opener closer depth t) := by
  have hkeep (c : Char) (a b : Text × Text) (hab : Text.RespacedParts P a b) :
      Text.RespacedParts P (Prod.map (c :: ·) id a) (Prod.map (c :: ·) id b) :=
    ⟨.keep c hab.1, hab.2⟩
  induction h generalizing depth with
  | nil => exact .none
  | keep c h ih =>
      simp only [split?]
      split
      · exact rel_map (hkeep c) (ih _)
      · split
        · cases depth with
          | zero => exact .some ⟨.nil, h⟩
          | succ depth => exact rel_map (hkeep c) (ih depth)
        · exact rel_map (hkeep c) (ih depth)
  | @change c v s t hchange h ih =>
      obtain ⟨hc, -, hspace⟩ := hP _ _ hchange
      have hne {d e : Char} (hd : isSpace d = false) (he : isSpace e = true) : e ≠ d := by
        rintro rfl
        rw [he] at hd
        cases hd
      have hmem {d : Char} (hd : isSpace d = false) : d ∉ v := fun hdv =>
        hne hd (hspace d hdv) rfl
      rw [split?_append_of_not_mem (hmem hopener) (hmem hcloser), split?.eq_def]
      simp only [hne hopener hc, hne hcloser hc, if_false]
      exact rel_map (fun _ _ hab => ⟨.change hchange hab.1, hab.2⟩) (ih depth)

end Delimited

namespace TagLine

variable {P : Char → Text → Prop} {s t : Text}

open Text (Respaced IsSpacing)

theorem isSpace_of_groupCloser? {c closer : Char} (h : groupCloser? c = some closer) :
    isSpace c = false ∧ isSpace closer = false := by
  rcases eq_of_groupCloser? h with ⟨rfl, rfl⟩ | ⟨rfl, rfl⟩ | ⟨rfl, rfl⟩ <;> decide

theorem startsTag_of_respaced (hP : IsSpacing P) (h : Respaced P s t) :
    startsTag t = startsTag s := by
  have hchar : ∀ c, isSpace c = true → isShortcutChar c = false :=
    not_of_isSpace (by decide) (by decide) (by decide)
  cases s with
  | nil => rw [Respaced.nil_iff.1 h]
  | cons c s =>
      cases hc : isSpace c with
      | false =>
          obtain ⟨u, rfl, hu⟩ := h.exists_cons hP hc
          rw [startsTag, startsTag, hu.any_head? hP hchar]
      | true =>
          have hstarts : ∀ d u, isSpace d = true → startsTag (d :: u) = false := by
            intro d u hd
            rcases isSpace_iff.1 hd with rfl | rfl | rfl <;> rfl
          obtain ⟨d, u, rfl, hd⟩ := h.head?_of_isSpace hP hc
          rw [hstarts c s hc, hstarts d u hd]

theorem readName_of_respaced (hP : IsSpacing P) (h : Respaced P s t) :
    (readName t).1 = (readName s).1 ∧ Respaced P (readName s).2 (readName t).2 := by
  have hchar : ∀ c, isSpace c = true → isNameChar c = false :=
    not_of_isSpace (by decide) (by decide) (by decide)
  have hne {c : Char} {u : Text} (hc : c ≠ '%') : ∀ v, c :: u = '%' :: v → False := fun v hv =>
    hc (List.cons.inj hv).1
  cases s with
  | nil =>
      rw [Respaced.nil_iff.1 h]
      exact ⟨rfl, .nil⟩
  | cons c s =>
      by_cases hpercent : c = '%'
      · subst hpercent
        obtain ⟨u, rfl, hu⟩ := h.exists_cons hP (by decide)
        exact hu.cut hP hchar
      · rw [readName_of_ne (hne hpercent)]
        cases hc : isSpace c with
        | false =>
            obtain ⟨u, rfl, -⟩ := h.exists_cons hP hc
            rw [readName_of_ne (hne hpercent)]
            exact ⟨rfl, h⟩
        | true =>
            obtain ⟨d, u, rfl, hd⟩ := h.head?_of_isSpace hP hc
            have hd' : d ≠ '%' := by
              rintro rfl
              exact absurd hd (by decide)
            rw [readName_of_ne (hne hd')]
            exact ⟨rfl, h⟩

theorem skipShortcuts_of_respaced (hP : IsSpacing P) (h : Respaced P s t) :
    Respaced P (skipShortcuts s) (skipShortcuts t) := by
  have hchar : ∀ c, isSpace c = true → isShortcutChar c = false :=
    not_of_isSpace (by decide) (by decide) (by decide)
  -- Both characters that a shortcut starts with are kept.
  have hkept {c d : Char} (hcd : (isShortcutMark c && isShortcutChar d) = true) :
      isSpace c = false ∧ isSpace d = false := by
    rw [Bool.and_eq_true] at hcd
    constructor
    · by_contra hc
      rcases isSpace_iff.1 (by simpa using hc) with rfl | rfl | rfl <;>
        exact absurd hcd.1 (by decide)
    · by_contra hd
      rw [hchar d (by simpa using hd)] at hcd
      cases hcd.2
  have hself {s t : Text} (h : Respaced P s t)
      (hs : ∀ c d u, s = c :: d :: u → (isShortcutMark c && isShortcutChar d) = false) :
      skipShortcuts t = t := by
    refine skipShortcuts_eq_self fun c d u ht => ?_
    by_contra hcd
    rw [Bool.not_eq_false] at hcd
    subst ht
    obtain ⟨hc, hd⟩ := hkept hcd
    obtain ⟨w, rfl, hw⟩ := h.exists_cons_right hP hc
    obtain ⟨x, rfl, -⟩ := hw.exists_cons_right hP hd
    rw [hs c d x rfl] at hcd
    cases hcd
  fun_induction skipShortcuts s generalizing t with
  | case1 => rwa [hself h (by simp)]
  | case2 c => rwa [hself h (by simp)]
  | case3 c d s hcd ih =>
      obtain ⟨hc, hd⟩ := hkept hcd
      obtain ⟨u, rfl, hu⟩ := h.exists_cons hP hc
      obtain ⟨w, rfl, hw⟩ := hu.exists_cons hP hd
      rw [skipShortcuts, if_pos hcd]
      exact ih (hw.cut hP hchar).2
  | case4 c d s hcd =>
      rw [hself h]
      · exact h
      · rintro c' d' u hu
        cases hu
        simpa using hcd

/-- The same groups are read, but for the space in them. -/
theorem rel_readGroups? (hP : IsSpacing P) (h : Respaced P s t) :
    Option.Rel (fun a b : List Text × Text =>
        List.Forall₂ (Respaced P) a.1 b.1 ∧ Respaced P a.2 b.2)
      (readGroups? s) (readGroups? t) := by
  fun_induction readGroups? s generalizing t with
  | case1 =>
      rw [Respaced.nil_iff.1 h, readGroups?_of_head? (by simp)]
      exact .some ⟨.nil, .nil⟩
  | case2 c s hcloser =>
      have hnone : ∀ d, isSpace d = true → (groupCloser? d).isSome = false :=
        not_of_isSpace (by decide) (by decide) (by decide)
      have hhead : ∀ d ∈ t.head?, groupCloser? d = none := by
        intro d hd
        have hany := h.any_head? hP hnone
        rw [Option.mem_def.1 hd] at hany
        simpa [hcloser] using hany
      rw [readGroups?_of_head? hhead]
      exact .some ⟨.nil, h⟩
  | case3 c s closer hcloser hsplit =>
      obtain ⟨hc, hclose⟩ := isSpace_of_groupCloser? hcloser
      obtain ⟨u, rfl, hu⟩ := h.exists_cons hP hc
      have hrel := Delimited.rel_split? hP hc hclose hu 0
      rw [hsplit] at hrel
      generalize hsplit' : Delimited.split? c closer 0 u = found at hrel
      cases hrel
      rw [readGroups?_of_split?_eq_none hcloser hsplit']
      exact .none
  | case4 c s closer hcloser inside rest hsplit _ ih =>
      obtain ⟨hc, hclose⟩ := isSpace_of_groupCloser? hcloser
      obtain ⟨u, rfl, hu⟩ := h.exists_cons hP hc
      have hrel := Delimited.rel_split? hP hc hclose hu 0
      rw [hsplit] at hrel
      generalize hsplit' : Delimited.split? c closer 0 u = found at hrel
      cases hrel with
      | @some _ parts hparts =>
          rw [readGroups?_of_split?_eq_some hcloser hsplit']
          refine rel_map ?_ (ih hparts.2)
          rintro ⟨hashes, r⟩ ⟨hashes', r'⟩ ⟨hhashes, hr⟩
          refine ⟨?_, hr⟩
          by_cases hbrace : c = '{'
          · simp only [if_pos hbrace]
            exact .cons hparts.1 hhashes
          · simp only [if_neg hbrace]
            exact hhashes

/-- A tag line with the name of another, and with the same text after its groups, is read as
the other is, but for its hashes. -/
theorem read?_of_readGroups? {head : Head} {hashes hashes' : List Text} {rest : Text}
    (hread : read? s = some head) (hname : (readName t).1 = (readName s).1)
    (hgroups : readGroups? (skipShortcuts (readName s).2) = some (hashes, rest))
    (hgroups' : readGroups? (skipShortcuts (readName t).2) = some (hashes', rest)) :
    head.hashes = hashes ∧ read? t = some { head with hashes := hashes' } := by
  obtain ⟨afterName, afterGroups, afterAction, hs, hhashes, haction, hrest⟩ :=
    read?_eq_some_iff.1 hread
  rw [hs] at hname hgroups
  obtain ⟨rfl, rfl⟩ := Prod.mk.inj (Option.some.inj (hgroups.symm.trans hhashes))
  exact ⟨rfl, read?_eq_some_iff.2
    ⟨(readName t).2, rest, afterAction, Prod.ext hname rfl, hgroups', haction, hrest⟩⟩

/-- Whether a group is open at the end of a tag line does not depend on its space. -/
theorem read?_eq_none_iff_of_respaced (hP : IsSpacing P) (h : Respaced P s t) :
    read? t = none ↔ read? s = none := by
  have hrel := rel_readGroups? hP (skipShortcuts_of_respaced hP (readName_of_respaced hP h).2)
  rw [read?_eq_none_iff, read?_eq_none_iff]
  generalize readGroups? (skipShortcuts (readName s).2) = x at hrel
  generalize readGroups? (skipShortcuts (readName t).2) = y at hrel
  cases hrel <;> simp

end TagLine

/-! ### Calls -/

namespace CallLiteral

variable {P : Char → Text → Prop} {s t : Text} {marks : List QuoteMark}

open Text (Respaced RespacedParts IsSpacing)

/-- Literals in the same quotes that differ in their space. -/
def RespacedLiteral (P : Char → Text → Prop) (l l' : CallLiteral) : Prop :=
  l'.quote = l.quote ∧ Respaced P l.raw l'.raw

theorem rel_afterLead? (hP : IsSpacing P) {lead : Text} (hlead : ∀ c ∈ lead, isSpace c = false)
    (h : Respaced P s t) :
    Option.Rel (Respaced P) (Text.afterLead? lead s) (Text.afterLead? lead t) := by
  induction lead generalizing s t with
  | nil => exact .some h
  | cons a lead ih =>
      have ha := hlead a List.mem_cons_self
      by_cases hs : s.head? = some a
      · obtain ⟨s, rfl⟩ := List.head?_eq_some_iff.1 hs
        obtain ⟨u, rfl, hu⟩ := h.exists_cons hP ha
        rw [Text.afterLead?, Text.afterLead?, if_pos rfl, if_pos rfl]
        exact ih (fun c hc => hlead c (List.mem_cons_of_mem a hc)) hu
      · have ht : t.head? ≠ some a := by
          intro ht
          obtain ⟨u, rfl⟩ := List.head?_eq_some_iff.1 ht
          obtain ⟨w, rfl, -⟩ := h.exists_cons_right hP ha
          exact hs rfl
        have hnone {u : Text} (hu : u.head? ≠ some a) : Text.afterLead? (a :: lead) u = none := by
          cases u with
          | nil => rfl
          | cons c u => exact if_neg fun hac => hu (by rw [hac, List.head?_cons])
        rw [hnone hs, hnone ht]
        exact .none

/-- Space comes before what is read of a body, and no backslash is the last of it. -/
theorem readBody_append {quote : Char} (hquote : isSpace quote = false) {v : Text} (hne : v ≠ [])
    (hspace : ∀ c ∈ v, isSpace c = true) (escaped : Bool) (t : Text) :
    readBody quote escaped (v ++ t) = (readBody quote false t).map (Prod.map (v ++ ·) id) := by
  induction v generalizing escaped with
  | nil => exact absurd rfl hne
  | cons c v ih =>
      have hc := hspace c List.mem_cons_self
      have hcquote : c ≠ quote := by
        rintro rfl
        rw [hc] at hquote
        cases hquote
      have hescape : decide (c = '\\') = false := by
        rcases isSpace_iff.1 hc with rfl | rfl | rfl <;> rfl
      rw [List.cons_append, readBody, if_neg hcquote, hescape]
      cases v with
      | nil =>
          rw [List.nil_append]
          rfl
      | cons d v =>
          rw [ih (List.cons_ne_nil d v) (fun e he => hspace e (List.mem_cons_of_mem c he)),
            Option.map_map]
          rfl

theorem rel_readBody (hP : IsSpacing P) {quote : Char} (hquote : isSpace quote = false)
    (h : Respaced P s t) (escaped : Bool) :
    Option.Rel (RespacedParts P) (readBody quote escaped s) (readBody quote escaped t) := by
  induction h generalizing escaped with
  | nil => exact .none
  | @keep c s t h ih =>
      have hkeep (a b : Text × Text) (hab : RespacedParts P a b) :
          RespacedParts P (Prod.map (c :: ·) id a) (Prod.map (c :: ·) id b) :=
        ⟨.keep c hab.1, hab.2⟩
      rw [readBody, readBody]
      by_cases hc : c = quote
      · rw [if_pos hc, if_pos hc]
        by_cases hs : s.head? = some ')'
        · obtain ⟨s, rfl⟩ := List.head?_eq_some_iff.1 hs
          obtain ⟨u, rfl, hu⟩ := h.exists_cons hP (by decide)
          exact .some ⟨.nil, hu⟩
        · have ht : t.head? ≠ some ')' := by
            intro ht
            obtain ⟨u, rfl⟩ := List.head?_eq_some_iff.1 ht
            obtain ⟨w, rfl, -⟩ := h.exists_cons_right hP (by decide)
            exact hs rfl
          rw [if_neg hs, if_neg ht]
          cases escaped with
          | false => exact .none
          | true => exact rel_map hkeep (ih false)
      · rw [if_neg hc, if_neg hc]
        exact rel_map hkeep (ih _)
  | @change c v s t hchange h ih =>
      obtain ⟨hc, hne, hspace⟩ := hP _ _ hchange
      have hsame : readBody quote escaped (c :: s) = _ :=
        readBody_append hquote (List.cons_ne_nil c []) (by simpa using hc) escaped s
      rw [hsame, readBody_append hquote hne hspace]
      exact rel_map (fun _ _ hab => ⟨.change hchange hab.1, hab.2⟩) (ih false)

theorem readWith_eq_bind (mark : QuoteMark) (t : Text) :
    readWith mark t = (Text.afterLead? ['_', '(', mark.char] t).bind fun u =>
      match readBody mark.char false u with
      | some (c :: raw, rest) => some (⟨c :: raw, mark⟩, rest)
      | _ => none := by
  fun_cases readWith mark t with
  | case1 t c raw rest hread => simp [Text.afterLead?, hread]
  | case2 t _ => simp [Text.afterLead?]
  | case3 q t hq => simp [Text.afterLead?, Ne.symm hq]
  | case4 _ hne =>
      have hnone : Text.afterLead? ['_', '(', mark.char] t = none := by
        rcases t with _ | ⟨a, _ | ⟨b, _ | ⟨q, t⟩⟩⟩
        · rfl
        · simp [Text.afterLead?]
        · simp [Text.afterLead?]
        · have hab : '_' = a → '(' ≠ b := by
            rintro rfl rfl
            exact hne q t rfl
          by_cases ha : '_' = a
          · rw [Text.afterLead?, if_pos ha, Text.afterLead?, if_neg (hab ha)]
          · rw [Text.afterLead?, if_neg ha]
      rw [hnone]
      rfl

/-- Calls found in two texts, with what follows them. -/
def RespacedCall (P : Char → Text → Prop) (a b : CallLiteral × Text) : Prop :=
  RespacedLiteral P a.1 b.1 ∧ Respaced P a.2 b.2

theorem rel_readWith (hP : IsSpacing P) (mark : QuoteMark) (h : Respaced P s t) :
    Option.Rel (RespacedCall P) (readWith mark s) (readWith mark t) := by
  have hquote : isSpace mark.char = false := by cases mark <;> rfl
  have hlead : ∀ c ∈ ['_', '(', mark.char], isSpace c = false := by
    simp only [List.mem_cons, List.not_mem_nil, or_false]
    rintro c (rfl | rfl | rfl)
    · rfl
    · rfl
    · exact hquote
  have hafter := rel_afterLead? hP hlead h
  rw [readWith_eq_bind, readWith_eq_bind]
  generalize Text.afterLead? ['_', '(', mark.char] s = x at hafter
  generalize Text.afterLead? ['_', '(', mark.char] t = y at hafter
  cases hafter with
  | none => exact .none
  | @some u v huv =>
      have hbody := rel_readBody hP hquote huv false
      rw [Option.bind_some, Option.bind_some]
      generalize readBody mark.char false u = x at hbody
      generalize readBody mark.char false v = y at hbody
      cases hbody with
      | none => exact .none
      | @some a b hab =>
          obtain ⟨raw, rest⟩ := a
          obtain ⟨raw', rest'⟩ := b
          obtain ⟨hraw, hrest⟩ : Respaced P raw raw' ∧ Respaced P rest rest' := hab
          cases raw with
          | nil =>
              rw [Respaced.nil_iff.1 hraw]
              exact .none
          | cons c raw =>
              obtain ⟨d, w, rfl⟩ := List.exists_cons_of_ne_nil (hraw.ne_nil hP (by simp))
              exact .some ⟨⟨rfl, hraw⟩, hrest⟩

theorem rel_read (hP : IsSpacing P) (marks : List QuoteMark) (h : Respaced P s t) :
    Option.Rel (RespacedCall P) (read marks s) (read marks t) := by
  induction marks with
  | nil => exact .none
  | cons mark marks ih =>
      have hwith := rel_readWith hP mark h
      rw [read, read, List.findSome?_cons, List.findSome?_cons]
      generalize readWith mark s = x at hwith
      generalize readWith mark t = y at hwith
      cases hwith with
      | none => exact ih
      | some hcall => exact .some hcall

theorem rel_splitAtCall? (hP : IsSpacing P) (h : Respaced P s t) :
    Option.Rel (fun a b => Respaced P a.1 b.1 ∧ RespacedCall P a.2 b.2)
      (splitAtCall? marks s) (splitAtCall? marks t) := by
  induction h with
  | nil => exact .none
  | @keep c s t h ih =>
      have hread := rel_read hP marks (.keep c h)
      rw [splitAtCall?, splitAtCall?]
      generalize read marks (c :: s) = x at hread
      generalize read marks (c :: t) = y at hread
      cases hread with
      | none => exact rel_map (fun _ _ hab => ⟨.keep c hab.1, hab.2⟩) ih
      | some hcall => exact .some ⟨.nil, hcall⟩
  | @change c v s t hchange h ih =>
      obtain ⟨hc, -, hspace⟩ := hP _ _ hchange
      have hmark {u : Text} (hu : ∀ d ∈ u, isSpace d = true) : '_' ∉ u := fun hmem =>
        absurd (hu _ hmem) (by decide)
      have hsame : splitAtCall? marks (c :: s) = _ :=
        splitAtCall?_append (hmark (u := [c]) (by simpa using hc)) s
      rw [hsame, splitAtCall?_append (hmark hspace)]
      exact rel_map (fun _ _ hab => ⟨.change hchange hab.1, hab.2⟩) ih

/-- The same calls are found, but for the space in their literals. -/
theorem forall₂_scan (hP : IsSpacing P) (h : Respaced P s t) :
    List.Forall₂ (RespacedLiteral P) ((scan marks s).calls.map Prod.snd)
      ((scan marks t).calls.map Prod.snd) := by
  fun_induction scan marks s generalizing t with
  | case1 s hnone =>
      have hrel : Option.Rel _ (splitAtCall? marks s) (splitAtCall? marks t) :=
        rel_splitAtCall? hP h
      rw [hnone] at hrel
      generalize hsplit : splitAtCall? marks t = y at hrel
      cases hrel
      rw [scan_of_splitAtCall?_eq_none hsplit]
      exact .nil
  | case2 s before l rest hsome =>
      rename_i ih
      have hrel : Option.Rel _ (splitAtCall? marks s) (splitAtCall? marks t) :=
        rel_splitAtCall? hP h
      rw [hsome] at hrel
      generalize hsplit : splitAtCall? marks t = y at hrel
      cases hrel with
      | @some _ b hab =>
          obtain ⟨before', l', rest'⟩ := b
          obtain ⟨-, hl, hrest⟩ := hab
          rw [scan_of_splitAtCall?_eq_some hsplit]
          exact .cons hl (ih hrest)

end CallLiteral

end Phrasebook
