import Mathlib.Order.Bounds.Basic
import Phrasebook.Proofs.FoundCalls

/-!
The closer that matches an opener.

A search for it counts the groups that are open, the one that it is in among them, and
it is over when a closer brings the count down to zero.  Until then the count is one more
than the openers that have been read less the closers, and it is positive.  So the search
ends at the first closer that comes after as many closers as openers.
-/

namespace Phrasebook

/-! ### Places in a text -/

namespace Text

/-- No character of a text straddles byte `n`, and the text reaches that far. -/
def IsBoundary (t : Text) (n : Nat) : Prop :=
  ∃ s, s <+: t ∧ utf8Size s = n

/-- The character `c` of a text starts at byte `n`. -/
def HasAt (t : Text) (n : Nat) (c : Char) : Prop :=
  ∃ s, s ++ [c] <+: t ∧ utf8Size s = n

/-- A text has `s` from byte `first` up to byte `last`. -/
def Between (t : Text) (first last : Nat) (s : Text) : Prop :=
  ∃ lead, lead ++ s <+: t ∧ utf8Size lead = first ∧ utf8Size (lead ++ s) = last

theorem utf8Size_le_of_prefix {s t : Text} (h : s <+: t) : utf8Size s ≤ utf8Size t := by
  obtain ⟨u, rfl⟩ := h
  rw [utf8Size_append]
  exact Nat.le_add_right _ _

theorem eq_of_prefix_of_utf8Size_eq {s t : Text} (h : s <+: t)
    (hsize : utf8Size s = utf8Size t) : s = t := by
  obtain ⟨u, rfl⟩ := h
  have hu : u = [] := by
    by_contra hne
    have hpos := utf8Size_pos hne
    rw [utf8Size_append] at hsize
    omega
  rw [hu, List.append_nil]

/-- What a text has up to some byte is determined. -/
theorem eq_of_prefix_of_prefix {s u t : Text} (hs : s <+: t) (hu : u <+: t)
    (hsize : utf8Size s = utf8Size u) : s = u := by
  rcases List.prefix_or_prefix_of_prefix hs hu with h | h
  · exact eq_of_prefix_of_utf8Size_eq h hsize
  · exact (eq_of_prefix_of_utf8Size_eq h hsize.symm).symm

end Text

namespace Delimited

variable {opener closer : Char} {text t : Text} {start stop : Nat}

/-! ### Closers after as many closers as openers -/

/-- A text has a closer at byte `stop`, and as many openers as closers from byte `start`
up to it. -/
structure ClosesAt (opener closer : Char) (text : Text) (start stop : Nat) : Prop where
  start_le : start ≤ stop
  closer_at : Text.HasAt text stop closer
  even : ∃ inside, Text.Between text start stop inside ∧
    inside.count opener = inside.count closer

theorem closesAt_iff : ClosesAt opener closer text start stop ↔
    ∃ lead inside after, text = lead ++ (inside ++ closer :: after) ∧
      Text.utf8Size lead = start ∧ Text.utf8Size (lead ++ inside) = stop ∧
      inside.count opener = inside.count closer := by
  constructor
  · rintro ⟨-, ⟨before, ⟨after, rfl⟩, hbefore⟩, inside, ⟨lead, hinside, hlead, hstop⟩, heven⟩
    have hsame : lead ++ inside = before :=
      Text.eq_of_prefix_of_prefix hinside ⟨[closer] ++ after, by simp⟩ (hstop.trans hbefore.symm)
    subst hsame
    exact ⟨lead, inside, after, by simp, hlead, hstop, heven⟩
  · rintro ⟨lead, inside, after, rfl, rfl, rfl, heven⟩
    refine ⟨?_, ⟨lead ++ inside, ⟨after, by simp⟩, rfl⟩, inside, ⟨lead, ?_, rfl, rfl⟩, heven⟩
    · exact Text.utf8Size_le_of_prefix (List.prefix_append lead inside)
    · exact ⟨closer :: after, by simp⟩

theorem ClosesAt.isBoundary (h : ClosesAt opener closer text start stop) :
    Text.IsBoundary text start := by
  obtain ⟨lead, inside, after, rfl, hlead, -, -⟩ := closesAt_iff.1 h
  exact ⟨lead, List.prefix_append lead _, hlead⟩

/-! ### The closer that is found -/

theorem closerOffset?_append (lead rest : Text) :
    closerOffset? opener closer (lead ++ rest) (Text.utf8Size lead) =
      (split? opener closer 0 rest).map fun p => Text.utf8Size lead + Text.utf8Size p.1 := by
  simp only [closerOffset?, Text.dropBytes?_append, Option.bind_eq_bind, Option.bind_some]
  cases split? opener closer 0 rest <;> rfl

theorem closerOffset?_eq_some_iff (hne : opener ≠ closer) :
    closerOffset? opener closer text start = some stop ↔
      ∃ lead inside after, text = lead ++ (inside ++ closer :: after) ∧
        Text.utf8Size lead = start ∧ Text.utf8Size (lead ++ inside) = stop ∧
        Balanced opener closer inside := by
  constructor
  · intro h
    cases hdrop : Text.dropBytes? text start with
    | none => simp [closerOffset?, hdrop] at h
    | some rest =>
        obtain ⟨lead, rfl, rfl⟩ := Text.exists_append_of_dropBytes? hdrop
        rw [closerOffset?_append] at h
        obtain ⟨⟨inside, after⟩, hsplit, rfl⟩ := Option.map_eq_some_iff.1 h
        obtain ⟨rfl, hbalanced⟩ := (split?_eq_some_iff hne).1 hsplit
        exact ⟨lead, inside, after, rfl, rfl, Text.utf8Size_append lead inside, hbalanced⟩
  · rintro ⟨lead, inside, after, rfl, rfl, rfl, hbalanced⟩
    rw [closerOffset?_append, (split?_eq_some_iff hne).2 ⟨rfl, hbalanced⟩, Option.map_some,
      Text.utf8Size_append]

theorem isLeast_of_closerOffset? (hne : opener ≠ closer)
    (h : closerOffset? opener closer text start = some stop) :
    IsLeast {n | ClosesAt opener closer text start n} stop := by
  obtain ⟨lead, inside, after, rfl, rfl, rfl, hbalanced⟩ := (closerOffset?_eq_some_iff hne).1 h
  have heven : inside.count opener = inside.count closer := by
    rw [hbalanced.settled, Nat.zero_add]
  refine ⟨closesAt_iff.2 ⟨lead, inside, after, rfl, rfl, rfl, heven⟩, ?_⟩
  intro n hn
  obtain ⟨lead', s, after', htext, hlead, rfl, hs⟩ := closesAt_iff.1 hn
  obtain rfl : lead' = lead :=
    Text.eq_of_prefix_of_prefix ⟨_, htext.symm⟩ (List.prefix_append lead _) hlead
  have hcloser : s ++ [closer] <+: inside ++ closer :: after := by
    rw [List.append_cancel_left htext]
    exact ⟨after', by simp⟩
  -- One closer more than openers is too many for a part of the inside.
  have hprefix : inside <+: s :=
    Balanced.prefix_of_closes_more hbalanced hcloser (by simp [hs, hne.symm])
  exact Text.utf8Size_le_of_prefix ((List.prefix_append_right_inj lead').2 hprefix)

/-- A search fails only where no closer would do. -/
theorem closerOffset?_eq_none_iff (hne : opener ≠ closer) :
    closerOffset? opener closer text start = none ↔
      ∀ n, ¬ ClosesAt opener closer text start n := by
  constructor
  · intro hnone n hn
    obtain ⟨lead, inside, after, rfl, rfl, -, heven⟩ := closesAt_iff.1 hn
    rw [closerOffset?_append, Option.map_eq_none_iff, split?_eq_none_iff hne] at hnone
    have hfloor := hnone (inside ++ [closer]) ⟨after, by simp⟩
    have hopeners : (inside ++ [closer]).count opener = inside.count opener := by simp [hne.symm]
    have hclosers : (inside ++ [closer]).count closer = inside.count closer + 1 := by simp
    omega
  · intro hclosed
    refine Option.eq_none_iff_forall_not_mem.2 fun n hn => ?_
    exact hclosed n (isLeast_of_closerOffset? hne hn).1

/-! ### The count of open groups -/

/-- A search for the closer of a group that has been opened. -/
inductive Search where
  /-- It has come to byte `offset` with `depth` groups open, that one among them. -/
  | reading (depth : Int) (offset : Nat)
  | found (offset : Nat)
  deriving DecidableEq, Repr

namespace Search

/-- One more character is read, unless the closer has been found. -/
def read (opener closer : Char) : Search → Char → Search
  | .found offset, _ => .found offset
  | .reading depth offset, c =>
      if c = opener then .reading (depth + 1) (offset + c.utf8Size)
      else if c = closer then
        if depth - 1 = 0 then .found offset else .reading (depth - 1) (offset + c.utf8Size)
      else .reading depth (offset + c.utf8Size)

/-- The search after it has read `t`, which starts at byte `start`. -/
def after (opener closer : Char) (start : Nat) (t : Text) : Search :=
  t.foldl (read opener closer) (.reading 1 start)

def found? : Search → Option Nat
  | .reading _ _ => none
  | .found offset => some offset

/-- What has been read when a search has come to some state. -/
inductive Reaches (opener closer : Char) (start : Nat) : Text → Search → Prop
  | reading {t : Text} {depth : Int}
      (hfloor : ∀ p, p <+: t → p.count closer ≤ p.count opener)
      (hdepth : depth = 1 + t.count opener - t.count closer) :
      Reaches opener closer start t (.reading depth (start + Text.utf8Size t))
  | found {inside : Text} (rest : Text) (h : Balanced opener closer inside) :
      Reaches opener closer start (inside ++ closer :: rest)
        (.found (start + Text.utf8Size inside))

variable {s : Search}

/-- The group stays open if the last character does not close it. -/
theorem Reaches.reading_concat {c : Char} {depth : Int}
    (hfloor : ∀ p, p <+: t → p.count closer ≤ p.count opener)
    (hcount : (t ++ [c]).count closer ≤ (t ++ [c]).count opener)
    (hdepth : depth = 1 + (t ++ [c]).count opener - (t ++ [c]).count closer) :
    Reaches opener closer start (t ++ [c])
      (.reading depth (start + Text.utf8Size t + c.utf8Size)) := by
  have hsize : start + Text.utf8Size t + c.utf8Size = start + Text.utf8Size (t ++ [c]) := by
    rw [Text.utf8Size_append, Text.utf8Size_cons, Text.utf8Size_nil, Nat.add_zero, Nat.add_assoc]
  rw [hsize]
  refine .reading (fun p hp => ?_) hdepth
  rcases List.prefix_concat_iff.1 hp with rfl | hp
  · exact hcount
  · exact hfloor p hp

theorem Reaches.read (hne : opener ≠ closer) (h : Reaches opener closer start t s) (c : Char) :
    Reaches opener closer start (t ++ [c]) (s.read opener closer c) := by
  cases h with
  | found rest h =>
      rw [List.append_assoc, List.cons_append]
      exact .found (rest ++ [c]) h
  | @reading t depth hfloor hdepth =>
      have hwhole := hfloor t List.prefix_rfl
      simp only [Search.read]
      by_cases hopener : c = opener
      · subst hopener
        have hopeners : (t ++ [c]).count c = t.count c + 1 := by simp
        have hclosers : (t ++ [c]).count closer = t.count closer := by simp [hne]
        rw [if_pos rfl]
        exact reading_concat hfloor (by omega) (by omega)
      · have hopeners : (t ++ [c]).count opener = t.count opener := by simp [hopener]
        rw [if_neg hopener]
        by_cases hcloser : c = closer
        · subst hcloser
          have hclosers : (t ++ [c]).count c = t.count c + 1 := by simp
          rw [if_pos rfl]
          -- The count is one at least, so a closer takes it to zero or leaves it above.
          by_cases hlast : depth - 1 = 0
          · have hbalanced : Balanced opener c t := by
              refine ⟨fun p hp => ?_, by omega⟩
              rw [Nat.zero_add]
              exact hfloor p hp
            rw [if_pos hlast]
            exact .found [] hbalanced
          · rw [if_neg hlast]
            exact reading_concat hfloor (by omega) (by omega)
        · have hclosers : (t ++ [c]).count closer = t.count closer := by simp [hcloser]
          rw [if_neg hcloser]
          exact reading_concat hfloor (by omega) (by omega)

theorem reaches_after (hne : opener ≠ closer) (start : Nat) (t : Text) :
    Reaches opener closer start t (after opener closer start t) := by
  induction t using List.reverseRecOn with
  | nil => exact .reading (by simp) rfl
  | append_singleton t c ih =>
      rw [after, List.foldl_concat]
      exact ih.read hne c

theorem Reaches.depth_eq {depth : Int} {offset : Nat}
    (h : Reaches opener closer start t (.reading depth offset)) :
    0 < depth ∧ depth = 1 + t.count opener - t.count closer := by
  cases h with
  | reading hfloor hdepth =>
      have hwhole := hfloor t List.prefix_rfl
      exact ⟨by omega, hdepth⟩

theorem Reaches.found?_eq (hne : opener ≠ closer) (h : Reaches opener closer start t s) :
    s.found? = (split? opener closer 0 t).map fun p => start + Text.utf8Size p.1 := by
  cases h with
  | reading hfloor hdepth =>
      have hnone : split? opener closer 0 t = none := by
        rw [split?_eq_none_iff hne]
        intro p hp
        rw [Nat.zero_add]
        exact hfloor p hp
      rw [hnone]
      rfl
  | found rest h =>
      rw [(split?_eq_some_iff hne).2 ⟨rfl, h⟩]
      rfl

end Search

/-- The count finds the closer. -/
theorem closerOffset?_eq_bind (hne : opener ≠ closer) (text : Text) (start : Nat) :
    closerOffset? opener closer text start =
      (Text.dropBytes? text start).bind fun rest =>
        (Search.after opener closer start rest).found? := by
  cases hdrop : Text.dropBytes? text start with
  | none => simp [closerOffset?, hdrop]
  | some rest =>
      obtain ⟨lead, rfl, rfl⟩ := Text.exists_append_of_dropBytes? hdrop
      rw [closerOffset?_append, Option.bind_some, (Search.reaches_after hne _ rest).found?_eq hne]

/-! ### The matching closer -/

/-- The closer that matches an opener is the first one with as many openers as closers
between the two, and a search fails only if there is none.  It counts the open groups; the
count is positive as long as the search goes on, so no closer takes it below zero. -/
theorem closerOffset?_isLeast (hne : opener ≠ closer) (text : Text) (start : Nat) :
    (∀ stop, closerOffset? opener closer text start = some stop ↔
      Text.IsBoundary text start ∧ IsLeast {n | ClosesAt opener closer text start n} stop) ∧
    (closerOffset? opener closer text start = none ↔
      ¬ (Text.IsBoundary text start ∧ ∃ n, ClosesAt opener closer text start n)) ∧
    closerOffset? opener closer text start =
      (Text.dropBytes? text start).bind (fun rest =>
        (Search.after opener closer start rest).found?) ∧
    ∀ t depth offset, Search.after opener closer start t = .reading depth offset →
      0 < depth ∧ depth = 1 + t.count opener - t.count closer := by
  refine ⟨fun stop => ⟨fun h => ?_, ?_⟩, ?_, closerOffset?_eq_bind hne text start, ?_⟩
  · have hleast := isLeast_of_closerOffset? hne h
    exact ⟨hleast.1.isBoundary, hleast⟩
  · rintro ⟨-, hleast⟩
    cases hfound : closerOffset? opener closer text start with
    | none => exact absurd hleast.1 ((closerOffset?_eq_none_iff hne).1 hfound stop)
    | some n => rw [(isLeast_of_closerOffset? hne hfound).unique hleast]
  · rw [closerOffset?_eq_none_iff hne, not_and, not_exists]
    exact ⟨fun h _ => h, fun h n hn => h hn.isBoundary n hn⟩
  · intro t depth offset hafter
    have hreaches := Search.reaches_after hne start t
    rw [hafter] at hreaches
    exact hreaches.depth_eq

/-- A group in the group, a later closer with as many openers as closers before it, and an
offset inside of a character. -/
theorem closerOffset?_isLeast_nested :
    let text := "é(ł(b)ü)c()".toList
    '(' ≠ ')' ∧ closerOffset? '(' ')' text 3 = some 10 ∧
      Text.IsBoundary text 3 ∧ IsLeast {n | ClosesAt '(' ')' text 3 n} 10 ∧
      ClosesAt '(' ')' text 3 13 ∧
      closerOffset? '(' ')' text 1 = none ∧
      ¬ (Text.IsBoundary text 1 ∧ ∃ n, ClosesAt '(' ')' text 1 n) ∧
      Search.after '(' ')' 3 "ł(b".toList = .reading 2 7 ∧
      (2 : Int) = 1 + "ł(b".toList.count '(' - "ł(b".toList.count ')' := by
  intro text
  have hne : '(' ≠ ')' := by decide
  have hfound : closerOffset? '(' ')' text 3 = some 10 := by decide +kernel
  have hnone : closerOffset? '(' ')' text 1 = none := by decide +kernel
  have hafter : Search.after '(' ')' 3 "ł(b".toList = .reading 2 7 := by decide +kernel
  have hlater : ClosesAt '(' ')' text 3 13 :=
    closesAt_iff.2 ⟨"é(".toList, "ł(b)ü)c(".toList, [], by decide +kernel⟩
  obtain ⟨hsome, -, -, hdepth⟩ := closerOffset?_isLeast hne text 3
  obtain ⟨hboundary, hleast⟩ := (hsome 10).1 hfound
  refine ⟨hne, hfound, hboundary, hleast, hlater, hnone, ?_, hafter, (hdepth _ _ _ hafter).2⟩
  exact (closerOffset?_isLeast hne text 1).2.1.1 hnone

end Delimited

end Phrasebook
