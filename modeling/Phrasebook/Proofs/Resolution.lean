import Phrasebook.Discovery
import Phrasebook.Proofs.Lines
import Phrasebook.Proofs.Runs

/-!
Paths against places.

A path is text, and the file tree knows places.  A path is followed segment by segment, and
each segment can be followed only in a directory; so a path that leads somewhere leads to
the place that its segments say, and a name joined to the path of a directory leads to that
name in the directory.  Below a directory nothing depends on how its path is spelled.
-/

namespace Phrasebook

namespace Path

/-! ### Segments -/

/-- A segment that is the name of something. -/
structure IsProper (segment : Text) : Prop where
  nontrivial : isTrivial segment = false
  not_parent : segment ≠ ['.', '.']
  oneSegment : separator ∉ segment

instance (segment : Text) : Decidable (IsProper segment) :=
  decidable_of_iff
    (isTrivial segment = false ∧ segment ≠ ['.', '.'] ∧ separator ∉ segment)
    ⟨fun ⟨h, h', h''⟩ => ⟨h, h', h''⟩, fun ⟨h, h', h''⟩ => ⟨h, h', h''⟩⟩

/-- The segments of a path that lead anywhere. -/
def steps (p : Text) : List Text :=
  (segments p).filter fun s => !isTrivial s

/-- Follows a segment, from a directory and without a look at what is there. -/
def descend (place : Place) (segment : Text) : Place :=
  if isTrivial segment then place
  else if segment = ['.', '.'] then place.dropLast
  else place ++ [segment]

/-- What comes before the names in a path that leads on: the path, and a separator unless it
is empty or has one at its end. -/
def lead (p : Text) : Text :=
  if p.isEmpty then []
  else if p.getLast? = some separator then p
  else p ++ [separator]

/-- A path that leads on through the given names. -/
def extend (p : Text) (names : List Text) : Text :=
  names.foldl join p

variable {p q name : Text} {ns ms : List Text} {place : Place}

theorem IsProper.ne_nil (h : IsProper name) : name ≠ [] := by
  rintro rfl
  exact absurd h.nontrivial (by decide)

theorem IsProper.isAbsolute_eq_false (h : IsProper name) : isAbsolute name = false := by
  cases name with
  | nil => exact absurd rfl h.ne_nil
  | cons c name =>
      have hc : c ≠ separator := fun hc => h.oneSegment (hc ▸ List.mem_cons_self)
      simp [isAbsolute, hc]

theorem IsProper.segments_eq (h : IsProper name) : segments name = [name] :=
  Text.split_of_not_mem h.oneSegment

theorem IsProper.descend_eq (h : IsProper name) (place : Place) :
    descend place name = place ++ [name] := by
  simp [descend, h.nontrivial, h.not_parent]

theorem descend_of_isTrivial (h : isTrivial name = true) (place : Place) :
    descend place name = place := by
  simp [descend, h]

theorem segments_append (p q : Text) :
    segments (p ++ separator :: q) = segments p ++ segments q :=
  Text.split_append_sep separator p q

/-! ### Joining -/

theorem join_eq_lead_append (h : isAbsolute q = false) : join p q = lead p ++ q := by
  cases p with
  | nil => simp [join, lead]
  | cons c p =>
      simp only [join, lead, h, Bool.false_or, List.isEmpty_cons, Bool.false_eq_true, if_false]
      split <;> simp

/-- Before a path that leads on, there is nothing or a separator. -/
theorem lead_eq_nil_or_append (p : Text) :
    (p = [] ∧ lead p = []) ∨ ∃ front, lead p = front ++ [separator] ∧
      (p = front ∧ front ≠ [] ∨ p = front ++ [separator]) := by
  unfold lead
  cases p with
  | nil => exact .inl ⟨rfl, rfl⟩
  | cons c p =>
      simp only [List.isEmpty_cons, Bool.false_eq_true, if_false]
      split
      · rename_i hlast
        obtain ⟨front, hfront⟩ := List.getLast?_eq_some_iff.1 hlast
        exact .inr ⟨front, hfront, .inr hfront⟩
      · exact .inr ⟨c :: p, rfl, .inl ⟨rfl, List.cons_ne_nil c p⟩⟩

theorem lead_append (h : IsProper name) (p : Text) :
    lead (p ++ name) = p ++ name ++ [separator] := by
  have hne : (p ++ name).isEmpty = false := by
    simp [h.ne_nil]
  have hlast : (p ++ name).getLast? ≠ some separator := by
    intro hlast
    rw [List.getLast?_append_of_ne_nil p h.ne_nil] at hlast
    exact h.oneSegment (List.mem_of_getLast? hlast)
  rw [lead, hne, if_neg Bool.false_ne_true, if_neg hlast]

theorem join_ne_nil (h : IsProper name) (p : Text) : join p name ≠ [] := by
  rw [join_eq_lead_append h.isAbsolute_eq_false]
  simp [h.ne_nil]

theorem extend_ne_nil (hp : p ≠ []) (hns : ∀ n ∈ ns, IsProper n) : extend p ns ≠ [] := by
  induction ns generalizing p with
  | nil => exact hp
  | cons n ns ih =>
      exact ih (join_ne_nil (hns n List.mem_cons_self) p)
        fun m hm => hns m (List.mem_cons_of_mem n hm)

theorem extend_append (p : Text) (ms ns : List Text) :
    extend p (ms ++ ns) = extend (extend p ms) ns :=
  List.foldl_append

/-- What a path leads on to is spelled alike just when what comes before the names is. -/
theorem extend_eq_extend_iff (hne : ns ≠ []) (hns : ∀ n ∈ ns, IsProper n) :
    extend p ns = extend q ns ↔ lead p = lead q := by
  induction ns generalizing p q with
  | nil => exact absurd rfl hne
  | cons n ns ih =>
      have hn := hns n List.mem_cons_self
      have hjoin (p : Text) : join p n = lead p ++ n := join_eq_lead_append hn.isAbsolute_eq_false
      show extend (join p n) ns = extend (join q n) ns ↔ lead p = lead q
      cases ns with
      | nil =>
          show join p n = join q n ↔ _
          rw [hjoin, hjoin, List.append_left_inj]
      | cons m ms =>
          rw [ih (List.cons_ne_nil m ms) fun k hk => hns k (List.mem_cons_of_mem n hk), hjoin,
            hjoin, lead_append hn, lead_append hn, List.append_left_inj, List.append_left_inj]

theorem isAbsolute_append (h : IsProper name) (p : Text) : isAbsolute (name ++ p) = false := by
  obtain ⟨c, name, rfl⟩ := List.exists_cons_of_ne_nil h.ne_nil
  exact h.isAbsolute_eq_false

theorem extend_eq_join (hne : ns ≠ []) (hns : ∀ n ∈ ns, IsProper n) (p : Text) :
    extend p ns = join p (Text.join [separator] ns) := by
  induction ns generalizing p with
  | nil => exact absurd rfl hne
  | cons n ns ih =>
      have hn := hns n List.mem_cons_self
      cases ns with
      | nil => rfl
      | cons m ms =>
          have hrest := ih (List.cons_ne_nil m ms) fun k hk => hns k (List.mem_cons_of_mem n hk)
          have hm := hns m (List.mem_cons_of_mem n List.mem_cons_self)
          have hrelative : isAbsolute (Text.join [separator] (m :: ms)) = false := by
            cases ms with
            | nil => exact hm.isAbsolute_eq_false
            | cons k ms =>
                rw [Text.join_cons separator (List.cons_ne_nil k ms)]
                exact isAbsolute_append hm _
          show extend (join p n) (m :: ms) = _
          rw [hrest, Text.join_cons separator (List.cons_ne_nil m ms),
            join_eq_lead_append (isAbsolute_append hn _), join_eq_lead_append hrelative,
            join_eq_lead_append hn.isAbsolute_eq_false, lead_append hn]
          simp

/-- A path of names leads on through its segments. -/
theorem extend_segments (h : ∀ s ∈ segments q, IsProper s) (p : Text) :
    extend p (segments q) = join p q := by
  have hne : segments q ≠ [] := Text.split_ne_nil separator q
  rw [extend_eq_join hne h, segments, Text.join_split]

end Path

namespace FileTree

open Phrasebook.Path

variable {tree : FileTree} {p name : Text} {ss ns : List Text} {place place' : Place}
  {node : FileNode}

/-! ### Following segments -/

theorem step_eq_ok_iff {segment : Text} :
    tree.step place segment = .ok place' ↔
      tree.at? place = some .directory ∧ place' = descend place segment := by
  unfold step descend
  cases tree.at? place with
  | none => simp
  | some node =>
      cases node with
      | file contents => simp
      | directory =>
          simp only [true_and]
          split
          · simp [eq_comm]
          · split <;> simp [eq_comm]

theorem foldlM_cons_eq_ok_iff {s : Text} :
    (s :: ss).foldlM tree.step place = .ok place' ↔
      tree.at? place = some .directory ∧
        ss.foldlM tree.step (descend place s) = .ok place' := by
  rw [List.foldlM_cons]
  constructor
  · intro h
    obtain ⟨next, hstep, hrest⟩ := bind_eq_ok_iff.1 h
    obtain ⟨hdir, rfl⟩ := step_eq_ok_iff.1 hstep
    exact ⟨hdir, hrest⟩
  · rintro ⟨hdir, hrest⟩
    exact bind_eq_ok_iff.2 ⟨_, step_eq_ok_iff.2 ⟨hdir, rfl⟩, hrest⟩

/-- Segments that can be followed lead where they say. -/
theorem eq_foldl_of_foldlM (h : ss.foldlM tree.step place = .ok place') :
    place' = ss.foldl descend place := by
  induction ss generalizing place with
  | nil => exact (Except.ok.inj h).symm
  | cons s ss ih => exact ih (foldlM_cons_eq_ok_iff.1 h).2

/-- A way to a directory starts in a directory. -/
theorem directory_of_foldlM (h : ss.foldlM tree.step place = .ok place')
    (hdir : tree.at? place' = some .directory) : tree.at? place = some .directory := by
  cases ss with
  | nil => rwa [Except.ok.inj h]
  | cons s ss => exact (foldlM_cons_eq_ok_iff.1 h).1

/-- On the way to a directory, segments that lead nowhere make no difference. -/
theorem foldlM_filter_eq_ok_iff (hdir : tree.at? place' = some .directory) :
    (ss.filter fun s => !isTrivial s).foldlM tree.step place = .ok place' ↔
      ss.foldlM tree.step place = .ok place' := by
  induction ss generalizing place with
  | nil => rfl
  | cons s ss ih =>
      rw [foldlM_cons_eq_ok_iff]
      cases htrivial : isTrivial s with
      | true =>
          rw [List.filter_cons_of_neg (by simp [htrivial]), descend_of_isTrivial htrivial, ih]
          exact ⟨fun h => ⟨directory_of_foldlM h hdir, h⟩, And.right⟩
      | false =>
          rw [List.filter_cons_of_pos (by simp [htrivial]), foldlM_cons_eq_ok_iff, ih]

/-! ### Following paths -/

/-- Where a path starts. -/
def origin (tree : FileTree) (path : Text) : Place :=
  if isAbsolute path then [] else tree.workingDirectory

/-- The place that a path leads to, if all that it leads through are directories. -/
def walk (tree : FileTree) (path : Text) : Except FileError Place :=
  (segments path).foldlM tree.step (tree.origin path)

theorem resolve_eq_ok_iff :
    tree.resolve p = .ok (place, node) ↔
      p ≠ [] ∧ tree.walk p = .ok place ∧ tree.at? place = some node := by
  unfold resolve
  cases p with
  | nil => simp
  | cons c p =>
      simp only [List.isEmpty_cons, Bool.false_eq_true, if_false, ne_eq, reduceCtorEq,
        not_false_eq_true, true_and]
      rw [bind_eq_ok_iff]
      constructor
      · rintro ⟨place', hwalk, hnode⟩
        cases hat : tree.at? place' with
        | none => simp [hat] at hnode
        | some node' =>
            simp only [hat] at hnode
            cases hnode
            exact ⟨hwalk, hat⟩
      · rintro ⟨hwalk, hat⟩
        refine ⟨place, hwalk, ?_⟩
        simp only [hat]
        rfl

theorem walk_empty_eq_ok_iff :
    tree.walk [] = .ok place ↔
      place = tree.workingDirectory ∧ tree.at? tree.workingDirectory = some .directory := by
  show [[]].foldlM tree.step tree.workingDirectory = .ok place ↔ _
  rw [foldlM_cons_eq_ok_iff, descend_of_isTrivial rfl]
  constructor
  · rintro ⟨hdir, heq⟩
    exact ⟨(Except.ok.inj heq).symm, hdir⟩
  · rintro ⟨rfl, hdir⟩
    exact ⟨hdir, rfl⟩

theorem walk_append_separator_eq_ok_iff :
    tree.walk (p ++ [separator]) = .ok place ↔
      ∃ place', (segments p).foldlM tree.step (tree.origin (p ++ [separator])) = .ok place' ∧
        tree.at? place' = some .directory ∧ place = place' := by
  have hsegments : segments (p ++ [separator]) = segments p ++ [[]] := segments_append p []
  rw [walk, hsegments, List.foldlM_append, bind_eq_ok_iff]
  constructor
  · rintro ⟨place', hfront, hlast⟩
    obtain ⟨hdir, heq⟩ := foldlM_cons_eq_ok_iff.1 hlast
    exact ⟨place', hfront, hdir, (Except.ok.inj heq).symm⟩
  · rintro ⟨place', hfront, hdir, rfl⟩
    exact ⟨place, hfront, foldlM_cons_eq_ok_iff.2 ⟨hdir, rfl⟩⟩

theorem origin_append {front : Text} (hfront : front ≠ []) (q : Text) :
    tree.origin (front ++ q) = tree.origin front := by
  obtain ⟨c, front, rfl⟩ := List.exists_cons_of_ne_nil hfront
  rfl

/-- A name joined to a path leads to that name in a directory. -/
theorem walk_join_eq_ok_iff (hname : IsProper name) :
    tree.walk (join p name) = .ok place ↔
      ∃ place', tree.walk p = .ok place' ∧ tree.at? place' = some .directory ∧
        place = place' ++ [name] := by
  have hone {start : Place} : [name].foldlM tree.step start = .ok place ↔
      tree.at? start = some .directory ∧ place = start ++ [name] := by
    rw [foldlM_cons_eq_ok_iff, hname.descend_eq]
    exact and_congr_right fun _ => ⟨fun h => (Except.ok.inj h).symm, fun h => h ▸ rfl⟩
  rw [join_eq_lead_append hname.isAbsolute_eq_false]
  rcases lead_eq_nil_or_append p with ⟨rfl, hlead⟩ | ⟨front, hlead, hp⟩
  · rw [hlead, List.nil_append, walk, hname.segments_eq, origin, hname.isAbsolute_eq_false]
    simp only [Bool.false_eq_true, if_false, hone, walk_empty_eq_ok_iff]
    constructor
    · rintro ⟨hdir, rfl⟩
      exact ⟨_, ⟨rfl, hdir⟩, hdir, rfl⟩
    · rintro ⟨_, ⟨rfl, hdir⟩, -, rfl⟩
      exact ⟨hdir, rfl⟩
  · have hstart (q r : Text) :
        tree.origin (front ++ separator :: q) = tree.origin (front ++ separator :: r) := by
      cases front <;> rfl
    have hsegments : segments (front ++ [separator] ++ name) = segments front ++ [name] := by
      rw [List.append_assoc, List.singleton_append, segments_append, hname.segments_eq]
    rw [hlead, walk, hsegments, List.foldlM_append, bind_eq_ok_iff, List.append_assoc,
      List.singleton_append, hstart name []]
    simp only [hone]
    rcases hp with ⟨rfl, hne⟩ | rfl
    · rw [origin_append hne]
      rfl
    · simp only [walk_append_separator_eq_ok_iff]
      constructor
      · rintro ⟨place', hfront, hdir, rfl⟩
        exact ⟨place', ⟨place', hfront, hdir, rfl⟩, hdir, rfl⟩
      · rintro ⟨_, ⟨place', hfront, hdir, rfl⟩, -, rfl⟩
        exact ⟨_, hfront, hdir, rfl⟩

/-- A path that leads on through names leads to a place below the one that it leads on
from. -/
theorem exists_of_walk_extend (hns : ∀ n ∈ ns, IsProper n)
    (h : tree.walk (extend p ns) = .ok place) :
    ∃ place', tree.walk p = .ok place' ∧ place = place' ++ ns := by
  induction ns generalizing p with
  | nil => exact ⟨place, h, (List.append_nil place).symm⟩
  | cons n ns ih =>
      obtain ⟨next, hjoin, rfl⟩ := ih (fun m hm => hns m (List.mem_cons_of_mem n hm)) h
      obtain ⟨place', hwalk, -, rfl⟩ := (walk_join_eq_ok_iff (hns n List.mem_cons_self)).1 hjoin
      exact ⟨place', hwalk, by simp⟩

theorem walk_extend (hns : ∀ n ∈ ns, IsProper n) (hwalk : tree.walk p = .ok place)
    (hdir : ∀ front, front <+: ns → front ≠ ns → tree.at? (place ++ front) = some .directory) :
    tree.walk (extend p ns) = .ok (place ++ ns) := by
  induction ns generalizing p place with
  | nil => rwa [List.append_nil]
  | cons n ns ih =>
      have hhere := hdir [] List.nil_prefix (List.cons_ne_nil n ns).symm
      rw [List.append_nil] at hhere
      have hjoin : tree.walk (join p n) = .ok (place ++ [n]) :=
        (walk_join_eq_ok_iff (hns n List.mem_cons_self)).2 ⟨place, hwalk, hhere, rfl⟩
      have hrest := ih (fun m hm => hns m (List.mem_cons_of_mem n hm)) hjoin ?_
      · rwa [List.append_assoc] at hrest
      · intro front hfront hne
        have hlonger := hdir (n :: front) (List.cons_prefix_cons.2 ⟨rfl, hfront⟩)
          fun heq => hne (List.cons.inj heq).2
        rwa [List.append_assoc]

/-- No separator ends a path that leads to a file. -/
theorem getLast?_ne_of_resolve {contents : Contents}
    (h : tree.resolve p = .ok (place, .file contents)) : p.getLast? ≠ some separator := by
  intro hlast
  obtain ⟨front, rfl⟩ := List.getLast?_eq_some_iff.1 hlast
  obtain ⟨-, hwalk, hat⟩ := resolve_eq_ok_iff.1 h
  obtain ⟨_, -, hdir, rfl⟩ := walk_append_separator_eq_ok_iff.1 hwalk
  rw [hdir] at hat
  cases hat

end FileTree

end Phrasebook
