import Mathlib.Data.List.Infix
import Phrasebook.Config.Find
import Phrasebook.Proofs.Parents

/-!
The search for a configuration file, and the directories that enclose its start.

The search takes components off the end of a path, one by one.  So it visits the places
that the path itself went through, the last one first.  All directories that enclose the
start are among them, in their order; but a component of two dots went up, and taking it off
goes down again, to a directory that need not enclose the start.
-/

namespace Phrasebook

namespace FileTree

open Phrasebook.Path

variable {tree : FileTree} {p name : Text} {place place' : Place} {node : FileNode}

/-! ### Directories and what is in them -/

/-- Something of this name is in the directory at a place. -/
def holds (tree : FileTree) (place : Place) (name : Text) : Bool :=
  (tree.at? (place ++ [name])).isSome

/-- The way to a directory takes no more than the steps of its path. -/
theorem walk_eq_ok_iff_steps (hp : isAbsolute p = false)
    (hdir : tree.at? place = some .directory) :
    tree.walk p = .ok place ↔
      (steps p).foldlM tree.step tree.workingDirectory = .ok place := by
  rw [steps, foldlM_filter_eq_ok_iff hdir, walk, origin, hp, if_neg Bool.false_ne_true]

theorem resolve_join_eq_ok_iff (hname : IsProper name) (hwalk : tree.walk p = .ok place)
    (hdir : tree.at? place = some .directory) :
    tree.resolve (join p name) = .ok (place', node) ↔
      place' = place ++ [name] ∧ tree.at? place' = some node := by
  rw [resolve_eq_ok_iff, walk_join_eq_ok_iff hname]
  constructor
  · rintro ⟨-, ⟨place'', hwalk', -, rfl⟩, hnode⟩
    rw [hwalk] at hwalk'
    cases hwalk'
    exact ⟨rfl, hnode⟩
  · rintro ⟨rfl, hnode⟩
    exact ⟨join_ne_nil hname p, ⟨place, hwalk, hdir, rfl⟩, hnode⟩

theorem contains_join (hname : IsProper name) (hwalk : tree.walk p = .ok place)
    (hdir : tree.at? place = some .directory) :
    tree.contains (join p name) = tree.holds place name := by
  unfold contains holds
  cases hat : tree.at? (place ++ [name]) with
  | some node => rw [(resolve_join_eq_ok_iff hname hwalk hdir).2 ⟨rfl, hat⟩]; rfl
  | none =>
      cases hresolve : tree.resolve (join p name) with
      | error e => rfl
      | ok found =>
          obtain ⟨hplace, hnode⟩ := (resolve_join_eq_ok_iff hname hwalk hdir).1 hresolve
          rw [hplace, hat] at hnode
          cases hnode

/-- The places that a path goes through, the last one first. -/
def visited (tree : FileTree) (p : Text) : List Place :=
  ((steps p).scanl descend tree.workingDirectory).reverse

theorem visited_of_steps_eq_nil (h : steps p = []) :
    tree.visited p = [tree.workingDirectory] := by
  rw [visited, h]
  rfl

theorem visited_of_steps_eq_concat {q n : Text} {ns : List Text} (hp : steps p = ns ++ [n])
    (hq : steps q = ns) :
    tree.visited p = descend (ns.foldl descend tree.workingDirectory) n :: tree.visited q := by
  rw [visited, hp, List.scanl_append, visited, hq]
  simp

/-- The directories that enclose a place, from the place itself up to the working
directory. -/
def enclosing (tree : FileTree) (place : Place) : List Place :=
  (place.inits.filter fun d => tree.workingDirectory.isPrefixOf d).reverse

theorem mem_enclosing_iff {d : Place} :
    d ∈ tree.enclosing place ↔ d <+: place ∧ tree.workingDirectory <+: d := by
  simp [enclosing]

theorem pairwise_inits {α : Type} (l : List α) : l.inits.Pairwise fun a b => a <+: b := by
  induction l with
  | nil => exact List.pairwise_singleton _ _
  | cons a l ih =>
      rw [List.inits_cons]
      refine List.pairwise_cons.2 ⟨fun b _ => List.nil_prefix, ?_⟩
      exact List.pairwise_map.2 (ih.imp fun h => (List.prefix_cons_inj a).2 h)

/-- Each directory is above those that come before it. -/
theorem pairwise_enclosing (tree : FileTree) (place : Place) :
    (tree.enclosing place).Pairwise fun a b => b <+: a :=
  List.pairwise_reverse.2 ((pairwise_inits place).filter _)

end FileTree

/-! ### Walks -/

section Walk

variable {α β : Type}

/-- What is left of a walk from some place that it comes through. -/
theorem exists_of_scanl_eq_append {f : β → α → β} {s b : β} {l : List α} {front back : List β}
    (h : l.scanl f s = front ++ b :: back) :
    ∃ l' : List α, b :: back = l'.scanl f b ∧ l'.foldl f b = l.foldl f s := by
  induction front generalizing s l with
  | nil =>
      cases l with
      | nil =>
          obtain ⟨rfl, rfl⟩ := List.cons.inj h
          exact ⟨[], rfl, rfl⟩
      | cons a l =>
          rw [List.scanl_cons] at h
          obtain ⟨rfl, rfl⟩ := List.cons.inj h
          exact ⟨a :: l, List.scanl_cons.symm, rfl⟩
  | cons c front ih =>
      cases l with
      | nil => simp at h
      | cons a l =>
          rw [List.scanl_cons] at h
          obtain ⟨l', hback, hend⟩ := ih (List.cons.inj h).2
          exact ⟨l', hback, hend⟩

end Walk

namespace Path

variable {d place : Place} {ns : List Text}

theorem descend_cases (place : Place) (n : Text) :
    descend place n <+: place ∨ ∃ m, descend place n = place ++ [m] := by
  unfold descend
  split
  · exact .inl List.prefix_rfl
  · split
    · exact .inl (List.dropLast_prefix place)
    · exact .inr ⟨n, rfl⟩

theorem prefix_descend {n : Text} (hn : n ≠ ['.', '.']) (place : Place) :
    place <+: descend place n := by
  unfold descend
  split
  · exact List.prefix_rfl
  · exact List.prefix_append place [n]

theorem prefix_foldl_descend (hns : ['.', '.'] ∉ ns) (place : Place) :
    place <+: ns.foldl descend place := by
  induction ns generalizing place with
  | nil => exact List.prefix_rfl
  | cons n ns ih =>
      rw [List.mem_cons, not_or] at hns
      exact (prefix_descend (Ne.symm hns.1) place).trans (ih hns.2 _)

/-- A walk without two dots goes down only. -/
theorem between_of_mem_scanl (hns : ['.', '.'] ∉ ns) (hd : d ∈ ns.scanl descend place) :
    d <+: ns.foldl descend place ∧ place <+: d := by
  induction ns generalizing place with
  | nil =>
      obtain rfl := List.mem_singleton.1 hd
      exact ⟨List.prefix_rfl, List.prefix_rfl⟩
  | cons n ns ih =>
      rw [List.scanl_cons] at hd
      rcases List.mem_cons.1 hd with rfl | hd
      · exact ⟨prefix_foldl_descend hns d, List.prefix_rfl⟩
      · rw [List.mem_cons, not_or] at hns
        obtain ⟨hbelow, habove⟩ := ih hns.2 hd
        exact ⟨hbelow, (prefix_descend (Ne.symm hns.1) place).trans habove⟩

/-- A walk comes into a directory only through that directory. -/
theorem mem_scanl_of_prefix (hend : d <+: ns.foldl descend place)
    (hstart : d <+: place → d = place) : d ∈ ns.scanl descend place := by
  induction ns generalizing place with
  | nil => simpa using hstart hend
  | cons n ns ih =>
      rw [List.scanl_cons]
      by_cases heq : d = place
      · rw [heq]
        exact List.mem_cons_self
      · refine List.mem_cons_of_mem place (ih hend ?_)
        have houtside : ¬ d <+: place := fun h => heq (hstart h)
        intro hnext
        rcases descend_cases place n with hup | ⟨m, hdown⟩
        · exact absurd (hnext.trans hup) houtside
        · rw [hdown] at hnext ⊢
          rcases List.prefix_concat_iff.1 hnext with rfl | hbefore
          · rfl
          · exact absurd hbefore houtside

end Path

/-! ### The nearest configuration file -/

namespace Config

open FileTree Phrasebook.Path

variable {tree : FileTree} {p : Text} {d place : Place} {ds : List Place}

/-- The search goes no further than this directory. -/
def stops (tree : FileTree) (d : Place) : Bool :=
  tree.holds d fileName || tree.holds d ".git".toList

/-- The first of some directories with a configuration file, if no directory before it holds
a repository. -/
def nearest? (tree : FileTree) (ds : List Place) : Option Place :=
  (ds.find? (stops tree)).filter fun d => tree.holds d fileName

/-- The path that was found is one of the configuration file in the given directory. -/
def IsOf (tree : FileTree) (found : Option Text) : Option Place → Prop
  | none => found = none
  | some d => ∃ path node, found = some path ∧
      tree.resolve path = .ok (d ++ [fileName], node)

theorem IsOf.iff_eq {found : Option Text} {a b : Option Place} (h : IsOf tree found a) :
    IsOf tree found b ↔ b = a := by
  refine ⟨fun h' => ?_, fun heq => heq ▸ h⟩
  cases a with
  | none =>
      cases b with
      | none => rfl
      | some d =>
          obtain ⟨path, node, hfound, -⟩ := h'
          rw [show found = none from h] at hfound
          cases hfound
  | some d =>
      obtain ⟨path, node, rfl, hresolve⟩ := h
      cases b with
      | none => cases h'
      | some d' =>
          obtain ⟨path', node', heq, hresolve'⟩ := h'
          cases heq
          rw [hresolve] at hresolve'
          have hplaces := congrArg Prod.fst (Except.ok.inj hresolve')
          exact congrArg some (List.append_cancel_right hplaces).symm

theorem isProper_fileName : IsProper fileName := by
  constructor <;> decide

theorem isProper_repository : IsProper ".git".toList := by
  constructor <;> decide

theorem nearest?_cons_of_stops (h : stops tree d = true) :
    nearest? tree (d :: ds) = if tree.holds d fileName then some d else none := by
  rw [nearest?, List.find?_cons_of_pos h]
  cases hd : tree.holds d fileName <;> simp [hd]

theorem nearest?_cons_of_not_stops (h : stops tree d = false) :
    nearest? tree (d :: ds) = nearest? tree ds := by
  rw [nearest?, List.find?_cons_of_neg (by simp [h])]
  rfl

/-- One directory is searched as what is in it tells. -/
theorem isOf_findIn_cons {later : List Text} (hwalk : tree.walk p = .ok d)
    (hdir : tree.at? d = some .directory)
    (hlater : stops tree d = false → IsOf tree (findIn tree later) (nearest? tree ds)) :
    IsOf tree (findIn tree (p :: later)) (nearest? tree (d :: ds)) := by
  have hconfig := contains_join isProper_fileName hwalk hdir
  have hrepository := contains_join isProper_repository hwalk hdir
  simp only [findIn, hconfig, hrepository]
  cases hholds : tree.holds d fileName with
  | true =>
      have hstops : stops tree d = true := by rw [stops, hholds, Bool.true_or]
      rw [nearest?_cons_of_stops hstops, hholds]
      obtain ⟨node, hnode⟩ := Option.isSome_iff_exists.1 hholds
      exact ⟨_, node, rfl, (resolve_join_eq_ok_iff isProper_fileName hwalk hdir).2 ⟨rfl, hnode⟩⟩
  | false =>
      cases hgit : tree.holds d ".git".toList with
      | true =>
          have hstops : stops tree d = true := by rw [stops, hgit, Bool.or_true]
          rw [nearest?_cons_of_stops hstops, hholds]
          rfl
      | false =>
          have hstops : stops tree d = false := by rw [stops, hholds, hgit, Bool.or_false]
          rw [nearest?_cons_of_not_stops hstops]
          exact hlater hstops

/-- The search finds the nearest file in the directories that the path goes through. -/
theorem isOf_findIn_searchPath {fuel : Nat} (hp : isAbsolute p = false)
    (hwalk : tree.walk p = .ok place) (hdir : tree.at? place = some .directory)
    (hfuel : p.length < fuel) :
    IsOf tree (findIn tree (searchPath p fuel)) (nearest? tree (tree.visited p)) := by
  induction fuel generalizing p place with
  | zero => exact absurd hfuel (Nat.not_lt_zero _)
  | succ fuel ih =>
      have hsteps := (walk_eq_ok_iff_steps hp hdir).1 hwalk
      unfold searchPath
      cases hparent : parent? p with
      | none =>
          have hnil := steps_of_parent?_eq_none hp hparent
          rw [hnil] at hsteps
          cases hsteps
          rw [visited_of_steps_eq_nil hnil]
          exact isOf_findIn_cons hwalk hdir fun _ => rfl
      | some q =>
          obtain ⟨hpre, hne, hfront⟩ := steps_of_parent?_eq_some hp hparent
          have hq : isAbsolute q = false := by
            obtain ⟨t, rfl⟩ := hpre
            cases q with
            | nil => rfl
            | cons c q => exact hp
          have hlength : q.length < fuel := by
            have hle := hpre.length_le
            have hlt : q.length ≠ p.length := fun h => hne (hpre.eq_of_length h)
            omega
          rcases List.eq_nil_or_concat (steps p) with hnil | ⟨ns, n, hconcat⟩
          · -- A dot is all there is, and what is left of it is the working directory too.
            rw [hnil] at hsteps hfront
            cases hsteps
            have hwalkq := (walk_eq_ok_iff_steps hq hdir).2 (by rw [hfront]; rfl)
            have hrest := ih hq hwalkq hdir hlength
            rw [visited_of_steps_eq_nil hfront] at hrest
            rw [visited_of_steps_eq_nil hnil]
            refine isOf_findIn_cons hwalk hdir fun hstops => ?_
            rwa [nearest?_cons_of_not_stops hstops] at hrest
          · rw [List.concat_eq_append] at hconcat
            rw [hconcat, List.dropLast_concat] at hfront
            rw [hconcat, List.foldlM_append] at hsteps
            obtain ⟨above, hfirst, hlast⟩ := bind_eq_ok_iff.1 hsteps
            obtain ⟨habove, hrest⟩ := foldlM_cons_eq_ok_iff.1 hlast
            obtain rfl := Except.ok.inj hrest
            have hwalkq := (walk_eq_ok_iff_steps hq habove).2 (by rw [hfront]; exact hfirst)
            rw [visited_of_steps_eq_concat hconcat hfront, ← eq_foldl_of_foldlM hfirst]
            exact isOf_findIn_cons hwalk hdir fun _ => ih hq hwalkq habove hlength

section

variable (hend : (steps p).foldl descend tree.workingDirectory = place)

include hend

/-- The first of the visited directories to stop the search, if it encloses the end of the
path, is also the first of the enclosing ones to stop it. -/
theorem find?_enclosing_of_find?_visited
    (hd : (tree.visited p).find? (stops tree) = some d) (henclosing : d ∈ tree.enclosing place) :
    (tree.enclosing place).find? (stops tree) = some d := by
  obtain ⟨hstops, later, earlier, hvisited, hgo⟩ := List.find?_eq_some_iff_append.1 hd
  have hscan := congrArg List.reverse hvisited
  rw [visited, List.reverse_reverse, List.reverse_append, List.reverse_cons, List.append_assoc,
    List.singleton_append] at hscan
  obtain ⟨rest, hrest, hlast⟩ := exists_of_scanl_eq_append hscan
  obtain ⟨d', hd'⟩ : ∃ d', (tree.enclosing place).find? (stops tree) = some d' :=
    Option.isSome_iff_exists.1 (List.find?_isSome.2 ⟨d, henclosing, hstops⟩)
  obtain ⟨hstops', before, after, hsplit, hbefore⟩ := List.find?_eq_some_iff_append.1 hd'
  -- The first one is no further out than `d`, so the way from `d` on comes to it.
  have habove : d <+: d' := by
    have hpairs := tree.pairwise_enclosing place
    rw [hsplit] at henclosing hpairs
    rcases List.mem_append.1 henclosing with hmem | hmem
    · have hnot := hbefore d hmem
      rw [hstops] at hnot
      cases hnot
    · rcases List.mem_cons.1 hmem with rfl | hmem
      · exact List.prefix_rfl
      · exact (List.pairwise_cons.1 (List.pairwise_append.1 hpairs).2.1).1 d hmem
  have hway : d' ∈ rest.scanl descend d := by
    refine mem_scanl_of_prefix ?_ ?_
    · rw [hlast, hend]
      exact (mem_enclosing_iff.1 (List.mem_of_find?_eq_some hd')).1
    · intro hbelow
      exact hbelow.eq_of_length (Nat.le_antisymm hbelow.length_le habove.length_le)
  rw [← hrest] at hway
  rcases List.mem_cons.1 hway with rfl | hlater
  · exact hd'
  · have hnot := hgo d' (List.mem_reverse.1 hlater)
    rw [hstops'] at hnot
    cases hnot

/-- All directories that enclose the end of a path are among those it goes through. -/
theorem enclosing_subset_visited : tree.enclosing place ⊆ tree.visited p := by
  intro d hd
  obtain ⟨hbelow, htop⟩ := mem_enclosing_iff.1 hd
  rw [visited, List.mem_reverse]
  refine mem_scanl_of_prefix (hend ▸ hbelow) fun h => ?_
  exact h.eq_of_length (Nat.le_antisymm h.length_le htop.length_le)

/-- When the nearest file among the directories that a path goes through is also the nearest
among those that enclose its end. -/
theorem nearest?_enclosing_eq_iff :
    nearest? tree (tree.enclosing place) = nearest? tree (tree.visited p) ↔
      ∀ d, (tree.visited p).find? (stops tree) = some d →
        d ∈ tree.enclosing place ∨
          tree.holds d fileName = false ∧ nearest? tree (tree.enclosing place) = none := by
  constructor
  · intro heq d hd
    cases hholds : tree.holds d fileName with
    | false =>
        refine .inr ⟨rfl, ?_⟩
        rw [heq, nearest?, hd, Option.filter_some_neg (by simp [hholds])]
    | true =>
        have hnearest : nearest? tree (tree.enclosing place) = some d := by
          rw [heq, nearest?, hd]
          exact Option.filter_some_pos hholds
        obtain ⟨hfind, -⟩ := Option.filter_eq_some_iff.1 hnearest
        exact .inl (List.mem_of_find?_eq_some hfind)
  · intro h
    cases hfind : (tree.visited p).find? (stops tree) with
    | none =>
        have hnone : (tree.enclosing place).find? (stops tree) = none := by
          rw [List.find?_eq_none] at hfind ⊢
          exact fun d hd => hfind d (enclosing_subset_visited hend hd)
        rw [nearest?, nearest?, hfind, hnone]
    | some d =>
        rcases h d hfind with hd | ⟨hholds, hnone⟩
        · rw [nearest?, nearest?, hfind, find?_enclosing_of_find?_visited hend hfind hd]
        · rw [hnone, nearest?, hfind, Option.filter_some_neg (by simp [hholds])]

/-- Without two dots, a path goes through nothing but directories that enclose its end. -/
theorem visited_subset_enclosing (hup : ['.', '.'] ∉ segments p) :
    tree.visited p ⊆ tree.enclosing place := by
  intro d hd
  rw [visited, List.mem_reverse] at hd
  rw [mem_enclosing_iff, ← hend]
  exact between_of_mem_scanl (fun h => hup (List.mem_of_mem_filter h)) hd

end

/-- The search finds the nearest file in the directories that the path of its start goes
through.  That is the nearest one in those that enclose the start if the first directory to
stop the search is among them, or holds a repository alone while no file is there to be
found; a path without two dots goes through no other directories. -/
theorem nearest_of_visited {start : Text} (hstart : isAbsolute start = false)
    (hplace : tree.resolve start = .ok (place, .directory)) :
    IsOf tree (find? tree start) (nearest? tree (tree.visited start)) ∧
      (IsOf tree (find? tree start) (nearest? tree (tree.enclosing place)) ↔
        ∀ d, (tree.visited start).find? (stops tree) = some d →
          d ∈ tree.enclosing place ∨
            tree.holds d fileName = false ∧ nearest? tree (tree.enclosing place) = none) ∧
      (['.', '.'] ∉ segments start →
        IsOf tree (find? tree start) (nearest? tree (tree.enclosing place))) := by
  obtain ⟨-, hwalk, hdir⟩ := resolve_eq_ok_iff.1 hplace
  have hend := (eq_foldl_of_foldlM ((walk_eq_ok_iff_steps hstart hdir).1 hwalk)).symm
  have hfound : IsOf tree (find? tree start) (nearest? tree (tree.visited start)) :=
    isOf_findIn_searchPath hstart hwalk hdir (Nat.lt_succ_self _)
  have hiff := hfound.iff_eq.trans (nearest?_enclosing_eq_iff hend)
  refine ⟨hfound, hiff, fun hup => hiff.2 fun d hd => .inl ?_⟩
  exact visited_subset_enclosing hend hup (List.mem_of_find?_eq_some hd)

/-- The file of the working directory is found from a directory in it, on a path that leads
through another one without such a file. -/
theorem nearest_of_visited_outer :
    let tree : FileTree :=
      ⟨[([['w'], fileName], .file .binary), ([['w'], ['a'], ['x']], .file .binary),
        ([['w'], ['b'], ['x']], .file .binary), ([".git".toList], .directory)], [['w']]⟩
    let start := "a/..//./b".toList
    isAbsolute start = false ∧ tree.resolve start = .ok ([['w'], ['b']], .directory) ∧
      tree.visited start = [[['w'], ['b']], [['w']], [['w'], ['a']], [['w']]] ∧
      tree.enclosing [['w'], ['b']] = [[['w'], ['b']], [['w']]] ∧
      ∃ path node, find? tree start = some path ∧
        tree.resolve path = .ok ([['w'], fileName], node) := by
  intro tree start
  have hplace : tree.resolve start = .ok ([['w'], ['b']], .directory) := rfl
  have hnearest : nearest? tree (tree.enclosing [['w'], ['b']]) = some [['w']] := by decide
  refine ⟨rfl, hplace, by decide, by decide, ?_⟩
  have hiff := (nearest_of_visited rfl hplace).2.1
  rw [hnearest] at hiff
  refine hiff.2 fun d hd => .inl ?_
  have hfirst : (tree.visited start).find? (stops tree) = some [['w']] := by decide
  rw [hfirst] at hd
  cases hd
  decide

/-- Two dots lead the search astray: taken off, they leave the path of a directory beside
the start, and a file there is found. -/
theorem not_forall_isOf_nearest_enclosing :
    ¬ ∀ (tree : FileTree) (start : Text) (place : Place), isAbsolute start = false →
      tree.resolve start = .ok (place, .directory) →
      (∀ d ∈ tree.visited start, tree.workingDirectory <+: d) →
      IsOf tree (find? tree start) (nearest? tree (tree.enclosing place)) := by
  intro h
  let tree : FileTree :=
    ⟨[([['w'], ['a'], fileName], .file .binary), ([['w'], ['b'], ['x']], .file .binary)], [['w']]⟩
  have hfound := h tree "a/../b".toList [['w'], ['b']] rfl rfl (by decide)
  have hnearest : nearest? tree (tree.enclosing [['w'], ['b']]) = none := by decide
  rw [hnearest] at hfound
  have hpath : find? tree "a/../b".toList = some ("a/".toList ++ fileName) := by decide
  rw [show find? tree "a/../b".toList = none from hfound] at hpath
  cases hpath

end Config

end Phrasebook
