import Mathlib.Data.List.Nodup
import Phrasebook.Discovery
import Phrasebook.Proofs.Isolation
import Phrasebook.Proofs.Resolution

/-!
The files that discovery lists, and the paths that it lists them by.

A template is listed by the path on which it was reached: that of the place where the search
began, and the names that lead on.  So a template that is reached from two places is listed
once only if the two are spelled alike as far as they go together.  Entries that are paths
of plain names all continue the base directory, and spell what they share in the same way.
-/

namespace Phrasebook

namespace FileTree

open Phrasebook.Path

/-- What a file system can hold: each place is listed once, by names that are names. -/
structure WellFormed (tree : FileTree) : Prop where
  distinct : (tree.entries.map Prod.fst).Nodup
  proper : ∀ e ∈ tree.entries, ∀ name ∈ e.1, IsProper name
  /-- Nothing is in a file. -/
  outside : ∀ e ∈ tree.entries, e.2.isDirectory = false →
    ¬ e.1 <+: tree.workingDirectory ∧ ∀ e' ∈ tree.entries, e.1 <+: e'.1 → e'.1 = e.1

/-- The place that a path leads to, if something is there. -/
def place? (tree : FileTree) (path : Text) : Option Place :=
  (tree.resolve path).toOption.map Prod.fst

variable {tree : FileTree} {root path : Text} {ns : List Text} {place top front : Place}
  {node : FileNode} {contents : Contents}

theorem place?_eq_some_iff :
    tree.place? path = some place ↔ ∃ node, tree.resolve path = .ok (place, node) := by
  unfold place?
  cases tree.resolve path with
  | error e => simp [Except.toOption]
  | ok found => cases found; simp [Except.toOption]

/-! ### Entries -/

theorem lookup_of_mem {entries : List (Place × FileNode)}
    (hdistinct : (entries.map Prod.fst).Nodup) (h : (place, node) ∈ entries) :
    entries.lookup place = some node := by
  obtain ⟨before, after, rfl⟩ := List.append_of_mem h
  refine List.lookup_eq_some_iff.2 ⟨before, after, rfl, fun e he => ?_⟩
  rw [List.map_append, List.map_cons] at hdistinct
  have hne := (List.nodup_append.1 hdistinct).2.2 e.1 (List.mem_map_of_mem he) place
    List.mem_cons_self
  exact bne_iff_ne.2 (Ne.symm hne)

theorem mem_of_lookup {entries : List (Place × FileNode)}
    (h : entries.lookup place = some node) : (place, node) ∈ entries := by
  obtain ⟨before, after, rfl, -⟩ := List.lookup_eq_some_iff.1 h
  exact List.mem_append_right before List.mem_cons_self

theorem WellFormed.at?_of_mem (htree : tree.WellFormed) (h : (place, node) ∈ tree.entries) :
    tree.at? place = some node := by
  rw [at?, lookup_of_mem htree.distinct h]

theorem mem_of_at?_eq_file (h : tree.at? place = some (.file contents)) :
    (place, .file contents) ∈ tree.entries := by
  unfold at? at h
  split at h
  · rename_i found hlookup
    cases h
    exact mem_of_lookup hlookup
  · split at h <;> cases h

theorem WellFormed.at?_of_prefix (htree : tree.WellFormed)
    (h : (place, .file contents) ∈ tree.entries) (hfront : front <+: place)
    (hne : front ≠ place) : tree.at? front = some .directory := by
  unfold at?
  split
  · rename_i found hlookup
    cases found with
    | directory => rfl
    | file contents' =>
        have hsame := (htree.outside _ (mem_of_lookup hlookup) rfl).2 _ h hfront
        exact absurd hsame.symm hne
  · have hinner : tree.isInner front = true := by
      rw [isInner, Bool.or_eq_true]
      exact .inr (List.any_eq_true.2 ⟨_, h, List.isPrefixOf_iff_prefix.2 hfront⟩)
    rw [if_pos hinner]

theorem WellFormed.isProper (htree : tree.WellFormed)
    (h : (top ++ ns, node) ∈ tree.entries) : ∀ n ∈ ns, IsProper n :=
  fun n hn => htree.proper _ h n (List.mem_append_right top hn)

/-! ### Files below a place -/

/-- The path on which a file is reached leads to it. -/
theorem WellFormed.resolve_extend (htree : tree.WellFormed)
    (hroot : tree.resolve root = .ok (top, node))
    (h : (top ++ ns, .file contents) ∈ tree.entries) :
    tree.resolve (extend root ns) = .ok (top ++ ns, .file contents) := by
  obtain ⟨hne, hwalk, -⟩ := resolve_eq_ok_iff.1 hroot
  have hns := htree.isProper h
  refine resolve_eq_ok_iff.2 ⟨extend_ne_nil hne hns, ?_, htree.at?_of_mem h⟩
  refine FileTree.walk_extend hns hwalk fun front hfront hfrontNe => ?_
  refine htree.at?_of_prefix h ((List.prefix_append_right_inj top).2 hfront) ?_
  exact fun heq => hfrontNe (List.append_cancel_left heq)

theorem WellFormed.mem_filesUnder_iff (htree : tree.WellFormed)
    (hroot : tree.resolve root = .ok (top, node)) :
    path ∈ (tree.filesUnder root).toOption.getD [] ↔
      ∃ ns contents, (top ++ ns, .file contents) ∈ tree.entries ∧ path = extend root ns := by
  obtain ⟨-, -, hat⟩ := resolve_eq_ok_iff.1 hroot
  unfold filesUnder
  rw [hroot]
  cases node with
  | file contents =>
      have hmem := mem_of_at?_eq_file hat
      show path ∈ [root] ↔ _
      constructor
      · intro hpath
        refine ⟨[], contents, ?_, List.mem_singleton.1 hpath⟩
        rwa [List.append_nil]
      · rintro ⟨ns, contents', h, rfl⟩
        have hsame := (htree.outside _ hmem rfl).2 _ h (List.prefix_append top ns)
        rw [List.append_right_eq_self.1 hsame]
        exact List.mem_singleton_self root
  | directory =>
      show path ∈ tree.entries.filterMap _ ↔ _
      rw [List.mem_filterMap]
      constructor
      · rintro ⟨⟨place, found⟩, h, heq⟩
        cases found with
        | directory => cases heq
        | file contents =>
            simp only [Option.ite_none_right_eq_some, Option.some.injEq] at heq
            obtain ⟨hpre, rfl⟩ := heq
            obtain ⟨ns, rfl⟩ := List.isPrefixOf_iff_prefix.1 hpre
            exact ⟨ns, contents, h, by rw [List.drop_left]; rfl⟩
      · rintro ⟨ns, contents, h, rfl⟩
        refine ⟨_, h, ?_⟩
        simp [extend]

end FileTree

namespace Discovery

open FileTree Phrasebook.Path

variable {tree : FileTree} {base p q root : Text} {includes ignores : List Text}

/-- Discovery lists a path if it reaches it. -/
def keeps (base : Text) (ignores : List Text) (path : Text) : Bool :=
  isTemplate path && !(IgnoreRules.ofEntries base ignores).ignores path

theorem mem_files_iff :
    p ∈ (run tree base includes ignores).files ↔
      ∃ root ∈ (roots tree base includes).1,
        p ∈ (tree.filesUnder root).toOption.getD [] ∧ keeps base ignores p = true := by
  have hfound (root : Text) :
      (filesAt tree root).toOption.getD [] = (tree.filesUnder root).toOption.getD [] := by
    unfold filesAt
    cases tree.filesUnder root <;> rfl
  simp only [run, Text.mem_sortDistinct, List.mem_filter, List.mem_flatMap, List.mem_map,
    exists_exists_and_eq_and, hfound]
  constructor
  · rintro ⟨⟨root, hroot, hp⟩, hkeeps⟩
    exact ⟨root, hroot, hp, hkeeps⟩
  · rintro ⟨root, hroot, hp, hkeeps⟩
    exact ⟨⟨root, hroot, hp⟩, hkeeps⟩

theorem resolve_of_mem_filesUnder (h : p ∈ (tree.filesUnder root).toOption.getD []) :
    ∃ top node, tree.resolve root = .ok (top, node) := by
  unfold filesUnder at h
  cases hroot : tree.resolve root with
  | error e =>
      rw [hroot] at h
      cases h
  | ok found => exact ⟨found.1, found.2, rfl⟩

/-- A path is listed if it leads on to a template from the path of one of the roots. -/
theorem mem_files_iff_extend (htree : tree.WellFormed) :
    p ∈ (run tree base includes ignores).files ↔
      ∃ root ∈ (roots tree base includes).1, ∃ top node ns contents,
        tree.resolve root = .ok (top, node) ∧ (top ++ ns, .file contents) ∈ tree.entries ∧
          p = extend root ns ∧ keeps base ignores p = true := by
  rw [mem_files_iff]
  constructor
  · rintro ⟨root, hroot, hp, hkeeps⟩
    obtain ⟨top, node, hresolve⟩ := resolve_of_mem_filesUnder hp
    obtain ⟨ns, contents, hmem, heq⟩ := (htree.mem_filesUnder_iff hresolve).1 hp
    exact ⟨root, hroot, top, node, ns, contents, hresolve, hmem, heq, hkeeps⟩
  · rintro ⟨root, hroot, top, node, ns, contents, hresolve, hmem, heq, hkeeps⟩
    exact ⟨root, hroot, (htree.mem_filesUnder_iff hresolve).2 ⟨ns, contents, hmem, heq⟩, hkeeps⟩

/-! ### Roots that go together -/

/-- Where one root is at or above another, and a template is listed from both, the path that
leads on from the one to the other is spelled like the other, but for a separator at its
end. -/
def SpelledAlike (tree : FileTree) (keeps : Text → Bool) (roots : List Text) : Prop :=
  ∀ r ∈ roots, ∀ s ∈ roots, ∀ (top : Place) (ms ns : List Text) (contents : Contents),
    tree.place? r = some top → tree.place? s = some (top ++ ms) →
    (top ++ ms ++ ns, .file contents) ∈ tree.entries →
    keeps (extend r (ms ++ ns)) = true → keeps (extend s ns) = true →
    lead (extend r ms) = lead s

theorem lead_of_resolve_file {place : Place} {contents : Contents}
    (h : tree.resolve p = .ok (place, .file contents)) : lead p = p ++ [separator] := by
  have hne := (resolve_eq_ok_iff.1 h).1
  rw [lead, if_neg (by simp [hne]), if_neg (getLast?_ne_of_resolve h)]

/-- Both ways to a template are spelled alike if the roots are. -/
theorem extend_eq_extend_iff_lead (htree : tree.WellFormed) {r s : Text} {top : Place}
    {ms ns : List Text} {node node' : FileNode} {contents : Contents}
    (hr : tree.resolve r = .ok (top, node)) (hs : tree.resolve s = .ok (top ++ ms, node'))
    (hmem : (top ++ ms ++ ns, .file contents) ∈ tree.entries) :
    extend r (ms ++ ns) = extend s ns ↔ lead (extend r ms) = lead s := by
  rw [extend_append]
  cases ns with
  | cons n ns => exact extend_eq_extend_iff (List.cons_ne_nil n ns) (htree.isProper hmem)
  | nil =>
      rw [List.append_nil] at hmem
      have hwayr := htree.resolve_extend hr hmem
      have hways : tree.resolve s = .ok (top ++ ms, .file contents) := by
        obtain ⟨hne, hwalk, -⟩ := resolve_eq_ok_iff.1 hs
        exact resolve_eq_ok_iff.2 ⟨hne, hwalk, htree.at?_of_mem hmem⟩
      rw [lead_of_resolve_file hwayr, lead_of_resolve_file hways, List.append_left_inj]
      rfl

theorem nodup_map_place?_iff (htree : tree.WellFormed) :
    ((run tree base includes ignores).files.map tree.place?).Nodup ↔
      SpelledAlike tree (keeps base ignores) (roots tree base includes).1 := by
  have hfiles : (run tree base includes ignores).files.Nodup := Text.nodup_sortDistinct _
  rw [List.nodup_map_iff_inj_on hfiles]
  constructor
  · intro hinj r hr s hs top ms ns contents hplacer hplaces hmem hkeepsr hkeepss
    obtain ⟨node, hresolver⟩ := place?_eq_some_iff.1 hplacer
    obtain ⟨node', hresolves⟩ := place?_eq_some_iff.1 hplaces
    have hmem' : (top ++ (ms ++ ns), .file contents) ∈ tree.entries := by
      rwa [← List.append_assoc]
    refine (extend_eq_extend_iff_lead htree hresolver hresolves hmem).1 ?_
    apply hinj
    · exact (mem_files_iff_extend htree).2
        ⟨r, hr, top, node, ms ++ ns, contents, hresolver, hmem', rfl, hkeepsr⟩
    · exact (mem_files_iff_extend htree).2
        ⟨s, hs, top ++ ms, node', ns, contents, hresolves, hmem, rfl, hkeepss⟩
    · rw [place?_eq_some_iff.2 ⟨_, htree.resolve_extend hresolver hmem'⟩,
        place?_eq_some_iff.2 ⟨_, htree.resolve_extend hresolves hmem⟩, List.append_assoc]
  · intro halike p hp q hq hplace
    obtain ⟨r, hr, top, node, ns, contents, hresolver, hmemp, rfl, hkeepsp⟩ :=
      (mem_files_iff_extend htree).1 hp
    obtain ⟨s, hs, top', node', ns', contents', hresolves, hmemq, rfl, hkeepsq⟩ :=
      (mem_files_iff_extend htree).1 hq
    rw [place?_eq_some_iff.2 ⟨_, htree.resolve_extend hresolver hmemp⟩,
      place?_eq_some_iff.2 ⟨_, htree.resolve_extend hresolves hmemq⟩] at hplace
    -- One of the two roots is at or above the other.
    rcases List.append_eq_append_iff.1 (Option.some.inj hplace) with
      ⟨ms, rfl, rfl⟩ | ⟨ms, rfl, rfl⟩
    · refine (extend_eq_extend_iff_lead htree hresolver hresolves hmemq).2 ?_
      exact halike r hr s hs top ms ns' contents' (place?_eq_some_iff.2 ⟨_, hresolver⟩)
        (place?_eq_some_iff.2 ⟨_, hresolves⟩) hmemq hkeepsp hkeepsq
    · refine ((extend_eq_extend_iff_lead htree hresolves hresolver hmemp).2 ?_).symm
      exact halike s hs r hr top' ms ns contents (place?_eq_some_iff.2 ⟨_, hresolves⟩)
        (place?_eq_some_iff.2 ⟨_, hresolver⟩) hmemp hkeepsq hkeepsp

/-! ### Entries to look in -/

/-- An entry that is a path of names. -/
structure IsPlain (entry : Text) : Prop where
  isGlob : Glob.isGlob entry = false
  isProper : ∀ s ∈ segments entry, IsProper s

theorem exists_of_mem_roots (hplain : ∀ e ∈ includes, IsPlain e) (hne : includes ≠ [])
    (h : root ∈ (roots tree base includes).1) :
    ∃ e ∈ includes, root = extend base (segments e) := by
  unfold roots at h
  rw [if_neg (by simpa using hne)] at h
  obtain ⟨found, hfound, hroot⟩ := List.mem_flatMap.1 h
  obtain ⟨e, he, rfl⟩ := List.mem_map.1 hfound
  refine ⟨e, he, ?_⟩
  rw [extend_segments (hplain e he).isProper]
  unfold rootsOf at hroot
  rw [(hplain e he).isGlob, if_neg Bool.false_ne_true] at hroot
  split at hroot
  · exact List.mem_singleton.1 hroot
  · cases hroot

theorem exists_of_place?_extend {ns : List Text} {place : Place} (hns : ∀ n ∈ ns, IsProper n)
    (h : tree.place? (extend base ns) = some place) :
    ∃ top, tree.walk base = .ok top ∧ place = top ++ ns := by
  obtain ⟨node, hresolve⟩ := place?_eq_some_iff.1 h
  exact exists_of_walk_extend hns (resolve_eq_ok_iff.1 hresolve).2.1

/-- Entries that are paths of names spell alike what they share. -/
theorem spelledAlike_of_isPlain (hplain : ∀ e ∈ includes, IsPlain e) (keeps : Text → Bool) :
    SpelledAlike tree keeps (roots tree base includes).1 := by
  intro r hr s hs top ms ns contents hplacer hplaces _ _ _
  by_cases hne : includes = []
  · subst hne
    rw [List.mem_singleton.1 hr] at hplacer ⊢
    rw [List.mem_singleton.1 hs, hplacer] at hplaces
    have hms : ms = [] := List.append_right_eq_self.1 (Option.some.inj hplaces).symm
    rw [List.mem_singleton.1 hs, hms]
    rfl
  · obtain ⟨e, he, rfl⟩ := exists_of_mem_roots hplain hne hr
    obtain ⟨e', he', rfl⟩ := exists_of_mem_roots hplain hne hs
    obtain ⟨start, hstart, rfl⟩ := exists_of_place?_extend (hplain e he).isProper hplacer
    obtain ⟨start', hstart', heq⟩ := exists_of_place?_extend (hplain e' he').isProper hplaces
    rw [hstart] at hstart'
    obtain rfl := Except.ok.inj hstart'
    rw [List.append_assoc] at heq
    rw [← extend_append, List.append_cancel_left heq]

/-- Neither the order of the entries nor a repetition of one makes a difference. -/
theorem files_congr {includes' : List Text} (h : ∀ e, e ∈ includes' ↔ e ∈ includes) :
    (run tree base includes' ignores).files = (run tree base includes ignores).files := by
  have hroots (root : Text) :
      root ∈ (roots tree base includes').1 ↔ root ∈ (roots tree base includes).1 := by
    have hempty : includes' = [] ↔ includes = [] := by
      rw [List.eq_nil_iff_forall_not_mem, List.eq_nil_iff_forall_not_mem]
      simp only [h]
    by_cases hnil : includes = []
    · rw [hnil, hempty.2 hnil]
    · have hnil' : includes' ≠ [] := fun h => hnil (hempty.1 h)
      simp [roots, hnil, hnil', h]
  refine (Text.pairwise_sortDistinct _).eq_of_mem_iff (Text.pairwise_sortDistinct _) fun p => ?_
  show p ∈ (run tree base includes' ignores).files ↔ p ∈ (run tree base includes ignores).files
  rw [mem_files_iff, mem_files_iff]
  simp only [hroots]

/-! ### Templates listed once -/

/-- Each path that is listed leads to a file.  The paths lead to different files just when
the roots are spelled alike where they go together, as they are if all entries are paths of
names.  The list depends on neither the order of the entries nor their repetition. -/
theorem listed_once_iff (htree : tree.WellFormed) (base : Text) (includes ignores : List Text) :
    let files := (run tree base includes ignores).files
    (∀ p ∈ files, ∃ place contents, tree.resolve p = .ok (place, .file contents)) ∧
      ((files.map tree.place?).Nodup ↔
        SpelledAlike tree (keeps base ignores) (roots tree base includes).1) ∧
      ((∀ e ∈ includes, IsPlain e) → (files.map tree.place?).Nodup) ∧
      ∀ includes', (∀ e, e ∈ includes' ↔ e ∈ includes) →
        (run tree base includes' ignores).files = files := by
  intro files
  refine ⟨?_, nodup_map_place?_iff htree, ?_, fun includes' h => files_congr h⟩
  · intro p hp
    obtain ⟨root, -, top, node, ns, contents, hroot, hmem, rfl, -⟩ :=
      (mem_files_iff_extend htree).1 hp
    exact ⟨_, contents, htree.resolve_extend hroot hmem⟩
  · intro hplain
    exact (nodup_map_place?_iff htree).2 (spelledAlike_of_isPlain hplain _)

/-- A directory, one inside it and the first again. -/
theorem listed_once_iff_nested :
    let tree : FileTree :=
      ⟨[([['w'], "app".toList, "a.haml".toList], .file .binary),
        ([['w'], "app".toList, ['b'], "c.haml".toList], .file .binary),
        ([['w'], ['d'], "e.haml".toList], .file .binary)], [['w']]⟩
    let includes := ["app".toList, "app/b".toList, "app".toList]
    let files := ["./app/a.haml".toList, "./app/b/c.haml".toList]
    tree.WellFormed ∧ (∀ e ∈ includes, IsPlain e) ∧ (run tree ['.'] includes []).files = files ∧
      (files.map tree.place?).Nodup ∧
      (run tree ['.'] ["app/b".toList, "app".toList] []).files = files := by
  intro tree includes files
  have htree : tree.WellFormed := ⟨by decide, by decide, by decide⟩
  have hplain : ∀ e ∈ includes, IsPlain e := fun e he =>
    ⟨(by decide : ∀ e ∈ includes, Glob.isGlob e = false) e he,
      (by decide : ∀ e ∈ includes, ∀ s ∈ segments e, IsProper s) e he⟩
  have hsame (e : Text) : e ∈ ["app/b".toList, "app".toList] ↔ e ∈ includes := by
    simp only [includes, List.mem_cons, List.not_mem_nil, or_false]
    exact ⟨.inr, fun h => h.elim .inr id⟩
  have hfiles : (run tree ['.'] includes []).files = files := by decide +kernel
  obtain ⟨-, -, honce, hcongr⟩ := listed_once_iff htree ['.'] includes []
  rw [hfiles] at honce hcongr
  exact ⟨htree, hplain, hfiles, honce hplain, hcongr _ hsame⟩

/-- A pattern leads to paths without the dot of the base directory, so a template below it
is listed by two paths. -/
theorem not_forall_listed_once :
    ¬ ∀ (tree : FileTree) (base : Text) (includes ignores : List Text), tree.WellFormed →
      ((run tree base includes ignores).files.map tree.place?).Nodup := by
  intro h
  let tree : FileTree :=
    ⟨[([['w'], "app".toList, "views".toList, "a.haml".toList], .file .binary)], [['w']]⟩
  have htwice := h tree ['.'] ["app".toList, "app/*".toList] [] ⟨by decide, by decide, by decide⟩
  revert htwice
  decide +kernel

end Discovery

end Phrasebook
