import Mathlib.Data.List.Sort
import Phrasebook.CommandLine.Run
import Phrasebook.Proofs.LocationOrder

/-!
Templates of a batch do not disturb each other.

The paths of a batch are sorted and each is taken once, so neither their order nor
their number matters.  All that comes from a template carries its path: its msgids in
their locations, its issues in their file.  What a batch has of one path is therefore
what the template there gives on its own, and one that fails leaves an error and
nothing else.
-/

namespace Phrasebook

/-! ### Sorting -/

theorem Text.sortDistinct_congr {ts us : List Text} (h : ∀ t, t ∈ ts ↔ t ∈ us) :
    sortDistinct ts = sortDistinct us := by
  refine (pairwise_sortDistinct ts).eq_of_mem_iff (pairwise_sortDistinct us) ?_
  intro t
  rw [mem_sortDistinct, mem_sortDistinct, h]

theorem Text.nodup_sortDistinct (ts : List Text) : (sortDistinct ts).Nodup :=
  (pairwise_sortDistinct ts).nodup

namespace Issue

theorem transCmp_text (key : Issue → Text) :
    Std.TransCmp fun i j => compareOfLessAndEq (key i) (key j) := by
  let _ : Ord Text := ⟨fun a b => compareOfLessAndEq a b⟩
  -- The order is named, since a linear order of characters gives lists another one.
  have : Std.TransOrd Text :=
    @Std.TransOrd.compareOfLessAndEq_of_antisymm_of_trans_of_total_of_not_le Text _ List.instLE
      _ _ _ List.le_antisymm List.le_trans List.le_total List.not_le
  exact inferInstanceAs (Std.TransCmp (compareOn key))

theorem transCmp_nat (key : Issue → Nat) :
    Std.TransCmp fun i j => compareOfLessAndEq (key i) (key j) :=
  inferInstanceAs (Std.TransCmp (compareOn key))

/-- The keys of an issue are compared one after the other. -/
instance : Std.TransCmp compare :=
  have := transCmp_text file
  have := transCmp_nat line
  have := transCmp_nat column
  have := transCmp_nat rank
  have := transCmp_text message
  inferInstanceAs (Std.TransCmp (compareLex _ (compareLex _ (compareLex _ (compareLex _ _)))))

theorem pairwise_sort (is : List Issue) : (sort is).Pairwise fun i j => (compare i j).isLE := by
  refine List.pairwise_mergeSort ?_ ?_ is
  · intro i j k hij hjk
    exact Std.TransCmp.isLE_trans hij hjk
  · intro i j
    have hswap : compare j i = (compare i j).swap := Std.OrientedCmp.eq_swap
    rw [hswap]
    cases compare i j <;> rfl

theorem sort_perm (is : List Issue) : (sort is).Perm is :=
  List.mergeSort_perm is _

end Issue

/-! ### What carries a path -/

/-- Of what several keys give, the part with one key is what that key gives. -/
theorem filter_flatMap_key {κ β : Type} [DecidableEq κ] {keys : List κ} {f : κ → List β}
    {key : β → κ} (hkey : ∀ k ∈ keys, ∀ b ∈ f k, key b = k) (hnodup : keys.Nodup) {k : κ}
    (hk : k ∈ keys) : (keys.flatMap f).filter (fun b => key b = k) = f k := by
  have hself : ∀ j ∈ keys, (f j).filter (fun b => key b = k) = if j = k then f j else [] := by
    intro j hj
    by_cases hjk : j = k
    · rw [if_pos hjk, List.filter_eq_self]
      intro b hb
      simp [hkey j hj b hb, hjk]
    · rw [if_neg hjk, List.filter_eq_nil_iff]
      intro b hb
      simp [hkey j hj b hb, hjk]
  obtain ⟨before, after, rfl⟩ := List.append_of_mem hk
  have hbefore : k ∉ before := fun hmem =>
    (List.nodup_append.1 hnodup).2.2 k hmem k List.mem_cons_self rfl
  have hafter : k ∉ after := (List.nodup_cons.1 (List.nodup_append.1 hnodup).2.1).1
  have hnone {js : List κ} (hjs : ∀ j ∈ js, j ∈ before ++ k :: after) (hmem : k ∉ js) :
      (js.flatMap f).filter (fun b => key b = k) = [] := by
    rw [List.filter_flatMap, List.flatMap_eq_nil_iff]
    intro j hj
    have hne : j ≠ k := by
      rintro rfl
      exact hmem hj
    rw [hself j (hjs j hj), if_neg hne]
  rw [List.flatMap_append, List.flatMap_cons, List.filter_append, List.filter_append,
    hnone (fun j hj => List.mem_append_left _ hj) hbefore,
    hnone (fun j hj => List.mem_append_right _ (List.mem_cons_of_mem k hj)) hafter,
    hself k hk, if_pos rfl, List.nil_append, List.append_nil]

theorem TemplateFailure.file_issue (path : Text) (f : TemplateFailure) :
    (f.issue path).file = path := by
  cases f <;> rfl

theorem LiteralWarning.file_issue (path source : Text) (w : LiteralWarning) :
    (w.issue path source).file = path := by
  simp only [issue]
  split <;> rfl

theorem LiteralWarning.severity_issue (path source : Text) (w : LiteralWarning) :
    (w.issue path source).severity = .warning := by
  simp only [issue]
  split <;> rfl

namespace Batch

variable {read : Text → Except FileError Text} {paths : List Text} {path : Text} {i : Issue}

theorem file_of_mem_issuesOf {outcome : Except TemplateFailure (Text × Extraction)}
    (h : i ∈ issuesOf (path, outcome)) : i.file = path := by
  cases outcome with
  | ok p =>
      obtain ⟨w, -, rfl⟩ := List.mem_map.1 h
      exact w.file_issue path p.1
  | error f =>
      rw [List.mem_singleton.1 h]
      exact f.file_issue path

/-! ### One path -/

/-- The locations in the template at a path are those found in it alone. -/
theorem filter_locations (hpath : path ∈ paths) (t : Text) :
    ((ofPaths read paths).catalog.locations t).filter (fun location => location.file = path) =
      (contributed (extractFile read path)).locations t := by
  rw [locations_ofPaths]
  refine filter_flatMap_key ?_ (Text.nodup_sortDistinct paths) (Text.mem_sortDistinct.2 hpath)
  intro path' _ location hlocation
  obtain ⟨-, -, -, -, hfile, -⟩ := exists_of_mem_contributed hlocation
  exact hfile

theorem issues_perm (read : Text → Except FileError Text) (paths : List Text) :
    (ofPaths read paths).issues.Perm
      ((Text.sortDistinct paths).flatMap fun path => issuesOf (path, extractFile read path)) := by
  refine (Issue.sort_perm _).trans ?_
  rw [List.flatMap_map]

/-- The issues of the template at a path are those that it has alone. -/
theorem filter_issues_perm (read : Text → Except FileError Text) (hpath : path ∈ paths) :
    ((ofPaths read paths).issues.filter fun i => i.file = path).Perm
      (issuesOf (path, extractFile read path)) := by
  refine ((issues_perm read paths).filter _).trans ?_
  rw [filter_flatMap_key _ (Text.nodup_sortDistinct paths) (Text.mem_sortDistinct.2 hpath)]
  intro path' _ i hi
  exact file_of_mem_issuesOf hi

theorem file_mem_of_mem_issues (h : i ∈ (ofPaths read paths).issues) : i.file ∈ paths := by
  obtain ⟨path, hpath, hi⟩ := List.mem_flatMap.1 ((issues_perm read paths).subset h)
  rw [file_of_mem_issuesOf hi]
  exact Text.mem_sortDistinct.1 hpath

/-! ### Whole batches -/

theorem catalog_ofPaths (read : Text → Except FileError Text) (paths : List Text) :
    (ofPaths read paths).catalog =
      ((Text.sortDistinct paths).filterMap fun path =>
        (extractFile read path).toOption.map fun p => p.2.catalog).foldl Catalog.merge .empty := by
  have hskip (files : List Text) (c : Catalog) :
      (files.map fun path => contributed (extractFile read path)).foldl Catalog.merge c =
        (files.filterMap fun path =>
          (extractFile read path).toOption.map fun p => p.2.catalog).foldl Catalog.merge c := by
    induction files generalizing c with
    | nil => rfl
    | cons path files ih =>
        rw [List.map_cons, List.foldl_cons, ih, List.filterMap_cons]
        cases extractFile read path <;> rfl
  have hcatalog : (ofPaths read paths).catalog =
      catalogOf ((Text.sortDistinct paths).map fun path => (path, extractFile read path)) := rfl
  rw [hcatalog, catalogOf_eq_foldl, List.map_map]
  exact hskip _ _

theorem exists_error_iff :
    (∃ i ∈ (ofPaths read paths).issues, i.severity = .error) ↔
      ∃ path ∈ paths, ∃ failure, extractFile read path = .error failure := by
  constructor
  · rintro ⟨i, hi, herror⟩
    obtain ⟨path, hpath, hi⟩ := List.mem_flatMap.1 ((issues_perm read paths).subset hi)
    refine ⟨path, Text.mem_sortDistinct.1 hpath, ?_⟩
    cases hfile : extractFile read path with
    | error failure => exact ⟨failure, rfl⟩
    | ok p =>
        -- A template that was processed has warnings only.
        rw [hfile] at hi
        obtain ⟨w, -, rfl⟩ := List.mem_map.1 hi
        rw [w.severity_issue] at herror
        cases herror
  · rintro ⟨path, hpath, failure, hfile⟩
    refine ⟨failure.issue path, ?_, rfl⟩
    refine (issues_perm read paths).mem_iff.2 (List.mem_flatMap.2 ⟨path, ?_, ?_⟩)
    · exact Text.mem_sortDistinct.2 hpath
    · rw [hfile]
      exact List.mem_singleton_self _

/-- What a batch has of each of its templates. -/
structure Isolated (read : Text → Except FileError Text) (paths : List Text) (b : Batch) :
    Prop where
  /-- The catalog is merged in the order of the paths. -/
  catalog : ∃ files : List Text, files.Pairwise (· < ·) ∧ (∀ path, path ∈ files ↔ path ∈ paths) ∧
    b.catalog = (files.filterMap fun path =>
      (extractFile read path).toOption.map fun p => p.2.catalog).foldl Catalog.merge .empty
  processed : ∀ path ∈ paths, ∀ source found, extractFile read path = .ok (source, found) →
    (∀ msgid, (b.catalog.locations msgid).filter (fun location => location.file = path) =
      found.catalog.locations msgid) ∧
    (b.issues.filter fun i => i.file = path).Perm
      (found.warnings.map (LiteralWarning.issue path source)) ∧
    ∀ w ∈ found.warnings, (w.issue path source).severity = .warning
  failed : ∀ path ∈ paths, ∀ failure, extractFile read path = .error failure →
    (∀ msgid, ∀ location ∈ b.catalog.locations msgid, location.file ≠ path) ∧
    (b.issues.filter fun i => i.file = path) = [failure.issue path] ∧
    (failure.issue path).severity = .error
  /-- No issue comes from elsewhere. -/
  covered : ∀ i ∈ b.issues, i.file ∈ paths
  order : b.issues.Pairwise fun i j => (Issue.compare i j).isLE

theorem isolated_ofPaths (read : Text → Except FileError Text) (paths : List Text) :
    Isolated read paths (ofPaths read paths) where
  catalog := ⟨Text.sortDistinct paths, Text.pairwise_sortDistinct paths,
    fun _ => Text.mem_sortDistinct, catalog_ofPaths read paths⟩
  processed := by
    intro path hpath source found hfile
    refine ⟨?_, ?_, fun w _ => w.severity_issue path source⟩
    · intro msgid
      rw [filter_locations hpath, hfile]
      rfl
    · have hissues := filter_issues_perm read hpath
      rwa [hfile] at hissues
  failed := by
    intro path hpath failure hfile
    refine ⟨?_, ?_, rfl⟩
    · intro msgid location hlocation heq
      have hnone : ((ofPaths read paths).catalog.locations msgid).filter
          (fun location => location.file = path) = [] := by
        rw [filter_locations hpath, hfile]
        rfl
      simpa [heq] using List.filter_eq_nil_iff.1 hnone location hlocation
    · have hissues := filter_issues_perm read hpath
      rw [hfile] at hissues
      exact List.perm_singleton.1 hissues
  covered := fun _ => file_mem_of_mem_issues
  order := Issue.pairwise_sort _

end Batch

namespace CommandLine

theorem statusOf_eq_failure_iff {is : List Issue} :
    statusOf is = .failure ↔ ∃ i ∈ is, i.severity = .error := by
  simp [statusOf, Issue.count, List.countP_pos_iff]

theorem statusOf_eq_success_iff {is : List Issue} :
    statusOf is = .success ↔ ¬ ∃ i ∈ is, i.severity = .error := by
  rw [← statusOf_eq_failure_iff, statusOf]
  split <;> simp

theorem status_extract {s : Surroundings} {paths : List Text} (hpaths : paths ≠ [])
    (format : Report.Format) (common : Common) :
    (extract s paths format common).status =
      statusOf (Batch.ofPaths s.tree.readText paths).issues := by
  have hselect : select s paths common = .ok ⟨Batch.ofPaths s.tree.readText paths, []⟩ := by
    rw [select, if_neg (by simpa using hpaths)]
    rfl
  rw [extract, hselect]

/-- A batch depends on which paths it is given and not on their order or number.  It
has of each template what that has alone, and the exit status tells whether one of
them failed. -/
theorem batch_isolated (read : Text → Except FileError Text) (paths : List Text) :
    let batch := Batch.ofPaths read paths
    let fails := ∃ path ∈ paths, ∃ failure, extractFile read path = .error failure
    (∀ paths', (∀ path, path ∈ paths' ↔ path ∈ paths) → Batch.ofPaths read paths' = batch) ∧
      Batch.Isolated read paths batch ∧
      (statusOf batch.issues = .failure ↔ fails) ∧
      (statusOf batch.issues = .success ↔ ¬ fails) ∧
      ∀ (s : Surroundings) (format : Report.Format) (common : Common),
        s.tree.readText = read → paths ≠ [] →
          (extract s paths format common).status = statusOf batch.issues := by
  intro batch fails
  refine ⟨?_, Batch.isolated_ofPaths read paths, ?_, ?_, ?_⟩
  · intro paths' hmem
    simp only [batch, Batch.ofPaths, Text.sortDistinct_congr hmem]
  · exact statusOf_eq_failure_iff.trans Batch.exists_error_iff
  · exact statusOf_eq_success_iff.trans (not_congr Batch.exists_error_iff)
  · rintro s format common rfl hpaths
    exact status_extract hpaths format common

/-- One template has a literal that cannot be decoded, one fails after a line of text
that is in the other as well, and one is missing. -/
theorem batch_isolated_mixed :
    let good := "Hi\n:javascript\n  f(_('\\x'))".toList
    let bad := "Hi\n#\x7b".toList
    let s : Surroundings :=
      { tree := ⟨[([['a']], .file (.text good)), ([['b']], .file (.text bad))], []⟩
        input := .binary
        backend := none
        colors := false }
    let paths : List Text := [['b'], ['c'], ['a'], ['b']]
    let batch := Batch.ofPaths s.tree.readText paths
    let found : Extraction :=
      { occurrences := [⟨"Hi".toList, ⟨['a'], 1⟩⟩]
        warnings := [⟨3, 5, .malformedLiteral ['\\', 'x']
          "invalid escape at line 1 column 3".toList⟩] }
    let failure : TemplateFailure :=
      .unprocessed bad ⟨['b'], 2, 1, .unbalancedDelimiter 0⟩
    extractFile s.tree.readText ['a'] = .ok (good, found) ∧
      extractFile s.tree.readText ['b'] = .error failure ∧
      Batch.ofPaths s.tree.readText [['a'], ['b'], ['c']] = batch ∧
      (batch.catalog.locations "Hi".toList).filter (fun location => location.file = ['a']) =
        found.catalog.locations "Hi".toList ∧
      (batch.issues.filter fun i => i.file = ['a']).Perm
        (found.warnings.map (LiteralWarning.issue ['a'] good)) ∧
      batch.issues.filter (fun i => i.file = ['b']) = [failure.issue ['b']] ∧
      (extract s paths .json { sourceRoot := none, verbose := false }).status = .failure := by
  intro good bad s paths batch found failure
  have hgood : extractFile s.tree.readText ['a'] = .ok (good, found) := by decide +kernel
  have hbad : extractFile s.tree.readText ['b'] = .error failure := by decide +kernel
  obtain ⟨hsame, hisolated, hfails, -, hexit⟩ := batch_isolated s.tree.readText paths
  obtain ⟨hlocations, hwarnings, -⟩ := hisolated.processed ['a'] (by decide) good found hgood
  obtain ⟨-, hissues, -⟩ := hisolated.failed ['b'] (by decide) failure hbad
  refine ⟨hgood, hbad, ?_, hlocations _, hwarnings, hissues, ?_⟩
  · refine hsame _ fun path => ?_
    simp only [paths, List.mem_cons, List.not_mem_nil, or_false]
    grind
  · rw [hexit s .json { sourceRoot := none, verbose := false } rfl (by decide)]
    exact hfails.2 ⟨['b'], by decide, failure, hbad⟩

end CommandLine

end Phrasebook
