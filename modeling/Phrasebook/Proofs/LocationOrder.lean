import Phrasebook.Batch
import Phrasebook.Proofs.Completeness
import Phrasebook.Proofs.Extents
import Phrasebook.Proofs.Recorded

/-!
The order of locations in a catalog.

Locations are never sorted.  Within a template they come in the order of their
lines, because its nodes follow each other and a filter goes down its body line by
line.  Templates are read in the order of their paths and each path is part of the
locations, so a merged catalog has the locations of a msgid in order of file and
line.
-/

namespace Phrasebook

/-- Locations are ordered by file, and in a file by line. -/
instance : LE Location :=
  ⟨fun a b => a.file < b.file ∨ a.file = b.file ∧ a.line ≤ b.line⟩

instance (a b : Location) : Decidable (a ≤ b) :=
  inferInstanceAs (Decidable (_ ∨ _))

/-! ### One node -/

theorem location_of_mem_occurrencesAt {file : Text} {line : Nat} {msgids : List Text}
    {o : Occurrence} (h : o ∈ occurrencesAt file line msgids) : o.location = ⟨file, line⟩ := by
  obtain ⟨msgid, -, rfl⟩ := List.mem_map.1 h
  rfl

namespace Node

variable {file : Text} {sourceLines : List Text} {n : Node} {o : Occurrence}

/-- What is recorded of a node stands on its line, or else it is a filter with a
msgid now and then on the lines of its body. -/
theorem occurrences_cases (file : Text) (sourceLines : List Text) (n : Node) :
    (∀ o ∈ n.occurrences file sourceLines, o.location = ⟨file, n.line⟩) ∨
      ∃ msgids : Nat → List Text, n.occurrences file sourceLines =
        (List.range' (n.line + 1) (n.lastLine - n.line)).flatMap fun line =>
          occurrencesAt file line (msgids line) := by
  have hnone : ∀ o ∈ ([] : List Occurrence), o.location = ⟨file, n.line⟩ := by simp
  obtain ⟨line, kind⟩ := n
  cases kind with
  | plain p =>
      left
      intro o ho
      rw [occurrences, explicitCalls, List.append_nil] at ho
      exact location_of_mem_occurrencesAt ho
  | tag t =>
      left
      intro o ho
      simp only [occurrences, lookups, explicitCalls, List.mem_append] at ho
      rcases ho with ho | ho
      · split at ho
        · exact hnone o ho
        · exact location_of_mem_occurrencesAt ho
      · split at ho
        · exact location_of_mem_occurrencesAt ho
        · exact hnone o ho
  | attributes hashes =>
      left
      intro o ho
      exact location_of_mem_occurrencesAt ho
  | script code silent => exact .inl hnone
  | filter f =>
      simp only [occurrences, lookups, explicitCalls, List.append_nil]
      split
      · left
        split
        · exact fun o ho => location_of_mem_occurrencesAt ho
        · exact hnone
      · exact .inr ⟨fun line => CallLiteral.scriptMsgids ((sourceLines[line - 1]?).getD []), rfl⟩
      · exact .inl hnone

theorem location_of_mem_occurrences (hline : n.line ≤ n.lastLine)
    (ho : o ∈ n.occurrences file sourceLines) :
    o.location.file = file ∧ n.line ≤ o.location.line ∧ o.location.line ≤ n.lastLine := by
  rcases occurrences_cases file sourceLines n with hall | ⟨msgids, hbody⟩
  · rw [hall o ho]
    exact ⟨rfl, Nat.le_refl _, hline⟩
  · rw [hbody] at ho
    obtain ⟨line, hmem, ho⟩ := List.mem_flatMap.1 ho
    rw [List.mem_range'_1] at hmem
    rw [location_of_mem_occurrencesAt ho]
    refine ⟨rfl, ?_, ?_⟩
    · show n.line ≤ line
      omega
    · show line ≤ n.lastLine
      omega

/-- A node is recorded from its first line down. -/
theorem pairwise_occurrences (file : Text) (sourceLines : List Text) (n : Node) :
    (n.occurrences file sourceLines).Pairwise fun a b => a.location.line ≤ b.location.line := by
  have hsame {line : Nat} {os : List Occurrence} (h : ∀ o ∈ os, o.location = ⟨file, line⟩) :
      os.Pairwise fun a b => a.location.line ≤ b.location.line :=
    List.pairwise_of_forall_mem_list fun a ha b hb => by rw [h a ha, h b hb]
  rcases occurrences_cases file sourceLines n with hall | ⟨msgids, hbody⟩
  · exact hsame hall
  · rw [hbody, List.pairwise_flatMap]
    refine ⟨fun line _ => hsame fun o => location_of_mem_occurrencesAt, ?_⟩
    refine List.Pairwise.imp ?_ List.pairwise_lt_range'
    intro line line' hlt a ha b hb
    rw [location_of_mem_occurrencesAt ha, location_of_mem_occurrencesAt hb]
    exact Nat.le_of_lt hlt

end Node

/-! ### One template -/

namespace Extraction

variable {source name : Text} {found : Extraction}

theorem location_of_mem_filter_records
    (hfound : ofTemplate (Template.parse source name) = .ok found) {o : Occurrence}
    (ho : o ∈ found.occurrences.filter Catalog.records) :
    o.location.file = name ∧ 1 ≤ o.location.line ∧
      o.location.line ≤ (Text.lines source).length := by
  rw [filter_records_occurrences hfound] at ho
  obtain ⟨n, hn, ho⟩ := List.mem_flatMap.1 ho
  obtain ⟨hfirst, hline, hlast⟩ := Template.extent_of_mem_parse (List.mem_of_mem_filter hn)
  obtain ⟨hfile, hlower, hupper⟩ := Node.location_of_mem_occurrences hline ho
  exact ⟨hfile, hfirst.trans hlower, hupper.trans hlast⟩

/-- Nodes that follow each other are recorded in that order. -/
theorem pairwise_filter_records
    (hfound : ofTemplate (Template.parse source name) = .ok found) :
    (found.occurrences.filter Catalog.records).Pairwise fun a b =>
      a.location.line ≤ b.location.line := by
  rw [filter_records_occurrences hfound, List.pairwise_flatMap]
  refine ⟨fun n _ => Node.pairwise_occurrences name _ n, ?_⟩
  refine List.Pairwise.imp_of_mem ?_ ((Template.pairwise_nodes_parse source name).filter _)
  intro m n hm hn hprecedes a ha b hb
  have hextent {k : Node} (hk : k ∈ (Template.parse source name).enabledNodes) :=
    (Template.extent_of_mem_parse (List.mem_of_mem_filter hk)).2.1
  have hupper := (Node.location_of_mem_occurrences (hextent hm) ha).2.2
  have hlower := (Node.location_of_mem_occurrences (hextent hn) hb).2.1
  rcases hprecedes with hlt | ⟨line, hashes, hattributes, hle⟩
  · exact hupper.trans (Nat.le_of_lt (Nat.lt_of_lt_of_le hlt hlower))
  · cases hattributes
    exact hupper.trans (Nat.le_trans hle hlower)

/-- The locations of a msgid are some of what is recorded, in the same order. -/
theorem locations_sublist (found : Extraction) {t : Text} (ht : t ≠ []) :
    (found.catalog.locations t).Sublist
      ((found.occurrences.filter Catalog.records).map Occurrence.location) := by
  rw [catalog, Catalog.locations_ofOccurrences _ ht]
  refine List.Sublist.map _ (List.monotone_filter_right _ ?_)
  intro o ho
  have hmsgid : o.msgid = t := of_decide_eq_true ho
  simpa [Catalog.records, hmsgid] using ht

theorem location_of_mem_locations
    (hfound : ofTemplate (Template.parse source name) = .ok found) {t : Text}
    {location : Location} (h : location ∈ found.catalog.locations t) :
    location.file = name ∧ 1 ≤ location.line ∧ location.line ≤ (Text.lines source).length := by
  have ht := (Catalog.filled_ofOccurrences _).ne_nil_of_mem_locations h
  obtain ⟨o, ho, rfl⟩ := List.mem_map.1 ((found.locations_sublist ht).subset h)
  exact location_of_mem_filter_records hfound ho

theorem pairwise_locations
    (hfound : ofTemplate (Template.parse source name) = .ok found) {t : Text} (ht : t ≠ []) :
    (found.catalog.locations t).Pairwise fun a b => a.line ≤ b.line := by
  have hall : ((found.occurrences.filter Catalog.records).map Occurrence.location).Pairwise
      fun a b => a.line ≤ b.line :=
    List.pairwise_map.2 (pairwise_filter_records hfound)
  exact hall.sublist (found.locations_sublist ht)

end Extraction

/-! ### Many templates -/

theorem extractFile_eq_ok_iff {read : Text → Except FileError Text} {path source : Text}
    {found : Extraction} :
    extractFile read path = .ok (source, found) ↔
      read path = .ok source ∧
        Extraction.ofTemplate (Template.parse source path) = .ok found := by
  unfold extractFile
  cases hread : read path with
  | error e => simp [Except.mapError, bind, Except.bind]
  | ok text =>
      cases hfound : Extraction.ofTemplate (Template.parse text path) with
      | error e =>
          simp only [Except.mapError, bind, Except.bind, hfound]
          grind
      | ok e =>
          simp only [Except.mapError, bind, Except.bind, hfound, pure, Except.pure]
          grind

namespace Batch

/-- What one template adds to the catalog. -/
def contributed (outcome : Except TemplateFailure (Text × Extraction)) : Catalog :=
  match outcome with
  | .ok (_, found) => found.catalog
  | .error _ => .empty

theorem filled_contributed (outcome : Except TemplateFailure (Text × Extraction)) :
    (contributed outcome).Filled := by
  cases outcome with
  | ok p => exact Catalog.filled_ofOccurrences _
  | error f => exact Catalog.filled_empty

theorem catalogOf_eq_foldl (os : Outcomes) :
    catalogOf os = (os.map fun o => contributed o.2).foldl Catalog.merge .empty := by
  rw [List.foldl_map]
  refine List.foldl_ext _ _ _ ?_
  rintro c ⟨path, outcome⟩ -
  cases outcome <;> rfl

theorem filled_catalogOf (os : Outcomes) : (catalogOf os).Filled := by
  have hfold {cs : List Catalog} (hcs : ∀ c ∈ cs, c.Filled) {c : Catalog} (hc : c.Filled) :
      (cs.foldl Catalog.merge c).Filled := by
    induction cs generalizing c with
    | nil => exact hc
    | cons d cs ih =>
        exact ih (fun e he => hcs e (List.mem_cons_of_mem d he))
          (hc.merge (hcs d List.mem_cons_self))
  rw [catalogOf_eq_foldl]
  refine hfold ?_ Catalog.filled_empty
  intro c hc
  obtain ⟨o, -, rfl⟩ := List.mem_map.1 hc
  exact filled_contributed o.2

/-- The locations of a msgid, template by template. -/
theorem locations_catalogOf (os : Outcomes) (t : Text) :
    (catalogOf os).locations t = os.flatMap fun o => (contributed o.2).locations t := by
  have hfold (cs : List Catalog) (c : Catalog) :
      (cs.foldl Catalog.merge c).locations t =
        c.locations t ++ cs.flatMap fun d => d.locations t := by
    induction cs generalizing c with
    | nil => simp
    | cons d cs ih => rw [List.foldl_cons, ih, Catalog.locations_merge, List.flatMap_cons,
        List.append_assoc]
  rw [catalogOf_eq_foldl, hfold, Catalog.locations_empty, List.nil_append, List.flatMap_map]

variable {read : Text → Except FileError Text} {paths : List Text} {t : Text}

theorem locations_ofPaths (read : Text → Except FileError Text) (paths : List Text) (t : Text) :
    (ofPaths read paths).catalog.locations t =
      (Text.sortDistinct paths).flatMap fun path =>
        (contributed (extractFile read path)).locations t := by
  have hcatalog : (ofPaths read paths).catalog =
      catalogOf ((Text.sortDistinct paths).map fun path => (path, extractFile read path)) := rfl
  rw [hcatalog, locations_catalogOf, List.flatMap_map]

/-- What a template adds is located in its own lines. -/
theorem exists_of_mem_contributed {path : Text} {location : Location}
    (h : location ∈ (contributed (extractFile read path)).locations t) :
    ∃ source found, extractFile read path = .ok (source, found) ∧
      read path = .ok source ∧ location.file = path ∧ 1 ≤ location.line ∧
      location.line ≤ (Text.lines source).length := by
  cases hfile : extractFile read path with
  | error f =>
      rw [hfile] at h
      exact absurd h List.not_mem_nil
  | ok p =>
      obtain ⟨source, found⟩ := p
      rw [hfile] at h
      obtain ⟨hread, hfound⟩ := extractFile_eq_ok_iff.1 hfile
      exact ⟨source, found, rfl, hread, Extraction.location_of_mem_locations hfound h⟩

theorem pairwise_contributed (ht : t ≠ []) (path : Text) :
    ((contributed (extractFile read path)).locations t).Pairwise (· ≤ ·) := by
  cases hfile : extractFile read path with
  | error f => exact List.Pairwise.nil
  | ok p =>
      obtain ⟨source, found⟩ := p
      have hfound := (extractFile_eq_ok_iff.1 hfile).2
      refine List.Pairwise.imp_of_mem ?_ (Extraction.pairwise_locations hfound ht)
      intro a b ha hb hle
      have hafile := (Extraction.location_of_mem_locations hfound ha).1
      have hbfile := (Extraction.location_of_mem_locations hfound hb).1
      exact .inr ⟨hafile.trans hbfile.symm, hle⟩

theorem pairwise_locations_ofPaths (ht : t ≠ []) :
    ((ofPaths read paths).catalog.locations t).Pairwise (· ≤ ·) := by
  rw [locations_ofPaths, List.pairwise_flatMap]
  refine ⟨fun path _ => pairwise_contributed ht path, ?_⟩
  refine (Text.pairwise_sortDistinct paths).imp ?_
  intro path path' hlt a ha b hb
  obtain ⟨-, -, -, -, hafile, -⟩ := exists_of_mem_contributed ha
  obtain ⟨-, -, -, -, hbfile, -⟩ := exists_of_mem_contributed hb
  left
  rwa [hafile, hbfile]

/-- A catalog made of any number of templates has no empty entry, its locations are
in order, and each is a line of the template that it names. -/
theorem entries_in_order (read : Text → Except FileError Text) (paths : List Text) :
    (∀ entry ∈ (ofPaths read paths).catalog.entries,
      entry.msgid ≠ [] ∧ entry.locations ≠ [] ∧ entry.locations.Pairwise (· ≤ ·) ∧
        ∀ location ∈ entry.locations, location.file ∈ paths ∧
          ∃ source, read location.file = .ok source ∧ 1 ≤ location.line ∧
            location.line ≤ (Text.lines source).length) ∧
    ∀ source name found, Extraction.ofTemplate (Template.parse source name) = .ok found →
      ∀ entry ∈ found.catalog.entries, entry.locations.Pairwise fun a b => a.line ≤ b.line := by
  constructor
  · intro entry hentry
    obtain ⟨hmsgid, hlocations⟩ := filled_catalogOf _ entry hentry
    have heq := Catalog.locations_of_mem hentry
    refine ⟨hmsgid, hlocations, ?_, ?_⟩
    · rw [← heq]
      exact pairwise_locations_ofPaths hmsgid
    · intro location hlocation
      rw [← heq, locations_ofPaths] at hlocation
      obtain ⟨path, hpath, hmem⟩ := List.mem_flatMap.1 hlocation
      obtain ⟨source, -, -, hread, rfl, hlines⟩ := exists_of_mem_contributed hmem
      exact ⟨Text.mem_sortDistinct.1 hpath, source, hread, hlines⟩
  · intro source name found hfound entry hentry
    rw [← Catalog.locations_of_mem hentry]
    exact Extraction.pairwise_locations hfound (Catalog.filled_ofOccurrences _ entry hentry).1

/-- One msgid in two of three templates: in a script, in hashes and in the value of
the same tag, and twice in a template that is named twice. -/
theorem entries_in_order_shared :
    let script := ":javascript\n\n  f(_('Hi'))\n%p\x7bt: _('Hi'),\n u: 1\x7d Hi".toList
    let read : Text → Except FileError Text := fun path =>
      if path = ['b'] then .ok "Hi\n%p Bye\nHi".toList
      else if path = ['a'] then .ok script
      else if path = ['c'] then .ok "Hi\n#\x7b".toList
      else .error .notFound
    let paths : List Text := [['b'], ['a'], ['c'], ['b']]
    let entry : CatalogEntry := ⟨"Hi".toList, [⟨['a'], 3⟩, ⟨['a'], 4⟩, ⟨['a'], 5⟩, ⟨['b'], 1⟩,
      ⟨['b'], 3⟩]⟩
    let found : Extraction :=
      { occurrences := [⟨"Hi".toList, ⟨['a'], 3⟩⟩, ⟨"Hi".toList, ⟨['a'], 4⟩⟩,
          ⟨"Hi".toList, ⟨['a'], 5⟩⟩] }
    entry ∈ (ofPaths read paths).catalog.entries ∧ entry.locations.Pairwise (· ≤ ·) ∧
      (∃ source, read ['a'] = .ok source ∧ 5 ≤ (Text.lines source).length) ∧
      Extraction.ofTemplate (Template.parse script ['a']) = .ok found ∧
      ∀ e ∈ found.catalog.entries, e.locations.Pairwise fun a b => a.line ≤ b.line := by
  intro script read paths entry found
  have hentry : entry ∈ (ofPaths read paths).catalog.entries := by decide +kernel
  have hfound : Extraction.ofTemplate (Template.parse script ['a']) = .ok found := by
    decide +kernel
  obtain ⟨hbatch, htemplate⟩ := entries_in_order read paths
  obtain ⟨-, -, horder, hlines⟩ := hbatch entry hentry
  obtain ⟨-, source, hread, -, hlast⟩ := hlines ⟨['a'], 5⟩ (by decide)
  exact ⟨hentry, horder, ⟨source, hread, hlast⟩, hfound, htemplate script ['a'] found hfound⟩

end Batch

end Phrasebook
