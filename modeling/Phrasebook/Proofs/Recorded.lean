import Phrasebook.Catalog

/-!
What a catalog has recorded for a msgid.

Inserting locations puts them after those that the same msgid has and leaves every
other msgid alone.  So the locations of a msgid are the ones of its occurrences in
the order in which these were recorded, and merging catalogs puts what they have
recorded one after the other.
-/

namespace Phrasebook

/-- As the msgids increase, the one that is inserted stands nowhere further down. -/
theorem find?_insertLocations {es : List CatalogEntry}
    (h : es.Pairwise fun a b => a.msgid < b.msgid) (msgid : Text) (locations : List Location)
    (t : Text) :
    (insertLocations msgid locations es).find? (fun e => e.msgid = t) =
      if t = msgid then
        some ⟨msgid, ((es.find? fun e => e.msgid = msgid).map CatalogEntry.locations).getD [] ++
          locations⟩
      else es.find? fun e => e.msgid = t := by
  induction es with
  | nil =>
      by_cases ht : t = msgid
      · simp [insertLocations, ht]
      · simp [insertLocations, ht, Ne.symm ht]
  | cons f es ih =>
      obtain ⟨hf, hes⟩ := List.pairwise_cons.1 h
      rw [insertLocations]
      by_cases heq : msgid = f.msgid
      · subst heq
        rw [if_pos rfl]
        by_cases ht : t = f.msgid
        · simp [ht]
        · simp [ht, Ne.symm ht]
      · rw [if_neg heq]
        have hne : ¬ f.msgid = msgid := fun hfm => heq hfm.symm
        split
        · rename_i hlt
          have hnone : es.find? (fun e => e.msgid = msgid) = none := by
            rw [List.find?_eq_none]
            intro e he hem
            have hfe := hf e he
            rw [decide_eq_true_eq] at hem
            rw [hem] at hfe
            exact absurd (List.lt_trans hlt hfe) (List.lt_irrefl _)
          by_cases ht : t = msgid
          · simp [ht, hne, hnone]
          · simp [ht, Ne.symm ht]
        · rw [List.find?_cons, ih hes]
          by_cases ht : t = msgid
          · subst ht
            simp [hne]
          · rw [if_neg ht, if_neg ht, List.find?_cons]

namespace Catalog

variable {c d : Catalog} {t : Text}

/-- The locations that a catalog has for a msgid. -/
def locations (c : Catalog) (msgid : Text) : List Location :=
  (c.get? msgid).getD []

@[simp] theorem locations_empty (t : Text) : empty.locations t = [] := rfl

theorem get?_insert (c : Catalog) (msgid : Text) (ls : List Location) (t : Text) :
    (c.insert msgid ls).get? t =
      if t = msgid then some (c.locations msgid ++ ls) else c.get? t := by
  rw [get?, insert, find?_insertLocations c.sorted]
  split <;> rfl

theorem locations_insert (c : Catalog) (msgid : Text) (ls : List Location) (t : Text) :
    (c.insert msgid ls).locations t =
      c.locations t ++ if t = msgid then ls else [] := by
  rw [locations, get?_insert]
  split
  · rename_i ht
    rw [ht, Option.getD_some]
  · rw [List.append_nil]
    rfl

/-- A catalog has one entry for a msgid. -/
theorem locations_of_mem {e : CatalogEntry} (h : e ∈ c.entries) :
    c.locations e.msgid = e.locations := by
  obtain ⟨before, after, hentries⟩ := List.append_of_mem h
  have hbefore : before.find? (fun f => f.msgid = e.msgid) = none := by
    rw [List.find?_eq_none]
    intro f hf hfe
    have hlt := (List.pairwise_append.1 (hentries ▸ c.sorted)).2.2 f hf e List.mem_cons_self
    rw [decide_eq_true_eq] at hfe
    rw [hfe] at hlt
    exact List.lt_irrefl _ hlt
  simp [locations, get?, hentries, hbefore]

/-! ### Occurrences -/

theorem locations_add (c : Catalog) (o : Occurrence) (ht : t ≠ []) :
    (c.add o).locations t = c.locations t ++ if o.msgid = t then [o.location] else [] := by
  unfold add
  split
  · rename_i hempty
    have hne : o.msgid ≠ t := by
      rw [List.isEmpty_iff.1 hempty]
      exact ht.symm
    rw [if_neg hne, List.append_nil]
  · rw [locations_insert]
    simp only [eq_comm]

theorem locations_addAll (c : Catalog) (os : List Occurrence) (ht : t ≠ []) :
    (c.addAll os).locations t =
      c.locations t ++ (os.filter fun o => o.msgid = t).map Occurrence.location := by
  induction os generalizing c with
  | nil => simp [addAll]
  | cons o os ih =>
      have hstep : c.addAll (o :: os) = (c.add o).addAll os := rfl
      rw [hstep, ih, locations_add c o ht, List.append_assoc, List.filter_cons]
      by_cases ho : o.msgid = t <;> simp [ho]

/-- The locations of a msgid are those of its occurrences, in their order. -/
theorem locations_ofOccurrences (os : List Occurrence) (ht : t ≠ []) :
    (ofOccurrences os).locations t =
      (os.filter fun o => o.msgid = t).map Occurrence.location :=
  (locations_addAll empty os ht).trans (List.nil_append _)

/-! ### Merging -/

theorem locations_foldl_insert (c : Catalog) (es : List CatalogEntry) (t : Text) :
    (es.foldl (fun c e => c.insert e.msgid e.locations) c).locations t =
      c.locations t ++ (es.filter fun e => e.msgid = t).flatMap CatalogEntry.locations := by
  induction es generalizing c with
  | nil => simp
  | cons e es ih =>
      rw [List.foldl_cons, ih, locations_insert, List.append_assoc, List.filter_cons]
      by_cases he : e.msgid = t
      · simp [he]
      · simp [he, Ne.symm he]

theorem locations_eq_flatMap (c : Catalog) (t : Text) :
    c.locations t =
      (c.entries.filter fun e => e.msgid = t).flatMap CatalogEntry.locations := by
  obtain ⟨entries, hsorted⟩ := c
  rw [locations, get?]
  induction entries with
  | nil => rfl
  | cons e es ih =>
      obtain ⟨he, hes⟩ := List.pairwise_cons.1 hsorted
      rw [List.find?_cons, List.filter_cons]
      by_cases ht : e.msgid = t
      · have hnone : es.filter (fun e => e.msgid = t) = [] := by
          rw [List.filter_eq_nil_iff]
          intro f hf hft
          have hlt := he f hf
          rw [ht, of_decide_eq_true hft] at hlt
          exact List.lt_irrefl _ hlt
        simp [ht, hnone]
      · simpa [ht] using ih hes

/-- A merged catalog has the locations of both, first those of the first. -/
theorem locations_merge (c d : Catalog) (t : Text) :
    (c.merge d).locations t = c.locations t ++ d.locations t := by
  rw [merge, locations_foldl_insert, ← locations_eq_flatMap]

/-! ### Entries -/

/-- No msgid and no list of locations in a catalog is empty. -/
def Filled (c : Catalog) : Prop :=
  ∀ e ∈ c.entries, e.msgid ≠ [] ∧ e.locations ≠ []

theorem Filled.ne_nil_of_mem_locations (hc : c.Filled) {location : Location}
    (h : location ∈ c.locations t) : t ≠ [] := by
  rw [locations_eq_flatMap] at h
  obtain ⟨e, he, -⟩ := List.mem_flatMap.1 h
  obtain ⟨hmem, hmsgid⟩ := List.mem_filter.1 he
  rw [← of_decide_eq_true hmsgid]
  exact (hc e hmem).1

theorem filled_empty : Filled empty := by
  intro e he
  exact absurd he List.not_mem_nil

theorem Filled.insert (hc : c.Filled) {msgid : Text} {ls : List Location} (hmsgid : msgid ≠ [])
    (hls : ls ≠ []) : (c.insert msgid ls).Filled := by
  intro e he
  rcases mem_insertLocations he with heq | hmem
  · refine ⟨heq ▸ hmsgid, ?_⟩
    rw [← locations_of_mem he, locations_insert, heq, if_pos rfl]
    simp [hls]
  · refine ⟨(hc e hmem).1, ?_⟩
    rw [← locations_of_mem he, locations_insert, locations_of_mem hmem]
    simp [(hc e hmem).2]

theorem Filled.add (hc : c.Filled) (o : Occurrence) : (c.add o).Filled := by
  unfold Catalog.add
  split
  · exact hc
  · rename_i hne
    exact hc.insert (by simpa using hne) (by simp)

theorem Filled.addAll (hc : c.Filled) (os : List Occurrence) : (c.addAll os).Filled := by
  induction os generalizing c with
  | nil => exact hc
  | cons o os ih => exact ih (hc.add o)

theorem filled_ofOccurrences (os : List Occurrence) : (ofOccurrences os).Filled :=
  filled_empty.addAll os

theorem Filled.merge (hc : c.Filled) (hd : d.Filled) : (c.merge d).Filled := by
  have hfold {es : List CatalogEntry} (hes : ∀ e ∈ es, e.msgid ≠ [] ∧ e.locations ≠ [])
      {c : Catalog} (hc : c.Filled) :
      (es.foldl (fun c e => c.insert e.msgid e.locations) c).Filled := by
    induction es generalizing c with
    | nil => exact hc
    | cons e es ih =>
        obtain ⟨hmsgid, hls⟩ := hes e List.mem_cons_self
        exact ih (fun f hf => hes f (List.mem_cons_of_mem e hf)) (hc.insert hmsgid hls)
  exact hfold hd hc

end Catalog

end Phrasebook
