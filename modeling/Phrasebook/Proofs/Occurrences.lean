import Mathlib.Data.List.Perm.Basic
import Phrasebook.Catalog

/-!
Catalogs as collections of occurrences.

An entry stands for one occurrence of its msgid at each of its locations.  Up
to order, recording occurrences adds exactly those with a msgid.
-/

namespace Phrasebook

/-- The occurrences that an entry stands for. -/
def CatalogEntry.occurrences (e : CatalogEntry) : List Occurrence :=
  e.locations.map (Occurrence.mk e.msgid)

theorem insertLocations_perm (msgid : Text) (locations : List Location)
    (es : List CatalogEntry) :
    ((insertLocations msgid locations es).flatMap CatalogEntry.occurrences).Perm
      (es.flatMap CatalogEntry.occurrences ++ locations.map (Occurrence.mk msgid)) := by
  induction es with
  | nil => simp [insertLocations, CatalogEntry.occurrences]
  | cons e es ih =>
      rw [insertLocations]
      split
      · rename_i heq
        subst heq
        simp only [List.flatMap_cons, CatalogEntry.occurrences, List.map_append,
          List.append_assoc]
        exact List.perm_append_comm.append_left _
      · split
        · rw [List.flatMap_cons]
          exact List.perm_append_comm
        · rw [List.flatMap_cons, List.flatMap_cons, List.append_assoc]
          exact ih.append_left _

namespace Catalog

/-- The occurrences that a catalog stands for. -/
def occurrences (c : Catalog) : List Occurrence :=
  c.entries.flatMap CatalogEntry.occurrences

theorem add_perm (c : Catalog) (o : Occurrence) :
    (c.add o).occurrences.Perm (c.occurrences ++ [o].filter records) := by
  unfold add
  by_cases ho : o.msgid.isEmpty
  · simp [records, ho]
  · have hrecords : [o].filter records = [o] := by simp [records, ho]
    rw [if_neg ho, hrecords]
    exact insertLocations_perm o.msgid [o.location] c.entries

theorem addAll_perm (c : Catalog) (os : List Occurrence) :
    (c.addAll os).occurrences.Perm (c.occurrences ++ os.filter records) := by
  induction os generalizing c with
  | nil => simp [addAll]
  | cons o os ih =>
      have hfilter : (o :: os).filter records = [o].filter records ++ os.filter records :=
        List.filter_append [o] os
      rw [hfilter, ← List.append_assoc]
      exact (ih (c.add o)).trans ((add_perm c o).append_right _)

/-- A catalog stands for the occurrences that it was made of, less those without
a msgid. -/
theorem ofOccurrences_perm (os : List Occurrence) :
    (ofOccurrences os).occurrences.Perm (os.filter records) :=
  addAll_perm empty os

end Catalog

end Phrasebook
