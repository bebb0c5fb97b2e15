import Phrasebook.Text.Basic

/-!
Catalogs: the msgids of templates and where each was found.

A catalog lists its msgids in increasing order, each once, with the locations
in the order in which they were recorded.
-/

namespace Phrasebook

/-- A line of a template. -/
structure Location where
  file : Text
  line : Nat
  deriving DecidableEq, Repr

/-- A location as a catalog shows it. -/
def Location.show (l : Location) : Text :=
  l.file ++ ':' :: Text.ofNat l.line

structure Occurrence where
  msgid : Text
  location : Location
  deriving DecidableEq, Repr

structure CatalogEntry where
  msgid : Text
  locations : List Location
  deriving DecidableEq, Repr

/-- The entries with `locations` recorded for `msgid` after those that are
there. -/
def insertLocations (msgid : Text) (locations : List Location) :
    List CatalogEntry → List CatalogEntry
  | [] => [⟨msgid, locations⟩]
  | e :: es =>
      if msgid = e.msgid then ⟨msgid, e.locations ++ locations⟩ :: es
      else if msgid < e.msgid then ⟨msgid, locations⟩ :: e :: es
      else e :: insertLocations msgid locations es

theorem mem_insertLocations {msgid : Text} {locations : List Location}
    {es : List CatalogEntry} {e : CatalogEntry}
    (h : e ∈ insertLocations msgid locations es) : e.msgid = msgid ∨ e ∈ es := by
  induction es with
  | nil =>
      simp only [insertLocations, List.mem_singleton] at h
      exact .inl (by rw [h])
  | cons f es ih =>
      rw [insertLocations] at h
      split at h
      · rcases List.mem_cons.1 h with rfl | h
        · exact .inl rfl
        · exact .inr (List.mem_cons_of_mem _ h)
      · split at h
        · rcases List.mem_cons.1 h with rfl | h
          · exact .inl rfl
          · exact .inr h
        · rcases List.mem_cons.1 h with rfl | h
          · exact .inr List.mem_cons_self
          · exact (ih h).imp_right (List.mem_cons_of_mem _)

theorem pairwise_insertLocations (msgid : Text) (locations : List Location)
    {es : List CatalogEntry} (h : es.Pairwise fun a b => a.msgid < b.msgid) :
    (insertLocations msgid locations es).Pairwise fun a b => a.msgid < b.msgid := by
  induction es with
  | nil => simp [insertLocations]
  | cons f es ih =>
      obtain ⟨hf, hes⟩ := List.pairwise_cons.1 h
      rw [insertLocations]
      split
      · rename_i heq
        subst heq
        exact List.pairwise_cons.2 ⟨hf, hes⟩
      · rename_i hne
        split
        · rename_i hlt
          refine List.pairwise_cons.2 ⟨?_, h⟩
          intro g hg
          rcases List.mem_cons.1 hg with rfl | hg
          · exact hlt
          · exact List.lt_trans hlt (hf g hg)
        · rename_i hnlt
          refine List.pairwise_cons.2 ⟨?_, ih hes⟩
          intro g hg
          rcases mem_insertLocations hg with hg | hg
          · rw [hg]
            exact Std.lt_of_le_of_ne (Std.not_lt.1 hnlt) (Ne.symm hne)
          · exact hf g hg

/-- Msgids in increasing order, each with the locations recorded for it. -/
structure Catalog where
  entries : List CatalogEntry
  sorted : entries.Pairwise fun a b => a.msgid < b.msgid
  deriving DecidableEq

namespace Catalog

def empty : Catalog :=
  ⟨[], .nil⟩

def insert (c : Catalog) (msgid : Text) (locations : List Location) : Catalog :=
  ⟨insertLocations msgid locations c.entries,
    pairwise_insertLocations msgid locations c.sorted⟩

/-- A catalog with one further occurrence; an empty text is no msgid. -/
def add (c : Catalog) (o : Occurrence) : Catalog :=
  if o.msgid.isEmpty then c else c.insert o.msgid [o.location]

/-- The occurrence of an empty text is not recorded. -/
def records (o : Occurrence) : Bool :=
  !o.msgid.isEmpty

def addAll (c : Catalog) (os : List Occurrence) : Catalog :=
  os.foldl add c

def ofOccurrences (os : List Occurrence) : Catalog :=
  empty.addAll os

/-- A catalog with the locations of another one after its own. -/
def merge (c d : Catalog) : Catalog :=
  d.entries.foldl (fun c e => c.insert e.msgid e.locations) c

def get? (c : Catalog) (msgid : Text) : Option (List Location) :=
  (c.entries.find? fun e => e.msgid = msgid).map CatalogEntry.locations

def size (c : Catalog) : Nat :=
  c.entries.length

def isEmpty (c : Catalog) : Bool :=
  c.entries.isEmpty

end Catalog

end Phrasebook
