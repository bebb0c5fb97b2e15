import Mathlib.Data.List.Dedup
import Mathlib.Logic.Function.Basic
import Phrasebook.Extraction
import Phrasebook.Proofs.ByteOrder
import Phrasebook.Proofs.Recorded

/-!
Histories of catalogs.

Any number of catalogs are made, added to, merged and extended by templates in any
order.  Beside each of them a log is kept of the occurrences with a msgid, to which
nothing is done but appending.  No operation can tell a catalog from its log: what a
catalog has for a msgid are the locations logged for it, in the order of the log.
-/

namespace Phrasebook.Catalog

/-! ### Catalogs and logs -/

/-- The locations that a log has for a msgid. -/
def loggedLocations (log : List Occurrence) (msgid : Text) : List Location :=
  (log.filter fun o => o.msgid = msgid).map Occurrence.location

/-- A log with one further occurrence, unless it is one of the empty text. -/
def logOccurrence (log : List Occurrence) (o : Occurrence) : List Occurrence :=
  if o.msgid = [] then log else log ++ [o]

/-- A catalog of exactly what a log has. -/
structure Records (c : Catalog) (log : List Occurrence) : Prop where
  filled : c.Filled
  named : ∀ o ∈ log, o.msgid ≠ []
  locations : ∀ t, c.locations t = loggedLocations log t

theorem loggedLocations_append (log log' : List Occurrence) (t : Text) :
    loggedLocations (log ++ log') t = loggedLocations log t ++ loggedLocations log' t := by
  rw [loggedLocations, List.filter_append, List.map_append]
  rfl

theorem loggedLocations_ne_nil_iff {log : List Occurrence} {t : Text} :
    loggedLocations log t ≠ [] ↔ t ∈ log.map Occurrence.msgid := by
  simp [loggedLocations]

namespace Records

variable {c d : Catalog} {log log' : List Occurrence}

/-! ### Operations -/

theorem empty : Records .empty [] where
  filled := filled_empty
  named := by simp
  locations := fun _ => rfl

theorem add (h : c.Records log) (o : Occurrence) : (c.add o).Records (logOccurrence log o) := by
  unfold logOccurrence Catalog.add
  by_cases ho : o.msgid = []
  · rw [if_pos ho, if_pos (List.isEmpty_iff.2 ho)]
    exact h
  · rw [if_neg ho, if_neg (by simpa using ho)]
    refine ⟨h.filled.insert ho (by simp), ?_, ?_⟩
    · intro p hp
      rcases List.mem_append.1 hp with hp | hp
      · exact h.named p hp
      · rw [List.mem_singleton] at hp
        rwa [hp]
    · intro t
      rw [locations_insert, loggedLocations_append, h.locations]
      by_cases ht : t = o.msgid
      · simp [loggedLocations, ht]
      · simp [loggedLocations, ht, Ne.symm ht]

theorem merge (h : c.Records log) (h' : d.Records log') : (c.merge d).Records (log ++ log') where
  filled := h.filled.merge h'.filled
  named := fun o ho => (List.mem_append.1 ho).elim (h.named o) (h'.named o)
  locations := by
    intro t
    rw [locations_merge, loggedLocations_append, h.locations, h'.locations]

theorem addAll (h : c.Records log) (os : List Occurrence) :
    (c.addAll os).Records (os.foldl logOccurrence log) := by
  induction os generalizing c log with
  | nil => exact h
  | cons o os ih => exact ih (h.add o)

/-! ### What is shown -/

theorem get? (h : c.Records log) (t : Text) :
    c.get? t = if t ∈ log.map Occurrence.msgid then some (loggedLocations log t) else none := by
  have hlocations := h.locations t
  rw [Catalog.locations] at hlocations
  cases hget : c.get? t with
  | none =>
      rw [hget, Option.getD_none] at hlocations
      rw [if_neg fun hmem => loggedLocations_ne_nil_iff.2 hmem hlocations.symm]
  | some ls =>
      rw [hget, Option.getD_some] at hlocations
      obtain ⟨e, he, rfl⟩ := Option.map_eq_some_iff.1 hget
      have hne := (h.filled e (List.mem_of_find?_eq_some he)).2
      rw [hlocations] at hne ⊢
      rw [if_pos (loggedLocations_ne_nil_iff.1 hne)]

theorem locations_of_mem (h : c.Records log) {e : CatalogEntry} (he : e ∈ c.entries) :
    e.locations = loggedLocations log e.msgid := by
  rw [← Catalog.locations_of_mem he, h.locations]

theorem mem_msgids_iff (h : c.Records log) {t : Text} :
    t ∈ c.entries.map CatalogEntry.msgid ↔ t ∈ log.map Occurrence.msgid := by
  rw [← loggedLocations_ne_nil_iff, ← h.locations, List.mem_map]
  constructor
  · rintro ⟨e, he, rfl⟩
    rw [Catalog.locations_of_mem he]
    exact (h.filled e he).2
  · intro hne
    rw [locations_eq_flatMap] at hne
    obtain ⟨location, hlocation⟩ := List.exists_mem_of_ne_nil _ hne
    obtain ⟨e, he, -⟩ := List.mem_flatMap.1 hlocation
    obtain ⟨hmem, hmsgid⟩ := List.mem_filter.1 he
    exact ⟨e, hmem, of_decide_eq_true hmsgid⟩

/-- There is one entry for each text in the log. -/
theorem size (h : c.Records log) : c.size = (log.map Occurrence.msgid).dedup.length := by
  have hnodup : (c.entries.map CatalogEntry.msgid).Nodup := by
    rw [List.Nodup, List.pairwise_map]
    refine c.sorted.imp ?_
    intro e f hlt heq
    rw [heq] at hlt
    exact List.lt_irrefl _ hlt
  have hperm : (c.entries.map CatalogEntry.msgid).Perm (log.map Occurrence.msgid).dedup := by
    rw [List.perm_ext_iff_of_nodup hnodup (List.nodup_dedup _)]
    intro t
    rw [h.mem_msgids_iff, List.mem_dedup]
  rw [Catalog.size, ← hperm.length_eq, List.length_map]

end Records

/-- What can be seen of a catalog, told by its log: look-ups, the number of msgids, and
the rows in the order of their bytes. -/
structure Shows (c : Catalog) (log : List Occurrence) : Prop where
  found : ∀ t, c.get? t =
    if t ∈ log.map Occurrence.msgid then some (loggedLocations log t) else none
  counted : c.size = (log.map Occurrence.msgid).dedup.length
  increasing : (c.entries.map fun e => Text.utf8 e.msgid).Pairwise (· < ·)
  listed : ∀ t, t ∈ c.entries.map CatalogEntry.msgid ↔ t ∈ log.map Occurrence.msgid
  located : ∀ e ∈ c.entries, e.locations = loggedLocations log e.msgid

theorem Records.shows {c : Catalog} {log : List Occurrence} (h : c.Records log) :
    c.Shows log where
  found := h.get?
  counted := h.size
  increasing := List.pairwise_map.2 (c.sorted.imp Text.utf8_lt_of_lt)
  listed := fun _ => h.mem_msgids_iff
  located := fun _ => h.locations_of_mem

/-! ### Histories -/

/-- A step in a history of numbered catalogs. -/
inductive Operation where
  /-- Catalog `i` is a new one. -/
  | create (i : Nat)
  | add (i : Nat) (o : Occurrence)
  /-- Catalog `i` gets what catalog `j` has. -/
  | merge (i j : Nat)
  | addTemplate (i : Nat) (t : Template)

/-- What a step answers. -/
inductive Reply where
  | done
  /-- Whether the occurrence was recorded. -/
  | recorded (answer : Bool)
  | extracted (answer : Except FragmentError (List LiteralWarning))

/-- A step with the catalogs themselves. -/
def Operation.apply (catalogs : Nat → Catalog) : Operation → Reply × (Nat → Catalog)
  | .create i => (.done, Function.update catalogs i .empty)
  | .add i o => (.recorded (records o), Function.update catalogs i ((catalogs i).add o))
  | .merge i j => (.done, Function.update catalogs i ((catalogs i).merge (catalogs j)))
  | .addTemplate i t =>
      match (catalogs i).addTemplate t with
      | .ok (c, warnings) => (.extracted (.ok warnings), Function.update catalogs i c)
      | .error e => (.extracted (.error e), catalogs)

/-- The same step with the logs of the catalogs. -/
def Operation.log (logs : Nat → List Occurrence) : Operation → Reply × (Nat → List Occurrence)
  | .create i => (.done, Function.update logs i [])
  | .add i o =>
      (.recorded (o.msgid ≠ []), Function.update logs i (logOccurrence (logs i) o))
  | .merge i j => (.done, Function.update logs i (logs i ++ logs j))
  | .addTemplate i t =>
      match Extraction.ofTemplate t with
      | .ok found => (.extracted (.ok found.warnings),
          Function.update logs i (logs i ++ found.occurrences.foldl logOccurrence []))
      | .error e => (.extracted (.error e), logs)

/-- The answers to the steps of a history, and the state after it. -/
def history {σ : Type} (step : σ → Operation → Reply × σ) (s : σ) :
    List Operation → List Reply × σ
  | [] => ([], s)
  | op :: ops =>
      let next := step s op
      let rest := history step next.2 ops
      (next.1 :: rest.1, rest.2)

theorem records_update {catalogs : Nat → Catalog} {logs : Nat → List Occurrence}
    (h : ∀ i, (catalogs i).Records (logs i)) (i : Nat) {c : Catalog} {log : List Occurrence}
    (hi : c.Records log) (j : Nat) :
    (Function.update catalogs i c j).Records (Function.update logs i log j) := by
  by_cases hj : j = i
  · subst hj
    rwa [Function.update_self, Function.update_self]
  · rw [Function.update_of_ne hj, Function.update_of_ne hj]
    exact h j

/-- A step is answered alike from catalogs and from their logs, and it keeps both in
step. -/
theorem records_apply {catalogs : Nat → Catalog} {logs : Nat → List Occurrence}
    (h : ∀ i, (catalogs i).Records (logs i)) (op : Operation) :
    (op.apply catalogs).1 = (op.log logs).1 ∧
      ∀ i, ((op.apply catalogs).2 i).Records ((op.log logs).2 i) := by
  cases op with
  | create i => exact ⟨rfl, records_update h i .empty⟩
  | add i o =>
      refine ⟨?_, records_update h i ((h i).add o)⟩
      simp only [Operation.apply, Operation.log, records]
      cases o.msgid <;> rfl
  | merge i j => exact ⟨rfl, records_update h i ((h i).merge (h j))⟩
  | addTemplate i t =>
      simp only [Operation.apply, Operation.log, addTemplate]
      cases hfound : Extraction.ofTemplate t with
      | error e => exact ⟨rfl, h⟩
      | ok found => exact ⟨rfl, records_update h i ((h i).merge (Records.empty.addAll _))⟩

theorem records_history {catalogs : Nat → Catalog} {logs : Nat → List Occurrence}
    (h : ∀ i, (catalogs i).Records (logs i)) (ops : List Operation) :
    (history Operation.apply catalogs ops).1 = (history Operation.log logs ops).1 ∧
      ∀ i, ((history Operation.apply catalogs ops).2 i).Records
        ((history Operation.log logs ops).2 i) := by
  induction ops generalizing catalogs logs with
  | nil => exact ⟨rfl, h⟩
  | cons op ops ih =>
      obtain ⟨hreply, hstep⟩ := records_apply h op
      obtain ⟨hreplies, hrest⟩ := ih hstep
      refine ⟨?_, hrest⟩
      simp only [history, hreply, hreplies]

/-- Whatever is done with any number of new catalogs, the answers and all that can be
seen of each catalog are those of the logs. -/
theorem history_refines_logs (ops : List Operation) :
    (history Operation.apply (fun _ => .empty) ops).1 =
        (history Operation.log (fun _ => []) ops).1 ∧
      ∀ i, ((history Operation.apply (fun _ => .empty) ops).2 i).Shows
        ((history Operation.log (fun _ => []) ops).2 i) := by
  obtain ⟨hreplies, hrecords⟩ := records_history (fun _ => Records.empty) ops
  exact ⟨hreplies, fun i => (hrecords i).shows⟩

end Phrasebook.Catalog
