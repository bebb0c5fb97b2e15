import Phrasebook.Literal.Call

/-!
The msgids of explicit calls: none of them is empty, and those of a line do not
depend on its indentation.
-/

namespace Phrasebook

/-! ### Decoded literals -/

namespace Literal

theorem SingleQuoted.decode_ne_nil {raw : Text} (h : raw ≠ []) : decode raw ≠ [] := by
  fun_cases decode raw <;> simp_all

/-- Only the end of a string literal reads as an empty value. -/
theorem Script.readString_ne_nil {t value rest : Text} (h : t.head? ≠ some '"')
    (hread : Json.readString t = .ok (value, rest)) : value ≠ [] := by
  unfold Json.readString at hread
  split at hread
  · simp at hread
  · simp at h
  · split at hread
    · simp at hread
    · split at hread
      · simp at hread
      · cases hread
        simp
  · split at hread
    · simp at hread
    · split at hread
      · simp at hread
      · cases hread
        simp

/-- Escaping keeps a quote in a literal from ending the string at once. -/
theorem Script.head?_toJson_ne {raw : Text} (h : raw ≠ []) (rest : Text) :
    (toJson raw ++ rest).head? ≠ some '"' := by
  fun_cases toJson raw <;> simp_all

theorem Script.decode_ne_nil {raw value : Text} (h : raw ≠ [])
    (hdecode : decode raw = .ok value) : value ≠ [] := by
  have hhead := head?_toJson_ne h ['"']
  simp only [decode, document, readDocument, List.cons_append] at hdecode
  cases hread : Json.readString (toJson raw ++ ['"']) with
  | error e => simp [hread] at hdecode
  | ok result =>
      obtain ⟨read, rest⟩ := result
      cases rest with
      | nil =>
          rw [hread] at hdecode
          cases hdecode
          exact readString_ne_nil hhead hread
      | cons c rest => simp [hread] at hdecode

end Literal

namespace CallLiteral

variable {marks : List QuoteMark}

/-- A literal that cannot be decoded is reported as it is written. -/
theorem exists_reason {l : CallLiteral} {cause : Error} (h : l.decodeScript = .error cause) :
    ∃ reason, cause = .malformedLiteral l.raw reason := by
  simp only [decodeScript, Literal.Script.decode] at h
  split at h
  · cases h
  · cases h
    exact ⟨_, rfl⟩

theorem raw_ne_nil_of_read {t rest : Text} {l : CallLiteral}
    (h : read marks t = some (l, rest)) : l.raw ≠ [] := by
  obtain ⟨mark, -, hm⟩ := List.exists_of_findSome?_eq_some h
  unfold readWith at hm
  split at hm
  · split at hm
    · split at hm
      · cases hm
        simp
      · simp at hm
    · simp at hm
  · simp at hm

theorem read_of_splitAtCall? {t before rest : Text} {l : CallLiteral}
    (h : splitAtCall? marks t = some (before, l, rest)) :
    read marks (l.source ++ rest) = some (l, rest) := by
  induction t generalizing before with
  | nil => simp [splitAtCall?] at h
  | cons c t ih =>
      rw [splitAtCall?] at h
      split at h
      · rename_i hr
        cases h
        rwa [read_eq_append hr] at hr
      · obtain ⟨b, hs, -⟩ := Text.exists_of_map_cons_eq_some h
        exact ih hs

theorem raw_ne_nil_of_splitAtCall? {t before rest : Text} {l : CallLiteral}
    (h : splitAtCall? marks t = some (before, l, rest)) : l.raw ≠ [] :=
  raw_ne_nil_of_read (read_of_splitAtCall? h)

/-! ### The calls of a line -/

theorem scan_of_splitAtCall?_eq_none {t : Text} (h : splitAtCall? marks t = none) :
    scan marks t = ⟨[], t⟩ := by
  rw [scan]
  split
  · rfl
  · simp_all

theorem scan_of_splitAtCall?_eq_some {t before rest : Text} {l : CallLiteral}
    (h : splitAtCall? marks t = some (before, l, rest)) :
    scan marks t = ⟨(before, l) :: (scan marks rest).calls, (scan marks rest).tail⟩ := by
  rw [scan]
  split <;> simp_all

theorem raw_ne_nil_of_mem_scan {t : Text} {call : Text × CallLiteral}
    (h : call ∈ (scan marks t).calls) : call.2.raw ≠ [] := by
  fun_induction scan marks t with
  | case1 t hnone => simp at h
  | case2 t before l rest hsome _ s ih =>
      rcases List.mem_cons.1 h with rfl | h
      · exact raw_ne_nil_of_splitAtCall? hsome
      · exact ih h

/-- A call starts with an underscore, so none starts in a text without one. -/
theorem splitAtCall?_append {lead : Text} (h : '_' ∉ lead) (t : Text) :
    splitAtCall? marks (lead ++ t) = (splitAtCall? marks t).map (Prod.map (lead ++ ·) id) := by
  induction lead with
  | nil =>
      rw [List.nil_append]
      cases splitAtCall? marks t <;> rfl
  | cons c lead ih =>
      rw [List.mem_cons, not_or] at h
      have hread : read marks (c :: (lead ++ t)) = none := by
        rw [read, List.findSome?_eq_none_iff]
        intro mark _
        unfold readWith
        split
        · simp_all
        · rfl
      rw [List.cons_append, splitAtCall?, hread]
      simp only [ih h.2, Option.map_map]
      rfl

/-- Such a text only moves the calls after it. -/
theorem place_scan_append {lead : Text} (h : '_' ∉ lead) (before t : Text) :
    place before (scan marks (lead ++ t)).calls = place (before ++ lead) (scan marks t).calls := by
  have hsplit : splitAtCall? marks (lead ++ t) = _ := splitAtCall?_append h t
  cases hs : splitAtCall? marks t with
  | none =>
      rw [hs] at hsplit
      rw [scan_of_splitAtCall?_eq_none hs, scan_of_splitAtCall?_eq_none hsplit]
      rfl
  | some p =>
      obtain ⟨gap, l, rest⟩ := p
      rw [hs] at hsplit
      rw [scan_of_splitAtCall?_eq_some hs, scan_of_splitAtCall?_eq_some hsplit]
      simp only [place, List.append_assoc]

theorem place_append (before s : Text) (calls : List (Text × CallLiteral)) :
    place (before ++ s) calls =
      (place s calls).map fun p => ⟨before ++ p.before, p.literal⟩ := by
  induction calls generalizing s with
  | nil => rfl
  | cons call calls ih => simp only [place, List.map_cons, List.append_assoc, ih]

theorem inScript_nil : inScript [] = [] := by
  rw [inScript, scan_of_splitAtCall?_eq_none rfl]
  rfl

theorem inScript_append {lead : Text} (h : '_' ∉ lead) (code : Text) :
    inScript (lead ++ code) =
      (inScript code).map fun p => ⟨lead ++ p.before, p.literal⟩ := by
  have hmoved := place_append lead [] (scan [.single, .double] code).calls
  rw [List.append_nil] at hmoved
  rw [inScript, place_scan_append h, List.nil_append]
  exact hmoved

/-- A call that has been found is read where it stands. -/
theorem read_of_mem_place {t : Text} {p : Placed} : ∀ before : Text,
    p ∈ place before (scan marks t).calls →
      ∃ after, before ++ t = p.before ++ p.literal.source ++ after ∧
        read marks (p.literal.source ++ after) = some (p.literal, after) := by
  fun_induction scan marks t with
  | case1 t hnone =>
      intro before h
      cases h
  | case2 t gap l rest hsome _ s ih =>
      intro before h
      rw [splitAtCall?_eq_append hsome]
      rcases List.mem_cons.1 h with rfl | h
      · exact ⟨rest, by simp only [List.append_assoc], read_of_splitAtCall? hsome⟩
      · obtain ⟨after, hafter, hread⟩ := ih _ h
        exact ⟨after, by rw [← hafter]; simp only [List.append_assoc], hread⟩

theorem eq_append_of_mem_inScript {code : Text} {p : Placed} (h : p ∈ inScript code) :
    ∃ after, code = p.before ++ p.literal.source ++ after :=
  (read_of_mem_place [] h).imp fun _ => And.left

theorem literal_place (before : Text) (calls : List (Text × CallLiteral)) :
    (place before calls).map Placed.literal = calls.map Prod.snd := by
  induction calls generalizing before with
  | nil => rfl
  | cons call calls ih =>
      rw [place, List.map_cons, List.map_cons, ih]

/-- The msgids of the calls in a line of script code, less the literals that
cannot be decoded. -/
def scriptMsgids (code : Text) : List Text :=
  ((scan [.single, .double] code).calls.map Prod.snd).filterMap fun l =>
    l.decodeScript.toOption

theorem scriptMsgids_nil : scriptMsgids [] = [] := by
  rw [scriptMsgids, scan_of_splitAtCall?_eq_none rfl]
  rfl

theorem scriptMsgids_append {indent : Text} (h : '_' ∉ indent) (code : Text) :
    scriptMsgids (indent ++ code) = scriptMsgids code := by
  have hliterals (t : Text) : scriptMsgids t =
      ((inScript t).map Placed.literal).filterMap fun l => l.decodeScript.toOption := by
    rw [inScript, literal_place]
    rfl
  rw [hliterals, hliterals, inScript_append h, List.map_map]
  rfl

theorem ne_nil_of_mem_scriptMsgids {code msgid : Text} (h : msgid ∈ scriptMsgids code) :
    msgid ≠ [] := by
  obtain ⟨l, hl, hdecode⟩ := List.mem_filterMap.1 h
  obtain ⟨call, hcall, rfl⟩ := List.mem_map.1 hl
  refine Literal.Script.decode_ne_nil (raw_ne_nil_of_mem_scan hcall) ?_
  cases hd : call.2.decodeScript with
  | error e => simp [hd, Except.toOption] at hdecode
  | ok value =>
      simp only [hd, Except.toOption, Option.some.injEq] at hdecode
      rw [← hdecode]
      exact hd

end CallLiteral

end Phrasebook
