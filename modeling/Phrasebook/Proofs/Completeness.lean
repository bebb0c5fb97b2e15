import Phrasebook.Proofs.Agreement
import Phrasebook.Proofs.Bodies
import Phrasebook.Proofs.Lookups
import Phrasebook.Proofs.Occurrences
import Phrasebook.Proofs.Parsed
import Phrasebook.Proofs.Rows
import Phrasebook.Proofs.Scan
import Phrasebook.Proofs.ScriptCalls

/-!
Catalogs are complete: what a localized template looks up is what extraction
records.

The msgids of a node are told here without either of the two, by what the node
is.  Localization writes a lookup for each of them and extraction records each
of them, together with the explicit calls in code.  Extraction drops empty
msgids where localization never comes to write one: the text of a parsed node
does not end in a blank, so that nothing is taken off its end, and a literal
that is not empty does not decode to an empty text.
-/

namespace Phrasebook

/-- Msgids that stand on the same line. -/
def occurrencesAt (file : Text) (line : Nat) (msgids : List Text) : List Occurrence :=
  msgids.map fun msgid => ⟨msgid, ⟨file, line⟩⟩

/-- The msgid of a fragment of text, unless an interpolation in it never ends. -/
def fragmentMsgids (t : Text) : List Text :=
  match Phrase.ofText false t with
  | .ok phrase => [phrase.template]
  | .error _ => []

/-- The msgids of the explicit calls in Ruby code. -/
def rubyMsgids (code : Text) : List Text :=
  (CallLiteral.inRuby code).map fun p => p.literal.decodeRuby

/-- The msgids that are looked up in place of a node. -/
def Node.lookups (file : Text) (sourceLines : List Text) (n : Node) : List Occurrence :=
  match n.kind with
  | .plain p => occurrencesAt file n.line (fragmentMsgids p.text)
  | .tag t =>
      if t.isEvaluated || t.value.isEmpty then []
      else occurrencesAt file n.line (fragmentMsgids t.value)
  | .filter f =>
      match f.kind with
      | .markdown => if n.line < f.endLine then occurrencesAt file n.line [f.msgid] else []
      | .javascript =>
          (List.range' (n.line + 1) (f.endLine - n.line)).flatMap fun line =>
            occurrencesAt file line
              (CallLiteral.scriptMsgids ((sourceLines[line - 1]?).getD []))
      | .other _ => []
  | .attributes _ | .script _ _ => []

/-- The msgids of the explicit calls in the code of a node. -/
def Node.explicitCalls (file : Text) (n : Node) : List Occurrence :=
  match n.kind with
  | .tag t => if t.isEvaluated then occurrencesAt file n.line (rubyMsgids t.value) else []
  | .attributes hashes => occurrencesAt file n.line (hashes.flatMap rubyMsgids)
  | .plain _ | .script _ _ | .filter _ => []

/-- What is recorded of a node: its lookups and its explicit calls. -/
def Node.occurrences (file : Text) (sourceLines : List Text) (n : Node) : List Occurrence :=
  n.lookups file sourceLines ++ n.explicitCalls file

/-! ### Msgids are not empty -/

theorem filter_records_occurrencesAt {file : Text} {line : Nat} {msgids : List Text}
    (h : ∀ msgid ∈ msgids, msgid ≠ []) :
    (occurrencesAt file line msgids).filter Catalog.records = occurrencesAt file line msgids := by
  rw [List.filter_eq_self]
  intro o ho
  obtain ⟨msgid, hmsgid, rfl⟩ := List.mem_map.1 ho
  simpa [Catalog.records] using h msgid hmsgid

theorem Marker.template_ne_nil (m : Marker) : m.template ≠ [] := by
  unfold template
  cases m.content <;> simp [placeholder]

theorem Phrase.template_ne_nil {escapeHtml : Bool} {t : Text} {p : Phrase} (hne : t ≠ [])
    (htrimmed : Text.Trimmed t) (h : ofText escapeHtml t = .ok p) : p.template ≠ [] := by
  obtain ⟨tail, hending, rfl⟩ := ofText_eq_ok_iff.1 h
  cases hnext : Marker.next '{' '}' t with
  | finished =>
      rw [Marker.scan_of_finished hnext] at hending
      cases hending
      simpa [ofMarkers, Marker.scan_of_finished hnext, Text.chomp_of_trimmed htrimmed] using hne
  | found m rest =>
      simp [ofMarkers, Marker.scan_of_found hnext, m.template_ne_nil]
  | unterminated before =>
      rw [Marker.scan_of_unterminated hnext] at hending
      cases hending

theorem ne_nil_of_mem_fragmentMsgids {t msgid : Text} (hne : t ≠ [])
    (htrimmed : Text.Trimmed t) (h : msgid ∈ fragmentMsgids t) : msgid ≠ [] := by
  unfold fragmentMsgids at h
  cases hphrase : Phrase.ofText false t with
  | error e => simp [hphrase] at h
  | ok phrase =>
      simp only [hphrase, List.mem_singleton] at h
      rw [h]
      exact Phrase.template_ne_nil hne htrimmed hphrase

theorem ne_nil_of_mem_rubyMsgids {code msgid : Text} (h : msgid ∈ rubyMsgids code) :
    msgid ≠ [] := by
  obtain ⟨p, hp, rfl⟩ := List.mem_map.1 h
  have hliteral : p.literal ∈ (CallLiteral.scan [.single] code).calls.map Prod.snd := by
    rw [← CallLiteral.literal_place []]
    exact List.mem_map_of_mem hp
  obtain ⟨call, hcall, heq⟩ := List.mem_map.1 hliteral
  rw [← heq]
  exact Literal.SingleQuoted.decode_ne_nil (CallLiteral.raw_ne_nil_of_mem_scan hcall)

/-! ### What localization looks up -/

namespace Localizer

variable {l : Localizer} {file : Text} {sourceLines : List Text}

theorem occurrence?_of_plainPiece {line : Nat} {p : PlainText} {piece : Piece}
    (h : l.plainPiece line p = .ok piece) :
    [piece].filterMap (Piece.occurrence? file) =
      occurrencesAt file line (fragmentMsgids p.text) := by
  obtain ⟨phrase, hphrase, rfl⟩ := map_eq_ok_iff.1 h
  rw [Phrase.ofText_eq_map, map_eq_ok_iff] at hphrase
  obtain ⟨plain, hplain, rfl⟩ := hphrase
  simp [Piece.occurrence?, occurrencesAt, fragmentMsgids, hplain]

theorem occurrence?_of_interpolation (piece : Piece) :
    piece.interpolation.filterMap (Piece.occurrence? file) =
      [piece].filterMap (Piece.occurrence? file) := by
  simp [Piece.interpolation, Piece.occurrence?, List.filterMap_cons]

theorem occurrence?_of_scriptPieces (line : Nat) (code : Text) :
    (scriptPieces line code).filterMap (Piece.occurrence? file) =
      occurrencesAt file line (CallLiteral.scriptMsgids code) := by
  have hcall (c : CallLiteral) :
      (scriptCallPieces line c).filterMap (Piece.occurrence? file) =
        occurrencesAt file line c.decodeScript.toOption.toList := by
    unfold scriptCallPieces
    cases c.decodeScript <;> rfl
  have hcalls (calls : List (Text × CallLiteral)) :
      (calls.flatMap fun call =>
          .verbatim call.1 :: scriptCallPieces line call.2).filterMap (Piece.occurrence? file) =
        occurrencesAt file line
          ((calls.map Prod.snd).filterMap fun c => c.decodeScript.toOption) := by
    induction calls with
    | nil => rfl
    | cons call calls ih =>
        rw [List.flatMap_cons, List.filterMap_append, ih, List.filterMap_cons_none rfl, hcall,
          List.map_cons, List.filterMap_cons]
        cases call.2.decodeScript.toOption <;> rfl
  rw [scriptPieces, List.filterMap_append, hcalls]
  exact List.append_nil _

theorem lookups_of_tagPieces (hactive : l.isActive = true) {line : Nat} {tag : Tag}
    {value : Option (List Piece)} (h : l.tagPieces line tag = .ok value) :
    (value.getD []).filterMap (Piece.occurrence? file) =
      Node.lookups file sourceLines ⟨line, .tag tag⟩ := by
  unfold tagPieces at h
  split at h
  · rename_i hskip
    cases h
    simp only [hactive, Bool.not_true, Bool.false_or, Bool.or_comm tag.value.isEmpty] at hskip
    simp [Node.lookups, hskip]
  · rename_i hskip
    simp only [hactive, Bool.not_true, Bool.false_or, Bool.or_comm tag.value.isEmpty] at hskip
    obtain ⟨phrase, hphrase, rfl⟩ := map_eq_ok_iff.1 h
    rw [Option.getD_some, occurrence?_of_interpolation]
    simp [Node.lookups, hskip, fragmentMsgids, hphrase, Piece.occurrence?, occurrencesAt]

theorem lookups_of_scriptEdit (line : Nat) (code : Option Text) :
    PieceEdit.lookups file ⟨line, code.map (scriptPieces line)⟩ =
      occurrencesAt file line (CallLiteral.scriptMsgids (code.getD [])) := by
  cases code with
  | none => simp [PieceEdit.lookups, CallLiteral.scriptMsgids_nil, occurrencesAt]
  | some code => exact occurrence?_of_scriptPieces line code

/-- Lines that are removed look nothing up. -/
theorem lookups_of_removed (lines : List Nat) :
    (lines.map fun n => PieceEdit.mk n none).flatMap (PieceEdit.lookups file) = [] := by
  simp [PieceEdit.lookups]

theorem lookups_of_filterPieces {line : Nat} {name : Text} {body : List Text}
    (hfeed : ∀ t ∈ body, '\n' ∉ t)
    (hlast : ∀ t ∈ body.getLast?, Text.isBlankLine t = false) :
    (filterPieces sourceLines line (Template.filterOf name line body)).flatMap
        (PieceEdit.lookups file) =
      Node.lookups file sourceLines ⟨line, .filter (Template.filterOf name line body)⟩ := by
  have hmsgid := Template.msgid_filterOf_eq_nil_iff name line hfeed hlast
  have hend : (Template.filterOf name line body).endLine = line + body.length := rfl
  simp only [filterPieces, Node.lookups, hend, Nat.add_sub_cancel_left]
  cases (Template.filterOf name line body).kind with
  | markdown =>
      cases body with
      | nil =>
          have hnone : markdownPieces line (Template.filterOf name line []) = none := by
            rw [markdownPieces, hmsgid.2 rfl]
            rfl
          simp [hnone]
      | cons first body =>
          have hne : (Template.filterOf name line (first :: body)).msgid ≠ [] := by
            simp [hmsgid]
          -- Only the first line of a body is written anew, and the others go.
          simp only [markdownPieces, List.isEmpty_eq_false_iff.2 hne, Bool.false_eq_true, if_false,
            List.length_cons, List.range'_succ, List.flatMap_cons, lookups_of_removed,
            List.append_nil]
          rw [if_pos (by omega), PieceEdit.lookups, Option.getD_some,
            List.filterMap_cons_none rfl, occurrence?_of_interpolation]
          rfl
  | javascript => simp only [List.flatMap_map, lookups_of_scriptEdit]
  | other name => rfl

/-- The lookups among the edits of a parsed node are those of its msgids. -/
theorem lookups_of_pieceEdits (hactive : l.isActive = true) {n : Node}
    (hparsed : n.Parsed sourceLines) (hfeed : ∀ t ∈ sourceLines, '\n' ∉ t)
    {es : List PieceEdit} (h : l.pieceEdits file sourceLines n = .ok es) :
    es.flatMap (PieceEdit.lookups file) = n.lookups file sourceLines := by
  cases hparsed with
  | @plain line p _ _ =>
      simp only [pieceEdits] at h
      cases hpiece : l.plainPiece line p with
      | error e => simp [hpiece] at h
      | ok piece =>
          rw [hpiece] at h
          cases h
          exact (List.append_nil _).trans (occurrence?_of_plainPiece hpiece)
  | @tag line tag _ =>
      simp only [pieceEdits] at h
      cases hvalue : l.tagPieces line tag with
      | error e => simp [hvalue] at h
      | ok value =>
          rw [hvalue] at h
          rw [← lookups_of_tagPieces hactive hvalue]
          cases value with
          | none =>
              cases h
              rfl
          | some ps =>
              cases h
              exact List.append_nil _
  | attributes =>
      cases h
      rfl
  | script =>
      cases h
      rfl
  | @filter line name body later hbody hlast =>
      cases h
      exact lookups_of_filterPieces (fun t ht => hfeed t (mem_of_mem_body hbody ht)) hlast

end Localizer

/-! ### What extraction records -/

namespace Extraction

variable {file : Text} {sourceLines : List Text}

theorem occurrences_concat (es : List Extraction) :
    (concat es).occurrences = es.flatMap occurrences :=
  rfl

theorem occurrences_of_ofFragment {line column : Nat} {t : Text} {found : Extraction}
    (h : ofFragment file line column t = .ok found) :
    found.occurrences = occurrencesAt file line (fragmentMsgids t) := by
  obtain ⟨p, hp, rfl⟩ := ofFragment_eq_ok_iff.1 h
  rw [fragmentMsgids, hp]
  rfl

theorem occurrences_ofRuby (line : Nat) (code : Text) :
    (ofRuby file line code).occurrences = occurrencesAt file line (rubyMsgids code) := by
  simp [ofRuby, occurrencesAt, rubyMsgids]

theorem occurrences_ofScriptLine (line indent : Nat) (code : Text) :
    (concat ((CallLiteral.inScript code).map (ofScriptCall file line indent))).occurrences =
      occurrencesAt file line (CallLiteral.scriptMsgids code) := by
  have hcalls (ps : List CallLiteral.Placed) :
      (concat (ps.map (ofScriptCall file line indent))).occurrences =
        occurrencesAt file line
          ((ps.map CallLiteral.Placed.literal).filterMap fun c => c.decodeScript.toOption) := by
    induction ps with
    | nil => rfl
    | cons p ps ih =>
        rw [occurrences_concat, List.map_cons, List.flatMap_cons, ← occurrences_concat, ih,
          List.map_cons, List.filterMap_cons, ofScriptCall]
        cases p.literal.decodeScript <;> rfl
  rw [hcalls, CallLiteral.inScript, CallLiteral.literal_place]
  rfl

theorem scriptMsgids_outdent (indent code : Text) :
    CallLiteral.scriptMsgids (Text.outdent indent code) = CallLiteral.scriptMsgids code := by
  obtain ⟨lead, hlead, hindent, -⟩ := Text.append_outdent indent code
  have hmark : '_' ∉ lead := fun hmem => absurd (hindent _ hmem) (by decide)
  calc
    CallLiteral.scriptMsgids (Text.outdent indent code)
    _ = CallLiteral.scriptMsgids (lead ++ Text.outdent indent code) :=
      (CallLiteral.scriptMsgids_append hmark _).symm
    _ = CallLiteral.scriptMsgids code := by rw [← hlead]

/-- The lines of a body are read without their indentation, yet give the msgids
of the full source lines. -/
theorem occurrences_ofScript (indent : Text) {line : Nat} {body later : List Text}
    (hbody : sourceLines.drop line = body ++ later) :
    (ofScript file (line + 1) indent.length (body.map (Text.outdent indent))).occurrences =
      (List.range' (line + 1) body.length).flatMap fun m =>
        occurrencesAt file m (CallLiteral.scriptMsgids ((sourceLines[m - 1]?).getD [])) := by
  -- The header moves down one line at each step, so that the lines left of the body
  -- are again the ones after it.
  induction body generalizing line with
  | nil => rfl
  | cons code body ih =>
      have hline : sourceLines[line]? = some code := by
        have hhead : (sourceLines.drop line)[0]? = some code := by
          rw [hbody]
          rfl
        simpa using hhead
      have hrest : sourceLines.drop (line + 1) = body ++ later := by
        rw [← List.drop_drop, hbody]
        rfl
      rw [List.map_cons, ofScript, occurrences_concat, List.length_cons, List.range'_succ]
      simp only [List.flatMap_cons, List.flatMap_nil, List.append_nil]
      rw [occurrences_ofScriptLine, scriptMsgids_outdent, ih hrest]
      simp [hline]

theorem occurrences_ofFilter {line : Nat} {name : Text} {body later : List Text}
    (hfeed : ∀ t ∈ body, '\n' ∉ t)
    (hlast : ∀ t ∈ body.getLast?, Text.isBlankLine t = false)
    (hbody : sourceLines.drop line = body ++ later) :
    (ofFilter file line (Template.filterOf name line body)).occurrences.filter
        Catalog.records =
      Node.lookups file sourceLines ⟨line, .filter (Template.filterOf name line body)⟩ := by
  have hmsgid := Template.msgid_filterOf_eq_nil_iff name line hfeed hlast
  have hend : (Template.filterOf name line body).endLine = line + body.length := rfl
  simp only [ofFilter, Node.lookups, hend, Nat.add_sub_cancel_left]
  cases (Template.filterOf name line body).kind with
  | markdown =>
      change (occurrencesAt file line [_]).filter Catalog.records = _
      by_cases hbodyNil : body = []
      · rw [hmsgid.2 hbodyNil, hbodyNil, if_neg (by simp)]
        rfl
      · have hpos : 0 < body.length := List.length_pos_iff.2 hbodyNil
        rw [if_pos (by omega), filter_records_occurrencesAt]
        rintro msgid hmem
        rw [List.mem_singleton.1 hmem]
        exact fun hnil => hbodyNil (hmsgid.1 hnil)
  | javascript =>
      change (ofScript file (line + 1) _ _).occurrences.filter Catalog.records = _
      rw [ofScript_pieces_filterOf file name line _ _ hfeed, occurrences_ofScript _ hbody,
        List.filter_flatMap]
      congr 1
      funext m
      exact filter_records_occurrencesAt fun _ => CallLiteral.ne_nil_of_mem_scriptMsgids
  | other name => rfl

theorem occurrences_of_ofTag {line : Nat} {tag : Tag} (htrimmed : Text.Trimmed tag.value)
    {found : Extraction} (h : ofNode file ⟨line, .tag tag⟩ = .ok found) :
    found.occurrences.filter Catalog.records =
      Node.lookups file sourceLines ⟨line, .tag tag⟩ ++
        Node.explicitCalls file ⟨line, .tag tag⟩ := by
  simp only [ofNode] at h
  simp only [Node.lookups, Node.explicitCalls]
  cases hevaluated : tag.isEvaluated with
  | true =>
      rw [hevaluated] at h
      cases h
      rw [occurrences_ofRuby, filter_records_occurrencesAt fun _ => ne_nil_of_mem_rubyMsgids]
      rfl
  | false =>
      rw [hevaluated] at h
      rw [occurrences_of_ofFragment h]
      by_cases hvalue : tag.value = []
      · -- Extraction does not skip an empty value, but records nothing for it.
        rw [hvalue, fragmentMsgids, Phrase.ofText_nil]
        rfl
      · rw [filter_records_occurrencesAt fun _ => ne_nil_of_mem_fragmentMsgids hvalue htrimmed]
        simp [hvalue]

theorem occurrences_ofHashes (line : Nat) (hashes : List Text) :
    (concat (hashes.map (ofRuby file line))).occurrences.filter Catalog.records =
      occurrencesAt file line (hashes.flatMap rubyMsgids) := by
  have hhashes : (concat (hashes.map (ofRuby file line))).occurrences =
      occurrencesAt file line (hashes.flatMap rubyMsgids) := by
    simp [occurrences_concat, List.flatMap_map, occurrences_ofRuby, occurrencesAt,
      List.map_flatMap]
  rw [hhashes]
  refine filter_records_occurrencesAt fun msgid hmem => ?_
  obtain ⟨hash, -, hmem⟩ := List.mem_flatMap.1 hmem
  exact ne_nil_of_mem_rubyMsgids hmem

theorem occurrences_of_ofNode {n : Node} (hparsed : n.Parsed sourceLines)
    (hfeed : ∀ t ∈ sourceLines, '\n' ∉ t) {found : Extraction}
    (h : ofNode file n = .ok found) :
    found.occurrences.filter Catalog.records =
      n.occurrences file sourceLines := by
  cases hparsed with
  | plain hne htrimmed =>
      rw [occurrences_of_ofFragment h, filter_records_occurrencesAt fun _ =>
        ne_nil_of_mem_fragmentMsgids hne htrimmed]
      exact (List.append_nil _).symm
  | tag htrimmed => exact occurrences_of_ofTag htrimmed h
  | @attributes line hashes =>
      cases h
      exact occurrences_ofHashes line hashes
  | script =>
      cases h
      rfl
  | @filter line name body later hbody hlast =>
      cases h
      have hbodyFeed : ∀ t ∈ body, '\n' ∉ t := fun t ht => hfeed t (mem_of_mem_body hbody ht)
      exact (occurrences_ofFilter hbodyFeed hlast hbody).trans (List.append_nil _).symm

end Extraction

/-! ### Whole templates -/

namespace Template

/-- The msgids that are looked up in place of the enabled nodes. -/
def lookups (t : Template) (sourceLines : List Text) : List Occurrence :=
  t.enabledNodes.flatMap (Node.lookups t.name sourceLines)

/-- The msgids of the explicit calls in the enabled nodes. -/
def explicitCalls (t : Template) : List Occurrence :=
  t.enabledNodes.flatMap (Node.explicitCalls t.name)

end Template

namespace Extraction

variable {source name : Text} {found : Extraction}

/-- What an extraction records, node by node. -/
theorem filter_records_occurrences (hfound : ofTemplate (Template.parse source name) = .ok found) :
    found.occurrences.filter Catalog.records =
      (Template.parse source name).enabledNodes.flatMap
        (Node.occurrences name (Text.lines source)) := by
  obtain ⟨parts, hparts, rfl⟩ := map_eq_ok_iff.1 hfound
  rw [occurrences_concat, List.filter_flatMap]
  exact flatMap_of_mapM_eq_ok hparts fun n hn _ h => occurrences_of_ofNode
    (Template.parsed_of_mem_enabledNodes hn) (fun _ => Text.not_mem_of_mem_lines) h

/-- Up to order, an extraction records the msgids of lookups and of explicit
calls. -/
theorem catalog_perm (hfound : ofTemplate (Template.parse source name) = .ok found) :
    found.catalog.occurrences.Perm
      ((Template.parse source name).lookups (Text.lines source) ++
        (Template.parse source name).explicitCalls) := by
  refine (Catalog.ofOccurrences_perm _).trans ?_
  rw [filter_records_occurrences hfound]
  exact (List.flatMap_append_perm _ _ _).symm

end Extraction

namespace Localizer

theorem lookups_of_templatePieces {l : Localizer} (hactive : l.isActive = true)
    {source name : Text} {es : List PieceEdit} (h : l.templatePieces source name = .ok es) :
    es.flatMap (PieceEdit.lookups name) =
      (Template.parse source name).lookups (Text.lines source) := by
  obtain ⟨ess, hess, rfl⟩ := map_eq_ok_iff.1 h
  rw [List.flatten_eq_flatMap, List.flatMap_assoc]
  exact flatMap_of_mapM_eq_ok hess fun n hn _ h => lookups_of_pieceEdits hactive
    (Template.parsed_of_mem_enabledNodes hn) (fun _ => Text.not_mem_of_mem_lines) h

/-- Telling the lookups apart changes nothing about failure. -/
theorem templatePieces_eq_error_iff {l : Localizer} (hactive : l.isActive = true)
    {source name : Text} {e : FragmentError} :
    l.templatePieces source name = .error e ↔
      Extraction.ofTemplate (Template.parse source name) = .error e := by
  have hedits : (Template.parse source name).enabledNodes.mapM
      (l.edits name (Text.lines source)) = .error e ↔
        l.templatePieces source name = .error e := by
    rw [funext (edits_eq_map name (Text.lines source)), mapM_map, map_eq_error_iff,
      templatePieces, map_eq_error_iff]
  rw [← hedits, mapM_edits_eq_error_iff hactive]
  exact map_eq_error_iff.symm

/-- When extraction from a template succeeds, so does its localization, and the
catalog stands for exactly the lookups that the localized template contains and
the explicit calls that were in its code.  The localized text is read row by row: each of
those lookups stands in it, in a row that is written in the place of a line of its own. -/
theorem catalog_perm_lookups {l : Localizer} (hactive : l.isActive = true)
    (source name : Text) {found : Extraction}
    (hfound : Extraction.ofTemplate (Template.parse source name) = .ok found) :
    ∃ es rows, l.templatePieces source name = .ok es ∧
      l.localize source name = .ok (l.assemble source (es.map PieceEdit.edit)) ∧
      l.InPieces source es rows (l.assemble source (es.map PieceEdit.edit)) ∧
      rows.flatten.filterMap (Piece.occurrence? name) =
        es.flatMap (PieceEdit.lookups name) ∧
      es.flatMap (PieceEdit.lookups name) =
        (Template.parse source name).lookups (Text.lines source) ∧
      found.catalog.occurrences.Perm
        (es.flatMap (PieceEdit.lookups name) ++
          (Template.parse source name).explicitCalls) := by
  cases hpieces : l.templatePieces source name with
  | error e =>
      -- Extraction would have failed as well.
      have herror := (templatePieces_eq_error_iff hactive).1 hpieces
      rw [hfound] at herror
      cases herror
  | ok es =>
      have hlookups := lookups_of_templatePieces hactive hpieces
      obtain ⟨rows, hrows⟩ := exists_inPieces hpieces
      refine ⟨es, rows, rfl, ?_, hrows, hrows.edited.lookups_eq name, hlookups, ?_⟩
      · rw [localize_eq_map hactive, hpieces]
        rfl
      · rw [hlookups]
        exact Extraction.catalog_perm hfound

/-- Both kinds of code, both kinds of filters, a disabled line, and a literal that
cannot be decoded. -/
theorem catalog_perm_lookups_mixed :
    let l : Localizer := ⟨⟨true, .gettext⟩, none, true⟩
    let source := ("%p\x7bt: _('u')\x7d Hi #\x7bn\x7d\n:javascript\n    a(_('x\\n'), _('\\x'))\n" ++
      ":markdown\n\n  b\n  c\n-# i18n-disable-next-line\nno\n%i= _('v')").toList
    let name := "t".toList
    let found : Extraction :=
      { occurrences := [⟨['u'], ⟨name, 1⟩⟩, ⟨"Hi %s".toList, ⟨name, 1⟩⟩,
          ⟨['x', '\n'], ⟨name, 3⟩⟩, ⟨"b\\nc".toList, ⟨name, 4⟩⟩, ⟨['v'], ⟨name, 10⟩⟩]
        warnings := [⟨3, 17, .malformedLiteral ['\\', 'x']
          "invalid escape at line 1 column 3".toList⟩] }
    let out := ("- extend GetText\n%p\x7bt: _('u')\x7d #\x7b_('Hi %s') % [n]\x7d\n" ++
      ":javascript\n    a(#\x7b_('x\n').to_json\x7d, _('\\x'))\n" ++
      ":markdown\n  #\x7b_('b\\\\nc') % []\x7d\n-# i18n-disable-next-line\nno\n%i= _('v')").toList
    l.isActive = true ∧ Extraction.ofTemplate (Template.parse source name) = .ok found ∧
      ∃ es rows, l.templatePieces source name = .ok es ∧
        l.localize source name = .ok out ∧
        l.InPieces source es rows out ∧
        rows.flatten.filterMap (Piece.occurrence? name) =
          [⟨"Hi %s".toList, ⟨name, 1⟩⟩, ⟨['x', '\n'], ⟨name, 3⟩⟩, ⟨"b\\nc".toList, ⟨name, 4⟩⟩] ∧
        found.catalog.occurrences.Perm
          (es.flatMap (PieceEdit.lookups name) ++
            (Template.parse source name).explicitCalls) := by
  intro l source name found out
  have hfound : Extraction.ofTemplate (Template.parse source name) = .ok found := by
    decide +kernel
  have hout : l.localize source name = .ok out := by decide +kernel
  obtain ⟨es, rows, hes, hlocalize, hrows, hrowLookups, hlookups, hperm⟩ :=
    catalog_perm_lookups (l := l) rfl source name hfound
  have hsame : l.assemble source (es.map PieceEdit.edit) = out :=
    Except.ok.inj (hlocalize.symm.trans hout)
  rw [hsame] at hrows
  refine ⟨rfl, hfound, es, rows, hes, hout, hrows, ?_, hperm⟩
  rw [hrowLookups, hlookups]
  decide +kernel

end Localizer

end Phrasebook
