import Mathlib.Data.List.Infix
import Phrasebook.Proofs.ScriptCalls
import Phrasebook.Snippet

/-!
Explicit calls in the code that localization writes.

The lookup of a msgid starts with a call whose literal is the msgid, each of its
quotes after a backslash.  A scan for explicit calls takes the backslash for an
ordinary character, so it ends the literal at the first quote that a closing
parenthesis follows, escaped or not.  Hence the call is found again if and only if
the msgid has no such quote; otherwise the literal is cut there and ends in the
backslash.
-/

namespace Phrasebook

/-- What ends the literal of a call in Ruby code. -/
def rubyCloser : Text := ['\'', ')']

theorem exists_eq_append_of_rubyCloser_infix {t : Text} (h : rubyCloser <:+: t) :
    ∃ a b, t = a ++ rubyCloser ++ b ∧ ¬ rubyCloser <:+: a := by
  induction t with
  | nil => exact absurd (List.infix_nil.1 h) (by decide)
  | cons c t ih =>
      by_cases hstart : rubyCloser <+: c :: t
      · obtain ⟨b, hb⟩ := hstart
        exact ⟨[], b, hb.symm, by decide⟩
      · obtain ⟨a, b, rfl, ha⟩ := ih ((List.infix_cons_iff.1 h).resolve_left hstart)
        refine ⟨c :: a, b, by simp, ?_⟩
        intro hinfix
        rcases List.infix_cons_iff.1 hinfix with hlead | hinfix
        · refine hstart (hlead.trans ?_)
          exact ⟨rubyCloser ++ b, by simp⟩
        · exact ha hinfix

namespace Literal.SingleQuoted

theorem encode_append (s t : Text) : encode (s ++ t) = encode s ++ encode t := by
  induction s with
  | nil => rfl
  | cons c s ih =>
      rw [List.cons_append, encode, encode, ih]
      split <;> rfl

theorem encode_ne_nil {t : Text} (h : t ≠ []) : encode t ≠ [] := by
  obtain ⟨c, t, rfl⟩ := List.exists_cons_of_ne_nil h
  rw [encode]
  split <;> simp

/-- Whatever follows the encoding of a text is decoded on its own. -/
theorem decode_encode_append (s t : Text) : decode (encode s ++ t) = s ++ decode t := by
  induction s with
  | nil => rfl
  | cons c s ih =>
      rw [encode]
      split
      · rename_i hc
        simp [decode, hc, ih]
      · rename_i hc
        have hslash : c ≠ '\\' := by
          rintro rfl
          simp [isSpecial] at hc
        rw [List.cons_append, List.cons_append, ← ih]
        cases encode s ++ t with
        | nil => rfl
        | cons d u => rw [decode, if_neg fun h => hslash h.1]

end Literal.SingleQuoted

namespace CallLiteral

open Literal.SingleQuoted

/-! ### Bodies -/

theorem head?_encode_append_ne {s t : Text} (h : ¬ rubyCloser <:+: '\'' :: s)
    (ht : t.head? ≠ some ')') : (encode s ++ t).head? ≠ some ')' := by
  cases s with
  | nil => exact ht
  | cons d s =>
      have hd : d ≠ ')' := by
        rintro rfl
        exact h ⟨[], s, rfl⟩
      rw [encode]
      split <;> simp [hd]

/-- The encoding of a text is read as part of a body, unless a quote in it is taken
for the end. -/
theorem readBody_encode_append {s : Text} (h : ¬ rubyCloser <:+: s) {t body rest : Text}
    (ht : t.head? ≠ some ')') (hread : ∀ escaped, readBody '\'' escaped t = some (body, rest))
    (escaped : Bool) :
    readBody '\'' escaped (encode s ++ t) = some (encode s ++ body, rest) := by
  induction s generalizing escaped with
  | nil => exact hread escaped
  | cons c s ih =>
      have hrest := ih fun hinfix => h (List.infix_cons hinfix)
      rw [encode]
      split
      · by_cases hquote : c = '\''
        · -- The backslash lets this quote pass, as no parenthesis follows.
          subst hquote
          have hhead := head?_encode_append_ne h ht
          simp only [List.cons_append, readBody, hhead, hrest]
          simp
        · simp [readBody, hquote, hrest]
      · rename_i hspecial
        have hquote : c ≠ '\'' := by
          rintro rfl
          exact hspecial rfl
        simp [readBody, hquote, hrest]

/-- A text without a quote before a parenthesis is read as a whole. -/
theorem readBody_encode {s : Text} (h : ¬ rubyCloser <:+: s) (rest : Text) :
    readBody '\'' false (encode s ++ (rubyCloser ++ rest)) = some (encode s, rest) := by
  have hread (escaped : Bool) : readBody '\'' escaped (rubyCloser ++ rest) = some ([], rest) := by
    simp [readBody, rubyCloser]
  have hbody := readBody_encode_append h (by simp [rubyCloser]) hread false
  rwa [List.append_nil] at hbody

/-- The first quote before a parenthesis ends the body, and the backslash before it
stays. -/
theorem readBody_encode_rubyCloser {a : Text} (h : ¬ rubyCloser <:+: a) (b rest : Text) :
    readBody '\'' false (encode (a ++ rubyCloser ++ b) ++ rest) =
      some (encode a ++ ['\\'], encode b ++ rest) := by
  have hencode : encode (a ++ rubyCloser ++ b) ++ rest =
      encode a ++ ('\\' :: rubyCloser ++ (encode b ++ rest)) := by
    have hcloser : encode rubyCloser = '\\' :: rubyCloser := rfl
    simp [encode_append, hcloser]
  rw [hencode]
  exact readBody_encode_append h (by simp) (by simp [readBody, rubyCloser]) false

/-! ### Calls -/

theorem inRuby_of_readBody {t raw rest : Text} (h : readBody '\'' false t = some (raw, rest))
    (hne : raw ≠ []) :
    inRuby ('_' :: '(' :: '\'' :: t) = ⟨[], ⟨raw, .single⟩⟩ ::
      place (CallLiteral.source ⟨raw, .single⟩) (scan [.single] rest).calls := by
  obtain ⟨c, raw, rfl⟩ := List.exists_cons_of_ne_nil hne
  have hread : read [.single] ('_' :: '(' :: '\'' :: t) = some (⟨c :: raw, .single⟩, rest) := by
    simp [read, readWith, QuoteMark.char, h]
  have hsplit : splitAtCall? [.single] ('_' :: '(' :: '\'' :: t) =
      some ([], ⟨c :: raw, .single⟩, rest) := by
    rw [splitAtCall?, hread]
  rw [inRuby, scan_of_splitAtCall?_eq_some hsplit]
  simp [place]

/-- The one explicit call in `code` is the call of `msgid` that it starts with. -/
def FindsCall (code msgid : Text) : Prop :=
  ∃ p, inRuby code = [p] ∧ p.start = 0 ∧ p.stop = Text.utf8Size (Snippet.call msgid) ∧
    p.literal.source = Snippet.call msgid ∧ p.literal.decodeRuby = msgid

theorem call_append (msgid rest : Text) :
    Snippet.call msgid ++ rest =
      '_' :: '(' :: '\'' :: (encode msgid ++ (rubyCloser ++ rest)) := by
  simp [Snippet.call, rubyCloser]

theorem findsCall_call_append {msgid rest : Text} (hne : msgid ≠ [])
    (h : ¬ rubyCloser <:+: msgid) (hrest : splitAtCall? [.single] rest = none) :
    FindsCall (Snippet.call msgid ++ rest) msgid := by
  refine ⟨⟨[], ⟨encode msgid, .single⟩⟩, ?_, rfl, ?_, ?_, decode_encode msgid⟩
  · rw [call_append, inRuby_of_readBody (readBody_encode h rest) (encode_ne_nil hne),
      scan_of_splitAtCall?_eq_none hrest]
    rfl
  · simp [Placed.stop, Placed.start, source, Snippet.call, QuoteMark.char]
  · simp [source, Snippet.call, QuoteMark.char]

theorem inRuby_call_rubyCloser {a : Text} (h : ¬ rubyCloser <:+: a) (b rest : Text) :
    ∃ p ps, inRuby (Snippet.call (a ++ rubyCloser ++ b) ++ rest) = p :: ps ∧
      p.start = 0 ∧ p.literal.decodeRuby = a ++ ['\\'] := by
  have hread := readBody_encode_rubyCloser h b (rubyCloser ++ rest)
  rw [call_append, inRuby_of_readBody hread (by simp)]
  exact ⟨_, _, rfl, rfl, decode_encode_append a ['\\']⟩

theorem findsCall_call_append_iff {msgid rest : Text} (hne : msgid ≠ [])
    (hrest : splitAtCall? [.single] rest = none) :
    FindsCall (Snippet.call msgid ++ rest) msgid ↔ ¬ rubyCloser <:+: msgid := by
  refine ⟨?_, fun h => findsCall_call_append hne h hrest⟩
  rintro ⟨p, hp, -, -, -, hdecode⟩ hinfix
  obtain ⟨a, b, rfl, ha⟩ := exists_eq_append_of_rubyCloser_infix hinfix
  obtain ⟨q, qs, hq, -, hcut⟩ := inRuby_call_rubyCloser ha b rest
  obtain ⟨rfl, -⟩ := List.cons.inj (hp.symm.trans hq)
  -- The msgid goes on with a quote where the literal has its backslash.
  rw [hdecode] at hcut
  simp [rubyCloser] at hcut

/-- A scan of a lookup finds the call of its msgid if and only if no quote in the
msgid comes before a closing parenthesis.  If one does, then the first call found
ends at the first such quote. -/
theorem findsCall_lookup_iff {msgid : Text} (hne : msgid ≠ []) :
    ∀ code ∈ [Snippet.scriptLookup msgid, Snippet.lookup msgid []],
      (FindsCall code msgid ↔ ¬ rubyCloser <:+: msgid) ∧
      ∀ a b, msgid = a ++ rubyCloser ++ b → ¬ rubyCloser <:+: a →
        ∃ p ps, inRuby code = p :: ps ∧ p.start = 0 ∧ p.literal.decodeRuby = a ++ ['\\'] := by
  intro code hcode
  obtain ⟨rest, rfl, hrest⟩ :
      ∃ rest, code = Snippet.call msgid ++ rest ∧ splitAtCall? [.single] rest = none := by
    simp only [List.mem_cons, List.not_mem_nil, or_false] at hcode
    rcases hcode with rfl | rfl
    · exact ⟨".to_json".toList, rfl, by decide +kernel⟩
    · exact ⟨" % []".toList, by simp [Snippet.lookup, Text.join], by decide +kernel⟩
  refine ⟨findsCall_call_append_iff hne hrest, ?_⟩
  rintro a b rfl ha
  exact inRuby_call_rubyCloser ha b rest

/-- Quotes and backslashes next to each other and at the end are no obstacle, one
parenthesis is. -/
theorem findsCall_lookup_quotes :
    let msgid := "it's '\\')".toList
    let cut := "it's '\\".toList
    cut ≠ [] ∧ ¬ rubyCloser <:+: cut ∧ FindsCall (Snippet.scriptLookup cut) cut ∧
      FindsCall (Snippet.lookup cut []) cut ∧ msgid = cut ++ rubyCloser ++ [] ∧
      ∃ p ps, inRuby (Snippet.lookup msgid []) = p :: ps ∧ p.start = 0 ∧
        p.literal.decodeRuby = cut ++ ['\\'] := by
  intro msgid cut
  have hcut : ¬ rubyCloser <:+: cut := by decide +kernel
  have hfinds := findsCall_lookup_iff (show cut ≠ [] by decide)
  have hfirst := (findsCall_lookup_iff (show msgid ≠ [] by decide) (Snippet.lookup msgid [])
    (by simp)).2 cut [] (by decide +kernel) hcut
  refine ⟨by decide, hcut, ?_, ?_, by decide +kernel, hfirst⟩
  · exact (hfinds _ (by simp)).1.2 hcut
  · exact (hfinds _ (by simp)).1.2 hcut

/-- The call of a msgid is not always found again. -/
theorem not_forall_findsCall_lookup :
    ¬ ∀ msgid, msgid ≠ [] →
      FindsCall (Snippet.scriptLookup msgid) msgid ∧ FindsCall (Snippet.lookup msgid []) msgid := by
  intro h
  obtain ⟨p, hp, -, hstop, -⟩ := (h "a')b".toList (by decide)).1
  have hcalls : inRuby (Snippet.scriptLookup "a')b".toList) =
      [⟨[], ⟨['a', '\\'], .single⟩⟩] := by decide +kernel
  rw [hcalls] at hp
  cases hp
  exact absurd hstop (by decide +kernel)

end CallLiteral

end Phrasebook
