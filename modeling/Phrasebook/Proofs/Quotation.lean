import Phrasebook.Snippet

/-!
Literals in the Ruby code that is written into templates.

Ruby reads a single-quoted literal from its opening quote to the first quote that no
backslash escapes.  An encoded text ends there, whatever it is and whatever comes after it,
and stands for itself.  So the lookup of a msgid has the msgid as one literal, and the rest
of the code is read as if the msgid were any other.
-/

namespace Phrasebook

namespace Literal.SingleQuoted

variable {s t value rest : Text}

/-! ### Reading -/

/-- The value of a literal whose opening quote has been read, and the text after its closing
quote; `none` if the literal never ends. -/
def readRest? : Text → Option (Text × Text)
  | [] => none
  | [c] => if c = quote then some ([], []) else none
  | c :: d :: t =>
      if c = quote then some ([], d :: t)
      else if c = '\\' ∧ isSpecial d then (readRest? t).map (Prod.map (d :: ·) id)
      else (readRest? (d :: t)).map (Prod.map (c :: ·) id)

/-- The value of the literal that a text starts with, and the text after it. -/
def read? : Text → Option (Text × Text)
  | [] => none
  | c :: t => if c = quote then readRest? t else none

/-- What Ruby code is made of: literals and the characters between them. -/
inductive Token where
  | code (c : Char)
  | literal (value : Text)
  /-- A quote whose literal never ends, with all the text after it. -/
  | unterminated (t : Text)
  deriving DecidableEq, Repr

/-- The value of a literal is what its body stands for. -/
theorem exists_body_of_readRest? (h : readRest? t = some (value, rest)) :
    ∃ body, t = body ++ quote :: rest ∧ decode body = value := by
  fun_induction readRest? t generalizing value with
  | case1 => cases h
  | case2 =>
      cases h
      exact ⟨[], rfl, rfl⟩
  | case3 c hc => cases h
  | case4 d t =>
      cases h
      exact ⟨[], rfl, rfl⟩
  | case5 c d t hc hescape ih =>
      obtain ⟨value, hrest, rfl⟩ := Text.exists_of_map_cons_eq_some h
      obtain ⟨body, rfl, rfl⟩ := ih hrest
      exact ⟨c :: d :: body, rfl, by rw [decode, if_pos hescape]⟩
  | case6 c d t hc hescape ih =>
      obtain ⟨value, hrest, rfl⟩ := Text.exists_of_map_cons_eq_some h
      obtain ⟨body, hbody, rfl⟩ := ih hrest
      refine ⟨c :: body, by rw [hbody, List.cons_append], ?_⟩
      cases body with
      | nil => rfl
      | cons e body =>
          obtain ⟨rfl, -⟩ := List.cons.inj hbody
          rw [decode, if_neg hescape]

theorem length_lt_of_readRest? (h : readRest? t = some (value, rest)) :
    rest.length < t.length := by
  obtain ⟨body, rfl, -⟩ := exists_body_of_readRest? h
  rw [List.length_append, List.length_cons]
  omega

/-- The tokens of Ruby code, in which a quote outside a literal starts one. -/
def tokens : Text → List Token
  | [] => []
  | c :: t =>
      if c = quote then
        match h : readRest? t with
        | none => [.unterminated t]
        | some (value, rest) =>
            have := length_lt_of_readRest? h
            .literal value :: tokens rest
      else .code c :: tokens t
  termination_by t => t.length

/-! ### Encoded texts -/

/-- The closing quote is the first that is not escaped. -/
theorem readRest?_encode_append (s rest : Text) :
    readRest? (encode s ++ quote :: rest) = some (s, rest) := by
  induction s with
  | nil => cases rest <;> rfl
  | cons c s ih =>
      rw [encode]
      split
      · rename_i hspecial
        have hescape : '\\' ≠ quote := by decide
        rw [List.cons_append, List.cons_append, readRest?, if_neg hescape,
          if_pos ⟨rfl, hspecial⟩, ih]
        rfl
      · rename_i hspecial
        have hquote : c ≠ quote := by
          rintro rfl
          exact hspecial rfl
        have hescape : c ≠ '\\' := by
          rintro rfl
          exact hspecial rfl
        obtain ⟨d, u, hu⟩ : ∃ d u, encode s ++ quote :: rest = d :: u :=
          List.exists_cons_of_ne_nil (by simp)
        rw [List.cons_append, hu, readRest?, if_neg hquote, if_neg fun h => hescape h.1, ← hu, ih]
        rfl

theorem tokens_cons_of_ne {c : Char} (h : c ≠ quote) (t : Text) :
    tokens (c :: t) = .code c :: tokens t := by
  rw [tokens, if_neg h]

theorem tokens_of_not_mem (h : quote ∉ t) : tokens t = t.map .code := by
  induction t with
  | nil => rw [tokens, List.map_nil]
  | cons c t ih =>
      rw [List.mem_cons, not_or] at h
      rw [tokens_cons_of_ne (Ne.symm h.1), ih h.2, List.map_cons]

theorem tokens_of_readRest? (h : readRest? t = some (value, rest)) :
    tokens (quote :: t) = .literal value :: tokens rest := by
  rw [tokens, if_pos rfl]
  split
  · rename_i hnone
    rw [h] at hnone
    cases hnone
  · rename_i hsome
    rw [h] at hsome
    cases hsome
    rfl

/-- The literal of a call is its msgid, and the call ends where it is meant to. -/
theorem tokens_call_append (msgid rest : Text) :
    tokens (Snippet.call msgid ++ rest) =
      [.code '_', .code '(', .literal msgid, .code ')'] ++ tokens rest := by
  have hcall : Snippet.call msgid ++ rest =
      '_' :: '(' :: quote :: (encode msgid ++ quote :: ')' :: rest) := by
    simp [Snippet.call, quote]
  rw [hcall, tokens_cons_of_ne (by decide), tokens_cons_of_ne (by decide),
    tokens_of_readRest? (readRest?_encode_append msgid _), tokens_cons_of_ne (by decide)]
  rfl

/-- Ruby reads an encoded text as a literal that stands for the text, and goes on just after
its closing quote.  So a msgid is one literal of its lookup, and nothing in it gets into the
code around that literal. -/
theorem msgid_is_one_literal (msgid : Text) :
    (∀ rest, read? (quote :: encode msgid ++ quote :: rest) = some (msgid, rest)) ∧
      decode (encode msgid) = msgid ∧
      (∀ args, tokens (Snippet.lookup msgid args) =
        [.code '_', .code '(', .literal msgid, .code ')'] ++
          tokens (" % [".toList ++ Text.join [',', ' '] args ++ [']'])) ∧
      tokens (Snippet.scriptLookup msgid) =
        [.code '_', .code '(', .literal msgid, .code ')'] ++ ".to_json".toList.map .code := by
  refine ⟨fun rest => ?_, decode_encode msgid, fun args => ?_, ?_⟩
  · rw [List.cons_append, read?, if_pos rfl]
    exact readRest?_encode_append msgid rest
  · have hlookup : Snippet.lookup msgid args =
        Snippet.call msgid ++ (" % [".toList ++ Text.join [',', ' '] args ++ [']']) := by
      simp [Snippet.lookup]
    rw [hlookup, tokens_call_append]
  · rw [Snippet.scriptLookup, tokens_call_append, tokens_of_not_mem (by decide)]

end Literal.SingleQuoted

end Phrasebook
