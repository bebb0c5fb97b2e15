import Phrasebook.Json.Failure

/-!
JSON string literals: reading one after its opening quote, and writing one.
-/

namespace Phrasebook.Json

def hexDigit? (c : Char) : Option Nat :=
  if '0' ≤ c ∧ c ≤ '9' then some (c.toNat - '0'.toNat)
  else if 'a' ≤ c ∧ c ≤ 'f' then some (c.toNat - 'a'.toNat + 10)
  else if 'A' ≤ c ∧ c ≤ 'F' then some (c.toNat - 'A'.toNat + 10)
  else none

/-- The number written by four hexadecimal digits at the front of a text, and
the rest. -/
def hexUnit? : Text → Option (Nat × Text)
  | a :: b :: c :: d :: t => do
      let a ← hexDigit? a
      let b ← hexDigit? b
      let c ← hexDigit? c
      let d ← hexDigit? d
      some (((a * 16 + b) * 16 + c) * 16 + d, t)
  | _ => none

/-- Four hexadecimal digits.  Fewer than four bytes end the string; otherwise
a failure is noticed after four bytes. -/
def readHexUnit (t : Text) : Except Failure (Nat × Text) :=
  match hexUnit? t with
  | some r => .ok r
  | none =>
      if 4 ≤ t.utf8Size then .error ⟨.invalidEscape, t.utf8Size - 4⟩
      else .error ⟨.endInString, 0⟩

/-- Units that stand for a character only as the second half of a pair. -/
def isLowSurrogate (n : Nat) : Bool :=
  0xDC00 ≤ n && n ≤ 0xDFFF

/-- Units that stand for a character only as the first half of a pair. -/
def isHighSurrogate (n : Nat) : Bool :=
  0xD800 ≤ n && n ≤ 0xDBFF

/-- The character of a surrogate pair. -/
def ofSurrogates (high low : Nat) : Char :=
  Char.ofNat (0x10000 + (high - 0xD800) * 0x400 + (low - 0xDC00))

/-- Exactly the character `c`, inside a surrogate pair. -/
def readPairMark (c : Char) : Text → Except Failure Text
  | [] => .error ⟨.endInString, 0⟩
  | d :: t => if d = c then .ok t else .error ⟨.endOfHexEscape, Text.utf8Size (d :: t) - 1⟩

/-- The rest of an escape that starts with a backslash and `u`. -/
def readUnicodeEscape (t : Text) : Except Failure (Char × Text) := do
  let (n, t) ← readHexUnit t
  if isLowSurrogate n then .error ⟨.loneSurrogate, t.utf8Size⟩
  else if isHighSurrogate n then
    let t ← readPairMark '\\' t
    let t ← readPairMark 'u' t
    let (m, t) ← readHexUnit t
    if isLowSurrogate m then .ok (ofSurrogates n m, t)
    else .error ⟨.loneSurrogate, t.utf8Size⟩
  else .ok (Char.ofNat n, t)

/-- The character that a one-letter escape stands for. -/
def escapeValue? : Char → Option Char
  | '"' => some '"'
  | '\\' => some '\\'
  | '/' => some '/'
  | 'b' => some '\x08'
  | 'f' => some '\x0C'
  | 'n' => some '\n'
  | 'r' => some '\r'
  | 't' => some '\t'
  | _ => none

/-- The rest of an escape after its backslash. -/
def readEscape : Text → Except Failure (Char × Text)
  | [] => .error ⟨.endInString, 0⟩
  | 'u' :: t => readUnicodeEscape t
  | c :: t =>
      match escapeValue? c with
      | some d => .ok (d, t)
      | none => .error ⟨.invalidEscape, Text.utf8Size (c :: t) - 1⟩

theorem hexUnit?_length {t r : Text} {n : Nat} (h : hexUnit? t = some (n, r)) :
    r.length < t.length := by
  unfold hexUnit? at h
  split at h
  · simp only [Option.bind_eq_bind, Option.bind_eq_some_iff, Option.some.injEq,
      Prod.mk.injEq] at h
    obtain ⟨_, _, _, _, _, _, _, _, _, rfl⟩ := h
    simp
    omega
  · simp at h

theorem readHexUnit_length {t r : Text} {n : Nat} (h : readHexUnit t = .ok (n, r)) :
    r.length < t.length := by
  unfold readHexUnit at h
  split at h
  · rename_i p heq
    cases h
    exact hexUnit?_length heq
  · split at h <;> simp at h

theorem readPairMark_length {c : Char} {t r : Text} (h : readPairMark c t = .ok r) :
    r.length < t.length := by
  unfold readPairMark at h
  split at h
  · simp at h
  · split at h
    · cases h
      simp
    · simp at h

theorem readUnicodeEscape_length {t r : Text} {c : Char}
    (h : readUnicodeEscape t = .ok (c, r)) : r.length < t.length := by
  simp only [readUnicodeEscape, bind, Except.bind] at h
  split at h
  · simp at h
  · rename_i p hp
    have h₁ := readHexUnit_length hp
    split at h
    · simp at h
    · split at h
      · split at h
        · simp at h
        · rename_i t₂ ht₂
          have h₂ := readPairMark_length ht₂
          split at h
          · simp at h
          · rename_i t₃ ht₃
            have h₃ := readPairMark_length ht₃
            split at h
            · simp at h
            · rename_i q hq
              have h₄ := readHexUnit_length hq
              split at h
              · simp only [Except.ok.injEq, Prod.mk.injEq] at h
                obtain ⟨-, rfl⟩ := h
                omega
              · simp at h
      · simp only [Except.ok.injEq, Prod.mk.injEq] at h
        obtain ⟨-, rfl⟩ := h
        exact h₁

theorem readEscape_length {t r : Text} {c : Char} (h : readEscape t = .ok (c, r)) :
    r.length < t.length := by
  unfold readEscape at h
  split at h
  · simp at h
  · have := readUnicodeEscape_length h
    simp
    omega
  · split at h
    · cases h
      simp
    · simp at h

/-- The value of a string literal whose opening quote has been read, and the
text after its closing quote. -/
def readString : Text → Except Failure (Text × Text)
  | [] => .error ⟨.endInString, 0⟩
  | '"' :: t => .ok ([], t)
  | '\\' :: t =>
      match h : readEscape t with
      | .error e => .error e
      | .ok (c, r) =>
          have := readEscape_length h
          match readString r with
          | .error e => .error e
          | .ok (value, rest) => .ok (c :: value, rest)
  | c :: t =>
      if c.toNat < 0x20 then .error ⟨.controlCharacter, Text.utf8Size t⟩
      else
        match readString t with
        | .error e => .error e
        | .ok (value, rest) => .ok (c :: value, rest)
  termination_by t => t.length
  decreasing_by all_goals simp <;> omega

/-- A character as it is written in a string literal. -/
def writeChar (c : Char) : Text :=
  match c with
  | '"' => ['\\', '"']
  | '\\' => ['\\', '\\']
  | '\x08' => ['\\', 'b']
  | '\x0C' => ['\\', 'f']
  | '\n' => ['\\', 'n']
  | '\r' => ['\\', 'r']
  | '\t' => ['\\', 't']
  | c =>
      if c.toNat < 0x20 then
        ['\\', 'u', '0', '0', Nat.digitChar (c.toNat / 16), Nat.digitChar (c.toNat % 16)]
      else [c]

def writeString (t : Text) : Text :=
  '"' :: t.flatMap writeChar ++ ['"']

end Phrasebook.Json
