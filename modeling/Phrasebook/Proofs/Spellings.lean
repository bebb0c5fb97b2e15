import Phrasebook.Proofs.ScriptCalls

/-!
What spells a script literal.

A literal is decoded by way of the JSON string that it is changed into.  The change
touches apostrophes, quotes, tabs and a backslash at the end, and none of these is part
of a hexadecimal number or of what comes between the halves of a surrogate pair.  So the
JSON string has one escape or one character for every unit of the literal, and it is read
to its end if and only if the literal is made of units.
-/

namespace Phrasebook

namespace Literal.Script

/-! ### Units -/

/-- The characters that a backslash may stand before, each with what the two stand for. -/
def shortEscapes : List (Char × Char) :=
  [('\'', '\''), ('"', '"'), ('\\', '\\'), ('/', '/'), ('b', '\x08'), ('f', '\x0C'),
    ('n', '\n'), ('r', '\r'), ('t', '\t')]

/-- The hexadecimal digits with their values. -/
def hexDigits : List (Char × Nat) :=
  "0123456789abcdef".toList.zipIdx ++ "ABCDEF".toList.zipIdx 10

/-- Four hexadecimal digits and the number that they write. -/
inductive Writes : Text → Nat → Prop where
  | digits {a b c d : Char} {i j k l : Nat} (ha : (a, i) ∈ hexDigits) (hb : (b, j) ∈ hexDigits)
      (hc : (c, k) ∈ hexDigits) (hd : (d, l) ∈ hexDigits) :
      Writes [a, b, c, d] (((i * 16 + j) * 16 + k) * 16 + l)

/-- A unit of a literal and the character that it stands for. -/
inductive Spells : Text → Char → Prop where
  | plain {c : Char} (hslash : c ≠ '\\') (hcontrol : 0x20 ≤ c.toNat ∨ c = '\t') : Spells [c] c
  | short {c d : Char} (h : (c, d) ∈ shortEscapes) : Spells ['\\', c] d
  | codeUnit {digits : Text} {n : Nat} (hdigits : Writes digits n)
      (hn : n < 0xD800 ∨ 0xDFFF < n) : Spells ('\\' :: 'u' :: digits) (Char.ofNat n)
  | pair {high low : Text} {n m : Nat} (hhigh : Writes high n) (hn : 0xD800 ≤ n ∧ n ≤ 0xDBFF)
      (hlow : Writes low m) (hm : 0xDC00 ≤ m ∧ m ≤ 0xDFFF) :
      Spells ('\\' :: 'u' :: high ++ '\\' :: 'u' :: low)
        (Char.ofNat (0x10000 + (n - 0xD800) * 0x400 + (m - 0xDC00)))

/-- A literal made of units stands for their characters.  One backslash may be left over
at its end, and it stands for itself. -/
def Denotes (raw value : Text) : Prop :=
  ∃ units : List (Text × Char), (∀ u ∈ units, Spells u.1 u.2) ∧
    ((raw = units.flatMap Prod.fst ∧ value = units.map Prod.snd) ∨
      (raw = units.flatMap Prod.fst ++ ['\\'] ∧ value = units.map Prod.snd ++ ['\\']))

theorem Denotes.cons {u raw value : Text} {c : Char} (hu : Spells u c) (h : Denotes raw value) :
    Denotes (u ++ raw) (c :: value) := by
  obtain ⟨units, hunits, hcases⟩ := h
  refine ⟨(u, c) :: units, List.forall_mem_cons.2 ⟨hu, hunits⟩, ?_⟩
  rcases hcases with ⟨rfl, rfl⟩ | ⟨rfl, rfl⟩
  · exact .inl ⟨rfl, rfl⟩
  · exact .inr ⟨by simp, rfl⟩

/-! ### Hexadecimal numbers -/

theorem hexDigit?_eq_some_iff {c : Char} {n : Nat} :
    Json.hexDigit? c = some n ↔ (c, n) ∈ hexDigits := by
  constructor
  · intro h
    have hle : ∃ d ∈ ['9', 'f', 'F'], c ≤ d := by
      unfold Json.hexDigit? at h
      grind
    have hc : c.toNat < 103 := by
      obtain ⟨d, hd, hcd⟩ := hle
      have hd' : ∀ d ∈ ['9', 'f', 'F'], d.toNat < 103 := by simp
      exact Nat.lt_of_le_of_lt hcd (hd' d hd)
    have htable : ∀ k < 103, ∀ n ∈ Json.hexDigit? (Char.ofNat k),
        (Char.ofNat k, n) ∈ hexDigits := by decide
    have hmem := htable c.toNat hc n
    rw [Char.ofNat_toNat] at hmem
    exact hmem h
  · have htable : ∀ p ∈ hexDigits, Json.hexDigit? p.1 = some p.2 := by decide
    exact htable (c, n)

theorem hexUnit?_eq_some_iff {t r : Text} {n : Nat} :
    Json.hexUnit? t = some (n, r) ↔ ∃ digits, Writes digits n ∧ t = digits ++ r := by
  constructor
  · intro h
    unfold Json.hexUnit? at h
    split at h
    · simp only [Option.bind_eq_bind, Option.bind_eq_some_iff, Option.some.injEq,
        Prod.mk.injEq] at h
      obtain ⟨i, ha, j, hb, k, hc, l, hd, rfl, rfl⟩ := h
      rw [hexDigit?_eq_some_iff] at ha hb hc hd
      exact ⟨_, .digits ha hb hc hd, rfl⟩
    · cases h
  · rintro ⟨_, ⟨ha, hb, hc, hd⟩, rfl⟩
    rw [← hexDigit?_eq_some_iff] at ha hb hc hd
    simp [Json.hexUnit?, ha, hb, hc, hd]

theorem readHexUnit_eq_ok_iff {t r : Text} {n : Nat} :
    Json.readHexUnit t = .ok (n, r) ↔ ∃ digits, Writes digits n ∧ t = digits ++ r := by
  rw [← hexUnit?_eq_some_iff]
  unfold Json.readHexUnit
  split
  · rename_i hunit
    simp [hunit]
  · rename_i hunit
    split <;> simp [hunit]

/-- A character that the change to a JSON string neither makes nor touches. -/
def IsKept (c : Char) : Prop :=
  c ≠ '\\' ∧ c ≠ '\'' ∧ c ≠ '"' ∧ c ≠ '\t'

theorem Writes.isKept {digits : Text} {n : Nat} (h : Writes digits n) :
    ∀ c ∈ digits, IsKept c := by
  have htable : ∀ p ∈ hexDigits, IsKept p.1 := by
    unfold IsKept
    decide
  obtain ⟨ha, hb, hc, hd⟩ := h
  simp only [List.forall_mem_cons, List.not_mem_nil, false_imp_iff, implies_true, and_true]
  exact ⟨htable _ ha, htable _ hb, htable _ hc, htable _ hd⟩

/-! ### Escapes of JSON strings -/

theorem readPairMark_eq_ok_iff {c : Char} {t r : Text} :
    Json.readPairMark c t = .ok r ↔ t = c :: r := by
  unfold Json.readPairMark
  split
  · simp
  · split <;> simp_all

theorem escapeValue?_eq_some_iff {c d : Char} :
    Json.escapeValue? c = some d ↔ (c, d) ∈ shortEscapes ∧ c ≠ '\'' := by
  unfold Json.escapeValue? shortEscapes
  split <;> simp_all [eq_comm]

theorem isLowSurrogate_eq_true_iff {n : Nat} :
    Json.isLowSurrogate n = true ↔ 0xDC00 ≤ n ∧ n ≤ 0xDFFF := by
  simp [Json.isLowSurrogate]

theorem isHighSurrogate_eq_true_iff {n : Nat} :
    Json.isHighSurrogate n = true ↔ 0xD800 ≤ n ∧ n ≤ 0xDBFF := by
  simp [Json.isHighSurrogate]

theorem readUnicodeEscape_eq_ok_iff {t r : Text} {c : Char} :
    Json.readUnicodeEscape t = .ok (c, r) ↔ ∃ e, Spells ('\\' :: 'u' :: e) c ∧ t = e ++ r := by
  constructor
  · intro h
    simp only [Json.readUnicodeEscape, bind, Except.bind] at h
    split at h
    · cases h
    rename_i high hhigh
    obtain ⟨n, after⟩ := high
    obtain ⟨digits, hdigits, rfl⟩ := readHexUnit_eq_ok_iff.1 hhigh
    split at h
    · cases h
    rename_i hnotLow
    split at h
    · rename_i hn
      split at h
      · cases h
      rename_i t₁ ht₁
      split at h
      · cases h
      rename_i t₂ ht₂
      split at h
      · cases h
      rename_i low hlow
      obtain ⟨m, after'⟩ := low
      obtain ⟨digits', hdigits', rfl⟩ := readHexUnit_eq_ok_iff.1 hlow
      split at h
      · rename_i hm
        obtain ⟨rfl, rfl⟩ := Prod.mk.inj (Except.ok.inj h)
        rw [readPairMark_eq_ok_iff] at ht₁ ht₂
        subst ht₂ ht₁
        exact ⟨_, .pair hdigits (isHighSurrogate_eq_true_iff.1 hn) hdigits'
          (isLowSurrogate_eq_true_iff.1 hm), by simp⟩
      · cases h
    · rename_i hnotHigh
      cases h
      rw [isLowSurrogate_eq_true_iff] at hnotLow
      rw [isHighSurrogate_eq_true_iff] at hnotHigh
      exact ⟨_, .codeUnit hdigits (by omega), rfl⟩
  · rintro ⟨e, hspells, rfl⟩
    generalize hu : '\\' :: 'u' :: e = u at hspells
    cases hspells with
    | plain hslash _ => exact absurd (List.cons.inj hu).1.symm hslash
    | @short a d hmem =>
        cases hu
        simp [shortEscapes] at hmem
    | @codeUnit digits n hdigits hn =>
        cases hu
        have hhex : Json.readHexUnit (e ++ r) = .ok (n, r) :=
          readHexUnit_eq_ok_iff.2 ⟨e, hdigits, rfl⟩
        have hlow : Json.isLowSurrogate n = false := by
          rw [← Bool.not_eq_true, isLowSurrogate_eq_true_iff]
          omega
        have hhigh : Json.isHighSurrogate n = false := by
          rw [← Bool.not_eq_true, isHighSurrogate_eq_true_iff]
          omega
        simp [Json.readUnicodeEscape, hhex, hlow, hhigh, bind, Except.bind]
    | @pair high low n m hhigh hn hlow hm =>
        cases hu
        have hhex : Json.readHexUnit (high ++ '\\' :: 'u' :: (low ++ r)) =
            .ok (n, '\\' :: 'u' :: (low ++ r)) :=
          readHexUnit_eq_ok_iff.2 ⟨high, hhigh, rfl⟩
        have hhex' : Json.readHexUnit (low ++ r) = .ok (m, r) :=
          readHexUnit_eq_ok_iff.2 ⟨low, hlow, rfl⟩
        have hnotLow : Json.isLowSurrogate n = false := by
          rw [← Bool.not_eq_true, isLowSurrogate_eq_true_iff]
          omega
        have hn' := isHighSurrogate_eq_true_iff.2 hn
        have hm' := isLowSurrogate_eq_true_iff.2 hm
        simp [Json.readUnicodeEscape, hhex, hhex', hnotLow, hn', hm', Json.readPairMark,
          bind, Except.bind, Json.ofSurrogates]

/-- The escapes of a JSON string are the units that start with a backslash, less the
escaped apostrophe. -/
theorem readEscape_eq_ok_iff {t r : Text} {c : Char} :
    Json.readEscape t = .ok (c, r) ↔
      ∃ e, Spells ('\\' :: e) c ∧ e ≠ ['\''] ∧ t = e ++ r := by
  constructor
  · intro h
    unfold Json.readEscape at h
    split at h
    · cases h
    · obtain ⟨e, hspells, rfl⟩ := readUnicodeEscape_eq_ok_iff.1 h
      exact ⟨'u' :: e, hspells, by simp, rfl⟩
    · rename_i a t hu
      split at h
      · rename_i d hd
        cases h
        obtain ⟨hmem, hne⟩ := escapeValue?_eq_some_iff.1 hd
        exact ⟨[a], .short hmem, by simpa using hne, rfl⟩
      · cases h
  · rintro ⟨e, hspells, hne, rfl⟩
    have hunicode {e : Text} (h : Spells ('\\' :: 'u' :: e) c) :
        Json.readEscape ('u' :: e ++ r) = .ok (c, r) :=
      readUnicodeEscape_eq_ok_iff.2 ⟨e, h, rfl⟩
    generalize hu : '\\' :: e = u at hspells
    cases hspells with
    | plain hslash _ => exact absurd (List.cons.inj hu).1.symm hslash
    | @short a _ hmem =>
        cases hu
        have hvalue : Json.escapeValue? a = some c :=
          escapeValue?_eq_some_iff.2 ⟨hmem, by simpa using hne⟩
        have hu : a ≠ 'u' := by
          rintro rfl
          simp [shortEscapes] at hmem
        rw [List.singleton_append, Json.readEscape, hvalue]
        exact hu
    | codeUnit hdigits hn =>
        cases hu
        exact hunicode (.codeUnit hdigits hn)
    | pair hhigh hn hlow hm =>
        cases hu
        exact hunicode (.pair hhigh hn hlow hm)

/-! ### The JSON string of a literal -/

section Change

variable {t s r : Text} {c d a : Char}

theorem toJson_apostrophe (t : Text) : toJson ('\\' :: '\'' :: t) = '\'' :: toJson t := by
  simp [toJson]

theorem toJson_escape (h : d ≠ '\'') (t : Text) :
    toJson ('\\' :: d :: t) = '\\' :: d :: toJson t := by
  simp [toJson, h]

theorem toJson_quote (t : Text) : toJson ('"' :: t) = '\\' :: '"' :: toJson t := by
  cases t <;> simp [toJson]

theorem toJson_tab (t : Text) : toJson ('\t' :: t) = '\\' :: 't' :: toJson t := by
  cases t <;> simp [toJson]

theorem toJson_cons_of_ne (hslash : c ≠ '\\') (hquote : c ≠ '"') (htab : c ≠ '\t') (t : Text) :
    toJson (c :: t) = c :: toJson t := by
  cases t <;> simp [toJson, hslash, hquote, htab]

/-- What a literal starts with, and how its start is changed. -/
inductive Changed : Text → Text → Prop where
  | nil : Changed [] []
  | loneSlash : Changed ['\\'] ['\\', '\\']
  | apostrophe (t : Text) : Changed ('\\' :: '\'' :: t) ('\'' :: toJson t)
  | escape {d : Char} (hd : d ≠ '\'') (t : Text) :
      Changed ('\\' :: d :: t) ('\\' :: d :: toJson t)
  | quote (t : Text) : Changed ('"' :: t) ('\\' :: '"' :: toJson t)
  | tab (t : Text) : Changed ('\t' :: t) ('\\' :: 't' :: toJson t)
  | plain {c : Char} (hslash : c ≠ '\\') (hquote : c ≠ '"') (htab : c ≠ '\t') (t : Text) :
      Changed (c :: t) (c :: toJson t)

theorem changed_toJson (t : Text) : Changed t (toJson t) := by
  rcases t with _ | ⟨c, t⟩
  · exact .nil
  by_cases hslash : c = '\\'
  · subst hslash
    rcases t with _ | ⟨d, t⟩
    · exact .loneSlash
    by_cases hd : d = '\''
    · subst hd
      exact toJson_apostrophe t ▸ .apostrophe t
    · exact toJson_escape hd t ▸ .escape hd t
  by_cases hquote : c = '"'
  · subst hquote
    exact toJson_quote t ▸ .quote t
  by_cases htab : c = '\t'
  · subst htab
    exact toJson_tab t ▸ .tab t
  · exact toJson_cons_of_ne hslash hquote htab t ▸ .plain hslash hquote htab t

/-- A character that is kept was there before. -/
theorem exists_cons_of_toJson (hc : IsKept c) (h : toJson t ++ ['"'] = c :: r) :
    ∃ t', t = c :: t' ∧ toJson t' ++ ['"'] = r := by
  obtain ⟨hslash, hapostrophe, hquote, -⟩ := hc
  have hchanged := changed_toJson t
  generalize toJson t = json at h hchanged
  cases hchanged with
  | nil => exact absurd (List.cons.inj h).1.symm hquote
  | apostrophe t => exact absurd (List.cons.inj h).1.symm hapostrophe
  | loneSlash | escape | quote | tab => exact absurd (List.cons.inj h).1.symm hslash
  | plain _ _ _ t =>
      obtain ⟨rfl, rfl⟩ := List.cons.inj h
      exact ⟨t, rfl, rfl⟩

/-- So was an escape with a `u`. -/
theorem exists_cons_cons_of_toJson (h : toJson t ++ ['"'] = '\\' :: 'u' :: r) :
    ∃ t', t = '\\' :: 'u' :: t' ∧ toJson t' ++ ['"'] = r := by
  have hchanged := changed_toJson t
  generalize toJson t = json at h hchanged
  cases hchanged with
  | escape _ t =>
      cases h
      exact ⟨t, rfl, rfl⟩
  | plain hslash => exact absurd (List.cons.inj h).1 hslash
  | nil | apostrophe | loneSlash | quote | tab => simp at h

theorem exists_append_of_toJson (hs : ∀ c ∈ s, IsKept c) (h : toJson t ++ ['"'] = s ++ r) :
    ∃ t', t = s ++ t' ∧ toJson t' ++ ['"'] = r := by
  induction s generalizing t with
  | nil => exact ⟨t, rfl, h⟩
  | cons c s ih =>
      obtain ⟨hc, hs'⟩ := List.forall_mem_cons.1 hs
      obtain ⟨t', rfl, ht'⟩ := exists_cons_of_toJson hc h
      obtain ⟨t'', rfl, ht''⟩ := ih hs' ht'
      exact ⟨t'', rfl, ht''⟩

theorem toJson_append (hs : ∀ c ∈ s, IsKept c) (t : Text) :
    toJson (s ++ t) = s ++ toJson t := by
  induction s with
  | nil => rfl
  | cons c s ih =>
      obtain ⟨⟨hslash, -, hquote, htab⟩, hs'⟩ := List.forall_mem_cons.1 hs
      rw [List.cons_append, toJson_cons_of_ne hslash hquote htab, ih hs', List.cons_append]

/-- The change leaves escapes other than that of an apostrophe alone. -/
theorem toJson_append_of_spells {e : Text} (h : Spells ('\\' :: e) c) (hne : e ≠ ['\''])
    (t : Text) : toJson ('\\' :: e ++ t) = '\\' :: e ++ toJson t := by
  have hu : 'u' ≠ '\'' := by decide
  generalize hunit : '\\' :: e = unit at h
  cases h with
  | plain hslash _ => exact absurd (List.cons.inj hunit).1.symm hslash
  | short hmem =>
      cases hunit
      exact toJson_escape (by simpa using hne) t
  | codeUnit hdigits hn =>
      cases hunit
      simp [toJson_escape hu, toJson_append hdigits.isKept]
  | pair hhigh hn hlow hm =>
      cases hunit
      simp [toJson_escape hu, toJson_append hhigh.isKept, toJson_append hlow.isKept]

/-- An escape of the JSON string is an escape of the literal. -/
theorem exists_append_of_spells {e : Text} (h : Spells ('\\' :: d :: e) c)
    (hjson : toJson t ++ ['"'] = e ++ r) : ∃ t', t = e ++ t' ∧ toJson t' ++ ['"'] = r := by
  generalize hunit : '\\' :: d :: e = unit at h
  cases h with
  | plain hslash _ => exact absurd (List.cons.inj hunit).1.symm hslash
  | short hmem =>
      cases hunit
      exact ⟨t, rfl, hjson⟩
  | codeUnit hdigits hn =>
      cases hunit
      exact exists_append_of_toJson hdigits.isKept hjson
  | @pair high low n m hhigh hn hlow hm =>
      obtain rfl : e = high ++ '\\' :: 'u' :: low := by simp_all
      rw [List.append_assoc] at hjson
      obtain ⟨t₁, rfl, h₁⟩ := exists_append_of_toJson hhigh.isKept hjson
      obtain ⟨t₂, rfl, h₂⟩ := exists_cons_cons_of_toJson h₁
      obtain ⟨t₃, rfl, h₃⟩ := exists_append_of_toJson hlow.isKept h₂
      exact ⟨t₃, by simp, h₃⟩

end Change

/-! ### Reading the JSON string -/

section Reading

variable {t raw value rest : Text} {c : Char}

theorem readString_cons_of_ne (hquote : c ≠ '"') (hslash : c ≠ '\\') (hcontrol : 0x20 ≤ c.toNat)
    (t : Text) :
    Json.readString (c :: t) = (Json.readString t).map (Prod.map (c :: ·) id) := by
  rw [Json.readString, if_neg (Nat.not_lt.2 hcontrol)]
  · cases Json.readString t <;> rfl
  · exact hquote
  · exact hslash

theorem readString_escape {r : Text} (h : Json.readEscape t = .ok (c, r)) :
    Json.readString ('\\' :: t) = (Json.readString r).map (Prod.map (c :: ·) id) := by
  rw [Json.readString]
  split
  · simp_all
  · rename_i hread
    rw [h] at hread
    cases hread
    cases Json.readString r <;> rfl

theorem readString_toJson_nil : Json.readString (toJson [] ++ ['"']) = .ok ([], []) := by
  simp [toJson, Json.readString]

theorem readString_toJson_slash :
    Json.readString (toJson ['\\'] ++ ['"']) = .ok (['\\'], []) := by
  have hescape : Json.readEscape ['\\', '"'] = .ok ('\\', ['"']) := rfl
  have hread := readString_escape hescape
  rwa [Json.readString] at hread

/-- The JSON string has one character for a unit. -/
theorem readString_toJson_append {unit : Text} (h : Spells unit c) (t s : Text) :
    Json.readString (toJson (unit ++ t) ++ s) =
      (Json.readString (toJson t ++ s)).map (Prod.map (c :: ·) id) := by
  have hshort {a : Char} (hmem : (a, c) ∈ shortEscapes) (ha : a ≠ '\'') :
      Json.readString ('\\' :: a :: (toJson t ++ s)) =
        (Json.readString (toJson t ++ s)).map (Prod.map (c :: ·) id) :=
    readString_escape (readEscape_eq_ok_iff.2 ⟨[a], .short hmem, by simpa using ha, rfl⟩)
  have hescape {e : Text} (h : Spells ('\\' :: e) c) (hne : e ≠ ['\'']) :
      Json.readString (toJson ('\\' :: e ++ t) ++ s) =
        (Json.readString (toJson t ++ s)).map (Prod.map (c :: ·) id) := by
    rw [toJson_append_of_spells h hne]
    exact readString_escape (readEscape_eq_ok_iff.2 ⟨e, h, hne, by simp⟩)
  cases h with
  | plain hslash hcontrol =>
      by_cases hquote : c = '"'
      · subst hquote
        rw [List.singleton_append, toJson_quote]
        exact hshort (by decide) (by decide)
      by_cases htab : c = '\t'
      · subst htab
        rw [List.singleton_append, toJson_tab]
        exact hshort (by decide) (by decide)
      · rw [List.singleton_append, toJson_cons_of_ne hslash hquote htab]
        exact readString_cons_of_ne hquote hslash (hcontrol.resolve_right htab) _
  | @short a _ hmem =>
      by_cases ha : a = '\''
      · obtain ⟨rfl, rfl⟩ : a = '\'' ∧ c = '\'' := by simpa [shortEscapes, ha] using hmem
        rw [List.cons_append, List.singleton_append, toJson_apostrophe]
        exact readString_cons_of_ne (by decide) (by decide) (by decide) _
      · exact hescape (.short hmem) (by simpa using ha)
  | codeUnit hdigits hn => exact hescape (.codeUnit hdigits hn) (by simp)
  | pair hhigh hn hlow hm => exact hescape (.pair hhigh hn hlow hm) (by simp)

/-- A JSON string that can be read comes from a literal with a unit at its start. -/
theorem exists_unit_of_readString (h : Json.readString (toJson raw ++ ['"']) = .ok (value, rest))
    (hne : raw ≠ []) (hlone : raw ≠ ['\\']) :
    ∃ unit c t, raw = unit ++ t ∧ Spells unit c := by
  have hchanged := changed_toJson raw
  generalize toJson raw = json at h hchanged
  cases hchanged with
  | nil => exact absurd rfl hne
  | loneSlash => exact absurd rfl hlone
  | apostrophe t => exact ⟨['\\', '\''], '\'', t, rfl, .short (by decide)⟩
  | quote t => exact ⟨['"'], '"', t, rfl, .plain (by decide) (.inl (by decide))⟩
  | tab t => exact ⟨['\t'], '\t', t, rfl, .plain (by decide) (.inr rfl)⟩
  | @escape d hd t =>
      rw [List.cons_append, Json.readString] at h
      split at h
      · cases h
      · rename_i c r hread
        obtain ⟨e, hspells, -, heq⟩ := readEscape_eq_ok_iff.1 hread
        cases e with
        | nil =>
            cases hspells with
            | plain hslash _ => exact absurd rfl hslash
        | cons a e =>
            obtain ⟨rfl, hjson⟩ := List.cons.inj heq
            obtain ⟨t', rfl, -⟩ := exists_append_of_spells hspells hjson
            exact ⟨'\\' :: d :: e, c, t', rfl, hspells⟩
  | @plain c hslash hquote htab t =>
      rw [List.cons_append, Json.readString] at h
      · split at h
        · cases h
        · rename_i hcontrol
          exact ⟨[c], c, t, rfl, .plain hslash (.inl (Nat.not_lt.1 hcontrol))⟩
      · exact hquote
      · exact hslash

theorem Spells.length_pos {unit : Text} (h : Spells unit c) : 0 < unit.length := by
  cases h <;> exact Nat.succ_pos _

theorem denotes_of_readString (h : Json.readString (toJson raw ++ ['"']) = .ok (value, rest)) :
    Denotes raw value ∧ rest = [] := by
  induction hlength : raw.length using Nat.strongRecOn generalizing raw value with
  | ind n ih =>
      by_cases hne : raw = []
      · subst hne
        rw [readString_toJson_nil] at h
        cases h
        exact ⟨⟨[], by simp, .inl ⟨rfl, rfl⟩⟩, rfl⟩
      by_cases hlone : raw = ['\\']
      · subst hlone
        rw [readString_toJson_slash] at h
        cases h
        exact ⟨⟨[], by simp, .inr ⟨rfl, rfl⟩⟩, rfl⟩
      obtain ⟨unit, c, t, rfl, hunit⟩ := exists_unit_of_readString h hne hlone
      rw [readString_toJson_append hunit] at h
      cases hread : Json.readString (toJson t ++ ['"']) with
      | error e =>
          rw [hread] at h
          cases h
      | ok found =>
          rw [hread] at h
          cases h
          have hlt : t.length < n := by
            have := hunit.length_pos
            rw [← hlength, List.length_append]
            omega
          obtain ⟨hdenotes, hrest⟩ := ih t.length hlt hread rfl
          exact ⟨hdenotes.cons hunit, hrest⟩

theorem readString_of_denotes (h : Denotes raw value) :
    Json.readString (toJson raw ++ ['"']) = .ok (value, []) := by
  obtain ⟨units, hunits, hcases⟩ := h
  have hread {t v : Text} (ht : Json.readString (toJson t ++ ['"']) = .ok (v, [])) :
      Json.readString (toJson (units.flatMap Prod.fst ++ t) ++ ['"']) =
        .ok (units.map Prod.snd ++ v, []) := by
    clear hcases
    induction units with
    | nil => exact ht
    | cons u units ih =>
        obtain ⟨hu, hrest⟩ := List.forall_mem_cons.1 hunits
        rw [List.flatMap_cons, List.append_assoc, readString_toJson_append hu, ih hrest]
        rfl
  rcases hcases with ⟨rfl, rfl⟩ | ⟨rfl, rfl⟩
  · simpa using hread readString_toJson_nil
  · exact hread readString_toJson_slash

theorem decode_eq_ok_iff : decode raw = .ok value ↔ Denotes raw value := by
  have hread : decode raw = .ok value ↔
      Json.readString (toJson raw ++ ['"']) = .ok (value, []) := by
    simp only [decode, document, readDocument, List.cons_append]
    cases Json.readString (toJson raw ++ ['"']) with
    | error e => simp
    | ok found =>
        obtain ⟨found, rest⟩ := found
        cases rest <;> simp
  rw [hread]
  exact ⟨fun h => (denotes_of_readString h).1, readString_of_denotes⟩

end Reading

end Literal.Script

open Literal.Script in
/-- A literal that is made of units is decoded to the text that they stand for, and any
other literal is reported as it is written. -/
theorem CallLiteral.decodeScript_eq_ok_iff (l : CallLiteral) :
    (∀ value, l.decodeScript = .ok value ↔ Denotes l.raw value) ∧
      ((∃ reason, l.decodeScript = .error (.malformedLiteral l.raw reason)) ↔
        ∀ value, ¬ Denotes l.raw value) := by
  have hok (value : Text) : l.decodeScript = .ok value ↔ Denotes l.raw value := decode_eq_ok_iff
  refine ⟨hok, ?_, ?_⟩
  · rintro ⟨reason, herror⟩ value hdenotes
    rw [(hok value).2 hdenotes] at herror
    cases herror
  · intro hnone
    cases hdecode : l.decodeScript with
    | ok value => exact absurd ((hok value).1 hdecode) (hnone value)
    | error cause =>
        obtain ⟨reason, rfl⟩ := exists_reason hdecode
        exact ⟨reason, rfl⟩

end Phrasebook
