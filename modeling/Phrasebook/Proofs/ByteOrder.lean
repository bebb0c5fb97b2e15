import Mathlib.Tactic.SplitIfs
import Phrasebook.Text.Basic

/-!
The order of texts is the order of their bytes.

Texts are compared character by character.  In UTF-8 a later character has a greater
first byte or the same one, and bytes after it that make up the difference.  So the
first characters in which two texts differ also decide on their bytes.
-/

namespace Phrasebook.Text

/-- The bytes of a text in UTF-8. -/
def utf8 (t : Text) : List UInt8 :=
  t.flatMap String.utf8EncodeChar

@[simp] theorem utf8_nil : utf8 [] = [] := rfl

@[simp] theorem utf8_cons (c : Char) (t : Text) :
    utf8 (c :: t) = String.utf8EncodeChar c ++ utf8 t := rfl

theorem length_utf8 (t : Text) : (utf8 t).length = utf8Size t := by
  induction t with
  | nil => rfl
  | cons c t ih =>
      rw [utf8_cons, List.length_append, String.length_utf8EncodeChar, ih, utf8Size_cons]

theorem ofNat_cons_lt_iff {a b : Nat} {s t : List UInt8} (ha : a < 256) (hb : b < 256) :
    UInt8.ofNat a :: s < UInt8.ofNat b :: t ↔ a < b ∨ a = b ∧ s < t := by
  rw [List.cons_lt_cons_iff, UInt8.lt_iff_toNat_lt, ← UInt8.toNat_inj, UInt8.toNat_ofNat',
    UInt8.toNat_ofNat', Nat.mod_eq_of_lt ha, Nat.mod_eq_of_lt hb]

/-- The bytes of a character are those of no other with bytes after them, and they are
ordered as the characters are. -/
theorem utf8EncodeChar_append_lt {c d : Char} (h : c < d) (s t : List UInt8) :
    String.utf8EncodeChar c ++ s < String.utf8EncodeChar d ++ t := by
  have hlt : c.val.toNat < d.val.toNat := h
  have hlast : d.val.toNat < 0x110000 := by
    have hvalid := d.valid
    simp only [UInt32.isValidChar, Nat.isValidChar] at hvalid
    omega
  -- Digits of six bits, each from what is left after the one before.
  have hdigits (k : Nat) : k / 4096 = k / 64 / 64 ∧ k / 262144 = k / 64 / 64 / 64 := by omega
  unfold String.utf8EncodeChar
  generalize c.val.toNat = m at hlt ⊢
  generalize d.val.toNat = n at hlt hlast ⊢
  simp only [hdigits]
  split_ifs <;>
    simp (disch := omega) only [List.cons_append, List.nil_append, ofNat_cons_lt_iff] <;>
    omega

theorem utf8_lt_of_lt {s t : Text} (h : s < t) : utf8 s < utf8 t := by
  induction s generalizing t with
  | nil =>
      cases t with
      | nil => exact absurd h (List.lt_irrefl [])
      | cons d t =>
          obtain ⟨b, bs, hb⟩ := List.exists_cons_of_ne_nil (String.utf8EncodeChar_ne_nil (c := d))
          rw [utf8_nil, utf8_cons, hb]
          exact List.nil_lt_cons b _
  | cons c s ih =>
      cases t with
      | nil => exact absurd h (List.not_lt_nil _)
      | cons d t =>
          rw [utf8_cons, utf8_cons]
          rcases List.cons_lt_cons_iff.1 h with hlt | ⟨rfl, hst⟩
          · exact utf8EncodeChar_append_lt hlt _ _
          · exact List.append_left_lt (ih hst)

end Phrasebook.Text
