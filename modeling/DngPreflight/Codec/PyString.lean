import DngPreflight.Text.Basic

set_option relaxedAutoImplicit false
set_option autoImplicit false

/-!
# Strings with surrogates

A string of Python is a list of code points, lone surrogates among them. Where it has to become a
text, as the key of a dictionary that is dumped for JSON, each byte of a surrogate is replaced by
the replacement character, and different strings may become the same text.

## Main definitions

* `Codec.CodePoint`, `Codec.codePoint` — code points, and that of a character.
* `Codec.PyStr`, `Codec.ofStr` — strings of Python, and those of some characters.
* `Codec.IsText` — the strings without surrogates.
* `Codec.lossy` — the text that a string becomes.

## Main results

* `Codec.ofStr_lossy_iff` — the text is the string itself exactly if it has no surrogates.
-/

namespace Codec

open Text

/-! ## Code points -/

/-- A code point of Unicode. -/
abbrev CodePoint := Fin 0x110000

/-- The code point is that of a character, and no surrogate. -/
def IsScalar (c : CodePoint) : Prop := c.val < 0xD800 ∨ 0xDFFF < c.val

/-- Being a scalar value is decided by the number of the code point. -/
instance (c : CodePoint) : Decidable (IsScalar c) := inferInstanceAs (Decidable (_ ∨ _))

/-- The number of a character is that of a code point which is no surrogate. -/
lemma toNat_bounds (c : Char) :
    c.toNat < 0x110000 ∧ (c.toNat < 0xD800 ∨ 0xDFFF < c.toNat) := by
  rcases c.valid with h | ⟨hlow, hhigh⟩
  · exact ⟨h.trans (by decide), Or.inl h⟩
  · exact ⟨hhigh, Or.inr hlow⟩

/-- The code point of a character. -/
def codePoint (c : Char) : CodePoint := ⟨c.toNat, (toNat_bounds c).1⟩

/-- The number of the code point of a character. -/
lemma val_codePoint (c : Char) : (codePoint c).val = c.toNat := rfl

/-- The code point of a character is no surrogate. -/
lemma isScalar_codePoint (c : Char) : IsScalar (codePoint c) := (toNat_bounds c).2

/-- A code point that is no surrogate is that of a character. -/
lemma exists_codePoint {c : CodePoint} (h : IsScalar c) : ∃ d : Char, codePoint d = c := by
  have hvalid : c.val.isValidChar := h.imp_right fun hhigh => ⟨hhigh, c.isLt⟩
  refine ⟨Char.ofNat c.val, Fin.ext ?_⟩
  rw [Char.ofNat, dif_pos hvalid]
  rfl

/-! ## Strings -/

/-- A string of Python. -/
abbrev PyStr := List CodePoint

/-- The string of some characters. -/
def ofStr (s : Str) : PyStr := s.map codePoint

/-- Literals are strings of Python. -/
instance : Coe String PyStr := ⟨fun s => ofStr s.toList⟩

/-- The string is a text: it has no surrogates. -/
def IsText (s : PyStr) : Prop := ∀ c ∈ s, IsScalar c

/-- Being a text is decided code point by code point. -/
instance (s : PyStr) : Decidable (IsText s) := List.decidableBAll _ s

/-- The text that a code point becomes: the three bytes of a surrogate are replaced one by one. -/
def lossyChar (c : CodePoint) : Str :=
  if IsScalar c then [Char.ofNat c.val] else List.replicate 3 '\uFFFD'

/-- The text that a string becomes. -/
def lossy (s : PyStr) : Str := s.flatMap lossyChar

/-- The string of some characters is a text. -/
lemma isText_ofStr (s : Str) : IsText (ofStr s) := by
  intro c hc
  obtain ⟨d, -, rfl⟩ := List.mem_map.mp hc
  exact isScalar_codePoint d

/-- A character becomes itself. -/
lemma lossyChar_codePoint (c : Char) : lossyChar (codePoint c) = [c] := by
  rw [lossyChar, if_pos (isScalar_codePoint c), val_codePoint, Char.ofNat_toNat]

/-- A text becomes itself. -/
lemma lossy_ofStr (s : Str) : lossy (ofStr s) = s := by
  rw [lossy, ofStr, List.flatMap_map, funext lossyChar_codePoint, List.flatMap_singleton']

/-- Different characters make different strings. -/
lemma ofStr_injective : Function.Injective ofStr := Function.LeftInverse.injective lossy_ofStr

/-- A string without surrogates is that of some characters. -/
lemma exists_ofStr {s : PyStr} (h : IsText s) : ∃ t, ofStr t = s := by
  induction s with
  | nil => exact ⟨[], rfl⟩
  | cons c s ih =>
    obtain ⟨d, hd⟩ := exists_codePoint (h c (by simp))
    obtain ⟨t, ht⟩ := ih fun e he => h e (List.mem_cons_of_mem c he)
    exact ⟨d :: t, by rw [ofStr, List.map_cons, hd, ← ofStr, ht]⟩

/-- **The text is the string itself** exactly if the string has no surrogates. -/
lemma ofStr_lossy_iff {s : PyStr} : ofStr (lossy s) = s ↔ IsText s := by
  constructor
  · intro h
    rw [← h]
    exact isText_ofStr _
  · intro h
    obtain ⟨t, rfl⟩ := exists_ofStr h
    rw [lossy_ofStr]

end Codec
