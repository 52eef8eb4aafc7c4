import DngPreflight.Codec.Json
import DngPreflight.Codec.PyString

set_option relaxedAutoImplicit false
set_option autoImplicit false

/-!
# Code points in JSON literals

A JSON literal has a code point outside of the Basic Multilingual Plane as a pair of surrogates, and
a surrogate as it is.

## Main definitions

* `Codec.utf16` — the code units of a code point in UTF-16.
* `Codec.jsonCodePoint`, `Codec.jsonLiteral` — the literal of a string of code points.

## Main results

* `Codec.jsonLiteral_map_codePoint` — the literal of a list of characters.
* `Codec.flatMap_utf16_eq_self_iff` — which strings are their own code units.
-/

namespace Codec

open Text

/-! ## Code points -/

/-- The code point is in the Basic Multilingual Plane. -/
def InBmp (c : CodePoint) : Prop := c.val < 0x10000

/-- Being in the basic plane is decided by the number of the code point. -/
instance (c : CodePoint) : Decidable (InBmp c) := inferInstanceAs (Decidable (_ < _))

/-- The high surrogate of a code point outside of the Basic Multilingual Plane. -/
def highSurrogate (c : CodePoint) : CodePoint :=
  ⟨0xD800 + (c.val - 0x10000) / 0x400, by omega⟩

/-- The low surrogate of such a code point. -/
def lowSurrogate (c : CodePoint) : CodePoint :=
  ⟨0xDC00 + (c.val - 0x10000) % 0x400, by omega⟩

/-- The number of a high surrogate. -/
lemma val_highSurrogate (c : CodePoint) :
    (highSurrogate c).val = 0xD800 + (c.val - 0x10000) / 0x400 := rfl

/-- The number of a low surrogate. -/
lemma val_lowSurrogate (c : CodePoint) :
    (lowSurrogate c).val = 0xDC00 + (c.val - 0x10000) % 0x400 := rfl

/-- The code units of a code point in UTF-16. -/
def utf16 (c : CodePoint) : List CodePoint :=
  if InBmp c then [c] else [highSurrogate c, lowSurrogate c]

/-- Surrogates are in the Basic Multilingual Plane. -/
lemma inBmp_highSurrogate (c : CodePoint) : InBmp (highSurrogate c) := by
  rw [InBmp, val_highSurrogate]
  omega

/-- So are the low ones. -/
lemma inBmp_lowSurrogate (c : CodePoint) :
    InBmp (lowSurrogate c) := by
  rw [InBmp, val_lowSurrogate]
  omega

/-- The high surrogate is another code point. -/
lemma highSurrogate_ne {c : CodePoint} (h : ¬ InBmp c) : highSurrogate c ≠ c := by
  intro hsame
  have hval := congrArg Fin.val hsame
  rw [val_highSurrogate] at hval
  unfold InBmp at h
  omega

/-- **The strings that are their own code units** are those in the Basic Multilingual Plane. -/
lemma flatMap_utf16_eq_self_iff {s : List CodePoint} :
    s.flatMap utf16 = s ↔ ∀ c ∈ s, InBmp c := by
  induction s with
  | nil => simp
  | cons c s ih =>
    rw [List.flatMap_cons, List.forall_mem_cons]
    by_cases hc : InBmp c
    · rw [utf16, if_pos hc, List.singleton_append, List.cons_inj_right, ih, and_iff_right hc]
    · rw [utf16, if_neg hc]
      exact iff_of_false (fun h => highSurrogate_ne hc (List.cons.inj h).1) fun h => hc h.1

/-! ## Literals -/

/-- The text of a code point in a literal; a surrogate is escaped as it is. -/
def jsonCodePoint (c : CodePoint) : Str :=
  if IsScalar c then jsonChar (Char.ofNat c.val) else unicodeEscape c.val

/-- The literal of a string of code points, as `json.dumps` prints it. -/
def jsonLiteral (s : List CodePoint) : Str := '"' :: s.flatMap jsonCodePoint ++ ['"']

/-- The text of a character in a literal. -/
lemma jsonCodePoint_codePoint (c : Char) : jsonCodePoint (codePoint c) = jsonChar c := by
  rw [jsonCodePoint, if_pos (isScalar_codePoint c), val_codePoint, Char.ofNat_toNat]

/-- **The literal of a list of characters** is that of its code points. -/
lemma jsonLiteral_map_codePoint (s : Str) : jsonLiteral (s.map codePoint) = jsonString s := by
  rw [jsonLiteral, jsonString, List.flatMap_map, funext jsonCodePoint_codePoint]

end Codec
