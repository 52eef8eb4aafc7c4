import DngPreflight.Codec.JsonReader

set_option relaxedAutoImplicit false
set_option autoImplicit false

/-!
# JSON documents in ASCII

The text of a JSON value is printable ASCII and newlines, so that every encoding which extends
ASCII encodes it alike.

## Main definitions

* `Codec.IsPortable` — texts of printable ASCII characters and newlines.

## Main results

* `Codec.isPortable_dumpsAt` — the text of every value is one.
-/

namespace Codec

open Text

/-- A printable ASCII character, or a newline. -/
def Portable (c : Char) : Prop := c = '\n' ∨ ' ' ≤ c ∧ c ≤ '~'

/-- Being portable is decided by the number of the character. -/
instance : DecidablePred Portable := fun c => by
  unfold Portable
  infer_instance

/-- All characters are portable. -/
def IsPortable (s : Str) : Prop := ∀ c ∈ s, Portable c

/-- Being portable is decided character by character. -/
instance (s : Str) : Decidable (IsPortable s) := List.decidableBAll _ s

/-- The empty text is portable. -/
lemma isPortable_nil : IsPortable [] := fun _ h => (List.not_mem_nil h).elim

/-- Portable texts one after the other are portable. -/
lemma IsPortable.append {s t : Str} (hs : IsPortable s) (ht : IsPortable t) :
    IsPortable (s ++ t) := fun c hc => (List.mem_append.mp hc).elim (hs c) (ht c)

/-- A portable character before a portable text is portable. -/
lemma IsPortable.cons {c : Char} {s : Str} (hc : Portable c) (hs : IsPortable s) :
    IsPortable (c :: s) := List.forall_mem_cons.mpr ⟨hc, hs⟩

/-- A portable character repeated is portable. -/
lemma isPortable_replicate {c : Char} (hc : Portable c) (n : ℕ) :
    IsPortable (List.replicate n c) := fun _ h => List.eq_of_mem_replicate h ▸ hc

/-- The digits up to sixteen are portable. -/
lemma portable_digitChar : ∀ d < 16, Portable (Nat.digitChar d) := by decide

/-- **A numeral** is portable. -/
lemma isPortable_numeral {b : ℕ} (hone : 1 < b) (hle : b ≤ 16) (n : ℕ) :
    IsPortable (numeral b n) := by
  intro c hc
  obtain ⟨d, hd, rfl⟩ := exists_digit_of_mem_numeral hone hc
  exact portable_digitChar d (by omega)

/-- An escape of a code unit is portable. -/
lemma isPortable_unicodeEscape (n : ℕ) : IsPortable (unicodeEscape n) := by
  have hmark : IsPortable "\\u".toList := by decide
  exact (hmark.append (isPortable_replicate (by decide) _)).append
    (isPortable_numeral (by decide) (by decide) n)

/-- The text of a character in a literal is portable. -/
lemma isPortable_jsonChar (c : Char) : IsPortable (jsonChar c) := by
  have hescape : ∀ d : Char, Portable d → IsPortable ['\\', d] := fun d hd =>
    .cons (by decide) (.cons hd isPortable_nil)
  unfold jsonChar
  split_ifs with _ _ _ _ _ _ _ hprintable
  · exact hescape '"' (by decide)
  · exact hescape '\\' (by decide)
  · exact hescape 'n' (by decide)
  · exact hescape 'r' (by decide)
  · exact hescape 't' (by decide)
  · exact hescape 'f' (by decide)
  · exact hescape 'b' (by decide)
  · exact .cons (.inr hprintable) isPortable_nil
  · exact isPortable_unicodeEscape _
  · exact (isPortable_unicodeEscape _).append (isPortable_unicodeEscape _)

/-- **A JSON string** is portable, whatever it stands for: everything beyond ASCII is escaped. -/
lemma isPortable_jsonString (s : Str) : IsPortable (jsonString s) := by
  have hbody : IsPortable (s.flatMap jsonChar) := by
    intro c hc
    obtain ⟨d, -, hd⟩ := List.mem_flatMap.mp hc
    exact isPortable_jsonChar d c hd
  exact .cons (by decide) (hbody.append (.cons (by decide) isPortable_nil))

/-- The line feed before an indented item is portable. -/
lemma isPortable_newlineIndent (n : ℕ) : IsPortable (newlineIndent n) :=
  .cons (by decide) (isPortable_replicate (by decide) n)

/-- Brackets around portable texts. -/
lemma isPortable_bracketed {opening closing : Char} (hopening : Portable opening)
    (hclosing : Portable closing) (n : ℕ) {members : List Str}
    (h : ∀ s ∈ members, IsPortable s) : IsPortable (bracketed opening closing n members) := by
  have hjoin : IsPortable (membersText (n + 2) members) := by
    cases members with
    | nil => exact isPortable_nil
    | cons s ts =>
      induction ts generalizing s with
      | nil =>
        rw [membersText_singleton]
        exact h s List.mem_cons_self
      | cons t ts ih =>
        obtain ⟨hs, hts⟩ := List.forall_mem_cons.mp h
        have htext := membersText_cons_cons (n + 2) s t ts []
        rw [List.append_nil, List.append_nil] at htext
        rw [htext]
        exact hs.append (.cons (by decide) ((isPortable_newlineIndent _).append (ih t hts)))
  unfold bracketed
  split_ifs
  · exact .cons hopening (.cons hclosing isPortable_nil)
  · exact (((IsPortable.cons hopening (isPortable_newlineIndent _)).append hjoin).append
      (isPortable_newlineIndent _)).append (.cons hclosing isPortable_nil)

/-- **The text of a value is portable.**

**Proof sketch.** By induction on the value; only literals could have other characters, and these
are escaped. -/
lemma isPortable_dumpsAt (x : Json) : ∀ n, IsPortable (x.dumpsAt n) := by
  induction x using Json.induct with
  | bool b =>
    intro n
    rw [Json.dumpsAt]
    cases b <;> decide
  | int k =>
    intro n
    rw [Json.dumpsAt]
    unfold intText
    split_ifs
    · exact .cons (by decide) (isPortable_numeral (by decide) (by decide) _)
    · exact isPortable_numeral (by decide) (by decide) _
  | str s =>
    intro n
    rw [Json.dumpsAt]
    exact isPortable_jsonString s
  | arr items ih =>
    intro n
    rw [Json.dumpsAt]
    refine isPortable_bracketed (by decide) (by decide) n ?_
    induction items with
    | nil => exact fun _ h => (List.not_mem_nil h).elim
    | cons x xs ihxs =>
      obtain ⟨hx, hxs⟩ := List.forall_mem_cons.mp ih
      rw [Json.dumpsItems]
      exact List.forall_mem_cons.mpr ⟨hx _, ihxs hxs⟩
  | obj fields ih =>
    intro n
    rw [Json.dumpsAt]
    refine isPortable_bracketed (by decide) (by decide) n ?_
    induction fields with
    | nil => exact fun _ h => (List.not_mem_nil h).elim
    | cons f fs ihfs =>
      obtain ⟨k, x⟩ := f
      obtain ⟨hx, hfs⟩ := List.forall_mem_cons.mp ih
      have hcolon : IsPortable ": ".toList := .cons (by decide) (.cons (by decide) isPortable_nil)
      rw [Json.dumpsFields]
      exact List.forall_mem_cons.mpr
        ⟨((isPortable_jsonString k).append hcolon).append (hx _), ihfs hfs⟩

end Codec
