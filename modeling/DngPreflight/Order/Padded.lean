import Mathlib.Order.PiLex
import Mathlib.Data.List.Lex

set_option relaxedAutoImplicit false
set_option autoImplicit false

/-!
# Sequences padded with zeros

Sequences of numbers, compared number by number from the left, where numbers that are missing count
as zero. Sequences that differ in trailing zeros only are equal in this order, so that it is an
order of functions; the lexicographic order of lists, in which a proper prefix is smaller, tells
them apart.

## Main definitions

* `Padded.component`, `Padded.padded` — the numbers of a sequence.

## Main results

* `Padded.lt_iff` — what it means to be smaller.
* `Padded.lex_iff` — where the order of lists and the order of padded sequences differ.
-/

namespace Padded

/-- A number of a sequence; those that are missing are zero. -/
def component (v : List ℕ) (i : ℕ) : ℕ := v.getD i 0

/-- A sequence, as an element of the lexicographic order of functions. -/
def padded (v : List ℕ) : Lex (ℕ → ℕ) := toLex (component v)

/-- **To be smaller** is to have a smaller number where the sequences first differ. -/
lemma lt_iff {v w : List ℕ} : padded v < padded w ↔
    ∃ i, (∀ j < i, component v j = component w j) ∧ component v i < component w i := Iff.rfl

/-- Sequences are equal if all their numbers are. -/
lemma padded_eq_iff {v w : List ℕ} : padded v = padded w ↔ ∀ i, component v i = component w i := by
  rw [padded, padded, toLex_inj, funext_iff]

/-- No sequence is smaller than the one that is all zeros. -/
lemma padded_nil_le (v : List ℕ) : padded [] ≤ padded v := by
  refine Pi.toLex_monotone fun i => ?_
  exact Nat.zero_le _

variable {a b : ℕ} {v w : List ℕ}

/-- Equality of sequences, number by number. -/
lemma padded_cons_eq_iff : padded (a :: v) = padded (b :: w) ↔ a = b ∧ padded v = padded w := by
  rw [padded_eq_iff, padded_eq_iff]
  constructor
  · exact fun h => ⟨h 0, fun i => h (i + 1)⟩
  · rintro ⟨hab, h⟩ (_ | i)
    · exact hab
    · exact h i

/-- The order of sequences, number by number. -/
lemma padded_cons_lt_iff :
    padded (a :: v) < padded (b :: w) ↔ a < b ∨ (a = b ∧ padded v < padded w) := by
  rw [lt_iff, lt_iff]
  constructor
  · rintro ⟨_ | i, hsame, hlt⟩
    · exact Or.inl hlt
    · exact Or.inr
        ⟨hsame 0 (Nat.succ_pos i), i, fun j hj => hsame (j + 1) (Nat.succ_lt_succ hj), hlt⟩
  · rintro (hlt | ⟨rfl, i, hsame, hlt⟩)
    · exact ⟨0, fun j hj => absurd hj (Nat.not_lt_zero j), hlt⟩
    · refine ⟨i + 1, ?_, hlt⟩
      rintro (_ | j) hj
      · rfl
      · exact hsame j (Nat.lt_of_succ_lt_succ hj)

/-- **Where the two orders differ**: a list is lexicographically smaller if it is smaller as a
sequence, or if it is equal to the other one as a sequence and shorter.

**Proof sketch.** Induction on both lists, number by number. If one of them ends, what is left of
the other is not smaller than zeros. -/
lemma lex_iff : List.Lex (· < ·) v w ↔
    padded v < padded w ∨ (padded v = padded w ∧ v.length < w.length) := by
  induction v generalizing w with
  | nil =>
    cases w with
    | nil => exact iff_of_false nofun fun h => h.elim (lt_irrefl _) fun h => lt_irrefl 0 h.2
    | cons b w =>
      refine iff_of_true .nil ?_
      exact (padded_nil_le (b :: w)).lt_or_eq.imp_right fun h => ⟨h, Nat.succ_pos _⟩
  | cons a v ih =>
    cases w with
    | nil =>
      exact iff_of_false nofun fun h =>
        h.elim (padded_nil_le (a :: v)).not_gt fun h => Nat.not_lt_zero _ h.2
    | cons b w =>
      rw [List.cons_lex_cons_iff, ih, padded_cons_lt_iff, padded_cons_eq_iff, List.length_cons,
        List.length_cons, Nat.add_lt_add_iff_right, and_or_left, or_assoc, and_assoc]

/-- The order of lists is that of their images under a function that keeps the order. -/
lemma lex_map_iff {α β : Type} [LinearOrder α] [Preorder β] {f : α → β} (hf : StrictMono f)
    {v w : List α} : List.Lex (· < ·) (v.map f) (w.map f) ↔ List.Lex (· < ·) v w := by
  induction v generalizing w with
  | nil => cases w <;> simp
  | cons a v ih =>
    cases w with
    | nil => simp
    | cons b w =>
      rw [List.map_cons, List.map_cons, List.cons_lex_cons_iff, List.cons_lex_cons_iff, ih,
        hf.lt_iff_lt, hf.injective.eq_iff]

end Padded
