import Mathlib.Data.Nat.Digits.Defs
import DngPreflight.Text.Numeral

set_option relaxedAutoImplicit false
set_option autoImplicit false

/-!
# Numbers that can be typed

`int()` refuses literals with too many digits, so the numbers that it can return are bounded.

## Main results

* `Text.int_numeral` — numerals below the bound are read.
* `Text.toNat_lt_of_int` — what is read is below the bound.
-/

namespace Text

/-- The value of digits is below the power of the base. -/
lemma digitsValue_lt_pow {b : ℕ} {ds : List ℕ} (h : ∀ d ∈ ds, d < b) :
    digitsValue b ds < b ^ ds.length := by
  induction ds using List.reverseRecOn with
  | nil => simp [digitsValue]
  | append_singleton ds d ih =>
    have hd : d < b := h d (by simp)
    have hds : digitsValue b ds < b ^ ds.length := ih fun e he => h e (by simp [he])
    rw [digitsValue_append_singleton, List.length_append, List.length_singleton, pow_succ]
    calc b * digitsValue b ds + d < b * digitsValue b ds + b := by omega
      _ = (digitsValue b ds + 1) * b := by rw [Nat.add_mul, Nat.mul_comm, Nat.one_mul]
      _ ≤ b ^ ds.length * b := Nat.mul_le_mul_right b hds

/-- The value of a decimal digit. -/
lemma lt_of_decimalDigit? {c : Char} {d : ℕ} (h : decimalDigit? c = some d) : d < 10 := by
  obtain ⟨z, hz, rfl⟩ := Option.map_eq_some_iff.mp h
  have hbounds := List.find?_some hz
  simp only [decide_eq_true_eq] at hbounds
  omega

/-- The digits of a literal. -/
lemma lt_of_mem_intDigits {s : Str} {ds : List ℕ} (h : intDigits s = some ds) :
    ∀ d ∈ ds, d < 10 := by
  induction s using intDigits.induct generalizing ds with
  | case1 => simp [intDigits] at h
  | case2 c =>
    simp only [intDigits, Option.map_eq_some_iff] at h
    obtain ⟨d, hd, rfl⟩ := h
    simpa using lt_of_decimalDigit? hd
  | case3 c s ih =>
    simp only [intDigits, Option.bind_eq_bind, Option.bind_eq_some_iff] at h
    obtain ⟨d, hd, ds', hds', h⟩ := h
    obtain rfl := Option.some.inj h
    exact List.forall_mem_cons.mpr ⟨lt_of_decimalDigit? hd, ih hds'⟩
  | case4 c s h1 h2 ih =>
    rw [intDigits] at h
    · simp only [Option.bind_eq_bind, Option.bind_eq_some_iff] at h
      obtain ⟨d, hd, ds', hds', h⟩ := h
      obtain rfl := Option.some.inj h
      exact List.forall_mem_cons.mpr ⟨lt_of_decimalDigit? hd, ih hds'⟩
    · exact h1
    · exact h2

/-- **What is read is below the bound.** -/
lemma toNat_lt_of_int {s : Str} {n : ℤ} (h : int s = some n) : n.toNat < 10 ^ maxIntDigits := by
  obtain ⟨⟨negative, ds⟩, hliteral, hn⟩ := Option.bind_eq_some_iff.mp h
  split_ifs at hn with hlen
  obtain ⟨ds', hdigits, hpair⟩ := Option.map_eq_some_iff.mp hliteral
  obtain ⟨-, rfl⟩ := Prod.mk.inj hpair
  have hvalue : digitsValue 10 ds' < 10 ^ maxIntDigits :=
    (digitsValue_lt_pow (lt_of_mem_intDigits hdigits)).trans_le
      (Nat.pow_le_pow_right (by omega) hlen)
  have hle : n.toNat ≤ digitsValue 10 ds' := by
    obtain rfl := Option.some.inj hn
    cases negative <;> simp [literalValue]
  omega

/-- A list is read item by item. -/
lemma length_of_mapM {α β : Type} {g : α → Option β} {l : List α} {bs : List β}
    (h : l.mapM g = some bs) : bs.length = l.length := by
  induction l generalizing bs with
  | nil =>
    cases h
    rfl
  | cons a l ih =>
    obtain ⟨b, tail, -, htail, rfl⟩ := exists_of_mapM_cons h
    rw [List.length_cons, List.length_cons, ih htail]

/-- The digits of a numeral. -/
lemma length_intDigits_numeral {n : ℕ} {ds : List ℕ} (h : intDigits (numeral 10 n) = some ds) :
    ds.length = (numeral 10 n).length := by
  rw [intDigits_eq_mapM (numeral_ne_nil 10 n) Nat.underscore_not_in_toDigits] at h
  exact length_of_mapM h

/-- **Numerals below the bound are read.** -/
lemma int_numeral {n : ℕ} (h : n < 10 ^ maxIntDigits) :
    int (numeral 10 n) = some (n : ℤ) := by
  obtain ⟨ds, hdigits, hvalue⟩ := intDigits_numeral n
  have hliteral : intLiteral (numeral 10 n) = some (false, ds) := by
    simp [intLiteral, trim_eq_self (not_isIntSpace_of_mem_numeral n), splitSign_numeral, hdigits]
  have hlen : ds.length ≤ maxIntDigits := by
    rw [length_intDigits_numeral hdigits]
    exact Nat.toDigits_length 10 n maxIntDigits (by decide) h
  have hread : literalValue (false, ds) = (n : ℤ) := by rw [← hvalue]; rfl
  rw [int, hliteral, Option.bind_some, if_pos hlen, hread]

end Text
