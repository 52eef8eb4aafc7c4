import Mathlib.Data.List.Basic
import Mathlib.Tactic.Ring
import DngPreflight.Text.Basic

set_option relaxedAutoImplicit false
set_option autoImplicit false

/-!
# Numerals

Positional numerals over the digit characters of `Nat.toDigits`, and the decimal literals
that Python's `int()` reads.

## Main definitions

* `Text.numeral` — the canonical numeral of a number; `Text.numeralValue` reads one back.
* `Text.decimalDigit?` — the decimal value of a character (Unicode category `Nd`).
* `Text.parseInt`, `Text.int` — the integer literals of `int()`, without and with the limit
  on the number of digits.
* `Text.intText` — `str` of an integer.

## Main results

* `Text.numeralValue_numeral` — reading back the numeral of `n` gives `n`, in every base up
  to sixteen.
* `Text.parseInt_intText` — reading back the text of an integer gives the integer.
* `Text.isIntChar_of_int` — a readable literal has only digits, underscores, signs and
  whitespace.
-/

namespace Text

/-! ## Positional numerals -/

/-- The numeral of `n` in base `b`, with lower-case digits. -/
def numeral (b n : ℕ) : Str := Nat.toDigits b n

/-- The value of a digit sequence in base `b`, most significant digit first. -/
def digitsValue (b : ℕ) (ds : List ℕ) : ℕ := ds.foldl (fun n d => b * n + d) 0

/-- The value of a numeral whose digits are read by `digit`. -/
def numeralValue (b : ℕ) (digit : Char → Option ℕ) (s : Str) : Option ℕ :=
  (s.mapM digit).map (digitsValue b)

/-- The value of a digit sequence extended by one digit. -/
lemma digitsValue_append_singleton (b : ℕ) (ds : List ℕ) (d : ℕ) :
    digitsValue b (ds ++ [d]) = b * digitsValue b ds + d := by
  simp [digitsValue]

/-- Leading zeros do not change the value of a digit sequence. -/
lemma digitsValue_replicate_zero_append (b k : ℕ) (ds : List ℕ) :
    digitsValue b (List.replicate k 0 ++ ds) = digitsValue b ds := by
  induction k with
  | zero => rfl
  | succ k ih =>
    rw [← ih, digitsValue, digitsValue, List.replicate_succ, List.cons_append, List.foldl_cons,
      Nat.mul_zero, Nat.add_zero]

/-- The digits of the numeral of `n` are readable and have value `n`.

**Proof sketch.** Strong induction on `n`: the numeral of `n ≥ b` is the numeral of `n / b`
followed by the digit of `n % b`. -/
lemma mapM_numeral {b : ℕ} (hb : 1 < b) (digit : Char → Option ℕ)
    (hdigit : ∀ d < b, digit (Nat.digitChar d) = some d) (n : ℕ) :
    ∃ ds, (numeral b n).mapM digit = some ds ∧ digitsValue b ds = n := by
  induction n using Nat.strong_induction_on with
  | _ n ih =>
    by_cases h : n < b
    · refine ⟨[n], ?_, by simp [digitsValue]⟩
      simp [numeral, Nat.toDigits_of_lt_base h, hdigit n h]
    · obtain ⟨ds, hds, hv⟩ := ih (n / b) (Nat.div_lt_self (by omega) hb)
      refine ⟨ds ++ [n % b], ?_, ?_⟩
      · rw [numeral] at hds ⊢
        rw [Nat.toDigits_of_base_le hb (by omega), List.mapM_append, hds]
        simp [hdigit _ (Nat.mod_lt n (by omega))]
      · rw [digitsValue_append_singleton, hv, Nat.div_add_mod]

/-- **Numerals read back**: the value of the numeral of `n` is `n`. -/
lemma numeralValue_numeral {b : ℕ} (hb : 1 < b) (digit : Char → Option ℕ)
    (hdigit : ∀ d < b, digit (Nat.digitChar d) = some d) (n : ℕ) :
    numeralValue b digit (numeral b n) = some n := by
  obtain ⟨ds, hds, hv⟩ := mapM_numeral hb digit hdigit n
  simp [numeralValue, hds, hv]

/-- Numbers with the same decimal numeral are equal. -/
lemma numeral_ten_injective : Function.Injective (numeral 10) := by
  intro m n h
  calc
    m = Nat.ofDigitChars 10 (numeral 10 m) 0 := Nat.ofDigitChars_ten_toDigits.symm
    _ = Nat.ofDigitChars 10 (numeral 10 n) 0 := by rw [h]
    _ = n := Nat.ofDigitChars_ten_toDigits

/-- A numeral is not empty. -/
@[simp] lemma numeral_ne_nil (b n : ℕ) : numeral b n ≠ [] := Nat.toDigits_ne_nil

/-- Every character of a numeral is the character of a digit below the base.

**Proof sketch.** Strong induction on `n`, peeling off the last digit. -/
lemma exists_digit_of_mem_numeral {b : ℕ} (hb : 1 < b) {n : ℕ} {c : Char}
    (hc : c ∈ numeral b n) : ∃ d < b, c = Nat.digitChar d := by
  induction n using Nat.strong_induction_on with
  | _ n ih =>
    rw [numeral, Nat.toDigits_eq_if hb] at hc
    split at hc
    · exact ⟨n, by assumption, by simpa using hc⟩
    · rcases List.mem_append.mp hc with hc | hc
      · exact ih (n / b) (Nat.div_lt_self (by omega) hb) hc
      · exact ⟨n % b, Nat.mod_lt n (by omega), by simpa using hc⟩

/-! ## Decimal digits -/

/-- The code points of the zero of each run of ten decimal digits (category `Nd`). -/
def decimalZeros : List ℕ :=
  [0x30, 0x660, 0x6F0, 0x7C0, 0x966, 0x9E6, 0xA66, 0xAE6, 0xB66, 0xBE6, 0xC66, 0xCE6, 0xD66,
   0xDE6, 0xE50, 0xED0, 0xF20, 0x1040, 0x1090, 0x17E0, 0x1810, 0x1946, 0x19D0, 0x1A80, 0x1A90,
   0x1B50, 0x1BB0, 0x1C40, 0x1C50, 0xA620, 0xA8D0, 0xA900, 0xA9D0, 0xA9F0, 0xAA50, 0xABF0,
   0xFF10, 0x104A0, 0x10D30, 0x11066, 0x110F0, 0x11136, 0x111D0, 0x112F0, 0x11450, 0x114D0,
   0x11650, 0x116C0, 0x11730, 0x118E0, 0x11950, 0x11C50, 0x11D50, 0x11DA0, 0x11F50, 0x16A60,
   0x16AC0, 0x16B50, 0x1D7CE, 0x1D7D8, 0x1D7E2, 0x1D7EC, 0x1D7F6, 0x1E140, 0x1E2F0, 0x1E4F0,
   0x1E950, 0x1FBF0]

/-- The decimal value of a character, if it is a decimal digit of some script. -/
def decimalDigit? (c : Char) : Option ℕ :=
  (decimalZeros.find? fun z => decide (z ≤ c.toNat ∧ c.toNat < z + 10)).map (c.toNat - ·)

/-- The digit characters of base ten are decimal digits. -/
lemma decimalDigit?_digitChar : ∀ d < 10, decimalDigit? (Nat.digitChar d) = some d := by decide

/-! ## Integer literals -/

/-- Whitespace around an integer literal: the ASCII blanks of C's `isspace`, and every
whitespace character outside ASCII. -/
def isIntSpace (c : Char) : Bool :=
  c.toNat ∈ ([0x9, 0xA, 0xB, 0xC, 0xD, 0x20] : List ℕ) || (decide (127 ≤ c.toNat) && isSpace c)

/-- The digits of a decimal numeral in which single underscores may separate digits. -/
def intDigits : Str → Option (List ℕ)
  | [] => none
  | [c] => (decimalDigit? c).map fun d => [d]
  | c :: '_' :: s => do
    let d ← decimalDigit? c
    let ds ← intDigits s
    pure (d :: ds)
  | c :: s => do
    let d ← decimalDigit? c
    let ds ← intDigits s
    pure (d :: ds)

/-- Split an optional sign off a literal; `true` is a minus. -/
def splitSign : Str → Bool × Str
  | '-' :: u => (true, u)
  | '+' :: u => (false, u)
  | u => (false, u)

/-- The sign and the digits of an integer literal. -/
def intLiteral (s : Str) : Option (Bool × List ℕ) :=
  (intDigits (splitSign (trim isIntSpace s)).2).map fun ds =>
    ((splitSign (trim isIntSpace s)).1, ds)

/-- The value of a sign and a digit sequence. -/
def literalValue (l : Bool × List ℕ) : ℤ :=
  if l.1 then -(digitsValue 10 l.2 : ℤ) else digitsValue 10 l.2

/-- The integer denoted by a literal, whatever its length. -/
def parseInt (s : Str) : Option ℤ := (intLiteral s).map literalValue

/-- The longest literal, in digits, that `int()` accepts. -/
def maxIntDigits : ℕ := 4300

/-- `int(s)`; `none` is `ValueError`. -/
def int (s : Str) : Option ℤ :=
  (intLiteral s).bind fun l => if l.2.length ≤ maxIntDigits then some (literalValue l) else none

example : int " 3_0\n" = some 30 := by decide
example : int "3__0" = none := by decide

/-- `str(n)` of an integer. -/
def intText (n : ℤ) : Str :=
  if n < 0 then '-' :: numeral 10 n.natAbs else numeral 10 n.natAbs

/-! ## The characters of a literal -/

/-- The characters an integer literal may be made of. -/
def isIntChar (c : Char) : Bool :=
  isIntSpace c || decide (c ∈ ['+', '-', '_']) || (decimalDigit? c).isSome

/-- The digit part of a literal is made of digits and underscores. -/
lemma isIntChar_of_intDigits {s : Str} {ds : List ℕ} (h : intDigits s = some ds) :
    ∀ c ∈ s, isIntChar c := by
  have hdig : ∀ {c : Char} {d : ℕ}, decimalDigit? c = some d → isIntChar c := by
    intro c d hc
    simp [isIntChar, hc]
  induction s using intDigits.induct generalizing ds with
  | case1 => simp
  | case2 c =>
    simp only [intDigits, Option.map_eq_some_iff] at h
    obtain ⟨d, hd, -⟩ := h
    simpa using hdig hd
  | case3 c s ih =>
    simp only [intDigits, Option.bind_eq_bind, Option.bind_eq_some_iff] at h
    obtain ⟨d, hd, ds', hds', -⟩ := h
    intro c' hc'
    simp only [List.mem_cons] at hc'
    rcases hc' with rfl | rfl | hc'
    · exact hdig hd
    · decide
    · exact ih hds' c' hc'
  | case4 c s h1 h2 ih =>
    rw [intDigits] at h
    · simp only [Option.bind_eq_bind, Option.bind_eq_some_iff] at h
      obtain ⟨d, hd, ds', hds', -⟩ := h
      intro c' hc'
      rcases List.mem_cons.mp hc' with rfl | hc'
      · exact hdig hd
      · exact ih hds' c' hc'
    · exact h1
    · exact h2

/-- Splitting off the sign removes nothing but a sign. -/
lemma mem_splitSign_or {u : Str} {c : Char} (hc : c ∈ u) :
    c ∈ (splitSign u).2 ∨ c = '-' ∨ c = '+' := by
  unfold splitSign
  split <;> simp_all only [List.mem_cons] <;> tauto

/-- A literal that does not begin with a sign is left alone. -/
lemma splitSign_of_head {c : Char} {u : Str} (hm : c ≠ '-') (hp : c ≠ '+') :
    splitSign (c :: u) = (false, c :: u) := by
  unfold splitSign
  split <;> simp_all

/-- **The alphabet of literals**: a readable literal has only digits, underscores, signs and
whitespace. -/
lemma isIntChar_of_intLiteral {s : Str} {l : Bool × List ℕ} (h : intLiteral s = some l) :
    ∀ c ∈ s, isIntChar c := by
  obtain ⟨ds, hds, -⟩ := Option.map_eq_some_iff.mp h
  intro c hc
  rcases mem_trim_or isIntSpace hc with hc | hc
  · rcases mem_splitSign_or hc with hc | rfl | rfl
    · exact isIntChar_of_intDigits hds c hc
    · decide
    · decide
  · simp [isIntChar, hc]

/-- A string that `int()` accepts is made of literal characters. -/
lemma isIntChar_of_int {s : Str} {n : ℤ} (h : int s = some n) : ∀ c ∈ s, isIntChar c := by
  obtain ⟨l, hl, -⟩ := Option.bind_eq_some_iff.mp h
  exact isIntChar_of_intLiteral hl

/-! ## Reading back the text of an integer -/

/-- A numeral without underscores is read digit by digit. -/
lemma intDigits_eq_mapM {s : Str} (hs : s ≠ []) (hu : '_' ∉ s) :
    intDigits s = s.mapM decimalDigit? := by
  induction s using intDigits.induct with
  | case1 => exact absurd rfl hs
  | case2 c => cases h : decimalDigit? c <;> simp [intDigits, h]
  | case3 c s ih => simp at hu
  | case4 c s h1 h2 ih =>
    have hne : s ≠ [] := by rintro rfl; exact h1 rfl
    rw [intDigits]
    · rw [ih hne (fun h => hu (List.mem_cons_of_mem c h)), List.mapM_cons]
    · exact h1
    · exact h2

/-- The decimal numeral of a number is read as its digits. -/
lemma intDigits_numeral (n : ℕ) :
    ∃ ds, intDigits (numeral 10 n) = some ds ∧ digitsValue 10 ds = n := by
  rw [intDigits_eq_mapM (numeral_ne_nil 10 n) Nat.underscore_not_in_toDigits]
  exact mapM_numeral (by decide) decimalDigit? decimalDigit?_digitChar n

/-- A string without whitespace is not changed by trimming whitespace. -/
lemma trim_eq_self {p : Char → Bool} {s : Str} (h : ∀ c ∈ s, ¬ p c) : trim p s = s := by
  have h1 : s.dropWhile p = s := by
    cases s with
    | nil => rfl
    | cons c s => simp [h c (by simp)]
  rw [trim, h1]
  by_cases hs : s = []
  · simp [hs]
  · rw [List.rdropWhile_eq_self_iff]
    exact fun _ => h _ (List.getLast_mem hs)

/-- No digit character below ten is whitespace or a sign. -/
lemma digitChar_plain : ∀ d < 10, isIntSpace (Nat.digitChar d) = false ∧
    Nat.digitChar d ≠ '-' ∧ Nat.digitChar d ≠ '+' := by decide

/-- A decimal numeral has no sign to split off. -/
lemma splitSign_numeral (n : ℕ) : splitSign (numeral 10 n) = (false, numeral 10 n) := by
  cases h : numeral 10 n with
  | nil => exact absurd h (numeral_ne_nil 10 n)
  | cons c u =>
    obtain ⟨d, hd, rfl⟩ := exists_digit_of_mem_numeral (b := 10) (n := n) (c := c) (by decide)
      (by simp [h])
    exact splitSign_of_head (digitChar_plain d hd).2.1 (digitChar_plain d hd).2.2

/-- A decimal numeral has no whitespace to trim. -/
lemma not_isIntSpace_of_mem_numeral (n : ℕ) : ∀ c ∈ numeral 10 n, ¬ isIntSpace c := by
  intro c hc
  obtain ⟨d, hd, rfl⟩ := exists_digit_of_mem_numeral (by decide) hc
  simp [(digitChar_plain d hd).1]

/-- **Integers read back**: the literal written by `str` denotes the integer.

**Proof sketch.** A decimal numeral has no whitespace to trim and does not begin with a sign,
so the literal is the sign written and the digits of the absolute value. -/
lemma parseInt_intText (n : ℤ) : parseInt (intText n) = some n := by
  obtain ⟨ds, hds, hv⟩ := intDigits_numeral n.natAbs
  by_cases hn : n < 0
  · have htrim : trim isIntSpace ('-' :: numeral 10 n.natAbs) = '-' :: numeral 10 n.natAbs := by
      apply trim_eq_self
      intro c hc
      rcases List.mem_cons.mp hc with rfl | hc
      · decide
      · exact not_isIntSpace_of_mem_numeral _ c hc
    have hlit : intLiteral (intText n) = some (true, ds) := by
      simp [intLiteral, intText, hn, htrim, splitSign, hds]
    rw [parseInt, hlit, Option.map_some, literalValue, if_pos rfl, hv]
    congr 1
    omega
  · have hlit : intLiteral (intText n) = some (false, ds) := by
      simp [intLiteral, intText, hn, trim_eq_self (not_isIntSpace_of_mem_numeral _),
        splitSign_numeral, hds]
    rw [parseInt, hlit, Option.map_some, literalValue, if_neg (by simp), hv]
    congr 1
    omega

end Text
