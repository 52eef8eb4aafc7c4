import DngPreflight.Net.Notation
import DngPreflight.Codec.CodePoint
import DngPreflight.Yaml.Scalar

set_option relaxedAutoImplicit false
set_option autoImplicit false

/-!
# Double-quoted scalars

The double-quoted scalars of YAML that stand on one line, as PyYAML reads them: every escape is one
code point by itself. A JSON literal is such a scalar. What is read from it are the code units of
the string that it was printed for.

## Main definitions

* `Yaml.Escape`, `Yaml.scanQuoted` — the scanner, and where it is in an escape.
* `Yaml.readDoubleQuoted` — the value of a double-quoted scalar.

## Main results

* `Yaml.readsAs_unicodeEscape` — an escape is read as one code point.
* `Yaml.readDoubleQuoted_jsonLiteral` — what is read from a JSON literal.
-/

namespace Yaml

open Text Codec Net

/-! ## The scanner -/

/-- The escapes that stand for one character. -/
def escapeReplacements : List (Char × CodePoint) :=
  [('0', 0x00), ('a', 0x07), ('b', 0x08), ('t', 0x09), ('\t', 0x09), ('n', 0x0A), ('v', 0x0B),
    ('f', 0x0C), ('r', 0x0D), ('e', 0x1B), (' ', 0x20), ('"', 0x22), ('\\', 0x5C), ('/', 0x2F),
    ('N', 0x85), ('_', 0xA0), ('L', 0x2028), ('P', 0x2029)]

/-- The escapes by number, and how many digits follow them but for one. -/
def escapeCodes : List (Char × ℕ) := [('x', 1), ('u', 3), ('U', 7)]

/-- The code point with a number. -/
def codePointOf (n : ℕ) : Option CodePoint := if h : n < 0x110000 then some ⟨n, h⟩ else none

/-- Where the scanner is: outside of an escape, after its backslash, or in a number of which at
least one digit is left. -/
inductive Escape where
  | outside
  | begun
  | number (more value : ℕ)

/-- The value of a double-quoted scalar after its opening quote, and the text after its closing
quote. Line breaks are not read. -/
def scanQuoted : Escape → Str → Option (List CodePoint × Str)
  | _, [] => none
  | .outside, c :: s =>
    if c = '"' then some ([], s)
    else if c = '\\' then scanQuoted .begun s
    else if isLineChar c then (scanQuoted .outside s).map fun r => (codePoint c :: r.1, r.2)
    else none
  | .begun, c :: s =>
    match escapeReplacements.lookup c with
    | some replacement => (scanQuoted .outside s).map fun r => (replacement :: r.1, r.2)
    | none =>
      match escapeCodes.lookup c with
      | some more => scanQuoted (.number more 0) s
      | none => none
  | .number more value, c :: s =>
    match hexDigit? c with
    | none => none
    | some digit =>
      match more with
      | more + 1 => scanQuoted (.number more (16 * value + digit)) s
      | 0 => (codePointOf (16 * value + digit)).bind fun c =>
        (scanQuoted .outside s).map fun r => (c :: r.1, r.2)

/-- The value of a double-quoted scalar, and the text after it. -/
def readDoubleQuoted : Str → Option (List CodePoint × Str)
  | '"' :: s => scanQuoted .outside s
  | _ => none

example : readDoubleQuoted "\"a\\u00e9\\x41\\n\" #".toList =
    some ([0x61, 0xE9, 0x41, 0x0A], " #".toList) := by decide

/-! ## Parts of a scalar -/

/-- A part of a scalar is read as code points, whatever follows it. -/
def ReadsAs (text : Str) (cs : List CodePoint) : Prop :=
  ∀ rest, scanQuoted .outside (text ++ rest) =
    (scanQuoted .outside rest).map fun r => (cs ++ r.1, r.2)

/-- Nothing is read as nothing. -/
lemma ReadsAs.nil : ReadsAs [] [] := fun rest => by
  simp

/-- Parts are read one after the other. -/
lemma ReadsAs.append {s t : Str} {cs ds : List CodePoint} (hs : ReadsAs s cs) (ht : ReadsAs t ds) :
    ReadsAs (s ++ t) (cs ++ ds) := fun rest => by
  rw [List.append_assoc, hs, ht, Option.map_map]
  simp only [Function.comp_def, List.append_assoc]

/-- A list of parts is read part by part. -/
lemma ReadsAs.flatMap {α : Type} {text : α → Str} {value : α → List CodePoint}
    (h : ∀ a, ReadsAs (text a) (value a)) (l : List α) :
    ReadsAs (l.flatMap text) (l.flatMap value) := by
  induction l with
  | nil => exact ReadsAs.nil
  | cons a l ih =>
    rw [List.flatMap_cons, List.flatMap_cons]
    exact (h a).append ih

/-- A character that is no quote and no backslash stands for itself. -/
lemma readsAs_char {c : Char} (hquote : c ≠ '"') (hbackslash : c ≠ '\\')
    (hline : isLineChar c = true) : ReadsAs [c] [codePoint c] := fun rest => by
  rw [List.singleton_append, scanQuoted, if_neg hquote, if_neg hbackslash, if_pos hline]
  rfl

/-- An escape that stands for one character. -/
lemma readsAs_replacement {c : Char} {replacement : CodePoint}
    (h : escapeReplacements.lookup c = some replacement) :
    ReadsAs ['\\', c] [replacement] := fun rest => by
  have hbackslash : scanQuoted .outside ('\\' :: c :: rest) = scanQuoted .begun (c :: rest) := rfl
  rw [List.cons_append, List.singleton_append, hbackslash]
  simp only [scanQuoted, h]
  rfl

/-- The digits of a number are read as the code point with that number.

**Proof sketch.** Induction on how many digits are left, the value being what was read before. -/
lemma scanQuoted_number {ds : Str} {digits : List ℕ} (hread : ds.mapM hexDigit? = some digits)
    {more : ℕ} (hlength : ds.length = more + 1) {value : ℕ} {c : CodePoint}
    (hvalue : digits.foldl (fun n d => 16 * n + d) value = c.val) (rest : Str) :
    scanQuoted (.number more value) (ds ++ rest) =
      (scanQuoted .outside rest).map fun r => (c :: r.1, r.2) := by
  induction more generalizing ds digits value with
  | zero =>
    obtain ⟨d, rfl⟩ := List.length_eq_one_iff.mp hlength
    obtain ⟨digit, tail, hdigit, hnil, rfl⟩ := exists_of_mapM_cons hread
    rw [List.mapM_nil] at hnil
    obtain rfl := Option.some.inj hnil
    have hcode : codePointOf (16 * value + digit) = some c := by
      rw [List.foldl_cons, List.foldl_nil] at hvalue
      rw [codePointOf, hvalue, dif_pos c.isLt]
    simp only [List.singleton_append, scanQuoted, hdigit, hcode, Option.bind_some]
  | succ more ih =>
    obtain ⟨d, ds, rfl⟩ := List.exists_cons_of_length_eq_add_one hlength
    obtain ⟨digit, digits, hdigit, hdigits, rfl⟩ := exists_of_mapM_cons hread
    rw [List.foldl_cons] at hvalue
    rw [List.length_cons, Nat.add_right_cancel_iff] at hlength
    rw [← ih hdigits hlength hvalue]
    simp only [List.cons_append, scanQuoted, hdigit]

/-- An escape of a JSON literal is the backslash, the mark and four digits of the number. -/
lemma exists_unicodeEscape {n : ℕ} (h : n < 0x10000) :
    ∃ ds digits, unicodeEscape n = '\\' :: 'u' :: ds ∧ ds.length = 4 ∧
      ds.mapM hexDigit? = some digits ∧ digitsValue 16 digits = n := by
  obtain ⟨digits, hdigits, hvalue⟩ := mapM_numeral (by decide) hexDigit? hexDigit?_digitChar n
  have hlength : (numeral 16 n).length ≤ 4 :=
    Nat.toDigits_length 16 n 4 (by decide) (by simpa using h)
  set zeros := 4 - (numeral 16 n).length with hzeros
  have hpad : (List.replicate zeros '0').mapM hexDigit? = some (List.replicate zeros 0) := by
    have hzero : List.replicate zeros '0' = (List.replicate zeros 0).map Nat.digitChar := by
      rw [List.map_replicate]
      rfl
    rw [hzero]
    refine mapM_map_eq_some fun d hd => ?_
    rw [List.eq_of_mem_replicate hd]
    rfl
  refine ⟨List.replicate zeros '0' ++ numeral 16 n, List.replicate zeros 0 ++ digits,
    ?_, ?_, ?_, ?_⟩
  · rw [unicodeEscape, ← hzeros]
    rfl
  · rw [List.length_append, List.length_replicate]
    exact Nat.sub_add_cancel hlength
  · rw [List.mapM_append, hpad, hdigits]
    rfl
  · rw [digitsValue_replicate_zero_append, hvalue]

/-- **An escape is read as one code point**, even where it is half of a pair. -/
lemma readsAs_unicodeEscape {c : CodePoint} (h : InBmp c) : ReadsAs (unicodeEscape c.val) [c] := by
  obtain ⟨ds, digits, hescape, hlength, hread, hvalue⟩ := exists_unicodeEscape h
  intro rest
  have hmark : scanQuoted .outside ('\\' :: 'u' :: (ds ++ rest)) =
      scanQuoted (.number 3 0) (ds ++ rest) := rfl
  rw [hescape, List.cons_append, List.cons_append, hmark,
    scanQuoted_number hread hlength hvalue rest]
  rfl

/-! ## Literals -/

/-- The text of a character in a literal is read as its code units.

**Proof sketch.** A character is there as itself, or as an escape that stands for it, or as the
escapes of its code units. -/
lemma readsAs_jsonChar (c : Char) : ReadsAs (jsonChar c) (utf16 (codePoint c)) := by
  unfold jsonChar
  split_ifs with hquote hbackslash hfeed hreturn htab hform hback hprintable hbmp
  · subst hquote
    exact readsAs_replacement rfl
  · subst hbackslash
    exact readsAs_replacement rfl
  · subst hfeed
    exact readsAs_replacement rfl
  · subst hreturn
    exact readsAs_replacement rfl
  · subst htab
    exact readsAs_replacement rfl
  · subst hform
    exact readsAs_replacement rfl
  · subst hback
    exact readsAs_replacement rfl
  · have hfirst : 0x20 ≤ c.toNat := hprintable.1
    have hlast : c.toNat ≤ 0x7E := hprintable.2
    have hbmp : InBmp (codePoint c) := by
      rw [InBmp, val_codePoint]
      omega
    rw [utf16, if_pos hbmp]
    refine readsAs_char hquote hbackslash ?_
    rw [isLineChar, if_pos hlast, decide_eq_true hfirst, Bool.true_or]
  · have hbmp : InBmp (codePoint c) := hbmp
    rw [utf16, if_pos hbmp, ← val_codePoint]
    exact readsAs_unicodeEscape hbmp
  · have hbmp : ¬ InBmp (codePoint c) := hbmp
    rw [utf16, if_neg hbmp, ← val_codePoint, ← val_highSurrogate, ← val_lowSurrogate]
    exact (readsAs_unicodeEscape (inBmp_highSurrogate _)).append
      (readsAs_unicodeEscape (inBmp_lowSurrogate _))

/-- The text of a code point in a literal is read as its code units. -/
lemma readsAs_jsonCodePoint (c : CodePoint) : ReadsAs (jsonCodePoint c) (utf16 c) := by
  by_cases hscalar : IsScalar c
  · obtain ⟨d, rfl⟩ := exists_codePoint hscalar
    rw [jsonCodePoint_codePoint]
    exact readsAs_jsonChar d
  · have hbmp : InBmp c := by
      unfold IsScalar at hscalar
      unfold InBmp
      omega
    rw [jsonCodePoint, if_neg hscalar, utf16, if_pos hbmp]
    exact readsAs_unicodeEscape hbmp

/-- **What is read from a JSON literal** are the code units of the string, up to the closing
quote. -/
lemma readDoubleQuoted_jsonLiteral (s : List CodePoint) (rest : Str) :
    readDoubleQuoted (jsonLiteral s ++ rest) = some (s.flatMap utf16, rest) := by
  have hclosing : scanQuoted .outside ('"' :: rest) = some ([], rest) := rfl
  rw [jsonLiteral, List.cons_append, List.cons_append, readDoubleQuoted, List.append_assoc,
    ReadsAs.flatMap readsAs_jsonCodePoint s, List.singleton_append, hclosing, Option.map_some,
    List.append_nil]

end Yaml
