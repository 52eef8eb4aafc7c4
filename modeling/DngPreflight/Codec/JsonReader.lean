import DngPreflight.Yaml.DoubleQuoted

set_option relaxedAutoImplicit false
set_option autoImplicit false

/-!
# Reading JSON documents

A reader of JSON documents without `null` and fractions. White space between tokens is skipped; a
string is read as UTF-16 code units, of which surrogates have to come in pairs.

## Main definitions

* `Codec.scanString`, `Codec.ofUnits` — the code units of a string literal, and their characters.
* `Codec.readJson` — a value at the beginning of a text.
* `Codec.loads` — the value of a document.

## Main results

* `Codec.loads_dumps` — the text of a value is read back.
-/

namespace Codec

open Text Net

/-! ## Strings -/

/-- Where the reader is in a string literal. -/
inductive StringState where
  | plain
  | escape
  | hex (more value : ℕ)

/-- What a character after a backslash stands for. -/
def simpleEscapes : List (Char × ℕ) :=
  [('"', 0x22), ('\\', 0x5C), ('/', 0x2F), ('b', 0x08), ('f', 0x0C), ('n', 0x0A), ('r', 0x0D),
    ('t', 0x09)]

/-- The code units up to the closing quote, and the text after it. A control character is an
error. -/
def scanString : StringState → Str → Option (List ℕ × Str)
  | _, [] => none
  | .plain, c :: s =>
    if c = '"' then some ([], s)
    else if c = '\\' then scanString .escape s
    else if c < ' ' then none
    else (scanString .plain s).map fun r => (c.toNat :: r.1, r.2)
  | .escape, c :: s =>
    if c = 'u' then scanString (.hex 3 0) s
    else
      match simpleEscapes.lookup c with
      | some u => (scanString .plain s).map fun r => (u :: r.1, r.2)
      | none => none
  | .hex more value, c :: s =>
    match hexDigit? c with
    | none => none
    | some digit =>
      match more with
      | more + 1 => scanString (.hex more (16 * value + digit)) s
      | 0 => (scanString .plain s).map fun r => ((16 * value + digit) :: r.1, r.2)

/-- The characters of code units; a surrogate that has no partner has none. -/
def ofUnits : List ℕ → Option Str
  | [] => some []
  | u :: us =>
    if u < 0xD800 ∨ 0xDFFF < u then (ofUnits us).map fun s => Char.ofNat u :: s
    else
      match us with
      | [] => none
      | v :: us =>
        if u < 0xDC00 ∧ 0xDC00 ≤ v ∧ v < 0xE000 then
          (ofUnits us).map fun s =>
            Char.ofNat (0x10000 + (u - 0xD800) * 0x400 + (v - 0xDC00)) :: s
        else none

/-- The string at the beginning of a text, after its opening quote. -/
def readString (s : Str) : Option (Str × Str) :=
  (scanString .plain s).bind fun r => (ofUnits r.1).map fun t => (t, r.2)

/-! ## Values -/

/-- White space between tokens. -/
def isJsonSpace (c : Char) : Bool := decide (c ∈ [' ', '\t', '\n', '\r'])

/-- The text after white space. -/
def skipSpace (s : Str) : Str := s.dropWhile isJsonSpace

/-- A decimal digit. -/
def isDigit (c : Char) : Bool := decide ('0' ≤ c ∧ c ≤ '9')

/-- The digits at the beginning of a text: a zero, or those that do not begin with one. -/
def spanDigits (s : Str) : Str × Str :=
  match s with
  | '0' :: s => (['0'], s)
  | s => (s.takeWhile isDigit, s.dropWhile isDigit)

/-- A number that is not an integer continues so. -/
def continuesNumber (s : Str) : Bool := s.head?.any fun c => decide (c ∈ ['.', 'e', 'E'])

/-- The natural number at the beginning of a text. -/
def readNat (s : Str) : Option (ℕ × Str) :=
  let (digits, rest) := spanDigits s
  if digits = [] ∨ continuesNumber rest then none
  else (numeralValue 10 decimalDigit? digits).map fun n => (n, rest)

/-- The integer at the beginning of a text. -/
def readInt (s : Str) : Option (ℤ × Str) :=
  match s with
  | '-' :: s => (readNat s).map fun r => (-(r.1 : ℤ), r.2)
  | s => (readNat s).map fun r => ((r.1 : ℤ), r.2)

/-- The text after a word. -/
def dropWord (word s : Str) : Option Str :=
  if word.isPrefixOf s then some (s.drop word.length) else none

/-- The truth value at the beginning of a text. -/
def readBool (s : Str) : Option (Bool × Str) :=
  ((dropWord "true" s).map fun rest => (true, rest)).or
    ((dropWord "false" s).map fun rest => (false, rest))

/-- The text after a character, and after white space before it. -/
def token (c : Char) (s : Str) : Option Str :=
  match skipSpace s with
  | [] => none
  | d :: s => if d = c then some s else none

mutual

/-- The value at the beginning of a text. -/
def readJson : ℕ → Str → Option (Json × Str)
  | 0, _ => none
  | fuel + 1, s =>
    match skipSpace s with
    | '"' :: s => (readString s).map fun r => (.str r.1, r.2)
    | '[' :: s =>
      match token ']' s with
      | some s => some (.arr [], s)
      | none => (readJsonItems fuel s).map fun r => (.arr r.1, r.2)
    | '\x7b' :: s =>
      match token '\x7d' s with
      | some s => some (.obj [], s)
      | none => (readJsonFields fuel s).map fun r => (.obj r.1, r.2)
    | s =>
      ((readBool s).map fun r => (.bool r.1, r.2)).or ((readInt s).map fun r => (.int r.1, r.2))

/-- The items of an array, up to its closing bracket. -/
def readJsonItems : ℕ → Str → Option (List Json × Str)
  | 0, _ => none
  | fuel + 1, s => do
    let (x, s) ← readJson fuel s
    match token ',' s with
    | some s =>
      let (xs, s) ← readJsonItems fuel s
      pure (x :: xs, s)
    | none =>
      let s ← token ']' s
      pure ([x], s)

/-- The fields of an object, up to its closing bracket. -/
def readJsonFields : ℕ → Str → Option (List (Str × Json) × Str)
  | 0, _ => none
  | fuel + 1, s => do
    let s ← token '"' s
    let (k, s) ← readString s
    let s ← token ':' s
    let (x, s) ← readJson fuel s
    match token ',' s with
    | some s =>
      let (fs, s) ← readJsonFields fuel s
      pure ((k, x) :: fs, s)
    | none =>
      let s ← token '\x7d' s
      pure ([(k, x)], s)

end

/-- The value of a document. -/
def loads (s : Str) : Option Json :=
  match readJson (s.length + 1) s with
  | some (x, rest) => if skipSpace rest = [] then some x else none
  | none => none

/-! ## Parts of a value -/

/-- The value of a field. -/
def Json.field? (key : String) : Json → Option Json
  | .obj fields => fields.lookup key.toList
  | _ => none

/-- A string. -/
def Json.asStr : Json → Option Str
  | .str s => some s
  | _ => none

/-- A truth value. -/
def Json.asBool : Json → Option Bool
  | .bool b => some b
  | _ => none

/-- A natural number. -/
def Json.asNat : Json → Option ℕ
  | .int n => if 0 ≤ n then some n.toNat else none
  | _ => none

/-- An array. -/
def Json.asArr : Json → Option (List Json)
  | .arr items => some items
  | _ => none

/-! ## Literals are read back -/

/-- The code units of a character. -/
def unitsOf (c : Char) : List ℕ := (utf16 (codePoint c)).map Fin.val

/-- The text of a part of a literal is read as code units. -/
def ScansAs (text : Str) (us : List ℕ) : Prop :=
  ∀ rest, scanString .plain (text ++ rest) =
    (scanString .plain rest).map fun r => (us ++ r.1, r.2)

/-- Texts that are scanned as code units are scanned so one after the other. -/
lemma ScansAs.append {s t : Str} {us vs : List ℕ} (hs : ScansAs s us) (ht : ScansAs t vs) :
    ScansAs (s ++ t) (us ++ vs) := fun rest => by
  rw [List.append_assoc, hs, ht, Option.map_map]
  exact congrArg (fun f => Option.map f _) (funext fun r => by simp)

/-- A character after a backslash. -/
lemma scansAs_simpleEscape {c : Char} {u : ℕ} (hu : c ≠ 'u')
    (h : simpleEscapes.lookup c = some u) : ScansAs ['\\', c] [u] := fun rest => by
  show scanString .escape (c :: rest) = _
  rw [scanString, if_neg hu]
  simp only [h]
  rfl

/-- The digits of a code unit. -/
lemma scanString_hex {ds : Str} {digits : List ℕ} (hread : ds.mapM hexDigit? = some digits)
    {more value u : ℕ} (hlength : ds.length = more + 1)
    (hvalue : digits.foldl (fun n d => 16 * n + d) value = u) (rest : Str) :
    scanString (.hex more value) (ds ++ rest) =
      (scanString .plain rest).map fun r => (u :: r.1, r.2) := by
  induction more generalizing ds digits value with
  | zero =>
    obtain ⟨d, rfl⟩ := List.length_eq_one_iff.mp hlength
    obtain ⟨digit, tail, hdigit, hnil, rfl⟩ := exists_of_mapM_cons hread
    rw [List.mapM_nil] at hnil
    obtain rfl := Option.some.inj hnil
    rw [List.foldl_cons, List.foldl_nil] at hvalue
    simp only [List.singleton_append, scanString, hdigit, hvalue]
  | succ more ih =>
    obtain ⟨d, ds, rfl⟩ := List.exists_cons_of_length_eq_add_one hlength
    obtain ⟨digit, digits, hdigit, hdigits, rfl⟩ := exists_of_mapM_cons hread
    rw [List.foldl_cons] at hvalue
    rw [List.length_cons, Nat.add_right_cancel_iff] at hlength
    rw [← ih hdigits hlength hvalue]
    simp only [List.cons_append, scanString, hdigit]

/-- The escape of a code unit is read as the code unit. -/
lemma scansAs_unicodeEscape {u : ℕ} (h : u < 0x10000) : ScansAs (unicodeEscape u) [u] := by
  obtain ⟨ds, digits, hescape, hlength, hread, hvalue⟩ := Yaml.exists_unicodeEscape h
  intro rest
  have hmark : scanString .plain ('\\' :: 'u' :: (ds ++ rest)) =
      scanString (.hex 3 0) (ds ++ rest) := rfl
  rw [hescape, List.cons_append, List.cons_append, hmark, scanString_hex hread hlength hvalue rest]
  rfl

/-- A printable character is read as itself. -/
lemma scansAs_plain {c : Char} (hquote : c ≠ '"') (hbackslash : c ≠ '\\') (hcontrol : ' ' ≤ c) :
    ScansAs [c] [c.toNat] := fun rest => by
  show scanString .plain (c :: rest) = _
  rw [scanString, if_neg hquote, if_neg hbackslash, if_neg (Char.not_lt.mpr hcontrol)]
  rfl

/-- **The text of a character in a literal** is read as its code units. -/
lemma scansAs_jsonChar (c : Char) : ScansAs (jsonChar c) (unitsOf c) := by
  unfold jsonChar
  split_ifs with hquote hbackslash hfeed hreturn htab hform hback hprintable hbmp
  · subst hquote
    exact scansAs_simpleEscape (by decide) rfl
  · subst hbackslash
    exact scansAs_simpleEscape (by decide) rfl
  · subst hfeed
    exact scansAs_simpleEscape (by decide) rfl
  · subst hreturn
    exact scansAs_simpleEscape (by decide) rfl
  · subst htab
    exact scansAs_simpleEscape (by decide) rfl
  · subst hform
    exact scansAs_simpleEscape (by decide) rfl
  · subst hback
    exact scansAs_simpleEscape (by decide) rfl
  · have hlast : c.toNat ≤ 0x7E := hprintable.2
    have hbmp : InBmp (codePoint c) := by
      rw [InBmp, val_codePoint]
      omega
    rw [unitsOf, utf16, if_pos hbmp]
    exact scansAs_plain hquote hbackslash hprintable.1
  · have hbmp : InBmp (codePoint c) := hbmp
    rw [unitsOf, utf16, if_pos hbmp]
    exact scansAs_unicodeEscape hbmp
  · have hbmp : ¬ InBmp (codePoint c) := hbmp
    rw [unitsOf, utf16, if_neg hbmp, ← val_codePoint, ← val_highSurrogate, ← val_lowSurrogate]
    exact (scansAs_unicodeEscape (inBmp_highSurrogate _)).append
      (scansAs_unicodeEscape (inBmp_lowSurrogate _))

/-- The code units of a text up to a quote. -/
lemma scanString_flatMap (s rest : Str) :
    scanString .plain (s.flatMap jsonChar ++ '"' :: rest) = some (s.flatMap unitsOf, rest) := by
  induction s with
  | nil =>
    show scanString .plain ('"' :: rest) = _
    rw [scanString, if_pos rfl]
    rfl
  | cons c s ih =>
    rw [List.flatMap_cons, List.append_assoc, scansAs_jsonChar, ih, Option.map_some,
      List.flatMap_cons]

/-- A code unit that is no surrogate is a character. -/
lemma ofUnits_scalar {u : ℕ} (h : u < 0xD800 ∨ 0xDFFF < u) (us : List ℕ) :
    ofUnits (u :: us) = (ofUnits us).map fun s => Char.ofNat u :: s := by
  rw [ofUnits.eq_def]
  exact if_pos h

/-- Two surrogates are a character. -/
lemma ofUnits_pair {u v : ℕ} (hu : 0xD800 ≤ u ∧ u < 0xDC00) (hv : 0xDC00 ≤ v ∧ v < 0xE000)
    (us : List ℕ) : ofUnits (u :: v :: us) = (ofUnits us).map fun s =>
      Char.ofNat (0x10000 + (u - 0xD800) * 0x400 + (v - 0xDC00)) :: s := by
  rw [ofUnits.eq_def]
  have hsurrogate : ¬ (u < 0xD800 ∨ 0xDFFF < u) := by omega
  exact (if_neg hsurrogate).trans (if_pos ⟨hu.2, hv⟩)

/-- **Code units are those of one text only.**

**Proof sketch.** A character of the Basic Multilingual Plane is no surrogate; any other one is
computed back from its two surrogates. -/
lemma ofUnits_flatMap (s : Str) : ofUnits (s.flatMap unitsOf) = some s := by
  induction s with
  | nil => rfl
  | cons c s ih =>
    obtain ⟨hlt, hscalar⟩ := toNat_bounds c
    rw [List.flatMap_cons]
    by_cases hbmp : InBmp (codePoint c)
    · have hunits : unitsOf c = [c.toNat] := by
        rw [unitsOf, utf16, if_pos hbmp]
        rfl
      rw [hunits, List.singleton_append, ofUnits_scalar hscalar, ih, Option.map_some,
        Char.ofNat_toNat]
    · have hge : 0x10000 ≤ c.toNat := not_lt.mp hbmp
      have hunits : unitsOf c =
          [0xD800 + (c.toNat - 0x10000) / 0x400, 0xDC00 + (c.toNat - 0x10000) % 0x400] := by
        rw [unitsOf, utf16, if_neg hbmp]
        rfl
      have hchar : 0x10000 + (0xD800 + (c.toNat - 0x10000) / 0x400 - 0xD800) * 0x400 +
          (0xDC00 + (c.toNat - 0x10000) % 0x400 - 0xDC00) = c.toNat := by omega
      rw [hunits, List.cons_append, List.singleton_append,
        ofUnits_pair (by omega) (by omega), ih, Option.map_some, hchar, Char.ofNat_toNat]

/-- **A literal is read back.** -/
lemma readString_jsonString (s rest : Str) :
    ∃ body, jsonString s ++ rest = '"' :: body ∧ readString body = some (s, rest) := by
  refine ⟨s.flatMap jsonChar ++ '"' :: rest, by simp [jsonString], ?_⟩
  rw [readString, scanString_flatMap, Option.bind_some, ofUnits_flatMap]
  rfl

/-! ## Numbers are read back -/

/-- A number ends here. -/
def Stops (rest : Str) : Prop :=
  ∀ c, rest.head? = some c → isDigit c = false ∧ c ∉ ['.', 'e', 'E']

/-- A numeral stops before a character that cannot go on with it. -/
lemma Stops.cons {c : Char} {s : Str} (hdigit : isDigit c = false) (h : c ∉ ['.', 'e', 'E']) :
    Stops (c :: s) := by
  rintro d ⟨⟩
  exact ⟨hdigit, h⟩

/-- A numeral stops before the line feed of the next item. -/
lemma stops_newlineIndent (n : ℕ) (s : Str) : Stops (newlineIndent n ++ s) :=
  Stops.cons (by decide) (by decide)

/-- A numeral stops before a comma. -/
lemma stops_comma (s : Str) : Stops (',' :: s) := Stops.cons (by decide) (by decide)

/-- The decimal digits are digits to the reader. -/
lemma isDigit_digitChar : ∀ d < 10, isDigit (Nat.digitChar d) = true := by decide

/-- Only zero has the digit `0`. -/
lemma eq_zero_of_digitChar : ∀ d < 10, Nat.digitChar d = '0' → d = 0 := by decide

/-- A numeral begins with a zero only if it is the zero. -/
lemma eq_zero_of_numeral {n : ℕ} {t : Str} (h : numeral 10 n = '0' :: t) : n = 0 := by
  induction n using Nat.strong_induction_on generalizing t with
  | _ n ih =>
    rw [numeral, Nat.toDigits_eq_if (by decide)] at h
    split_ifs at h with hlt
    · exact eq_zero_of_digitChar n hlt (List.cons.inj h).1
    · obtain ⟨d, ds, hds⟩ := List.exists_cons_of_ne_nil (numeral_ne_nil 10 (n / 10))
      have hhead : d = '0' := by
        rw [show Nat.toDigits 10 (n / 10) = d :: ds from hds] at h
        exact (List.cons.inj h).1
      have hzero : n / 10 = 0 := ih (n / 10) (by omega) (hhead ▸ hds)
      omega

/-- The digits of a numeral are read, if it stops there. -/
lemma spanDigits_numeral (n : ℕ) {rest : Str} (h : Stops rest) :
    spanDigits (numeral 10 n ++ rest) = (numeral 10 n, rest) := by
  by_cases hzero : n = 0
  · subst hzero
    rfl
  · have hdigits : ∀ c ∈ numeral 10 n, isDigit c = true := by
      intro c hc
      obtain ⟨d, hd, rfl⟩ := exists_digit_of_mem_numeral (by decide) hc
      exact isDigit_digitChar d hd
    have hspan : ∀ s, (∀ c t, s = c :: t → c ≠ '0') →
        spanDigits s = (s.takeWhile isDigit, s.dropWhile isDigit) := by
      intro s hs
      unfold spanDigits
      split
      · rename_i t
        exact absurd rfl (hs '0' t rfl)
      · rfl
    have hstop : rest.takeWhile isDigit = [] ∧ rest.dropWhile isDigit = rest := by
      cases rest with
      | nil => exact ⟨rfl, rfl⟩
      | cons c rest =>
        have hc := (h c rfl).1
        exact ⟨List.takeWhile_cons_of_neg (by simp [hc]), List.dropWhile_cons_of_neg (by simp [hc])⟩
    rw [hspan, List.takeWhile_append_of_pos hdigits, List.dropWhile_append_of_pos hdigits,
      hstop.1, hstop.2, List.append_nil]
    intro c t hs hc
    subst hc
    obtain ⟨d, ds, hds⟩ := List.exists_cons_of_ne_nil (numeral_ne_nil 10 n)
    rw [hds] at hs
    rw [(List.cons.inj hs).1] at hds
    exact hzero (eq_zero_of_numeral hds)

/-- A numeral is read back, if it stops there. -/
lemma readNat_numeral (n : ℕ) {rest : Str} (h : Stops rest) :
    readNat (numeral 10 n ++ rest) = some (n, rest) := by
  have hcontinues : continuesNumber rest = false := by
    cases rest with
    | nil => rfl
    | cons c rest => exact decide_eq_false (h c rfl).2
  rw [readNat, spanDigits_numeral n h]
  dsimp only
  rw [if_neg (by simp [hcontinues]), numeralValue_numeral (by decide) _ decimalDigit?_digitChar]
  rfl

/-- **An integer is read back**, if it stops there. -/
lemma readInt_intText (n : ℤ) {rest : Str} (h : Stops rest) :
    readInt (intText n ++ rest) = some (n, rest) := by
  unfold intText
  split_ifs with hneg
  · have hmark : readInt ('-' :: numeral 10 n.natAbs ++ rest) =
        (readNat (numeral 10 n.natAbs ++ rest)).map fun r => (-(r.1 : ℤ), r.2) := rfl
    rw [hmark, readNat_numeral _ h, Option.map_some]
    have hvalue : -(n.natAbs : ℤ) = n := by omega
    rw [hvalue]
  · have hplain : readInt (numeral 10 n.natAbs ++ rest) =
        (readNat (numeral 10 n.natAbs ++ rest)).map fun r => ((r.1 : ℤ), r.2) := by
      unfold readInt
      split
      · rename_i s heq
        obtain ⟨d, ds, hds⟩ := List.exists_cons_of_ne_nil (numeral_ne_nil 10 n.natAbs)
        have hmem : '-' ∈ numeral 10 n.natAbs := by
          rw [hds] at heq ⊢
          rw [(List.cons.inj heq).1]
          exact List.mem_cons_self
        obtain ⟨d, hd, hchar⟩ := exists_digit_of_mem_numeral (by decide) hmem
        exact absurd hchar.symm (digitChar_plain d hd).2.1
      · rfl
    rw [hplain, readNat_numeral _ h, Option.map_some]
    have hvalue : (n.natAbs : ℤ) = n := by omega
    rw [hvalue]

/-! ## Values are read back -/

/-- **Induction over values**: over the items of arrays, and the values in the fields of objects. -/
lemma Json.induct {P : Json → Prop} (bool : ∀ b, P (.bool b)) (int : ∀ n, P (.int n))
    (str : ∀ s, P (.str s)) (arr : ∀ items, (∀ x ∈ items, P x) → P (.arr items))
    (obj : ∀ fields, (∀ f ∈ fields, P f.2) → P (.obj fields)) (x : Json) : P x :=
  @Json.rec P (fun items => ∀ x ∈ items, P x) (fun fields => ∀ f ∈ fields, P f.2) (fun f => P f.2)
    bool int str arr obj (fun _ h => (List.not_mem_nil h).elim)
    (fun _ _ hx hxs => List.forall_mem_cons.mpr ⟨hx, hxs⟩) (fun _ h => (List.not_mem_nil h).elim)
    (fun _ _ hf hfs => List.forall_mem_cons.mpr ⟨hf, hfs⟩) (fun _ _ h => h) x

mutual

/-- A bound on the steps to read a value. -/
def Json.size : Json → ℕ
  | .arr items => Json.sizeItems items + 1
  | .obj fields => Json.sizeFields fields + 1
  | .bool _ => 1
  | .int _ => 1
  | .str _ => 1

/-- A bound on the steps to read items. -/
def Json.sizeItems : List Json → ℕ
  | [] => 0
  | x :: xs => x.size + Json.sizeItems xs + 1

/-- A bound on the steps to read fields. -/
def Json.sizeFields : List (Str × Json) → ℕ
  | [] => 0
  | (_, x) :: fs => x.size + Json.sizeFields fs + 1

end

/-- A value is read back. -/
def ReadsBack (x : Json) : Prop :=
  ∀ n fuel rest, x.size ≤ fuel → Stops rest → readJson fuel (x.dumpsAt n ++ rest) = some (x, rest)

/-- Indentation is skipped. -/
lemma skipSpace_newlineIndent (n : ℕ) (s : Str) :
    skipSpace (newlineIndent n ++ s) = skipSpace s := by
  refine List.dropWhile_append_of_pos fun c hc => ?_
  rcases List.mem_cons.mp hc with rfl | hc
  · rfl
  · rw [List.eq_of_mem_replicate hc]
    rfl

/-- Nothing is skipped before a character that is no white space. -/
lemma skipSpace_cons {c : Char} {s : Str} (h : isJsonSpace c = false) :
    skipSpace (c :: s) = c :: s :=
  List.dropWhile_cons_of_neg (by simp [h])

/-- The line feed and the indentation before a token are skipped. -/
lemma token_newlineIndent (c : Char) (n : ℕ) (s : Str) :
    token c (newlineIndent n ++ s) = token c s := by
  rw [token, skipSpace_newlineIndent]
  rfl

/-- A token is there exactly if it is the next character that is no white space. -/
lemma token_cons {c d : Char} {s : Str} (h : isJsonSpace d = false) :
    token c (d :: s) = if d = c then some s else none := by
  rw [token, skipSpace_cons h]

/-- A value may be indented. -/
lemma readJson_congr {fuel : ℕ} {s t : Str} (h : skipSpace s = skipSpace t) :
    readJson fuel s = readJson fuel t := by
  cases fuel with
  | zero => rw [readJson, readJson]
  | succ fuel => rw [readJson, readJson, h]

/-- Items may be indented. -/
lemma readJsonItems_newlineIndent (fuel n : ℕ) (s : Str) :
    readJsonItems fuel (newlineIndent n ++ s) = readJsonItems fuel s := by
  cases fuel with
  | zero => rw [readJsonItems, readJsonItems]
  | succ fuel =>
    rw [readJsonItems, readJsonItems, readJson_congr (skipSpace_newlineIndent n s)]

/-- Fields may be indented. -/
lemma readJsonFields_newlineIndent (fuel n : ℕ) (s : Str) :
    readJsonFields fuel (newlineIndent n ++ s) = readJsonFields fuel s := by
  cases fuel with
  | zero => rw [readJsonFields, readJsonFields]
  | succ fuel => rw [readJsonFields, readJsonFields, token_newlineIndent]

/-- A value that is no string, array or object. -/
lemma readJson_other {fuel : ℕ} {c : Char} {s : Str} (hspace : isJsonSpace c = false)
    (h : c ∉ ['"', '[', '\x7b']) : readJson (fuel + 1) (c :: s) =
      ((readBool (c :: s)).map fun r => (Json.bool r.1, r.2)).or
        ((readInt (c :: s)).map fun r => (Json.int r.1, r.2)) := by
  rw [readJson, skipSpace_cons hspace]
  split
  · rename_i heq
    exact absurd (List.cons.inj heq).1 (by rintro rfl; exact h (by decide))
  · rename_i heq
    exact absurd (List.cons.inj heq).1 (by rintro rfl; exact h (by decide))
  · rename_i heq
    exact absurd (List.cons.inj heq).1 (by rintro rfl; exact h (by decide))
  · rfl

/-- An array that has items. -/
lemma readJson_arr {fuel : ℕ} {s rest : Str} {items : List Json} (hopen : token ']' s = none)
    (h : readJsonItems fuel s = some (items, rest)) :
    readJson (fuel + 1) ('[' :: s) = some (.arr items, rest) := by
  rw [readJson, skipSpace_cons (by decide)]
  simp only [hopen, h]
  rfl

/-- An object that has fields. -/
lemma readJson_obj {fuel : ℕ} {s rest : Str} {fields : List (Str × Json)}
    (hopen : token '\x7d' s = none) (h : readJsonFields fuel s = some (fields, rest)) :
    readJson (fuel + 1) ('\x7b' :: s) = some (.obj fields, rest) := by
  rw [readJson, skipSpace_cons (by decide)]
  simp only [hopen, h]
  rfl

/-- How the text of an integer begins. -/
lemma exists_intText (n : ℤ) : ∃ c t, intText n = c :: t ∧ (c = '-' ∨ isDigit c = true) := by
  unfold intText
  split_ifs
  · exact ⟨_, _, rfl, .inl rfl⟩
  · obtain ⟨c, t, hc⟩ := List.exists_cons_of_ne_nil (numeral_ne_nil 10 n.natAbs)
    have hmem : c ∈ numeral 10 n.natAbs := by
      rw [hc]
      exact List.mem_cons_self
    obtain ⟨d, hd, rfl⟩ := exists_digit_of_mem_numeral (by decide) hmem
    exact ⟨_, _, hc, .inr (isDigit_digitChar d hd)⟩

/-- The characters that an integer can begin with. -/
lemma head_intText {c : Char} (h : c = '-' ∨ isDigit c = true) : isJsonSpace c = false ∧
    c ∉ ['"', '[', '\x7b', ']', 't', 'f'] := by
  have hne : ∀ d : Char, isDigit d = false → d ≠ '-' → c ≠ d := by
    rintro d hd hminus rfl
    rcases h with h | h
    · exact hminus h
    · rw [hd] at h
      cases h
  constructor
  · refine decide_eq_false fun hmem => ?_
    simp only [List.mem_cons, List.not_mem_nil, or_false] at hmem
    rcases hmem with h | h | h | h
    all_goals exact hne _ (by decide) (by decide) h
  · intro hmem
    simp only [List.mem_cons, List.not_mem_nil, or_false] at hmem
    rcases hmem with h | h | h | h | h | h
    all_goals exact hne _ (by decide) (by decide) h

/-- How the text of a value begins. -/
lemma exists_dumpsAt (x : Json) (n : ℕ) :
    ∃ c t, x.dumpsAt n = c :: t ∧ isJsonSpace c = false ∧ c ≠ ']' := by
  have hbracketed : ∀ (opening closing : Char) (members : List Str),
      ∃ t, bracketed opening closing n members = opening :: t := by
    intro opening closing members
    unfold bracketed
    split_ifs
    · exact ⟨_, rfl⟩
    · exact ⟨_, rfl⟩
  cases x with
  | bool b =>
    rw [Json.dumpsAt]
    cases b
    · exact ⟨_, _, rfl, by decide, by decide⟩
    · exact ⟨_, _, rfl, by decide, by decide⟩
  | int k =>
    rw [Json.dumpsAt]
    obtain ⟨c, t, ht, hc⟩ := exists_intText k
    exact ⟨c, t, ht, (head_intText hc).1, fun h => (head_intText hc).2 (by simp [h])⟩
  | str s =>
    rw [Json.dumpsAt]
    exact ⟨_, _, rfl, by decide, by decide⟩
  | arr items =>
    rw [Json.dumpsAt]
    obtain ⟨t, ht⟩ := hbracketed '[' ']' (Json.dumpsItems (n + 2) items)
    exact ⟨_, t, ht, by decide, by decide⟩
  | obj fields =>
    rw [Json.dumpsAt]
    obtain ⟨t, ht⟩ := hbracketed '\x7b' '\x7d' (Json.dumpsFields (n + 2) fields)
    exact ⟨_, t, ht, by decide, by decide⟩

/-- Reading a value takes a step. -/
lemma exists_of_size_le {x : Json} {fuel : ℕ} (h : x.size ≤ fuel) : ∃ k, fuel = k + 1 := by
  have hpos : 1 ≤ x.size := by
    cases x <;> simp [Json.size]
  exact Nat.exists_eq_add_of_le' (hpos.trans h)

/-- The two booleans are read back. -/
lemma readsBack_bool (b : Bool) : ReadsBack (.bool b) := by
  intro n fuel rest hsize hstops
  obtain ⟨fuel, rfl⟩ := exists_of_size_le hsize
  rw [Json.dumpsAt]
  cases b
  · exact readJson_other (by decide) (by decide)
  · exact readJson_other (by decide) (by decide)

/-- **Integers** are read back. -/
lemma readsBack_int (k : ℤ) : ReadsBack (.int k) := by
  intro n fuel rest hsize hstops
  obtain ⟨fuel, rfl⟩ := exists_of_size_le hsize
  obtain ⟨c, t, ht, hc⟩ := exists_intText k
  obtain ⟨hspace, hother⟩ := head_intText hc
  have hread := readInt_intText k hstops
  have hword : ∀ d u, d ∈ ['t', 'f'] → dropWord (d :: u) (c :: (t ++ rest)) = none := by
    intro d u hd
    have hne : d ≠ c := by
      rintro rfl
      refine hother ?_
      simp only [List.mem_cons, List.not_mem_nil, or_false] at hd ⊢
      tauto
    rw [dropWord, List.isPrefixOf_cons_cons, beq_false_of_ne hne, Bool.false_and]
    rfl
  have htrue : dropWord "true" (c :: (t ++ rest)) = none := hword 't' ['r', 'u', 'e'] (by simp)
  have hfalse : dropWord "false" (c :: (t ++ rest)) = none :=
    hword 'f' ['a', 'l', 's', 'e'] (by simp)
  have hbool : readBool (c :: (t ++ rest)) = none := by
    rw [readBool, htrue, hfalse]
    rfl
  rw [Json.dumpsAt, ht, List.cons_append] at *
  rw [readJson_other hspace (fun h => hother (by simp only [List.mem_cons] at h ⊢; tauto)), hbool,
    hread]
  rfl

/-- **Strings** are read back. -/
lemma readsBack_str (s : Str) : ReadsBack (.str s) := by
  intro n fuel rest hsize hstops
  obtain ⟨fuel, rfl⟩ := exists_of_size_le hsize
  obtain ⟨body, htext, hread⟩ := readString_jsonString s rest
  rw [Json.dumpsAt, htext, readJson, skipSpace_cons (by decide)]
  show (readString body).map (fun r => (Json.str r.1, r.2)) = _
  rw [hread]
  rfl

/-- The texts of members that follow each other. -/
def membersText (n : ℕ) (members : List Str) : Str := join (',' :: newlineIndent n) members

/-- The text of one member stands alone. -/
lemma membersText_singleton (n : ℕ) (s : Str) : membersText n [s] = s := by
  simp [membersText, join]

/-- The text of a first member is followed by a comma, a line feed, and the text of the others. -/
lemma membersText_cons_cons (n : ℕ) (s t : Str) (ts : List Str) (tail : Str) :
    membersText n (s :: t :: ts) ++ tail =
      s ++ ',' :: (newlineIndent n ++ (membersText n (t :: ts) ++ tail)) := by
  simp [membersText, join, List.intercalate]

/-- The text of members begins with that of the first one. -/
lemma exists_membersText (n : ℕ) (s : Str) (ts : List Str) :
    ∃ tail, membersText n (s :: ts) = s ++ tail := by
  cases ts with
  | nil => exact ⟨[], by rw [membersText_singleton, List.append_nil]⟩
  | cons t ts =>
    have h := membersText_cons_cons n s t ts []
    rw [List.append_nil, List.append_nil] at h
    exact ⟨_, h⟩

/-- The members of an array or object, between its brackets. -/
lemma bracketed_cons (opening closing : Char) (n : ℕ) (s : Str) (ts : List Str) (rest : Str) :
    bracketed opening closing n (s :: ts) ++ rest =
      opening :: (newlineIndent (n + 2) ++
        (membersText (n + 2) (s :: ts) ++ (newlineIndent n ++ closing :: rest))) := by
  rw [bracketed, if_neg (List.cons_ne_nil _ _), membersText]
  simp

/-- Reading an item: a comma or the closing bracket follows. -/
lemma readJsonItems_step {x : Json} (h : ReadsBack x) {n fuel : ℕ} (hsize : x.size ≤ fuel)
    {tail : Str} (hstops : Stops tail) : readJsonItems (fuel + 1) (x.dumpsAt n ++ tail) =
      match token ',' tail with
      | some s => (readJsonItems fuel s).map fun r => (x :: r.1, r.2)
      | none => (token ']' tail).map fun s => ([x], s) := by
  rw [readJsonItems, h n fuel tail hsize hstops]
  simp only [Option.bind_eq_bind, Option.bind_some]
  cases token ',' tail with
  | none => exact Option.map_eq_bind.symm
  | some s => exact Option.map_eq_bind.symm

/-- **Items are read back**, up to the closing bracket. -/
lemma readJsonItems_text {n m : ℕ} {rest : Str} (x : Json) (xs : List Json) {fuel : ℕ}
    (h : ∀ y ∈ x :: xs, ReadsBack y) (hsize : Json.sizeItems (x :: xs) ≤ fuel) :
    readJsonItems fuel (membersText n (Json.dumpsItems n (x :: xs)) ++
      (newlineIndent m ++ ']' :: rest)) = some (x :: xs, rest) := by
  obtain ⟨hx, hxs⟩ := List.forall_mem_cons.mp h
  induction xs generalizing x fuel with
  | nil =>
    rw [Json.sizeItems, Json.sizeItems] at hsize
    obtain ⟨fuel, rfl⟩ := Nat.exists_eq_add_of_le' (show 1 ≤ fuel by omega)
    rw [Json.dumpsItems, Json.dumpsItems, membersText_singleton,
      readJsonItems_step hx (by omega) (stops_newlineIndent _ _), token_newlineIndent,
      token_newlineIndent, token_cons (by decide), token_cons (by decide)]
    rfl
  | cons y ys ih =>
    rw [Json.sizeItems] at hsize
    obtain ⟨fuel, rfl⟩ := Nat.exists_eq_add_of_le' (show 1 ≤ fuel by omega)
    obtain ⟨hy, hys⟩ := List.forall_mem_cons.mp hxs
    have hitems : readJsonItems fuel (membersText n (Json.dumpsItems n (y :: ys)) ++
        (newlineIndent m ++ ']' :: rest)) = some (y :: ys, rest) :=
      ih y hxs (by omega) hy hys
    rw [Json.dumpsItems] at hitems
    rw [Json.dumpsItems, Json.dumpsItems, membersText_cons_cons,
      readJsonItems_step hx (by omega) (stops_comma _), token_cons (by decide), if_pos rfl]
    dsimp only
    rw [readJsonItems_newlineIndent, hitems]
    rfl

/-- Reading a field: a comma or the closing bracket follows. -/
lemma readJsonFields_step {k : Str} {x : Json} (h : ReadsBack x) {n fuel : ℕ}
    (hsize : x.size ≤ fuel) {tail : Str} (hstops : Stops tail) :
    readJsonFields (fuel + 1) (jsonString k ++ ": ".toList ++ x.dumpsAt n ++ tail) =
      match token ',' tail with
      | some s => (readJsonFields fuel s).map fun r => ((k, x) :: r.1, r.2)
      | none => (token '\x7d' tail).map fun s => ([(k, x)], s) := by
  obtain ⟨body, htext, hkey⟩ := readString_jsonString k (':' :: ' ' :: (x.dumpsAt n ++ tail))
  have hfield : jsonString k ++ ": ".toList ++ x.dumpsAt n ++ tail = '"' :: body := by
    rw [← htext]
    simp
  have hblank : skipSpace (' ' :: (x.dumpsAt n ++ tail)) = skipSpace (x.dumpsAt n ++ tail) := rfl
  have hvalue : readJson fuel (' ' :: (x.dumpsAt n ++ tail)) = some (x, tail) :=
    (readJson_congr hblank).trans (h n fuel tail hsize hstops)
  rw [hfield, readJsonFields, token_cons (by decide), if_pos rfl]
  simp only [Option.bind_eq_bind, Option.bind_some, hkey]
  rw [token_cons (by decide), if_pos rfl]
  simp only [Option.bind_some, hvalue]
  cases token ',' tail with
  | none => exact Option.map_eq_bind.symm
  | some s => exact Option.map_eq_bind.symm

/-- **Fields are read back**, up to the closing bracket. -/
lemma readJsonFields_text {n m : ℕ} {rest : Str} (f : Str × Json) (fs : List (Str × Json))
    {fuel : ℕ} (h : ∀ g ∈ f :: fs, ReadsBack g.2) (hsize : Json.sizeFields (f :: fs) ≤ fuel) :
    readJsonFields fuel (membersText n (Json.dumpsFields n (f :: fs)) ++
      (newlineIndent m ++ '\x7d' :: rest)) = some (f :: fs, rest) := by
  obtain ⟨hf, hfs⟩ := List.forall_mem_cons.mp h
  induction fs generalizing f fuel with
  | nil =>
    obtain ⟨k, x⟩ := f
    have hf : ReadsBack x := hf
    rw [Json.sizeFields, Json.sizeFields] at hsize
    obtain ⟨fuel, rfl⟩ := Nat.exists_eq_add_of_le' (show 1 ≤ fuel by omega)
    rw [Json.dumpsFields, Json.dumpsFields, membersText_singleton,
      readJsonFields_step hf (by omega) (stops_newlineIndent _ _), token_newlineIndent,
      token_newlineIndent, token_cons (by decide), token_cons (by decide)]
    rfl
  | cons g gs ih =>
    obtain ⟨k, x⟩ := f
    obtain ⟨l, y⟩ := g
    have hx : ReadsBack x := hf
    rw [Json.sizeFields] at hsize
    obtain ⟨fuel, rfl⟩ := Nat.exists_eq_add_of_le' (show 1 ≤ fuel by omega)
    obtain ⟨hg, hgs⟩ := List.forall_mem_cons.mp hfs
    have hfields : readJsonFields fuel (membersText n (Json.dumpsFields n ((l, y) :: gs)) ++
        (newlineIndent m ++ '\x7d' :: rest)) = some ((l, y) :: gs, rest) :=
      ih (l, y) hfs (by omega) hg hgs
    rw [Json.dumpsFields] at hfields
    rw [Json.dumpsFields, Json.dumpsFields, membersText_cons_cons,
      readJsonFields_step hx (by omega) (stops_comma _), token_cons (by decide), if_pos rfl]
    dsimp only
    rw [readJsonFields_newlineIndent, hfields]
    rfl

/-- A document begins with a character that is no closing bracket. -/
lemma token_dumpsAt (x : Json) (n : ℕ) (s : Str) : token ']' (x.dumpsAt n ++ s) = none := by
  obtain ⟨c, t, ht, hspace, hne⟩ := exists_dumpsAt x n
  rw [ht, List.cons_append, token_cons hspace, if_neg hne]

/-- An array is read back, if its items are. -/
lemma readsBack_arr (items : List Json) (h : ∀ x ∈ items, ReadsBack x) :
    ReadsBack (.arr items) := by
  intro n fuel rest hsize hstops
  obtain ⟨fuel, rfl⟩ := exists_of_size_le hsize
  rw [Json.size] at hsize
  rw [Json.dumpsAt]
  cases items with
  | nil =>
    rw [Json.dumpsItems, bracketed, if_pos rfl]
    rfl
  | cons y ys =>
    have hread : readJsonItems fuel (membersText (n + 2) (Json.dumpsItems (n + 2) (y :: ys)) ++
        (newlineIndent n ++ ']' :: rest)) = some (y :: ys, rest) :=
      readJsonItems_text y ys h (Nat.le_of_succ_le_succ hsize)
    have hopen : token ']' (newlineIndent (n + 2) ++
        (membersText (n + 2) (Json.dumpsItems (n + 2) (y :: ys)) ++
          (newlineIndent n ++ ']' :: rest))) = none := by
      obtain ⟨tail, htail⟩ := exists_membersText (n + 2) (y.dumpsAt (n + 2))
        (Json.dumpsItems (n + 2) ys)
      rw [token_newlineIndent, Json.dumpsItems, htail, List.append_assoc, token_dumpsAt]
    rw [Json.dumpsItems] at hread hopen ⊢
    rw [bracketed_cons]
    exact readJson_arr hopen ((readJsonItems_newlineIndent _ _ _).trans hread)

/-- An object is read back, if the values of its fields are. -/
lemma readsBack_obj (fields : List (Str × Json)) (h : ∀ f ∈ fields, ReadsBack f.2) :
    ReadsBack (.obj fields) := by
  intro n fuel rest hsize hstops
  obtain ⟨fuel, rfl⟩ := exists_of_size_le hsize
  rw [Json.size] at hsize
  rw [Json.dumpsAt]
  cases fields with
  | nil =>
    rw [Json.dumpsFields, bracketed, if_pos rfl]
    rfl
  | cons f fs =>
    obtain ⟨k, x⟩ := f
    have hread : readJsonFields fuel
        (membersText (n + 2) (Json.dumpsFields (n + 2) ((k, x) :: fs)) ++
          (newlineIndent n ++ '\x7d' :: rest)) = some ((k, x) :: fs, rest) :=
      readJsonFields_text (k, x) fs h (Nat.le_of_succ_le_succ hsize)
    have hopen : token '\x7d' (newlineIndent (n + 2) ++
        (membersText (n + 2) (Json.dumpsFields (n + 2) ((k, x) :: fs)) ++
          (newlineIndent n ++ '\x7d' :: rest))) = none := by
      obtain ⟨tail, htail⟩ := exists_membersText (n + 2)
        (jsonString k ++ ": ".toList ++ x.dumpsAt (n + 2)) (Json.dumpsFields (n + 2) fs)
      rw [token_newlineIndent, Json.dumpsFields, htail]
      exact token_cons (by decide)
    rw [Json.dumpsFields] at hread hopen ⊢
    rw [bracketed_cons]
    exact readJson_obj hopen ((readJsonFields_newlineIndent _ _ _).trans hread)

/-- **Every value is read back** from its text.

**Proof sketch.** By induction on the value. -/
lemma readsBack (x : Json) : ReadsBack x :=
  Json.induct readsBack_bool readsBack_int readsBack_str readsBack_arr readsBack_obj x

/-! ## Documents -/

/-- The text of members is as long as the members, and a separator between any two. -/
lemma sum_le_length_membersText (n : ℕ) (members : List Str) :
    (members.map fun s => s.length + 1).sum ≤ (membersText n members).length + 1 := by
  cases members with
  | nil => exact Nat.zero_le _
  | cons s ts =>
    induction ts generalizing s with
    | nil => simp [membersText_singleton]
    | cons t ts ih =>
      have htail := ih t
      have htext := membersText_cons_cons n s t ts []
      rw [List.append_nil, List.append_nil] at htext
      rw [htext]
      simp only [List.map_cons, List.sum_cons, List.length_append, List.length_cons] at htail ⊢
      omega

/-- Brackets take at least two characters. -/
lemma length_membersText_le (opening closing : Char) (n : ℕ) (members : List Str) :
    (membersText (n + 2) members).length + 2 ≤ (bracketed opening closing n members).length := by
  unfold bracketed
  split_ifs with hnil
  · subst hnil
    exact le_rfl
  · simp only [membersText, List.length_append, List.length_cons, List.length_nil]
    omega

/-- A value has a text that is long enough to read it a step for each character. -/
def LongEnough (x : Json) : Prop := ∀ n, x.size ≤ (x.dumpsAt n).length

/-- The items of a list are no more than their texts are long. -/
lemma sizeItems_le {items : List Json} (h : ∀ x ∈ items, LongEnough x) (n : ℕ) :
    Json.sizeItems items ≤ ((Json.dumpsItems n items).map fun s => s.length + 1).sum := by
  induction items with
  | nil => exact Nat.zero_le _
  | cons x xs ih =>
    obtain ⟨hx, hxs⟩ := List.forall_mem_cons.mp h
    have hhead := hx n
    have htail := ih hxs
    rw [Json.sizeItems, Json.dumpsItems, List.map_cons, List.sum_cons]
    omega

/-- The members of an object are no more than their texts are long. -/
lemma sizeFields_le {fields : List (Str × Json)} (h : ∀ f ∈ fields, LongEnough f.2) (n : ℕ) :
    Json.sizeFields fields ≤ ((Json.dumpsFields n fields).map fun s => s.length + 1).sum := by
  induction fields with
  | nil => exact Nat.zero_le _
  | cons f fs ih =>
    obtain ⟨k, x⟩ := f
    obtain ⟨hx, hfs⟩ := List.forall_mem_cons.mp h
    have hhead : x.size ≤ (x.dumpsAt n).length := hx n
    have htail := ih hfs
    rw [Json.sizeFields, Json.dumpsFields, List.map_cons, List.sum_cons, List.length_append]
    omega

/-- **A text is long enough**, by induction on the value. -/
lemma longEnough (x : Json) : LongEnough x := by
  induction x using Json.induct with
  | bool b =>
    intro n
    rw [Json.size, Json.dumpsAt]
    cases b <;> decide
  | int k =>
    intro n
    obtain ⟨c, t, ht, -⟩ := exists_intText k
    rw [Json.size, Json.dumpsAt, ht, List.length_cons]
    omega
  | str s =>
    intro n
    rw [Json.size, Json.dumpsAt, jsonString, List.cons_append, List.length_cons]
    omega
  | arr items ih =>
    intro n
    have hsize := sizeItems_le ih (n + 2)
    have hsum := sum_le_length_membersText (n + 2) (Json.dumpsItems (n + 2) items)
    have hlength := length_membersText_le '[' ']' n (Json.dumpsItems (n + 2) items)
    rw [Json.size, Json.dumpsAt]
    omega
  | obj fields ih =>
    intro n
    have hsize := sizeFields_le ih (n + 2)
    have hsum := sum_le_length_membersText (n + 2) (Json.dumpsFields (n + 2) fields)
    have hlength := length_membersText_le '\x7b' '\x7d' n (Json.dumpsFields (n + 2) fields)
    rw [Json.size, Json.dumpsAt]
    omega

/-- **The text of a value is read back**, with white space after it. -/
theorem loads_dumps (x : Json) {rest : Str} (h : skipSpace rest = []) :
    loads (x.dumps ++ rest) = some x := by
  have hstops : Stops rest := by
    intro c hc
    obtain ⟨rest, rfl⟩ : ∃ t, rest = c :: t := by
      cases rest with
      | nil => cases hc
      | cons d t => exact ⟨t, by rw [Option.some.inj hc]⟩
    have hspace : isJsonSpace c = true := by
      by_contra hc
      rw [skipSpace_cons (by simpa using hc)] at h
      cases h
    have hmem : c ∈ [' ', '\t', '\n', '\r'] := of_decide_eq_true hspace
    simp only [List.mem_cons, List.not_mem_nil, or_false] at hmem
    rcases hmem with rfl | rfl | rfl | rfl
    all_goals exact ⟨rfl, by decide⟩
  have hsize : x.size ≤ (x.dumps ++ rest).length + 1 := by
    have hle := longEnough x 0
    rw [List.length_append, Json.dumps]
    omega
  have hread : readJson ((x.dumps ++ rest).length + 1) (x.dumps ++ rest) = some (x, rest) :=
    readsBack x 0 _ rest hsize hstops
  rw [loads, hread]
  exact if_pos h

end Codec
