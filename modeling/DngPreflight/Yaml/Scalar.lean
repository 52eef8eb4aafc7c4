import DngPreflight.Codec.Tree

set_option relaxedAutoImplicit false
set_option autoImplicit false

/-!
# YAML scalars

The scalars of YAML 1.1 that stand on one line: plain ones, whose type is told by their text, and
single-quoted ones. What is outside of this part of the language is not read, so that every scalar
that is read has the value that YAML gives it.

## Main definitions

* `Yaml.isLineChar` — the characters of a line.
* `Yaml.resolve` — the value of a plain scalar.
* `Yaml.unquote`, `Yaml.readSingleQuoted` — the value of a single-quoted scalar.
* `Yaml.readKey`, `Yaml.readInline` — the key that a line begins with, and a value on one line.
* `Yaml.keyOf` — the key that a text is read as.

## Main results

* `Yaml.readKey_append` — a plain text in front of a colon is read as a key.
* `Yaml.unquote_append_cons` — a text whose quotes come in pairs is read back between quotes.
-/

namespace Yaml

open Text Codec

/-! ## Characters -/

/-- The characters of a line. The line breaks other than the line feed are left out. -/
def isLineChar (c : Char) : Bool :=
  if c.toNat ≤ 0x7E then decide (0x20 ≤ c.toNat) || c = '\t'
  else decide (0xA0 ≤ c.toNat) &&
    ! ([0x2028, 0x2029, 0xFFFE, 0xFFFF] : List ℕ).contains c.toNat

/-- A character of a line is no line break. -/
lemma isLineBreak_of_isLineChar {c : Char} (h : isLineChar c = true) : isLineBreak c = false := by
  by_cases htab : c = '\t'
  · rw [htab]
    rfl
  · rw [← Bool.not_eq_true]
    intro hbreak
    simp only [isLineBreak, List.mem_cons, List.not_mem_nil, or_false, decide_eq_true_eq] at hbreak
    rw [isLineChar] at h
    rcases hbreak with hc | hc | hc | hc | hc | hc | hc | hc | hc | hc <;> simp [hc, htab] at h

/-- The characters that no plain scalar begins with. -/
def indicators : List Char :=
  [' ', '\t', ',', '[', ']', '\x7b', '\x7d', '#', '&', '*', '!', '|', '>', '\'', '"', '%', '@', '`']

/-- The characters that a plain scalar begins with if another character follows. -/
def weakIndicators : List Char := ['-', '?', ':']

/-! ## Types of plain scalars -/

/-- A regular expression. -/
inductive Regex where
  | empty
  | epsilon
  | one (p : Char → Bool)
  | seq (r s : Regex)
  | alt (r s : Regex)
  | star (r : Regex)

namespace Regex

/-- The expression matches the empty text. -/
def nullable : Regex → Bool
  | empty => false
  | epsilon => true
  | one _ => false
  | seq r s => r.nullable && s.nullable
  | alt r s => r.nullable || s.nullable
  | star _ => true

/-- What is left to match after a character. -/
def deriv (c : Char) : Regex → Regex
  | empty => empty
  | epsilon => empty
  | one p => if p c then epsilon else empty
  | seq r s => if r.nullable then alt (seq (r.deriv c) s) (s.deriv c) else seq (r.deriv c) s
  | alt r s => alt (r.deriv c) (s.deriv c)
  | star r => seq (r.deriv c) (star r)

/-- The expression matches the text. -/
def fits (r : Regex) (s : Str) : Bool := (s.foldl (fun r c => r.deriv c) r).nullable

/-- One of some characters. -/
def oneOf (cs : List Char) : Regex := one fun c => decide (c ∈ cs)

/-- A decimal digit. -/
def digit : Regex := one Char.isDigit

/-- A decimal digit or an underscore. -/
def digit_ : Regex := one fun c => c.isDigit || c = '_'

/-- An expression or nothing. -/
def opt (r : Regex) : Regex := alt r epsilon

/-- An expression at least once. -/
def plus (r : Regex) : Regex := seq r (star r)

/-- Expressions one after the other. -/
def all (rs : List Regex) : Regex := rs.foldr seq epsilon

/-- One of some expressions. -/
def any (rs : List Regex) : Regex := rs.foldr alt empty

end Regex

open Regex

/-- The sign of a number. -/
def sign : Regex := opt (oneOf ['-', '+'])

/-- Further digits of a number to the base 60. -/
def sixties : Regex := plus (all [oneOf [':'], opt (one fun c => '0' ≤ c && c ≤ '5'), digit])

/-- Decimal integers. -/
def decimalRegex : Regex :=
  seq sign (alt (oneOf ['0']) (seq (one fun c => '1' ≤ c && c ≤ '9') (star digit_)))

/-- The other integers. -/
def integerRegex : Regex :=
  seq sign (any [
    all [oneOf ['0'], oneOf ['b'], plus (oneOf ['0', '1', '_'])],
    seq (oneOf ['0']) (plus (one fun c => ('0' ≤ c && c ≤ '7') || c = '_')),
    all [oneOf ['0'], oneOf ['x'], plus (one fun c =>
      c.isDigit || ('a' ≤ c && c ≤ 'f') || ('A' ≤ c && c ≤ 'F') || c = '_')],
    all [one fun c => '1' ≤ c && c ≤ '9', star digit_, sixties]])

/-- The exponent of a number. -/
def exponent : Regex := opt (all [oneOf ['e', 'E'], oneOf ['-', '+'], plus digit])

/-- A word. -/
def word (w : Str) : Regex := all (w.map fun c => oneOf [c])

/-- Floating-point numbers. -/
def floatRegex : Regex :=
  any [
    all [sign, digit, star digit_, oneOf ['.'], star digit_, exponent],
    all [oneOf ['.'], digit, star digit_, exponent],
    all [sign, digit, star digit_, sixties, oneOf ['.'], star digit_],
    all [sign, oneOf ['.'], any [word "inf", word "Inf", word "INF"]],
    seq (oneOf ['.']) (any [word "nan", word "NaN", word "NAN"])]

/-- Dates and times. -/
def timestampRegex : Regex :=
  let year := all [digit, digit, digit, digit]
  let short := seq digit (opt digit)
  let blank := oneOf [' ', '\t']
  alt (all [year, oneOf ['-'], digit, digit, oneOf ['-'], digit, digit])
    (all [year, oneOf ['-'], short, oneOf ['-'], short,
      alt (oneOf ['T', 't']) (plus blank), short, oneOf [':'], digit, digit, oneOf [':'], digit,
      digit, opt (seq (oneOf ['.']) (star digit)),
      opt (seq (star blank) (alt (oneOf ['Z']) (all [oneOf ['-', '+'], short,
        opt (all [oneOf [':'], digit, digit])])))])

/-- The plain scalars that are null. -/
def nullWords : List Str := ["~", "null", "Null", "NULL"]

/-- The plain scalars that are true. -/
def trueWords : List Str :=
  ["yes", "Yes", "YES", "true", "True", "TRUE", "on", "On", "ON"]

/-- The plain scalars that are false. -/
def falseWords : List Str :=
  ["no", "No", "NO", "false", "False", "FALSE", "off", "Off", "OFF"]

/-- The text is one of the words. -/
def isOneOf (words : List Str) (s : Str) : Bool := words.any fun w => decide (w = s)

/-- The characters with which a plain scalar that is no text begins. -/
def typedHeads : List Char :=
  ['y', 'Y', 'n', 'N', 't', 'T', 'f', 'F', 'o', 'O', '-', '+', '0', '1', '2', '3', '4', '5', '6',
    '7', '8', '9', '.', '<', '~', '=']

/-- The value of a plain scalar. The numbers other than decimal integers, the dates, the merge key
and the value key are not read. -/
def resolve : Str → Option Scalar
  | [] => some .null
  | c :: s =>
    if c ∉ typedHeads then some (.str (c :: s))
    else if isOneOf nullWords (c :: s) then some .null
    else if isOneOf trueWords (c :: s) then some (.bool true)
    else if isOneOf falseWords (c :: s) then some (.bool false)
    else if decimalRegex.fits (c :: s) then
      (int ((c :: s).filter (· ≠ '_'))).map .int
    else if (any [integerRegex, floatRegex, timestampRegex, word "<<", word "="]).fits (c :: s) then
      none
    else some (.str (c :: s))

/-! ## Plain scalars -/

/-- A plain scalar may begin like the text. -/
def beginsPlain : Str → Bool
  | [] => false
  | c :: s =>
    if c ∈ weakIndicators then
      match s with
      | [] => false
      | d :: _ => d ≠ ' ' && d ≠ '\t'
    else c ∉ indicators

/-- A plain scalar does not end within the text. -/
def goesOn : Str → Bool
  | [] => true
  | ':' :: ' ' :: _ => false
  | ' ' :: '#' :: _ => false
  | c :: s => c ≠ '\t' && goesOn s

/-- The text is a plain scalar, if it is followed by the rest. -/
def isPlain (s rest : Str) : Bool :=
  beginsPlain (s ++ rest) && goesOn s && decide (s.getLast? ≠ some ' ')

/-- The text up to a colon that ends a key, and the text after it. -/
def splitKey : Str → Option (Str × Str)
  | [] => none
  | [':'] => some ([], [])
  | ':' :: ' ' :: s => some ([], s)
  | ' ' :: '#' :: _ => none
  | c :: s => (splitKey s).map fun r => (c :: r.1, r.2)

/-- The length up to which a key is recognized. -/
def maxKeyLength : ℕ := 1024

/-- The numbers 0 and 1 are left out of the keys, since they are the same keys as the truth
values. -/
def isKey (key : Scalar) : Bool := decide (key ≠ .int 0 ∧ key ≠ .int 1)

/-- The key that a line begins with, and what follows it. -/
def readKey (s : Str) : Option (Scalar × Str) :=
  (splitKey s).bind fun r =>
    if isPlain r.1 [':'] && decide (r.1.length ≤ maxKeyLength) then
      ((resolve r.1).filter isKey).map fun key => (key, r.2.dropWhile (· = ' '))
    else none

/-- The key that a text in front of a colon is read as, if the key is the whole of it. -/
def keyOf (s : Str) : Option Scalar :=
  (readKey (s ++ [':'])).bind fun r => if r.2 = [] then some r.1 else none

/-- The key of a text. -/
def field (s : String) : Scalar := .str s.toList

/-! ## Values on one line -/

/-- The value of a single-quoted scalar after its opening quote, and the text after its closing
quote. -/
def unquote : Str → Option (Str × Str)
  | [] => none
  | '\'' :: '\'' :: s => (unquote s).map fun r => ('\'' :: r.1, r.2)
  | '\'' :: s => some ([], s)
  | c :: s => (unquote s).map fun r => (c :: r.1, r.2)

/-- The value of a single-quoted scalar on one line, and the text after it. -/
def readSingleQuoted : Str → Option (Str × Str)
  | '\'' :: s => (unquote s).filter fun r => r.1.all isLineChar
  | _ => none

/-- The value on one line. -/
def readInline (s : Str) : Option Tree :=
  match s with
  | '\'' :: t =>
    match unquote t with
    | some (v, []) => some (.scalar (.str v))
    | _ => none
  | ['\x7b', '\x7d'] => some (.map [])
  | ['[', ']'] => some (.seq [])
  | s =>
    if isPlain s [] && decide (s.getLast? ≠ some ':') then (resolve s).map .scalar else none

/-! ## Reading back -/

/-- Keys are told apart by their texts. -/
lemma field_injective : Function.Injective field :=
  fun _ _ h => String.toList_inj.mp (Scalar.str.inj h)

/-- The keys of different texts are different. -/
lemma nodup_field {l : List String} (h : l.Nodup) : (l.map field).Nodup := h.map field_injective

/-- The key of a line, if what follows it ends a key. -/
lemma splitKey_append {k t v : Str} (hk : goesOn k = true)
    (ht : splitKey (':' :: t) = some ([], v)) : splitKey (k ++ ':' :: t) = some (k, v) := by
  induction k using goesOn.induct with
  | case1 => exact ht
  | case2 s => cases hk
  | case3 s => cases hk
  | case4 c s hcolon hcomment ih =>
    rw [goesOn.eq_4 c s hcolon hcomment, Bool.and_eq_true] at hk
    have hnext : splitKey (c :: (s ++ ':' :: t)) =
        (splitKey (s ++ ':' :: t)).map fun r => (c :: r.1, r.2) := by
      refine splitKey.eq_5 c _ ?_ ?_ ?_
      · rintro - hnil
        exact absurd hnil (by simp)
      · rintro u rfl hu
        cases s with
        | nil => cases hu
        | cons d s =>
          cases hu
          exact hcolon _ rfl rfl
      · rintro u rfl hu
        cases s with
        | nil => cases hu
        | cons d s =>
          cases hu
          exact hcomment _ rfl rfl
    rw [List.cons_append, hnext, ih hk.2, Option.map_some]

/-- A plain text in front of a colon that ends a key is read as the key. -/
lemma readKey_append {k t v : Str} {key : Scalar} (hplain : isPlain k [':'] = true)
    (hlength : k.length ≤ maxKeyLength) (hkey : (resolve k).filter isKey = some key)
    (ht : splitKey (':' :: t) = some ([], v)) :
    readKey (k ++ ':' :: t) = some (key, v.dropWhile (· = ' ')) := by
  have hgoes : goesOn k = true := by
    rw [isPlain, Bool.and_eq_true, Bool.and_eq_true] at hplain
    exact hplain.1.2
  rw [readKey, splitKey_append hgoes ht, Option.bind_some, if_pos (by simp [hplain, hlength]), hkey]
  rfl

/-- A text whose key is split off begins with the key and a colon. -/
lemma exists_of_splitKey {s k v : Str} (h : splitKey s = some (k, v)) : ∃ t, s = k ++ ':' :: t := by
  induction s using splitKey.induct generalizing k with
  | case1 => cases h
  | case2 =>
    cases h
    exact ⟨[], rfl⟩
  | case3 s =>
    cases h
    exact ⟨' ' :: v, rfl⟩
  | case4 s => cases h
  | case5 c s hend hcolon hcomment ih =>
    rw [splitKey.eq_5 c s hend hcolon hcomment] at h
    obtain ⟨⟨k', v'⟩, hs, he⟩ := Option.map_eq_some_iff.mp h
    cases he
    obtain ⟨t, rfl⟩ := ih hs
    exact ⟨t, rfl⟩

/-- A line that begins with a key begins like a plain scalar. -/
lemma beginsPlain_of_readKey {s : Str} {r : Scalar × Str} (h : readKey s = some r) :
    beginsPlain s = true := by
  obtain ⟨⟨k, v⟩, hsplit, hkey⟩ := Option.bind_eq_some_iff.mp h
  obtain ⟨t, rfl⟩ := exists_of_splitKey hsplit
  split_ifs at hkey with hplain
  rw [Bool.and_eq_true, isPlain, Bool.and_eq_true, Bool.and_eq_true] at hplain
  have hbegins : beginsPlain (k ++ [':']) = true := hplain.1.1.1
  cases k with
  | nil => cases hbegins
  | cons c k =>
    cases k with
    | nil => exact hbegins
    | cons d k => exact hbegins

/-- What is read as a key. -/
lemma readKey_of_keyOf {s : Str} {key : Scalar} (h : keyOf s = some key) :
    readKey (s ++ [':']) = some (key, []) := by
  obtain ⟨⟨k, v⟩, hr, hkey⟩ := Option.bind_eq_some_iff.mp h
  split_ifs at hkey with hv
  cases hkey
  rw [hr]
  exact congrArg (fun v => some (k, v)) hv

/-- What a plain scalar begins with. -/
lemma exists_of_beginsPlain {s : Str} (h : beginsPlain s = true) :
    ∃ c t, s = c :: t ∧ c ≠ ' ' ∧ c ≠ '#' := by
  cases s with
  | nil => cases h
  | cons c t =>
    refine ⟨c, t, rfl, ?_, ?_⟩
    · rintro rfl
      cases h
    · rintro rfl
      cases h

/-- The value of a text between single quotes, if its quotes come in pairs. -/
def paired : Str → Option Str
  | [] => some []
  | '\'' :: '\'' :: s => (paired s).map ('\'' :: ·)
  | '\'' :: _ => none
  | c :: s => (paired s).map (c :: ·)

/-- A character that is no quote stands for itself. -/
lemma paired_cons {c : Char} (hc : c ≠ '\'') (s : Str) :
    paired (c :: s) = (paired s).map (c :: ·) :=
  paired.eq_4 c s (fun _ h _ => hc h) hc

/-- A character that is no quote stands for itself between quotes. -/
lemma unquote_cons {c : Char} (hc : c ≠ '\'') (s : Str) :
    unquote (c :: s) = (unquote s).map fun r => (c :: r.1, r.2) :=
  unquote.eq_4 c s (fun _ h _ => hc h) hc

/-- **A text whose quotes come in pairs** is read up to a quote after it that stands alone. -/
lemma unquote_append_cons {s v rest : Str} (h : paired s = some v)
    (hrest : rest.head? ≠ some '\'') : unquote (s ++ '\'' :: rest) = some (v, rest) := by
  induction s using paired.induct generalizing v with
  | case1 =>
    cases h
    refine unquote.eq_3 rest fun t ht => ?_
    rw [ht] at hrest
    exact hrest rfl
  | case2 s ih =>
    obtain ⟨w, hw, rfl⟩ := Option.map_eq_some_iff.mp h
    rw [List.cons_append, List.cons_append, unquote, ih hw, Option.map_some]
  | case3 s hs =>
    rw [paired.eq_3 s hs] at h
    cases h
  | case4 c s _ hc ih =>
    rw [paired_cons hc] at h
    obtain ⟨w, hw, rfl⟩ := Option.map_eq_some_iff.mp h
    rw [List.cons_append, unquote_cons hc, ih hw, Option.map_some]

/-- A text whose quotes come in pairs is read up to a quote at the end. -/
lemma unquote_append {s v : Str} (h : paired s = some v) :
    unquote (s ++ ['\'']) = some (v, []) := unquote_append_cons h (by simp)

/-- Texts whose quotes come in pairs, one after the other. -/
lemma paired_append {s t v w : Str} (hs : paired s = some v) (ht : paired t = some w) :
    paired (s ++ t) = some (v ++ w) := by
  induction s using paired.induct generalizing v with
  | case1 =>
    cases hs
    exact ht
  | case2 s ih =>
    obtain ⟨u, hu, rfl⟩ := Option.map_eq_some_iff.mp hs
    rw [List.cons_append, List.cons_append, paired, ih hu, Option.map_some, List.cons_append]
  | case3 s hs' =>
    rw [paired.eq_3 s hs'] at hs
    cases hs
  | case4 c s _ hc ih =>
    rw [paired_cons hc] at hs
    obtain ⟨u, hu, rfl⟩ := Option.map_eq_some_iff.mp hs
    rw [List.cons_append, paired_cons hc, ih hu, Option.map_some, List.cons_append]

/-- A text without quotes stands for itself. -/
lemma paired_of_not_mem {s : Str} (h : '\'' ∉ s) : paired s = some s := by
  induction s with
  | nil => rfl
  | cons c s ih =>
    simp only [List.mem_cons, not_or] at h
    rw [paired_cons fun hc => h.1 hc.symm, ih h.2, Option.map_some]

/-- A text whose quotes are doubled stands for the text. -/
lemma paired_replaceChar (s : Str) : paired (replaceChar '\'' "''" s) = some s := by
  induction s with
  | nil => rfl
  | cons c s ih =>
    by_cases hc : c = '\''
    · subst hc
      exact paired_append (s := ['\'', '\'']) rfl ih
    · rw [replaceChar, List.flatMap_cons, if_neg hc]
      exact paired_append (paired_of_not_mem (by simpa using fun h => hc h.symm)) ih

/-- A text whose quotes come in pairs is read back from between quotes. -/
lemma readInline_quoted {s v : Str} (h : paired s = some v) :
    readInline ('\'' :: (s ++ ['\''])) = some (.scalar (.str v)) := by
  rw [readInline, unquote_append h]

end Yaml
