import DngPreflight.Text.Numeral

set_option relaxedAutoImplicit false
set_option autoImplicit false

/-!
# JSON documents

JSON values whose objects keep the order of their fields, and their text as `json.dumps` prints
it: indented, and with every character outside printable ASCII escaped.

## Main definitions

* `Codec.Json` — JSON values.
* `Codec.jsonString` — the literal of a string.
* `Codec.Json.dumps` — the text of a value.
-/

namespace Codec

open Text

/-- A JSON value. -/
inductive Json where
  | bool (b : Bool)
  | int (n : ℤ)
  | str (s : Str)
  | arr (items : List Json)
  | obj (fields : List (Str × Json))

/-- The escape of a UTF-16 code unit. -/
def unicodeEscape (n : ℕ) : Str :=
  "\\u".toList ++ List.replicate (4 - (numeral 16 n).length) '0' ++ numeral 16 n

/-- The text of a character in a string literal; a character outside the BMP is a pair of
surrogates. -/
def jsonChar (c : Char) : Str :=
  if c = '"' then "\\\""
  else if c = '\\' then "\\\\"
  else if c = '\n' then "\\n"
  else if c = '\r' then "\\r"
  else if c = '\t' then "\\t"
  else if c = '\x0c' then "\\f"
  else if c = '\x08' then "\\b"
  else if ' ' ≤ c ∧ c ≤ '~' then [c]
  else if c.toNat < 0x10000 then unicodeEscape c.toNat
  else
    unicodeEscape (0xD800 + (c.toNat - 0x10000) / 0x400) ++
      unicodeEscape (0xDC00 + (c.toNat - 0x10000) % 0x400)

/-- The literal of a string. -/
def jsonString (s : Str) : Str := '"' :: s.flatMap jsonChar ++ ['"']

/-- A newline and the indentation of the next line. -/
def newlineIndent (n : ℕ) : Str := '\n' :: List.replicate n ' '

/-- The texts of the members of an array or object, between its brackets. -/
def bracketed (opening closing : Char) (n : ℕ) (members : List Str) : Str :=
  if members = [] then [opening, closing]
  else
    opening :: newlineIndent (n + 2) ++ join (',' :: newlineIndent (n + 2)) members ++
      newlineIndent n ++ [closing]

mutual

/-- The text of a value, `n` being the indentation of the line it begins on. -/
def Json.dumpsAt (n : ℕ) : Json → Str
  | .bool b => if b then "true" else "false"
  | .int k => intText k
  | .str s => jsonString s
  | .arr items => bracketed '[' ']' n (Json.dumpsItems (n + 2) items)
  | .obj fields => bracketed '\x7b' '\x7d' n (Json.dumpsFields (n + 2) fields)

/-- The texts of the items of an array. -/
def Json.dumpsItems (n : ℕ) : List Json → List Str
  | [] => []
  | x :: xs => x.dumpsAt n :: Json.dumpsItems n xs

/-- The texts of the fields of an object. -/
def Json.dumpsFields (n : ℕ) : List (Str × Json) → List Str
  | [] => []
  | (k, x) :: fs => (jsonString k ++ ": ".toList ++ x.dumpsAt n) :: Json.dumpsFields n fs

end

/-- `json.dumps(value, indent=2, sort_keys=False)`. -/
def Json.dumps (x : Json) : Str := x.dumpsAt 0

example :
    String.ofList (jsonString "\"é\n\u0001😀") = "\"\\\"\\u00e9\\n\\u0001\\ud83d\\ude00\"" := by
  decide

end Codec
