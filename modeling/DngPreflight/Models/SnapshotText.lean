import DngPreflight.Models.Snapshot
import DngPreflight.Yaml.DoubleQuoted

set_option relaxedAutoImplicit false
set_option autoImplicit false

/-!
# The strings of a snapshot in a JSON file

The command `inspect --format json` writes a snapshot as JSON, and `plan --snapshot` reads the file
as YAML. For a string the one writes a JSON literal, and the other reads a double-quoted scalar.

## Main definitions

* `DngPreflight.reread` — what is read from the literal of a string.
* `DngPreflight.Carried` — the snapshot that is read has the string that was written.

## Main results

* `DngPreflight.carried_iff` — which strings are carried.
* `DngPreflight.reread_map_codePoint` — the text of a string without surrogates.
-/

namespace DngPreflight

open Text Codec Yaml

/-- What `plan --snapshot` reads where `inspect --format json` wrote a string, and the rest of the
file. -/
def reread (s : List CodePoint) (rest : Str) : Option (List CodePoint × Str) :=
  readDoubleQuoted (jsonLiteral s ++ rest)

/-- A string is carried from one command to the other, whatever follows it in the file. -/
def Carried (s : List CodePoint) : Prop := ∀ rest, reread s rest = some (s, rest)

/-- **Which strings are carried**: exactly those in the Basic Multilingual Plane.

**Proof sketch.** What is read are the code units that the literal consists of. -/
theorem carried_iff (s : List CodePoint) : Carried s ↔ ∀ c ∈ s, InBmp c := by
  rw [← flatMap_utf16_eq_self_iff]
  constructor
  · intro h
    have hread := (readDoubleQuoted_jsonLiteral s []).symm.trans (h [])
    exact congrArg Prod.fst (Option.some.inj hread)
  · intro hsame rest
    rw [reread, readDoubleQuoted_jsonLiteral, hsame]

/-- A string without surrogates is written as `json.dumps` writes a list of characters. -/
lemma reread_map_codePoint (s rest : Str) :
    reread (s.map codePoint) rest = readDoubleQuoted (jsonString s ++ rest) := by
  rw [reread, jsonLiteral_map_codePoint]

/-- A certificate for a name with a character outside of the Basic Multilingual Plane. -/
def emojiCertificate : TlsObservation where
  answersOn443 := true
  cn := some "dng-😀"

/-- The character is read as two surrogates. -/
theorem emoji_not_carried :
    emojiCertificate.cn = some "dng-😀".toList ∧
    reread ("dng-😀".toList.map codePoint) ",\n" =
      some ([0x64, 0x6E, 0x67, 0x2D, 0xD83D, 0xDE00], ",\n".toList) ∧
    ¬ Carried ("dng-😀".toList.map codePoint) := by
  have hread : reread ("dng-😀".toList.map codePoint) ",\n" =
      some ([0x64, 0x6E, 0x67, 0x2D, 0xD83D, 0xDE00], ",\n".toList) := by
    rw [reread, readDoubleQuoted_jsonLiteral]
    decide
  refine ⟨rfl, hread, fun h => ?_⟩
  exact absurd (hread.symm.trans (h _)) (by decide)

end DngPreflight
