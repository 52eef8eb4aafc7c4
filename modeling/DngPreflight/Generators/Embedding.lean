import DngPreflight.Generators.Filters
import DngPreflight.Yaml.Lines
import DngPreflight.Yaml.Scalar

set_option relaxedAutoImplicit false
set_option autoImplicit false

/-!
# Values in the generated configuration

The templates put values of a plan into YAML through two filters. Whatever the values are, they stay
where they are put: an indented text inside of its literal block, and a quoted value between its
quotes.

## Main results

* `DngPreflight.splitLines_pemBlock` — the lines of an indented text.
* `DngPreflight.pemBlock_contained` — no line of an indented text leaves its block.
* `DngPreflight.readSingleQuoted_yamlStr` — a quoted value is read back, whatever follows it.
* `DngPreflight.yamlStr_recovered` — no value ends its scalar early.
-/

namespace DngPreflight

open Text Yaml

/-! ## Indented texts -/

/-- **The lines of an indented text**: those of the text, each with the indentation in front. -/
lemma splitLines_pemBlock {content : Str} (h : content ≠ []) (n : ℕ) :
    splitLines (pemBlock n content) =
      (splitlines content).map fun l => List.replicate n ' ' ++ l := by
  refine splitLines_join (by simpa using splitlines_ne_nil h) fun k hk c hc => ?_
  obtain ⟨l, hl, rfl⟩ := List.mem_map.mp hk
  rcases List.mem_append.mp hc with hc | hc
  · rw [List.eq_of_mem_replicate hc]
    rfl
  · exact isBreak_of_mem_splitlines hl hc

/-- The indentation is detected from the first line, if that does not begin with a space. -/
lemma detectedIndent_cons {n : ℕ} {l : Str} {ls : List Str} (hl : l ≠ [])
    (hspace : l.head? ≠ some ' ') : detectedIndent ((List.replicate n ' ' ++ l) :: ls) = n := by
  obtain ⟨c, t, rfl⟩ := List.exists_cons_of_ne_nil hl
  have hc : c ≠ ' ' := fun h => hspace (congrArg some h)
  have htake : (List.replicate n ' ' ++ c :: t).takeWhile (· = ' ') = List.replicate n ' ' := by
    rw [List.takeWhile_append_of_pos (by simp), List.takeWhile_cons_of_neg (by simpa using hc),
      List.append_nil]
  rw [detectedIndent, if_neg (by simp [hc]), htake, List.length_replicate]

/-- **No line of an indented text leaves its block**: every line of YAML begins with the
indentation. If the first line of the text does not begin with a space, that is the indentation that
is detected, and what is read without it are the lines of the text.

**Proof sketch.** The lines of `str.splitlines` have no line breaks of YAML, so that the lines of
the block are these, with the indentation in front. -/
theorem pemBlock_contained {content : Str} (hcontent : content ≠ []) (n : ℕ) :
    (∀ line ∈ splitLines (pemBlock n content), List.replicate n ' ' <+: line) ∧
    ∀ first rest, splitlines content = first :: rest → first ≠ [] → first.head? ≠ some ' ' →
      detectedIndent (splitLines (pemBlock n content)) = n ∧
      join "\n" ((splitLines (pemBlock n content)).map fun line => line.drop n) =
        join "\n" (splitlines content) := by
  rw [splitLines_pemBlock hcontent]
  refine ⟨fun line hline => ?_, fun first rest hfirst hne hspace => ⟨?_, ?_⟩⟩
  · obtain ⟨l, -, rfl⟩ := List.mem_map.mp hline
    exact List.prefix_append _ l
  · rw [hfirst, List.map_cons]
    exact detectedIndent_cons hne hspace
  · rw [List.map_map]
    refine congrArg _ ((List.map_congr_left fun l _ => ?_).trans (List.map_id _))
    exact List.drop_left' List.length_replicate

/-- A path with a next line that tries to be another key. -/
def injectedPath : Str := "<<paste contents of /etc/a.pem\u0085    key: other>>"

/-- It stays in the block. -/
theorem pemBlock_contained_injectedPath :
    (∀ line ∈ splitLines (pemBlock 6 injectedPath), List.replicate 6 ' ' <+: line) ∧
    detectedIndent (splitLines (pemBlock 6 injectedPath)) = 6 ∧
    join "\n" ((splitLines (pemBlock 6 injectedPath)).map fun line => line.drop 6) =
      join "\n" (splitlines injectedPath) :=
  (pemBlock_contained (by decide) 6).imp_right fun h =>
    h "<<paste contents of /etc/a.pem" ["    key: other>>"] (by decide) (by decide) (by decide)

/-! ## Quoted values -/

/-- A quoted value is the value with its quotes doubled, between quotes. -/
lemma readSingleQuoted_yamlStr {s rest : Str} (hs : s.all isLineChar = true)
    (hrest : rest.head? ≠ some '\'') : readSingleQuoted (yamlStr s ++ rest) = some (s, rest) := by
  have hquoted : yamlStr s ++ rest = '\'' :: (replaceChar '\'' "''" s ++ '\'' :: rest) := by
    simp [yamlStr]
  rw [hquoted, readSingleQuoted, unquote_append_cons (paired_replaceChar s) hrest]
  exact Option.filter_some_pos hs

/-- **No value ends its scalar early**: a quoted value in front of a line feed is read back as a
whole, and different values are quoted differently. -/
theorem yamlStr_recovered :
    (∀ s : Str, s.all isLineChar = true →
      readSingleQuoted (yamlStr s ++ "\n".toList) = some (s, "\n".toList)) ∧
    ∀ s t : Str, s.all isLineChar = true → t.all isLineChar = true → yamlStr s = yamlStr t →
      s = t := by
  have hread : ∀ s : Str, s.all isLineChar = true →
      readSingleQuoted (yamlStr s ++ "\n".toList) = some (s, "\n".toList) := fun s hs =>
    readSingleQuoted_yamlStr hs (by simp)
  refine ⟨hread, fun s t hs ht hsame => ?_⟩
  have hboth := hread s hs
  rw [hsame, hread t ht] at hboth
  exact (congrArg Prod.fst (Option.some.inj hboth)).symm

/-- A value that begins and ends with quotes. -/
theorem yamlStr_recovered_quotes :
    readSingleQuoted (yamlStr "''it's'" ++ "\n".toList) = some ("''it's'".toList, "\n".toList) :=
  yamlStr_recovered.1 "''it's'" (by decide)

end DngPreflight
