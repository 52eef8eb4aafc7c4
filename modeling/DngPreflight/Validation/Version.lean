import DngPreflight.Order.Padded
import DngPreflight.Validation.HardStops
import DngPreflight.Models.Factories

set_option relaxedAutoImplicit false
set_option autoImplicit false

/-!
# The version rule

What the rule about the version makes of dotted versions, against the order of versions, in which
missing numbers at the end count as zero. The rule compares tuples, of which a proper prefix is
smaller.

## Main definitions

* `DngPreflight.DottedVersion` — numerals with dots between them.
* `DngPreflight.DottedVersion.Checked` — the rule flags exactly the versions that are too old.

## Main results

* `DngPreflight.versionTuple_text` — the numbers that the rule reads.
* `DngPreflight.checkVersion_iff` — when the rule is right about a version.
-/

namespace DngPreflight

open Text Padded

/-- No digit is a separator. -/
lemma digitChar_ne_separator : ∀ d < 10, Nat.digitChar d ≠ '_' ∧ Nat.digitChar d ≠ '.' := by decide

/-- A decimal numeral. -/
structure DecimalNumeral where
  digits : List (Fin 10)
  ne_nil : digits ≠ []

namespace DecimalNumeral

/-- The text of a numeral. -/
def text (n : DecimalNumeral) : Str := n.digits.map fun d => Nat.digitChar d.val

/-- The number that a numeral denotes. -/
def value (n : DecimalNumeral) : ℕ := digitsValue 10 (n.digits.map Fin.val)

variable (n : DecimalNumeral)

/-- The characters of a numeral are digits. -/
lemma exists_digit {c : Char} (hc : c ∈ n.text) : ∃ d < 10, c = Nat.digitChar d := by
  obtain ⟨d, -, rfl⟩ := List.mem_map.mp hc
  exact ⟨d, d.isLt, rfl⟩

/-- A numeral is a literal, of its digits. -/
lemma intLiteral_text : intLiteral n.text = some (false, n.digits.map Fin.val) := by
  have hne : n.text ≠ [] := fun h => n.ne_nil (List.map_eq_nil_iff.mp h)
  have hunderscore : '_' ∉ n.text := by
    intro h
    obtain ⟨d, hd, hc⟩ := n.exists_digit h
    exact (digitChar_ne_separator d hd).1 hc.symm
  have hspace : ∀ c ∈ n.text, ¬ isIntSpace c := by
    intro c hc
    obtain ⟨d, hd, rfl⟩ := n.exists_digit hc
    simp [(digitChar_plain d hd).1]
  have hsign : splitSign n.text = (false, n.text) := by
    cases h : n.text with
    | nil => exact absurd h hne
    | cons c u =>
      obtain ⟨d, hd, rfl⟩ := n.exists_digit (c := c) (by simp [h])
      exact splitSign_of_head (digitChar_plain d hd).2.1 (digitChar_plain d hd).2.2
  have hdigits : intDigits n.text = some (n.digits.map Fin.val) := by
    rw [intDigits_eq_mapM hne hunderscore]
    exact mapM_map_eq_some_map fun d _ => decimalDigit?_digitChar d d.isLt
  rw [intLiteral, trim_eq_self hspace, hsign, hdigits, Option.map_some]

/-- **What `int` makes of a numeral**: its value, unless it is too long. -/
lemma int_text :
    Text.int n.text = if n.digits.length ≤ maxIntDigits then some (n.value : ℤ) else none := by
  rw [Text.int, intLiteral_text, Option.bind_some, List.length_map]
  rfl

end DecimalNumeral

/-- A version: numerals with dots between them. -/
structure DottedVersion where
  numerals : List DecimalNumeral
  ne_nil : numerals ≠ []

namespace DottedVersion

/-- The text of a version. -/
def text (v : DottedVersion) : Str := join "." (v.numerals.map DecimalNumeral.text)

/-- The numbers of a version. -/
def values (v : DottedVersion) : List ℕ := v.numerals.map DecimalNumeral.value

/-- Every numeral is short enough to be read. -/
def Readable (v : DottedVersion) : Prop := ∀ n ∈ v.numerals, n.digits.length ≤ maxIntDigits

/-- The parts of a version are its numerals. -/
lemma splitOn_text (v : DottedVersion) :
    v.text.splitOn '.' = v.numerals.map DecimalNumeral.text := by
  refine List.splitOn_intercalate '.' ?_ fun h =>
    v.ne_nil (List.map_eq_nil_iff.mp h)
  intro s hs hdot
  obtain ⟨n, -, rfl⟩ := List.mem_map.mp hs
  obtain ⟨d, hd, hc⟩ := n.exists_digit hdot
  exact (digitChar_ne_separator d hd).2 hc.symm

end DottedVersion

/-- **The numbers that the rule reads** are those of the version. -/
lemma versionTuple_text {v : DottedVersion} (h : v.Readable) :
    versionTuple v.text = .ok (v.values.map (fun n : ℕ => (n : ℤ))) := by
  rw [versionTuple, v.splitOn_text, DottedVersion.values, List.map_map]
  refine mapM_map_eq_ok_map fun n hn => ?_
  rw [n.int_text, if_pos (h n hn)]
  rfl

/-- A numeral that is too long is an error. -/
lemma versionTuple_text_of_not_readable {v : DottedVersion} (h : ¬ v.Readable) :
    ∃ e, versionTuple v.text = .error e := by
  cases hread : versionTuple v.text with
  | error e => exact ⟨e, rfl⟩
  | ok t =>
    refine absurd (fun n hn => ?_) h
    rw [versionTuple, v.splitOn_text] at hread
    obtain ⟨m, hm⟩ := exists_ok_of_mapM hread (List.mem_map_of_mem hn)
    rw [n.int_text] at hm
    by_contra hlong
    rw [if_neg hlong] at hm
    cases hm

/-- The oldest version that is not too old. -/
def versionFloor : List ℕ := [3, 3, 0]

/-- The rule about the version, for a plan with the given version. -/
def checkVersion (config : DngConfig) (v : DottedVersion) : Except ValueError (Option HardStop) :=
  checkDngVersion { config with dngVersionMinimum := v.text }

/-- The rule flags the version if it is older than the floor, and passes if it is not. -/
def DottedVersion.Checked (config : DngConfig) (v : DottedVersion) : Prop :=
  (padded v.values < padded versionFloor → ∃ stop, checkVersion config v = .ok (some stop)) ∧
    (¬ padded v.values < padded versionFloor → checkVersion config v = .ok none)

variable {config : DngConfig} {v : DottedVersion}

/-- What the rule compares. -/
lemma checkVersion_cases (config : DngConfig) (h : v.Readable) :
    (List.Lex (· < ·) v.values versionFloor ∧ ∃ stop, checkVersion config v = .ok (some stop)) ∨
      (¬ List.Lex (· < ·) v.values versionFloor ∧ checkVersion config v = .ok none) := by
  have hcast : List.Lex (· < ·) (v.values.map (fun n : ℕ => (n : ℤ))) [3, 3, 0] ↔
      List.Lex (· < ·) v.values versionFloor := lex_map_iff (w := versionFloor) Nat.strictMono_cast
  rw [checkVersion, checkDngVersion, versionTuple_text h]
  by_cases hlt : List.Lex (· < ·) v.values versionFloor
  · exact Or.inl ⟨hlt, _, if_pos (hcast.mpr hlt)⟩
  · exact Or.inr ⟨hlt, if_neg fun hc => hlt (hcast.mp hc)⟩

/-- The floor is equal to one shorter version only. -/
lemma padded_eq_floor_iff {v : List ℕ} :
    (padded v = padded versionFloor ∧ v.length < versionFloor.length) ↔ v = [3, 3] := by
  constructor
  · rintro ⟨heq, hlength⟩
    rcases v with _ | ⟨a, _ | ⟨b, _ | ⟨c, v⟩⟩⟩
    · exact absurd (padded_eq_iff.mp heq 0) (by decide)
    · have hsecond : (0 : ℕ) = 3 := padded_eq_iff.mp heq 1
      exact absurd hsecond (by decide)
    · obtain ⟨rfl, htail⟩ := padded_cons_eq_iff.mp heq
      obtain ⟨rfl, -⟩ := padded_cons_eq_iff.mp htail
      rfl
    · exact absurd hlength (by simp [versionFloor])
  · rintro rfl
    refine ⟨padded_eq_iff.mpr ?_, by decide⟩
    rintro (_ | _ | _ | i) <;> rfl

/-- Where the tuple of a version is smaller than that of the floor. -/
lemma lex_floor_iff {v : List ℕ} :
    List.Lex (· < ·) v versionFloor ↔ padded v < padded versionFloor ∨ v = [3, 3] := by
  rw [lex_iff, padded_eq_floor_iff]

/-- A version equal to the floor is not older. -/
lemma not_padded_lt_floor : ¬ padded [3, 3] < padded versionFloor :=
  (padded_eq_floor_iff.mpr rfl).1 ▸ lt_irrefl _

/-- A version whose numerals are too long to be read is not checked. -/
lemma DottedVersion.not_checked_of_not_readable (hread : ¬ v.Readable) : ¬ v.Checked config := by
  obtain ⟨e, he⟩ := versionTuple_text_of_not_readable hread
  have herror : checkVersion config v = .error e := by rw [checkVersion, checkDngVersion, he]
  rintro ⟨hold, hnew⟩
  by_cases hlt : padded v.values < padded versionFloor
  · obtain ⟨stop, hstop⟩ := hold hlt
    rw [herror] at hstop
    cases hstop
  · have hnone := hnew hlt
    rw [herror] at hnone
    cases hnone

/-- A version that can be read is checked unless it is 3.3. -/
lemma DottedVersion.checked_iff_of_readable (hread : v.Readable) :
    v.Checked config ↔ v.values ≠ [3, 3] := by
  have hcases := checkVersion_cases config hread
  rw [lex_floor_iff] at hcases
  rcases hcases with ⟨hlex, stop, hstop⟩ | ⟨hlex, hnone⟩
  · constructor
    · intro h hvalues
      have hnone := h.2 (hvalues ▸ not_padded_lt_floor)
      rw [hstop] at hnone
      cases hnone
    · exact fun hne => ⟨fun _ => ⟨stop, hstop⟩, fun h => absurd hlex (not_or.mpr ⟨h, hne⟩)⟩
  · exact iff_of_true ⟨fun h => absurd (Or.inl h) hlex, fun _ => hnone⟩ (not_or.mp hlex).2

/-- **When the rule is right about a version**: exactly if every numeral is short enough to be read,
and the version is not 3.3. Among the versions that it is right about, no version that is newer than
or equal to one that passes is flagged.

**Proof sketch.** A tuple is smaller than that of the floor if the version is older, or if it is
equal and has fewer numbers. -/
theorem checkVersion_iff (config : DngConfig) :
    (∀ v : DottedVersion, v.Checked config ↔ v.Readable ∧ v.values ≠ [3, 3]) ∧
      ∀ v w : DottedVersion, v.Checked config → w.Checked config →
        padded v.values ≤ padded w.values → checkVersion config v = .ok none →
          checkVersion config w = .ok none := by
  refine ⟨fun v => ?_, fun v w hv hw hle hpass => ?_⟩
  · by_cases hread : v.Readable
    · rw [and_iff_right hread]
      exact DottedVersion.checked_iff_of_readable hread
    · exact iff_of_false (DottedVersion.not_checked_of_not_readable hread) fun h => hread h.1
  · refine hw.2 fun hlt => ?_
    obtain ⟨stop, hstop⟩ := hv.1 (hle.trans_lt hlt)
    rw [hpass] at hstop
    cases hstop

/-- The version 3.3. -/
def versionWithoutPatch : DottedVersion := ⟨[⟨[3], by decide⟩, ⟨[3], by decide⟩], by decide⟩

/-- The version 3.3.0. -/
def versionWithPatch : DottedVersion :=
  ⟨[⟨[3], by decide⟩, ⟨[3], by decide⟩, ⟨[0], by decide⟩], by decide⟩

/-- The version 3.3 is flagged in the sample plan, and the version 3.3.0, which is equal to it, is
not. -/
theorem versionWithoutPatch_not_checked :
    versionWithoutPatch.text = "3.3" ∧ versionWithPatch.text = "3.3.0" ∧
      padded versionWithoutPatch.values = padded versionWithPatch.values ∧
      (∃ stop, checkVersion (buildConfig (makeSnapshot {}) (makeAnswers {})) versionWithoutPatch =
        .ok (some stop)) ∧
      checkVersion (buildConfig (makeSnapshot {}) (makeAnswers {})) versionWithPatch = .ok none ∧
      ¬ versionWithoutPatch.Checked (buildConfig (makeSnapshot {}) (makeAnswers {})) := by
  have hvalues : versionWithoutPatch.values = [3, 3] := by decide
  have hflagged : ∃ stop, checkVersion (buildConfig (makeSnapshot {}) (makeAnswers {}))
      versionWithoutPatch = .ok (some stop) := by
    have hread : versionWithoutPatch.Readable := by
      intro n hn
      simp only [versionWithoutPatch, List.mem_cons, List.not_mem_nil, or_false, or_self] at hn
      rw [hn]
      decide
    rcases checkVersion_cases _ hread with ⟨-, hstop⟩ | ⟨hlex, -⟩
    · exact hstop
    · exact absurd (lex_floor_iff.mpr (Or.inr hvalues)) hlex
  refine ⟨by decide, by decide, ?_, hflagged, by decide, fun h => ?_⟩
  · rw [hvalues]
    exact (padded_eq_floor_iff.mpr rfl).1
  · obtain ⟨stop, hstop⟩ := hflagged
    have hnone := h.2 (hvalues ▸ not_padded_lt_floor)
    rw [hstop] at hnone
    cases hnone

end DngPreflight
