import DngPreflight.Text.Lines

set_option relaxedAutoImplicit false
set_option autoImplicit false

/-!
# Lines of YAML

YAML 1.1 ends a line at a line feed, a carriage return, both together, and three more characters.
These are among the characters at which `str.splitlines` ends one.

## Main definitions

* `Yaml.isBreak` — the characters that end a line.
* `Yaml.splitLines` — the lines of a text.
* `Yaml.detectedIndent` — the indentation of a block scalar.

## Main results

* `Yaml.splitLines_join` — the lines of a joined text are its parts.
* `Yaml.isBreak_of_mem_splitlines` — a line of `str.splitlines` is within a line of YAML.
-/

namespace Yaml

open Text

/-! ## Lines -/

/-- The characters that end a line: LF, CR, NEL, LS and PS. -/
def isBreak (c : Char) : Bool := c.toNat ∈ ([0xA, 0xD, 0x85, 0x2028, 0x2029] : List ℕ)

/-- The lines of the rest of a text, `cur` being the part of the current line already read. A
carriage return and the line feed after it end one line; the last line may be empty. -/
def splitLinesFrom (cur : Str) : Str → List Str
  | [] => [cur]
  | '\r' :: '\n' :: s => cur :: splitLinesFrom [] s
  | c :: s => if isBreak c then cur :: splitLinesFrom [] s else splitLinesFrom (cur ++ [c]) s

/-- The lines of a text. -/
def splitLines (s : Str) : List Str := splitLinesFrom [] s

example : splitLines "a\r\nb\n" = (["a", "b", ""] : List String).map String.toList := by decide

/-- The indentation of a block scalar, from its lines: that of the first line with more than spaces,
or the length of a line before it if that is longer. -/
def detectedIndent : List Str → ℕ
  | [] => 0
  | l :: ls =>
    if l.all (· = ' ') then max l.length (detectedIndent ls) else (l.takeWhile (· = ' ')).length

/-- A line break of YAML is one of `str.splitlines`. -/
lemma isLineBreak_of_isBreak {c : Char} (h : isBreak c = true) : isLineBreak c = true := by
  simp only [isBreak, isLineBreak, List.mem_cons, List.not_mem_nil, or_false,
    decide_eq_true_eq] at h ⊢
  omega

/-- A character that is no line break goes on with the line. -/
lemma splitLinesFrom_cons_of_not {c : Char} (hc : isBreak c = false) (cur s : Str) :
    splitLinesFrom cur (c :: s) = splitLinesFrom (cur ++ [c]) s := by
  have hcr : ∀ t, c = '\r' → s ≠ '\n' :: t := by
    rintro t rfl
    exact absurd hc (by decide)
  rw [splitLinesFrom.eq_3 cur c s hcr, if_neg (by simp [hc])]

/-- Characters that are no line breaks go on with the line. -/
lemma splitLinesFrom_append {l : Str} (hl : ∀ c ∈ l, isBreak c = false) (cur s : Str) :
    splitLinesFrom cur (l ++ s) = splitLinesFrom (cur ++ l) s := by
  induction l generalizing cur with
  | nil => rw [List.nil_append, List.append_nil]
  | cons c l ih =>
    rw [List.cons_append, splitLinesFrom_cons_of_not (hl c (by simp)),
      ih fun d hd => hl d (List.mem_cons_of_mem c hd), List.append_assoc, List.singleton_append]

/-- **The lines of a joined text** are its parts, if these have no line breaks.

**Proof sketch.** Induction on the parts: the first is read up to the line feed after it. -/
lemma splitLines_join {ls : List Str} (hne : ls ≠ [])
    (h : ∀ l ∈ ls, ∀ c ∈ l, isBreak c = false) : splitLines (join "\n" ls) = ls := by
  induction ls with
  | nil => exact absurd rfl hne
  | cons l ls ih =>
    have hl : ∀ c ∈ l, isBreak c = false := h l (by simp)
    by_cases hls : ls = []
    · have hend := splitLinesFrom_append hl [] []
      rw [List.append_nil, splitLinesFrom, List.nil_append] at hend
      rw [hls, join, List.intercalate_singleton, splitLines, hend]
    · have hfeed : splitLinesFrom l ('\n' :: join "\n" ls) = l :: splitLines (join "\n" ls) := rfl
      rw [join_cons_of_ne_nil "\n" l hls, splitLines, splitLinesFrom_append hl, List.nil_append]
      exact hfeed.trans (congrArg _ (ih hls fun k hk => h k (List.mem_cons_of_mem l hk)))

/-- **A line of `str.splitlines`** has no line break. -/
lemma isBreak_of_mem_splitlines {s l : Str} (hl : l ∈ splitlines s) {c : Char} (hc : c ∈ l) :
    isBreak c = false := by
  rcases mem_of_mem_splitlinesFrom hl hc with h | ⟨-, hno⟩
  · cases h
  · rw [← Bool.not_eq_true] at hno ⊢
    exact fun hbreak => hno (isLineBreak_of_isBreak hbreak)

end Yaml
