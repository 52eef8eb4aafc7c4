import DngPreflight.Text.Lines

set_option relaxedAutoImplicit false
set_option autoImplicit false

/-!
# grep

Searching a text for a line that begins with a pattern. A pattern is a sequence of character
classes, each of which stands for one character or for any number of them; which characters a named
class has depends on the locale, so that classes are arbitrary sets of characters.

## Main definitions

* `Grep.Item`, `Grep.Matches` — patterns, and the strings that they match.
* `Grep.matchHere`, `Grep.grep` — the search.

## Main results

* `Grep.matchHere_iff`, `Grep.grep_iff` — the search finds exactly the lines of which a beginning is
  matched.
-/

namespace Grep

open Text

/-- A part of a pattern: one character of a class, or any number of them. -/
inductive Item where
  | one (p : Char → Bool)
  | many (p : Char → Bool)

/-- A pattern that stands for a fixed string. -/
def literal (w : Str) : List Item := w.map fun c => .one (· = c)

/-- The pattern matches exactly this string. -/
def Matches : List Item → Str → Prop
  | [], s => s = []
  | .one p :: items, s => ∃ c t, s = c :: t ∧ p c = true ∧ Matches items t
  | .many p :: items, s => ∃ u t, s = u ++ t ∧ (∀ c ∈ u, p c = true) ∧ Matches items t

/-- The pattern matches a beginning of the string. Each number of repetitions is tried. -/
def matchHere : List Item → Str → Bool
  | [], _ => true
  | .one _ :: _, [] => false
  | .one p :: items, c :: s => p c && matchHere items s
  | .many p :: items, s =>
    (List.range ((s.takeWhile p).length + 1)).any fun k => matchHere items (s.drop k)

/-- The lines of a text; what follows the last line feed is a line only if it is not empty. -/
def grepLines (s : Str) : List Str :=
  if (feedLines s).getLast? = some [] then (feedLines s).dropLast else feedLines s

/-- Some line of the text begins with the pattern. -/
def grep (items : List Item) (s : Str) : Bool := (grepLines s).any (matchHere items)

example : grep [.one (· ≠ ' ')] "\n x\n" = false := by decide
example : grep (.many (· = ' ') :: literal "de") "a\n  default" = true := by decide

/-- A literal matches its string only. -/
lemma matches_literal {w s : Str} : Matches (literal w) s ↔ s = w := by
  induction w generalizing s with
  | nil => rfl
  | cons c w ih =>
    constructor
    · rintro ⟨d, t, rfl, hd, ht⟩
      rw [of_decide_eq_true hd, ih.mp ht]
    · rintro rfl
      exact ⟨c, w, rfl, decide_eq_true rfl, ih.mpr rfl⟩

/-- What is left after some of the characters in front that are in a class.

**Proof sketch.** The longest run of such characters has every beginning of such characters as a
beginning. -/
lemma exists_drop_iff (rest : Str → Prop) {p : Char → Bool} {s : Str} :
    (∃ k ≤ (s.takeWhile p).length, rest (s.drop k)) ↔
      ∃ u t, s = u ++ t ∧ (∀ c ∈ u, p c = true) ∧ rest t := by
  constructor
  · rintro ⟨k, hle, hrest⟩
    have htake : s.take k = (s.takeWhile p).take k := by
      conv_lhs => rw [← List.takeWhile_append_dropWhile (p := p) (l := s)]
      exact List.take_append_of_le_length hle
    refine ⟨s.take k, s.drop k, (List.take_append_drop k s).symm, fun c hc => ?_, hrest⟩
    rw [htake] at hc
    exact List.mem_takeWhile_imp (List.mem_of_mem_take hc)
  · rintro ⟨u, t, rfl, hu, hrest⟩
    refine ⟨u.length, ?_, by rwa [List.drop_left]⟩
    rw [List.takeWhile_append_of_pos hu, List.length_append]
    exact Nat.le_add_right _ _

/-- **Matching a beginning**: there is a beginning that the pattern matches.

**Proof sketch.** Induction on the pattern. A repetition stands for some beginning of the longest
run of characters in its class. -/
lemma matchHere_iff {items : List Item} {s : Str} :
    matchHere items s = true ↔ ∃ u t, s = u ++ t ∧ Matches items u := by
  induction items generalizing s with
  | nil => exact ⟨fun _ => ⟨[], s, rfl, rfl⟩, fun _ => rfl⟩
  | cons item items ih =>
    cases item with
    | one p =>
      cases s with
      | nil =>
        constructor
        · intro h
          cases h
        · rintro ⟨u, t, hs, c, v, rfl, -, -⟩
          cases hs
      | cons c s =>
        rw [matchHere, Bool.and_eq_true, ih]
        constructor
        · rintro ⟨hc, u, t, rfl, hu⟩
          exact ⟨c :: u, t, rfl, c, u, rfl, hc, hu⟩
        · rintro ⟨u, t, hs, d, v, rfl, hd, hv⟩
          cases hs
          exact ⟨hd, v, t, rfl, hv⟩
    | many p =>
      have htries : matchHere (.many p :: items) s = true ↔
          ∃ k ≤ (s.takeWhile p).length, matchHere items (s.drop k) = true := by
        simp only [matchHere, List.any_eq_true, List.mem_range, Nat.lt_succ_iff]
      refine htries.trans ((exists_drop_iff fun t => matchHere items t = true).trans ?_)
      constructor
      · rintro ⟨u, _, rfl, hu, hmatch⟩
        obtain ⟨v, t, rfl, hv⟩ := ih.mp hmatch
        exact ⟨u ++ v, t, (List.append_assoc _ _ _).symm, u, v, rfl, hu, hv⟩
      · rintro ⟨_, t, rfl, u, v, rfl, hu, hv⟩
        exact ⟨u, v ++ t, List.append_assoc _ _ _, hu, ih.mpr ⟨v, t, rfl, hv⟩⟩

/-- **What is found**: a line of which a beginning is matched. -/
lemma grep_iff {items : List Item} {s : Str} :
    grep items s = true ↔ ∃ line ∈ grepLines s, ∃ u t, line = u ++ t ∧ Matches items u := by
  simp only [grep, List.any_eq_true, matchHere_iff]

end Grep
