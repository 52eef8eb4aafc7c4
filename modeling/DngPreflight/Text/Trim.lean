import DngPreflight.Text.Basic

set_option relaxedAutoImplicit false
set_option autoImplicit false

/-!
# What is trimmed

What `str.strip` with a set of characters removes and what it keeps, and the lines of a text that
ends each of them with a line feed.

## Main results

* `Text.trim_eq_self_iff` — the texts from which nothing is removed.
* `Text.trim_quoted` — quotes around a text.
* `Text.splitlines_flatMap` — the lines of a text.
-/

namespace Text

/-- A check of all characters of a text, one after the other. -/
lemma forall_eq_of_all {f : Char → Bool} {b : Bool} {s : Str}
    (h : (s.all fun c => f c == b) = true) : ∀ c ∈ s, f c = b :=
  fun c hc => beq_iff_eq.mp (List.all_eq_true.mp h c hc)

/-- What is trimmed is left as it is exactly if neither end satisfies the predicate. -/
lemma trim_eq_self_iff {p : Char → Bool} {s : Str} : trim p s = s ↔
    (∀ c, s.head? = some c → p c = false) ∧ ∀ c, s.getLast? = some c → p c = false := by
  have hdrop : s.dropWhile p = s ↔ ∀ c, s.head? = some c → p c = false := by
    cases s with
    | nil => simp
    | cons d s =>
      cases hd : p d with
      | true =>
        rw [List.dropWhile_cons_of_pos hd]
        constructor
        · intro h
          have hle := (List.dropWhile_suffix p (l := s)).length_le
          rw [h, List.length_cons] at hle
          omega
        · intro h
          have hfalse := h d rfl
          rw [hd] at hfalse
          cases hfalse
      | false =>
        rw [List.dropWhile_cons_of_neg (by simp [hd])]
        refine ⟨fun _ c hc => ?_, fun _ => rfl⟩
        rw [← Option.some.inj hc]
        exact hd
  have hrdrop : s.rdropWhile p = s ↔ ∀ c, s.getLast? = some c → p c = false := by
    rw [List.rdropWhile_eq_self_iff]
    constructor
    · intro h c hc
      obtain ⟨hne, rfl⟩ := List.mem_getLast?_eq_getLast hc
      simpa using h hne
    · intro h hne
      rw [h _ (List.getLast?_eq_some_getLast hne)]
      exact Bool.false_ne_true
  constructor
  · intro h
    have hlength : s.length ≤ (s.dropWhile p).length := by
      have hle := (List.rdropWhile_prefix p (l := s.dropWhile p)).length_le
      rwa [show (s.dropWhile p).rdropWhile p = s from h] at hle
    have hsame : s.dropWhile p = s :=
      (List.dropWhile_suffix p).eq_of_length_le hlength
    refine ⟨hdrop.mp hsame, hrdrop.mp ?_⟩
    rwa [trim, hsame] at h
  · rintro ⟨hhead, hlast⟩
    rw [trim, hdrop.mpr hhead, hrdrop.mpr hlast]

/-- Quotes around a text without them are all that is trimmed. -/
lemma trim_quoted {c : Char} {s : Str} (h : c ∉ s) :
    trim (fun d => decide (d = c)) (c :: (s ++ [c])) = s := by
  have hne : ∀ d ∈ s, decide (d = c) = false := fun d hd =>
    decide_eq_false fun he => h (he ▸ hd)
  have hself : trim (fun d => decide (d = c)) s = s :=
    trim_eq_self_iff.mpr ⟨fun d hd => hne d (List.mem_of_head? hd),
      fun d hd => hne d (List.mem_of_getLast? hd)⟩
  have hquote : decide (c = c) = true := decide_eq_true rfl
  rw [trim, List.dropWhile_cons_of_pos (p := fun d => decide (d = c)) hquote]
  cases s with
  | nil => simp
  | cons d t =>
    rw [List.cons_append, List.dropWhile_cons_of_neg (by simp [hne d List.mem_cons_self]),
      ← List.cons_append, List.rdropWhile_concat_pos (p := fun d => decide (d = c)) _ _ hquote]
    rwa [trim, List.dropWhile_cons_of_neg (by simp [hne d List.mem_cons_self])] at hself

/-- Characters that are not trimmed are all kept. -/
lemma count_trim {p : Char → Bool} {c : Char} (h : p c = false) (s : Str) :
    (trim p s).count c = s.count c := by
  have hzero : ∀ t : Str, (∀ d ∈ t, p d = true) → t.count c = 0 := by
    intro t ht
    refine List.count_eq_zero.mpr fun hc => ?_
    rw [ht c hc] at h
    cases h
  have hs := congrArg (List.count c) (List.takeWhile_append_dropWhile (p := p) (l := s))
  have ht := congrArg (List.count c)
    (List.rdropWhile_append_rtakeWhile (p := p) (l := s.dropWhile p))
  rw [List.count_append, hzero _ fun d hd => List.mem_takeWhile_imp hd, Nat.zero_add] at hs
  rw [List.count_append, hzero _ fun d hd => List.mem_rtakeWhile_imp hd, Nat.add_zero] at ht
  exact ht.trans hs

/-- The lines of a text that ends each of them with a line feed. -/
lemma splitlines_flatMap {ls : List Str} (h : ∀ l ∈ ls, ∀ c ∈ l, isLineBreak c = false) :
    splitlines (ls.flatMap (· ++ ['\n'])) = ls := by
  have hline : ∀ l cur s : Str, (∀ c ∈ l, isLineBreak c = false) →
      splitlinesFrom cur (l ++ '\n' :: s) = (cur ++ l) :: splitlinesFrom [] s := by
    intro l cur s hl
    induction l generalizing cur with
    | nil =>
      have hfeed : ∀ t, '\n' = '\r' → s ≠ '\n' :: t := fun t h => absurd h (by decide)
      rw [List.nil_append, splitlinesFrom_cons hfeed, if_pos (by decide), List.append_nil]
    | cons c l ih =>
      obtain ⟨hc, hl⟩ := List.forall_mem_cons.mp hl
      rw [List.cons_append, splitlinesFrom_cons_of_not hc, ih _ hl]
      simp
  induction ls with
  | nil => rfl
  | cons l ls ih =>
    obtain ⟨hl, hls⟩ := List.forall_mem_cons.mp h
    rw [List.flatMap_cons, splitlines, List.append_assoc, List.singleton_append,
      hline l [] _ hl, List.nil_append]
    exact congrArg _ (ih hls)

end Text
