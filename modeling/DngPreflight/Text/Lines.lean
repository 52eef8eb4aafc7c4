import DngPreflight.Text.Basic

set_option relaxedAutoImplicit false
set_option autoImplicit false

/-!
# Lines between line feeds

Tools outside of Python end lines at line feeds only, and `str.splitlines` at other characters, too.
A line of the one kind is made of lines of the other.

## Main definitions

* `Text.feedLines` — the lines between line feeds.

## Main results

* `Text.exists_mem_splitlines_strip` — the line of `str.splitlines` in which a line between line
  feeds has its first character that is not whitespace.
-/

namespace Text

/-- The lines of a text between its line feeds. -/
def feedLines (s : Str) : List Str := s.splitOn '\n'

/-- A line break is whitespace. -/
lemma isSpace_of_isLineBreak {c : Char} (h : isLineBreak c = true) : isSpace c = true := by
  simp only [isLineBreak, isSpace, List.mem_cons, List.not_mem_nil, or_false,
    decide_eq_true_eq] at h ⊢
  omega

/-! ## Where a part stands -/

/-- A joined list around one of its parts. -/
lemma join_append_cons (sep : Str) (as : List Str) (l : Str) (bs : List Str) :
    join sep (as ++ l :: bs) = as.flatMap (· ++ sep) ++ (l ++ bs.flatMap (sep ++ ·)) := by
  induction as with
  | nil =>
    induction bs generalizing l with
    | nil => simp [join]
    | cons b bs ih =>
      simp only [List.nil_append, List.flatMap_nil] at ih ⊢
      rw [join_cons_of_ne_nil sep l (List.cons_ne_nil b bs), ih b, List.flatMap_cons]
      simp
  | cons a as ih =>
    rw [List.cons_append, join_cons_of_ne_nil sep a (by simp), ih, List.flatMap_cons]
    simp

/-- A line stands between line feeds, or at an end of the text. -/
lemma exists_of_mem_feedLines {s l : Str} (h : l ∈ feedLines s) :
    ∃ pre post, s = pre ++ (l ++ post) ∧ (pre = [] ∨ ∃ p, pre = p ++ ['\n']) ∧
      (post = [] ∨ ∃ p, post = '\n' :: p) := by
  obtain ⟨as, bs, hparts⟩ := List.append_of_mem h
  refine ⟨as.flatMap (· ++ ['\n']), bs.flatMap (['\n'] ++ ·), ?_, ?_, ?_⟩
  · rw [← join_append_cons, ← hparts]
    exact (List.intercalate_splitOn '\n').symm
  · rcases List.eq_nil_or_concat as with rfl | ⟨as, a, rfl⟩
    · exact Or.inl rfl
    · refine Or.inr ⟨as.flatMap (· ++ ['\n']) ++ a, ?_⟩
      simp
  · cases bs with
    | nil => exact Or.inl rfl
    | cons b bs => exact Or.inr ⟨b ++ bs.flatMap (['\n'] ++ ·), by simp⟩

/-- The lines of a text of lines that end in line feeds. -/
lemma feedLines_flatMap {ls : List Str} (h : ∀ l ∈ ls, '\n' ∉ l) :
    feedLines (ls.flatMap (· ++ "\n".toList)) = ls ++ [[]] := by
  have hjoin : ls.flatMap (· ++ "\n".toList) = join "\n" (ls ++ [[]]) := by
    rw [join_append_cons, List.flatMap_nil, List.append_nil, List.append_nil]
  rw [hjoin]
  refine List.splitOn_intercalate '\n' ?_ (by simp)
  intro l hl
  rcases List.mem_append.mp hl with hl | hl
  · exact h l hl
  · rw [List.mem_singleton.mp hl]
    exact List.not_mem_nil

/-- The lines of a joined text, each with a line feed. -/
lemma flatMap_eq_join {ls : List Str} (h : ls ≠ []) :
    ls.flatMap (· ++ "\n".toList) = join "\n" ls ++ "\n".toList := by
  rw [← List.dropLast_append_getLast h, join_append_cons, List.flatMap_append]
  simp

/-! ## Lines of `str.splitlines` -/

/-- The characters of a line of `str.splitlines` are characters of the text. -/
lemma mem_of_mem_splitlinesFrom {cur s l : Str} {c : Char} (hl : l ∈ splitlinesFrom cur s)
    (hc : c ∈ l) : c ∈ cur ∨ c ∈ s ∧ isLineBreak c = false := by
  induction cur, s using splitlinesFrom.induct with
  | case1 => simp [splitlinesFrom] at hl
  | case2 cur hcur =>
    rw [splitlinesFrom, if_neg hcur, List.mem_singleton] at hl
    exact Or.inl (hl ▸ hc)
  | case3 cur s ih =>
    rw [splitlinesFrom, List.mem_cons] at hl
    rcases hl with rfl | hl
    · exact Or.inl hc
    · rcases ih hl with h | ⟨h, hno⟩
      · cases h
      · exact Or.inr ⟨by simp [h], hno⟩
  | case4 cur d s hcr hbreak ih =>
    rw [splitlinesFrom_cons hcr, if_pos hbreak, List.mem_cons] at hl
    rcases hl with rfl | hl
    · exact Or.inl hc
    · rcases ih hl with h | ⟨h, hno⟩
      · cases h
      · exact Or.inr ⟨List.mem_cons_of_mem d h, hno⟩
  | case5 cur d s hcr hbreak ih =>
    rw [splitlinesFrom_cons hcr, if_neg hbreak] at hl
    rcases ih hl with h | ⟨h, hno⟩
    · rcases List.mem_append.mp h with h | h
      · exact Or.inl h
      · obtain rfl : c = d := List.mem_singleton.mp h
        exact Or.inr ⟨List.mem_cons_self, Bool.not_eq_true _ ▸ hbreak⟩
    · exact Or.inr ⟨List.mem_cons_of_mem d h, hno⟩

/-- A text that is not empty has a line. -/
lemma splitlines_ne_nil {s : Str} (h : s ≠ []) : splitlines s ≠ [] := by
  obtain ⟨c, s, rfl⟩ := List.exists_cons_of_ne_nil h
  rw [splitlines]
  by_cases hcr : c = '\r' ∧ ∃ t, s = '\n' :: t
  · obtain ⟨rfl, t, rfl⟩ := hcr
    exact List.cons_ne_nil _ _
  · rw [splitlinesFrom_cons fun t hc hs => hcr ⟨hc, t, hs⟩]
    split_ifs with hbreak
    · exact List.cons_ne_nil _ _
    · obtain ⟨x, rest, hx, -⟩ := exists_splitlinesFrom (List.cons_ne_nil c []) s
      rw [List.nil_append, hx]
      exact List.cons_ne_nil _ _

/-- A text whose line breaks are line feeds, of which none is at its end, is made of its lines. -/
lemma join_splitlines {s : Str} (h : ∀ c ∈ s, isLineBreak c = true → c = '\n')
    (hlast : s.getLast? ≠ some '\n') : join "\n" (splitlines s) = s := by
  have key : ∀ cur s : Str, (∀ c ∈ s, isLineBreak c = true → c = '\n') →
      s.getLast? ≠ some '\n' → join "\n" (splitlinesFrom cur s) = cur ++ s := by
    intro cur s
    induction cur, s using splitlinesFrom.induct with
    | case1 => exact fun _ _ => rfl
    | case2 cur hcur =>
      intro _ _
      rw [splitlinesFrom, if_neg hcur, join, List.intercalate_singleton, List.append_nil]
    | case3 cur s ih =>
      intro h _
      exact absurd (h '\r' (by simp) (by decide)) (by decide)
    | case4 cur d s hcr hbreak ih =>
      intro h hlast
      obtain rfl : d = '\n' := h d (by simp) hbreak
      have hs : s ≠ [] := by
        rintro rfl
        exact hlast rfl
      have hjoin := ih (fun c hc => h c (List.mem_cons_of_mem _ hc)) (by
        rwa [List.getLast?_cons_of_ne_nil hs] at hlast)
      have hne : splitlinesFrom [] s ≠ [] := splitlines_ne_nil hs
      rw [splitlinesFrom_cons hcr, if_pos hbreak, join_cons_of_ne_nil _ _ hne, hjoin]
      rfl
    | case5 cur d s hcr hbreak ih =>
      intro h hlast
      have hlast' : s.getLast? ≠ some '\n' := by
        intro hs
        exact hlast (by rw [List.getLast?_cons, hs, Option.getD_some])
      rw [splitlinesFrom_cons hcr, if_neg hbreak, ih (fun c hc => h c (List.mem_cons_of_mem _ hc))
        hlast', List.append_assoc]
      rfl
  exact key [] s h hlast

/-- The last line of a text that does not end in a line feed is not empty. -/
lemma getLast?_ne_of_join {l : Str} {ls : List Str} (hl : l ≠ [])
    (hlast : (join "\n" (l :: ls)).getLast? ≠ some '\n') : (l :: ls).getLast? ≠ some [] := by
  intro h
  obtain ⟨init, hinit⟩ := List.getLast?_eq_some_iff.mp h
  rcases List.eq_nil_or_concat init with rfl | ⟨init, x, rfl⟩
  · exact hl (List.cons.inj hinit).1
  · rw [hinit, List.concat_eq_append, join_append_cons, List.flatMap_append] at hlast
    simp at hlast

/-! ## Where a character stands -/

/-- Stripping takes away whitespace at both ends. -/
lemma exists_strip (s : Str) :
    ∃ a b, s = a ++ (strip s ++ b) ∧ (∀ c ∈ a, isSpace c = true) ∧ ∀ c ∈ b, isSpace c = true := by
  refine ⟨s.takeWhile isSpace, (s.dropWhile isSpace).rtakeWhile isSpace, ?_,
    fun c hc => List.mem_takeWhile_imp hc, fun c hc => List.mem_rtakeWhile_imp hc⟩
  rw [strip, trim, List.rdropWhile_append_rtakeWhile, List.takeWhile_append_dropWhile]

/-- A character that is not stripped stands in the stripped text. -/
lemma exists_strip_of_append_cons {s u v : Str} {c : Char} (hs : s = u ++ c :: v)
    (hc : isSpace c = false) :
    ∃ u' v', strip s = u' ++ c :: v' ∧ u' <:+ u ∧ v' <+: v := by
  obtain ⟨a, b, hab, ha, hb⟩ := exists_strip s
  have hne : ∀ {d}, d ∈ a ∨ d ∈ b → d ≠ c := by
    rintro d (hd | hd) rfl
    · exact absurd (ha d hd) (by simp [hc])
    · exact absurd (hb d hd) (by simp [hc])
  generalize strip s = t at hab ⊢
  subst hs
  obtain ⟨u', rfl, hrest⟩ : ∃ u', u = a ++ u' ∧ t ++ b = u' ++ c :: v := by
    rcases List.append_eq_append_iff.mp hab with ⟨r, rfl, hr⟩ | ⟨r, rfl, hr⟩
    · cases r with
      | nil => exact ⟨[], by simp, by simpa using hr.symm⟩
      | cons d r =>
        obtain ⟨rfl, -⟩ := List.cons.inj hr
        exact absurd rfl (hne (Or.inl (by simp)))
    · exact ⟨r, rfl, hr⟩
  rcases List.append_eq_append_iff.mp hrest with ⟨r, hr, hb'⟩ | ⟨r, hr, hv⟩
  · refine absurd rfl (hne (d := c) (Or.inr ?_))
    rw [hb']
    simp
  · cases r with
    | nil =>
      refine absurd rfl (hne (d := c) (Or.inr ?_))
      rw [List.nil_append] at hv
      rw [← hv]
      simp
    | cons d v' =>
      obtain ⟨rfl, rfl⟩ := List.cons.inj hv
      exact ⟨u', v', hr, List.suffix_append a u', List.prefix_append v' b⟩

/-! ## Where a character stands -/

/-- The line of a character that is no line break, at the beginning of the rest of the text. -/
lemma exists_mem_splitlinesFrom_cons {c : Char} (hc : isLineBreak c = false) (cur t : Str)
    (hcur : ∀ d ∈ cur, isLineBreak d = false) :
    ∃ y, cur ++ c :: y ∈ splitlinesFrom cur (c :: t) ∧ y <+: t ∧
      ∀ d ∈ cur ++ c :: y, isLineBreak d = false := by
  have hne : cur ++ [c] ≠ [] := by simp
  obtain ⟨y, rest, hy, hprefix, hno⟩ := exists_splitlinesFrom hne t
  refine ⟨y, ?_, hprefix, ?_⟩
  · rw [splitlinesFrom_cons_of_not hc, hy]
    simp
  · simp only [List.mem_append, List.mem_cons]
    rintro d (hd | rfl | hd)
    · exact hcur d hd
    · exact hc
    · exact hno d hd

/-- The line of a character that is no line break. -/
lemma exists_mem_splitlinesFrom {c : Char} (hc : isLineBreak c = false) (cur s t : Str)
    (hcur : ∀ d ∈ cur, isLineBreak d = false) :
    ∃ x y, x ++ c :: y ∈ splitlinesFrom cur (s ++ c :: t) ∧ x <:+ cur ++ s ∧ y <+: t ∧
      ∀ d ∈ x ++ c :: y, isLineBreak d = false := by
  induction cur, s using splitlinesFrom.induct with
  | case1 =>
    obtain ⟨y, hline⟩ := exists_mem_splitlinesFrom_cons hc [] t (by simp)
    exact ⟨[], y, hline.1, List.nil_suffix, hline.2⟩
  | case2 cur _ =>
    obtain ⟨y, hline⟩ := exists_mem_splitlinesFrom_cons hc cur t hcur
    exact ⟨cur, y, hline.1, by simp, hline.2⟩
  | case3 cur s ih =>
    obtain ⟨x, y, hmem, hx, hy, hno⟩ := ih (by simp)
    refine ⟨x, y, ?_, ?_, hy, hno⟩
    · rw [List.cons_append, List.cons_append, splitlinesFrom]
      exact List.mem_cons_of_mem _ hmem
    · exact hx.trans ((List.suffix_append (cur ++ ['\r', '\n']) s).trans (by simp))
  | case4 cur d s hcr hbreak ih =>
    obtain ⟨x, y, hmem, hx, hy, hno⟩ := ih (by simp)
    refine ⟨x, y, ?_, ?_, hy, hno⟩
    · rw [List.cons_append, splitlinesFrom_cons (append_cons_ne_lineFeed hc hcr t), if_pos hbreak]
      exact List.mem_cons_of_mem _ hmem
    · exact hx.trans ((List.suffix_append (cur ++ [d]) s).trans (by simp))
  | case5 cur d s hcr hbreak ih =>
    have hd : isLineBreak d = false := Bool.not_eq_true _ ▸ hbreak
    obtain ⟨x, y, hmem, hx, hy, hno⟩ := ih (by simpa [or_imp, forall_and, hd] using hcur)
    refine ⟨x, y, ?_, by simpa using hx, hy, hno⟩
    rw [List.cons_append, splitlinesFrom_cons (append_cons_ne_lineFeed hc hcr t), if_neg hbreak]
    exact hmem

/-- A suffix without line feeds of a text whose last line is `l` is a suffix of `l`. -/
lemma suffix_of_suffix_append {x pre l : Str} (h : x <:+ pre ++ l)
    (hpre : pre = [] ∨ ∃ p, pre = p ++ ['\n']) (hx : '\n' ∉ x) : x <:+ l := by
  rcases hpre with rfl | ⟨p, rfl⟩
  · exact h
  · rcases List.suffix_or_suffix_of_suffix h (List.suffix_append (p ++ ['\n']) l) with hl | ⟨z, rfl⟩
    · exact hl
    · obtain ⟨w, hw⟩ := h
      have hz : w ++ z = p ++ ['\n'] := by
        rw [← List.append_assoc] at hw
        exact List.append_cancel_right hw
      rcases List.eq_nil_or_concat z with rfl | ⟨z, d, rfl⟩
      · exact List.suffix_rfl
      · rw [List.concat_eq_append, ← List.append_assoc] at hz
        obtain rfl : d = '\n' := by simpa using (List.append_inj' hz rfl).2
        simp at hx

/-- A prefix without line feeds of a text whose first line is `l` is a prefix of `l`. -/
lemma prefix_of_prefix_append {y l post : Str} (h : y <+: l ++ post)
    (hpost : post = [] ∨ ∃ p, post = '\n' :: p) (hy : '\n' ∉ y) : y <+: l := by
  rcases hpost with rfl | ⟨p, rfl⟩
  · rwa [List.append_nil] at h
  · rcases List.prefix_or_prefix_of_prefix h (List.prefix_append l ('\n' :: p)) with hl | ⟨z, rfl⟩
    · exact hl
    · obtain ⟨w, hw⟩ := h
      have hz : z ++ w = '\n' :: p := by
        rw [List.append_assoc] at hw
        exact List.append_cancel_left hw
      cases z with
      | nil => simp
      | cons d z =>
        obtain rfl : d = '\n' := (List.cons.inj hz).1
        simp at hy

/-- **The line of `str.splitlines`** in the stripped text that has the first character of a line
between line feeds which is not whitespace: nothing but whitespace of the line is before it. -/
lemma exists_mem_splitlines_strip {s ws r : Str} {c : Char} (h : ws ++ c :: r ∈ feedLines s)
    (hc : isSpace c = false) :
    ∃ x y, x ++ c :: y ∈ splitlines (strip s) ∧ x <:+ ws ∧ y <+: r := by
  have hbreak : isLineBreak c = false := by
    rw [← Bool.not_eq_true] at hc ⊢
    exact mt isSpace_of_isLineBreak hc
  obtain ⟨pre, post, hs, hpre, hpost⟩ := exists_of_mem_feedLines h
  rw [List.append_assoc, ← List.append_assoc, List.cons_append] at hs
  obtain ⟨u, v, hstrip, hu, hv⟩ := exists_strip_of_append_cons hs hc
  obtain ⟨x, y, hmem, hx, hy, hno⟩ := exists_mem_splitlinesFrom hbreak [] u v (by simp)
  have hfeed : '\n' ∉ x ++ c :: y := fun hm => absurd (hno _ hm) (by decide)
  rw [List.mem_append, List.mem_cons, not_or, not_or] at hfeed
  refine ⟨x, y, ?_, suffix_of_suffix_append (hx.trans hu) hpre hfeed.1,
    prefix_of_prefix_append (hy.trans hv) hpost hfeed.2.2⟩
  rw [hstrip]
  exact hmem

end Text
