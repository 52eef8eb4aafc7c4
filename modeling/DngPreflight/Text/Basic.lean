import Mathlib.Data.List.DropRight

set_option relaxedAutoImplicit false
set_option autoImplicit false

/-!
# Python strings as lists of code points

Strings are lists of characters, so that text rendered by concatenation is reasoned about
with `List` lemmas. A Lean `Char` is a Unicode scalar value: the lone surrogates that a
Python `str` may also hold are not strings here.

## Main definitions

* `Text.Str` — a string; a `String` literal coerces to it.
* `Text.isSpace`, `Text.strip` — `str.isspace` and `str.strip`.
* `Text.isLineBreak`, `Text.splitlines` — the line boundaries of `str.splitlines`.
* `Text.replaceChar`, `Text.join` — `str.replace` of one character and `str.join`.

## Main results

* `Text.trim_eq_nil_iff` — a string trims to nothing exactly when it is all trimmed characters.
* `Text.mem_trim_or` — trimming only removes characters satisfying the predicate.
-/

namespace Text

/-- A Python string, as its list of code points. -/
abbrev Str := List Char

/-- Literals are texts. -/
instance : Coe String Str := ⟨String.toList⟩

/-- The characters of a string literal: to compare its encoding with theirs is much cheaper than to
decode it. -/
lemma toList_eq {s : String} {l : Str} (h : s.toByteArray = l.utf8Encode) : s.toList = l := by
  have hs : s = String.ofList l := by
    rw [← String.toByteArray_inj, h, String.toByteArray_ofList]
  rw [hs, String.toList_ofList]

/-! ## Whitespace -/

/-- `str.isspace` of one character. -/
def isSpace (c : Char) : Bool :=
  c.toNat ∈ ([0x9, 0xA, 0xB, 0xC, 0xD, 0x1C, 0x1D, 0x1E, 0x1F, 0x20, 0x85, 0xA0, 0x1680,
    0x2000, 0x2001, 0x2002, 0x2003, 0x2004, 0x2005, 0x2006, 0x2007, 0x2008, 0x2009, 0x200A,
    0x2028, 0x2029, 0x202F, 0x205F, 0x3000] : List ℕ)

/-- Remove the longest prefix and the longest suffix of characters satisfying `p`. -/
def trim (p : Char → Bool) (s : Str) : Str := (s.dropWhile p).rdropWhile p

/-- `str.strip()`. -/
def strip (s : Str) : Str := trim isSpace s

/-- Nothing remains of a trimmed string exactly when every character is trimmed. -/
lemma trim_eq_nil_iff (p : Char → Bool) (s : Str) : trim p s = [] ↔ ∀ c ∈ s, p c := by
  constructor
  · intro h c hc
    rw [trim, List.rdropWhile_eq_nil_iff] at h
    rw [← List.takeWhile_append_dropWhile (p := p) (l := s)] at hc
    rcases List.mem_append.mp hc with hc | hc
    · exact List.mem_takeWhile_imp hc
    · exact h c hc
  · intro h
    rw [trim, List.dropWhile_eq_nil_iff.mpr h, List.rdropWhile_nil]

/-- Trimming only removes characters satisfying the predicate. -/
lemma mem_trim_or (p : Char → Bool) {s : Str} {c : Char} (hc : c ∈ s) :
    c ∈ trim p s ∨ p c := by
  rw [← List.takeWhile_append_dropWhile (p := p) (l := s)] at hc
  rcases List.mem_append.mp hc with hc | hc
  · exact Or.inr (List.mem_takeWhile_imp hc)
  · set t := s.dropWhile p
    have ht : t.rdropWhile p ++ t.rtakeWhile p = t := by simp
    rw [← ht] at hc
    rcases List.mem_append.mp hc with hc | hc
    · exact Or.inl hc
    · exact Or.inr (List.mem_rtakeWhile_imp hc)

/-! ## Lines -/

/-- The characters at which `str.splitlines` ends a line. -/
def isLineBreak (c : Char) : Bool :=
  c.toNat ∈ ([0xA, 0xB, 0xC, 0xD, 0x1C, 0x1D, 0x1E, 0x85, 0x2028, 0x2029] : List ℕ)

/-- The lines of the rest of a string, `cur` being the part of the current line already read.
A carriage return and the line feed after it end one line; an empty last line is dropped. -/
def splitlinesFrom (cur : Str) : Str → List Str
  | [] => if cur = [] then [] else [cur]
  | '\r' :: '\n' :: s => cur :: splitlinesFrom [] s
  | c :: s => if isLineBreak c then cur :: splitlinesFrom [] s else splitlinesFrom (cur ++ [c]) s

/-- `str.splitlines()`. -/
def splitlines (s : Str) : List Str := splitlinesFrom [] s

/-- The rest of a string whose first two characters are not a line break together. -/
lemma splitlinesFrom_cons {c : Char} {s : Str} (h : ∀ t, c = '\r' → s ≠ '\n' :: t) (cur : Str) :
    splitlinesFrom cur (c :: s) =
      if isLineBreak c then cur :: splitlinesFrom [] s else splitlinesFrom (cur ++ [c]) s :=
  splitlinesFrom.eq_3 cur c s h

/-- A character that is no line break goes on with the line. -/
lemma splitlinesFrom_cons_of_not {c : Char} (hc : isLineBreak c = false) (cur s : Str) :
    splitlinesFrom cur (c :: s) = splitlinesFrom (cur ++ [c]) s := by
  have hcr : ∀ t, c = '\r' → s ≠ '\n' :: t := by
    rintro t rfl
    exact absurd hc (by decide)
  rw [splitlinesFrom_cons hcr, if_neg (by simp [hc])]

/-- What is no line break of two characters is none when the text goes on with another
character. -/
lemma append_cons_ne_lineFeed {c d : Char} {s : Str} (hc : isLineBreak c = false)
    (h : ∀ u, d = '\r' → s = '\n' :: u → False) (t : Str) :
    ∀ u, d = '\r' → s ++ c :: t ≠ '\n' :: u := by
  intro u hd hu
  cases s with
  | nil =>
    cases hu
    exact absurd hc (by decide)
  | cons e s =>
    cases hu
    exact h s hd rfl

/-- A line that has begun goes on up to a line break. -/
lemma exists_splitlinesFrom {cur : Str} (hcur : cur ≠ []) (s : Str) :
    ∃ x rest, splitlinesFrom cur s = (cur ++ x) :: rest ∧ x <+: s ∧
      ∀ d ∈ x, isLineBreak d = false := by
  induction s generalizing cur with
  | nil =>
    exact ⟨[], [], by rw [splitlinesFrom, if_neg hcur, List.append_nil], List.nil_prefix, by simp⟩
  | cons c s ih =>
    by_cases hcr : c = '\r' ∧ ∃ t, s = '\n' :: t
    · obtain ⟨rfl, t, rfl⟩ := hcr
      exact ⟨[], _, by rw [splitlinesFrom, List.append_nil], List.nil_prefix, by simp⟩
    · rw [splitlinesFrom_cons fun t hc hs => hcr ⟨hc, t, hs⟩]
      split_ifs with hbreak
      · exact ⟨[], _, by rw [List.append_nil], List.nil_prefix, by simp⟩
      · have hcur' : cur ++ [c] ≠ [] := by simp
        obtain ⟨x, rest, hx, hprefix, hno⟩ := ih hcur'
        refine ⟨c :: x, rest, by rw [hx, List.append_assoc]; rfl,
          List.cons_prefix_cons.mpr ⟨rfl, hprefix⟩, ?_⟩
        rintro d (_ | ⟨_, hd⟩)
        · exact Bool.not_eq_true _ ▸ hbreak
        · exact hno d hd

example : splitlines "a\r\n\nb\n" = (["a", "", "b"] : List String).map String.toList := by decide

/-! ## Replacing and joining -/

/-- `str.replace` of a single character by a string. -/
def replaceChar (c : Char) (r : Str) (s : Str) : Str :=
  s.flatMap fun d => if d = c then r else [d]

/-- `sep.join(parts)`. -/
def join (sep : Str) (parts : List Str) : Str := sep.intercalate parts

/-- A joined list begins with its first part. -/
lemma exists_join_cons (sep p : Str) (ps : List Str) : ∃ u, join sep (p :: ps) = p ++ u := by
  cases ps with
  | nil => exact ⟨[], by rw [join, List.intercalate_singleton, List.append_nil]⟩
  | cons q qs =>
    exact ⟨sep ++ join sep (q :: qs), by
      rw [join, List.intercalate_cons_cons, List.append_assoc]; rfl⟩

/-- The first part of a joined list, the separator, and the other parts. -/
lemma join_cons_of_ne_nil (sep p : Str) {ps : List Str} (h : ps ≠ []) :
    join sep (p :: ps) = p ++ (sep ++ join sep ps) := by
  cases ps with
  | nil => exact absurd rfl h
  | cons q qs => rw [join, List.intercalate_cons_cons, List.append_assoc]; rfl

/-- A character of a joined string comes from the separator or from a part. -/
lemma mem_join {sep : Str} {parts : List Str} {c : Char} (h : c ∈ join sep parts) :
    c ∈ sep ∨ ∃ p ∈ parts, c ∈ p := by
  induction parts with
  | nil => simp [join, List.intercalate] at h
  | cons p ps ih =>
    cases ps with
    | nil =>
      simp only [join, List.intercalate_singleton] at h
      exact Or.inr ⟨p, by simp, h⟩
    | cons q qs =>
      rw [join, List.intercalate_cons_cons, List.append_assoc] at h
      rcases List.mem_append.mp h with h | h
      · exact Or.inr ⟨p, by simp, h⟩
      · rcases List.mem_append.mp h with h | h
        · exact Or.inl h
        · rcases ih h with h | ⟨r, hr, hc⟩
          · exact Or.inl h
          · exact Or.inr ⟨r, List.mem_cons_of_mem p hr, hc⟩

/-- What has been indented of a line that goes on. -/
lemma exists_indented_cons (pad cur : Str) {c : Char} (hc : isLineBreak c = false) (t : Str) :
    ∃ u, join "\n" ((splitlinesFrom cur (c :: t)).map (pad ++ ·)) = pad ++ cur ++ c :: u := by
  have hcur : cur ++ [c] ≠ [] := by simp
  obtain ⟨x, rest, hx, -⟩ := exists_splitlinesFrom hcur t
  obtain ⟨u, hu⟩ := exists_join_cons "\n" (pad ++ (cur ++ [c] ++ x)) (rest.map (pad ++ ·))
  refine ⟨x ++ u, ?_⟩
  rw [splitlinesFrom_cons_of_not hc, hx, List.map_cons, hu]
  simp

/-- What has been indented after a line. -/
lemma exists_indented_line (pad cur q : Str) {ls : List Str} {c : Char} {u : Str}
    (h : join "\n" (ls.map (pad ++ ·)) = q ++ c :: u) :
    join "\n" ((cur :: ls).map (pad ++ ·)) = pad ++ cur ++ "\n".toList ++ q ++ c :: u := by
  have hne : ls.map (pad ++ ·) ≠ [] := by
    intro hnil
    rw [hnil] at h
    simp [join, List.intercalate] at h
  rw [List.map_cons, join_cons_of_ne_nil _ _ hne, h]
  simp

/-- What has been indented does not depend on the rest of the text, if the line goes on.

**Proof sketch.** Induction on the text that has been read: it ends in the current line, or a line
ends and what is after it has been indented. -/
lemma exists_indented (pad cur s : Str) :
    ∃ q, ∀ c t, isLineBreak c = false → ∃ u,
      join "\n" ((splitlinesFrom cur (s ++ c :: t)).map (pad ++ ·)) = q ++ c :: u := by
  induction cur, s using splitlinesFrom.induct with
  | case1 => exact ⟨pad ++ [], fun c t hc => exists_indented_cons pad [] hc t⟩
  | case2 cur hcur => exact ⟨pad ++ cur, fun c t hc => exists_indented_cons pad cur hc t⟩
  | case3 cur s ih =>
    obtain ⟨q, hq⟩ := ih
    refine ⟨pad ++ cur ++ "\n".toList ++ q, fun c t hc => ?_⟩
    obtain ⟨u, hu⟩ := hq c t hc
    rw [List.cons_append, List.cons_append, splitlinesFrom]
    exact ⟨u, exists_indented_line pad cur q hu⟩
  | case4 cur d s hcr hbreak ih =>
    obtain ⟨q, hq⟩ := ih
    refine ⟨pad ++ cur ++ "\n".toList ++ q, fun c t hc => ?_⟩
    obtain ⟨u, hu⟩ := hq c t hc
    rw [List.cons_append, splitlinesFrom_cons (append_cons_ne_lineFeed hc hcr t), if_pos hbreak]
    exact ⟨u, exists_indented_line pad cur q hu⟩
  | case5 cur d s hcr hbreak ih =>
    obtain ⟨q, hq⟩ := ih
    refine ⟨q, fun c t hc => ?_⟩
    rw [List.cons_append, splitlinesFrom_cons (append_cons_ne_lineFeed hc hcr t), if_neg hbreak]
    exact hq c t hc

/-- Two strings that end at their first mark, or go on after a mark. -/
lemma append_cons_eq_cases {c c' t t' : Str} {m : Char} (h : c ++ m :: t = c' ++ m :: t') :
    (c = c' ∧ t = t') ∨ (∃ r, c' = c ++ m :: r) ∨ ∃ r, c = c' ++ m :: r := by
  rcases List.append_eq_append_iff.mp h with ⟨r, rfl, hr⟩ | ⟨r, rfl, hr⟩
  · cases r with
    | nil => exact Or.inl ⟨(List.append_nil c).symm, (List.cons.inj hr).2⟩
    | cons d r =>
      obtain ⟨rfl, -⟩ := List.cons.inj hr
      exact Or.inr (Or.inl ⟨r, rfl⟩)
  · cases r with
    | nil => exact Or.inl ⟨List.append_nil c', (List.cons.inj hr).2.symm⟩
    | cons d r =>
      obtain ⟨rfl, -⟩ := List.cons.inj hr
      exact Or.inr (Or.inr ⟨r, rfl⟩)

/-! ## Reading a list item by item -/

/-- Reading the images of a list one by one. -/
lemma mapM_map_eq_some_map {α β γ : Type} {f : α → β} {g : β → Option γ} {k : α → γ} {l : List α}
    (h : ∀ a ∈ l, g (f a) = some (k a)) : (l.map f).mapM g = some (l.map k) := by
  induction l with
  | nil => rfl
  | cons a l ih =>
    rw [List.map_cons, List.mapM_cons, h a (by simp),
      ih fun b hb => h b (List.mem_cons_of_mem a hb)]
    rfl

/-- Reading the images of a list one by one gives the list, if each of them reads back. -/
lemma mapM_map_eq_some {α β : Type} {f : α → β} {g : β → Option α} {l : List α}
    (h : ∀ a ∈ l, g (f a) = some a) : (l.map f).mapM g = some l := by
  simpa using mapM_map_eq_some_map (k := id) h

/-- The results of a function for a list are that of its head and those of its tail. -/
lemma exists_of_mapM_cons {α β : Type} {f : α → Option β} {a : α} {l : List α} {bs : List β}
    (h : (a :: l).mapM f = some bs) :
    ∃ b tail, f a = some b ∧ l.mapM f = some tail ∧ bs = b :: tail := by
  rw [List.mapM_cons] at h
  obtain ⟨b, hb, h⟩ := Option.bind_eq_some_iff.mp h
  obtain ⟨tail, htail, hcons⟩ := Option.bind_eq_some_iff.mp h
  exact ⟨b, tail, hb, htail, (Option.some.inj hcons).symm⟩

/-- Every item of a list that is read is read to one of the results. -/
lemma exists_of_mapM {α β : Type} {g : α → Option β} {l : List α} {bs : List β}
    (h : l.mapM g = some bs) {a : α} (ha : a ∈ l) : ∃ b ∈ bs, g a = some b := by
  induction l generalizing bs with
  | nil => simp at ha
  | cons x l ih =>
    obtain ⟨b, bs', hb, hbs', rfl⟩ := exists_of_mapM_cons h
    rcases List.mem_cons.mp ha with rfl | ha
    · exact ⟨b, by simp, hb⟩
    · obtain ⟨b', hmem, hb'⟩ := ih hbs' ha
      exact ⟨b', List.mem_cons_of_mem b hmem, hb'⟩

/-- Every result of a list that is read is that of one of its items. -/
lemma exists_of_mem_mapM {α β : Type} {g : α → Option β} {l : List α} {bs : List β}
    (h : l.mapM g = some bs) {b : β} (hb : b ∈ bs) : ∃ a ∈ l, g a = some b := by
  induction l generalizing bs with
  | nil =>
    cases h
    simp at hb
  | cons x l ih =>
    obtain ⟨c, bs', hc, hbs', rfl⟩ := exists_of_mapM_cons h
    rcases List.mem_cons.mp hb with rfl | hb
    · exact ⟨x, by simp, hc⟩
    · obtain ⟨a, ha, hread⟩ := ih hbs' hb
      exact ⟨a, List.mem_cons_of_mem x ha, hread⟩

/-- Every item of a list that is read without an error is read without one. -/
lemma exists_ok_of_mapM {α β ε : Type} {g : α → Except ε β} {l : List α} {bs : List β}
    (h : l.mapM g = .ok bs) {a : α} (ha : a ∈ l) : ∃ b, g a = .ok b := by
  induction l generalizing bs with
  | nil => simp at ha
  | cons x l ih =>
    rw [List.mapM_cons] at h
    cases hx : g x with
    | error e =>
      rw [hx] at h
      cases h
    | ok b =>
      cases hl : l.mapM g with
      | error e =>
        rw [hx, hl] at h
        cases h
      | ok bs' =>
        rcases List.mem_cons.mp ha with rfl | ha
        · exact ⟨b, hx⟩
        · exact ih hl ha

/-- Reading the images of a list one by one, none of which is an error. -/
lemma mapM_map_eq_ok_map {α β γ ε : Type} {f : α → β} {g : β → Except ε γ} {k : α → γ} {l : List α}
    (h : ∀ a ∈ l, g (f a) = .ok (k a)) : (l.map f).mapM g = .ok (l.map k) := by
  induction l with
  | nil => rfl
  | cons a l ih =>
    rw [List.map_cons, List.mapM_cons, h a (by simp),
      ih fun b hb => h b (List.mem_cons_of_mem a hb)]
    rfl

/-- A list whose items are all read without an error is read. -/
lemma exists_mapM_ok {α β ε : Type} {g : α → Except ε β} {l : List α}
    (h : ∀ a ∈ l, ∃ b, g a = .ok b) : ∃ bs, l.mapM g = .ok bs := by
  induction l with
  | nil => exact ⟨[], rfl⟩
  | cons x l ih =>
    obtain ⟨b, hb⟩ := h x (by simp)
    obtain ⟨bs, hbs⟩ := ih fun a ha => h a (List.mem_cons_of_mem x ha)
    refine ⟨b :: bs, ?_⟩
    rw [List.mapM_cons, hb, hbs]
    rfl

end Text
