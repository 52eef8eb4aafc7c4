import DngPreflight.Text.Template
import DngPreflight.Yaml.Lines
import DngPreflight.Yaml.Scalar

set_option relaxedAutoImplicit false
set_option autoImplicit false

/-!
# Reading block mappings

A reader for the documents of YAML that are made of block mappings, block sequences, scalars on one
line and literal scalars, and that end with a line feed. It reads a part of the language: a document
that it does not read may still be one of YAML, but what it reads is what the document means.

## Main definitions

* `Yaml.Line` — a line, with its indentation apart.
* `Yaml.block` — the value of some lines.
* `Yaml.skipFrom` — what follows the blank lines and comments at the head of a document.
* `Yaml.load` — the value of a document.
* `Yaml.HasLines`, `Yaml.Reads` — the lines of a template, and what is read from them.

## Main results

* `Yaml.Reads.append`, `Yaml.Reads.cons` — templates are read part by part, a line together with
  what belongs to it.
* `Yaml.block_of_entries`, `Yaml.block_of_items` — mappings and sequences.
* `Yaml.load_render` — the document that a template renders to, with comments in front of it.
-/

namespace Yaml

open Text Codec

/-! ## Lines -/

/-- A line: the number of spaces it begins with, and what follows them. -/
structure Line where
  indent : ℕ
  rest : Str
  deriving DecidableEq

namespace Line

/-- The line with a text. -/
def ofText (s : Str) : Line := ⟨(s.takeWhile (· = ' ')).length, s.dropWhile (· = ' ')⟩

/-- Blank lines and comments. -/
def isSkipped (l : Line) : Bool := l.rest.head?.all (· = '#')

/-- The line is part of the value of a line with the given indentation before it. -/
def belongs (n : ℕ) (l : Line) : Bool := decide (l.rest = [] ∨ n < l.indent)

/-- The line begins an item of a sequence. -/
def isItem (l : Line) : Bool := l.rest = ['-'] || ['-', ' '].isPrefixOf l.rest

/-- The line begins an entry of a mapping. -/
def isEntry (l : Line) : Bool := beginsPlain l.rest && (splitKey l.rest).isSome

/-- The text of a line of a literal scalar with the given indentation. -/
def literal (n : ℕ) (l : Line) : Option Str :=
  if n ≤ l.indent then some (List.replicate (l.indent - n) ' ' ++ l.rest)
  else if l.rest = [] then some [] else none

end Line

/-! ## The reader -/

/-- Read lines with the given indentation one by one, each with the lines that belong to it. The
lines in front of the first of them are left over. -/
def readAll {β : Type} (read : Line → List Line → Option β) (n : ℕ) :
    List Line → Option (List Line × List β)
  | [] => some ([], [])
  | l :: ls => (readAll read n ls).bind fun r =>
    if r.1 = [] ∧ l.rest = [] ∧ l.indent ≤ n then some r
    else if l.belongs n then some (l :: r.1, r.2)
    else if l.isSkipped then
      if r.1.all Line.isSkipped then some ([], r.2) else none
    else (read l r.1).map fun b => ([], b :: r.2)

/-- A literal scalar, whose last line ends with a line feed: its indentation is that of its first
line, and of the blank lines at its end nothing remains. -/
def readLiteral : List Line → Option Str
  | [] => none
  | l :: ls =>
    if l.rest = [] then none
    else ((l :: ls).mapM (Line.literal l.indent)).map fun texts =>
      join "\n" (texts.rdropWhile (· = [])) ++ "\n".toList

section Entries

variable (nested : List Line → Option Tree)

/-- A value that begins after a key, the lines that belong to it being given. -/
def readValue (v : Str) (body : List Line) : Option Tree :=
  if v = [] then nested body
  else if v = ['|'] then (readLiteral body).map fun s => .scalar (.str s)
  else if body.all Line.isSkipped then readInline v else none

/-- An entry of a mapping with the given indentation. -/
def readEntry (n : ℕ) (header : Line) (body : List Line) : Option (Scalar × Tree) :=
  if header.indent = n then
    (readKey header.rest).bind fun r => (readValue nested r.2 body).map fun x => (r.1, x)
  else none

/-- An item of a sequence with the given indentation. -/
def readItem (n : ℕ) (header : Line) (body : List Line) : Option Tree :=
  if header.indent = n then
    match header.rest with
    | ['-'] => nested body
    | '-' :: ' ' :: s =>
      nested (⟨n + 2 + (Line.ofText s).indent, (Line.ofText s).rest⟩ :: body)
    | _ => none
  else none

end Entries

/-- The value of some lines. -/
def block : ℕ → List Line → Option Tree
  | 0, _ => none
  | f + 1, ls =>
    match ls.dropWhile Line.isSkipped with
    | [] => some (.scalar .null)
    | l :: ls =>
      if l.isItem then
        (readAll (readItem (block f) l.indent) l.indent (l :: ls)).map fun r => .seq r.2
      else if l.isEntry then
        (readAll (readEntry (block f) l.indent) l.indent (l :: ls)).map fun r =>
          .map (Dict.ofList r.2).entries
      else if ls.all Line.isSkipped then readInline l.rest
      else none

/-- What a document is divided with. -/
def markers : List Str := [['-', '-', '-'], ['.', '.', '.']]

/-- A line of a document that is not divided. -/
def isLine (s : Str) : Bool := s.all isLineChar && markers.all fun m => ! m.isPrefixOf s

/-- What is left of a text after the blank lines and comments that it begins with, `cur` being the
part of the current line already read. These may end with any line break. -/
def skipFrom (cur : Str) : Str → Str
  | [] => []
  | c :: s =>
    if isBreak c then skipFrom [] s
    else if (Line.ofText (cur ++ [c])).isSkipped then skipFrom (cur ++ [c]) s
    else cur ++ c :: s

/-- The value of a document. In the part of it that is read as values, lines end with line feeds. -/
def load (s : Str) : Option Tree :=
  if s.head? ≠ some '\uFEFF' ∧ s.getLast? = some '\n' ∧
      (s.all fun c => isLineChar c || isBreak c) ∧ (feedLines (skipFrom [] s)).all isLine then
    block (s.length + 1) ((feedLines (skipFrom [] s)).map Line.ofText)
  else none

/-! ## The head of a document -/

/-- A character of a line does not end it. -/
lemma isBreak_of_isLineChar {c : Char} (h : isLineChar c = true) : isBreak c = false := by
  rw [← Bool.not_eq_true]
  intro hc
  have hbreak := isLineBreak_of_isLineChar h
  rw [isLineBreak_of_isBreak hc] at hbreak
  cases hbreak

/-- The text begins in a comment, which ends in it, and after it there are only blank lines and
comments. -/
def EndsComment (s : Str) : Prop := ∀ x, skipFrom ('#' :: x) s = []

/-- A comment goes on to its line break. -/
lemma skipFrom_comment_cons (x : Str) (c : Char) (s : Str) : skipFrom ('#' :: x) (c :: s) =
    if isBreak c then skipFrom [] s else skipFrom ('#' :: (x ++ [c])) s := rfl

/-- What has been read of a comment does not matter. -/
lemma endsComment_iff {s : Str} : EndsComment s ↔ skipFrom ['#'] s = [] := by
  have hgoes : ∀ y, skipFrom ('#' :: y) s = [] → ∀ x, skipFrom ('#' :: x) s = [] := by
    induction s with
    | nil => exact fun _ _ _ => rfl
    | cons c s ih =>
      intro y hy x
      rw [skipFrom_comment_cons] at hy ⊢
      split_ifs at hy ⊢
      · exact hy
      · exact ih (y ++ [c]) hy (x ++ [c])
  exact ⟨fun h => h [], hgoes []⟩

namespace EndsComment

/-- A comment may end at once. -/
lemma feed : EndsComment ['\n'] := fun _ => rfl

/-- A comment with a text in front of its end. -/
lemma append {a s : Str} (ha : a.all isLineChar = true) (hs : EndsComment s) :
    EndsComment (a ++ s) := by
  induction a with
  | nil => exact hs
  | cons c a ih =>
    intro x
    rw [List.all_cons, Bool.and_eq_true] at ha
    rw [List.cons_append, skipFrom_comment_cons, if_neg (by simp [isBreak_of_isLineChar ha.1])]
    exact ih ha.2 (x ++ [c])

end EndsComment

/-- Blank lines and comments to the end of a line are left out, whatever follows. -/
lemma skipFrom_append {cur a : Str} (h : skipFrom cur (a ++ ['\n']) = []) (s : Str) :
    skipFrom cur (a ++ '\n' :: s) = skipFrom [] s := by
  induction a generalizing cur with
  | nil => rfl
  | cons c a ih =>
    rw [List.cons_append, skipFrom] at h ⊢
    split_ifs at h ⊢
    · exact ih h
    · exact ih h
    · exact absurd h (by simp)

/-- A comment at the head of a document is left out. -/
lemma skipFrom_comment {a : Str} (h : EndsComment (a ++ ['\n'])) (s : Str) :
    skipFrom [] ('#' :: (a ++ '\n' :: s)) = skipFrom [] s := by
  have hmark : skipFrom ['#'] (a ++ ['\n']) = [] := h []
  exact skipFrom_append hmark s

/-! ## Reading line by line -/

/-- A text of some spaces and a rest. -/
lemma Line.ofText_append (n : ℕ) {c : Char} (hc : c ≠ ' ') (s : Str) :
    Line.ofText (List.replicate n ' ' ++ c :: s) = ⟨n, c :: s⟩ := by
  simp [Line.ofText, List.takeWhile_append_of_pos, List.dropWhile_append_of_pos, hc]

/-- A line that begins like a plain scalar is no item of a sequence. -/
lemma Line.isItem_of_beginsPlain {l : Line} (h : beginsPlain l.rest = true) : l.isItem = false := by
  rw [← Bool.not_eq_true, Line.isItem, Bool.or_eq_true, decide_eq_true_eq, not_or]
  constructor
  · intro hitem
    rw [hitem] at h
    cases h
  · intro hitem
    obtain ⟨s, hs⟩ := List.isPrefixOf_iff_prefix.mp hitem
    rw [← hs] at h
    cases h

variable {β : Type} {read : Line → List Line → Option β} {n : ℕ}

/-- Lines that are read, and lines after them. -/
lemma readAll_append {ls ms : List Line} {body : List Line} {bs cs : List β}
    (hl : readAll read n ls = some (body, bs)) (hm : readAll read n ms = some ([], cs)) :
    readAll read n (ls ++ ms) = some (body, bs ++ cs) := by
  induction ls generalizing body bs with
  | nil =>
    cases hl
    exact hm
  | cons l ls ih =>
    obtain ⟨⟨body', bs'⟩, hl', hstep⟩ := Option.bind_eq_some_iff.mp hl
    rw [List.cons_append, readAll, ih hl', Option.bind_some]
    dsimp only at hstep ⊢
    split_ifs at hstep ⊢ with hblank hbelongs hskipped hbody
    · cases hstep
      rfl
    · cases hstep
      rfl
    · cases hstep
      rfl
    · obtain ⟨b, hb, he⟩ := Option.map_eq_some_iff.mp hstep
      cases he
      rw [hb]
      rfl

/-- Lines that are indented more belong to what is before them. -/
lemma readAll_of_indented {ls : List Line} (h : ∀ l ∈ ls, n < l.indent) :
    readAll read n ls = some (ls, []) := by
  induction ls with
  | nil => rfl
  | cons l ls ih =>
    have hl : n < l.indent := h l (by simp)
    rw [readAll, ih fun m hm => h m (List.mem_cons_of_mem l hm), Option.bind_some,
      if_neg fun hblank => absurd hblank.2.2 (by omega), if_pos (by simp [Line.belongs, hl])]

/-- A line with the lines that belong to it. -/
lemma readAll_cons {l : Line} {ls : List Line} {b : β} (hl : l.indent = n)
    (hskipped : l.isSkipped = false) (h : ∀ m ∈ ls, n < m.indent) (hread : read l ls = some b) :
    readAll read n (l :: ls) = some ([], [b]) := by
  have hne : l.rest ≠ [] := by
    intro hnil
    rw [Line.isSkipped, hnil] at hskipped
    cases hskipped
  rw [readAll, readAll_of_indented h, Option.bind_some, if_neg fun hblank => hne hblank.2.1,
    if_neg (by simp [Line.belongs, hne, hl]), if_neg (by simp [hskipped]), hread]
  rfl

/-- The first of some lines that are read. -/
lemma exists_of_readAll {ls body : List Line} {b : β} {bs : List β}
    (h : readAll read n ls = some (body, b :: bs)) (hbody : body.all Line.isSkipped = true) :
    ∃ l rest body', ls.dropWhile Line.isSkipped = l :: rest ∧ read l body' = some b ∧
      readAll read n (l :: rest) = some ([], b :: bs) := by
  induction ls generalizing body with
  | nil => cases h
  | cons l ls ih =>
    have h' := h
    obtain ⟨⟨body', bs'⟩, hl, hstep⟩ := Option.bind_eq_some_iff.mp h
    dsimp only at hstep
    split_ifs at hstep with hblank hbelongs hskipped hall
    · cases hstep
      obtain rfl : body = [] := hblank.1
      rw [List.dropWhile_cons_of_pos (by simp [Line.isSkipped, hblank.2.1])]
      exact ih hl hbody
    · cases hstep
      rw [List.all_cons, Bool.and_eq_true] at hbody
      rw [List.dropWhile_cons_of_pos hbody.1]
      exact ih hl hbody.2
    · cases hstep
      rw [List.dropWhile_cons_of_pos hskipped]
      exact ih hl hall
    · obtain ⟨c, hc, he⟩ := Option.map_eq_some_iff.mp hstep
      cases he
      rw [List.dropWhile_cons_of_neg hskipped]
      exact ⟨l, ls, body', rfl, hc, h'⟩

/-- Lines that are read as entries are a mapping. -/
lemma block_of_entries {f : ℕ} {ls : List Line} {e : Scalar × Tree} {es : List (Scalar × Tree)}
    (h : readAll (readEntry (block f) n) n ls = some ([], e :: es)) :
    block (f + 1) ls = some (.map (Dict.ofList (e :: es)).entries) := by
  obtain ⟨l, rest, body, hdrop, hread, hall⟩ := exists_of_readAll h rfl
  rw [readEntry] at hread
  split_ifs at hread with hindent
  obtain ⟨r, hkey, -⟩ := Option.bind_eq_some_iff.mp hread
  have hentry : l.isEntry = true := by
    rw [Line.isEntry, beginsPlain_of_readKey hkey, Bool.true_and]
    obtain ⟨q, hq, -⟩ := Option.bind_eq_some_iff.mp hkey
    rw [hq, Option.isSome_some]
  have hitem : l.isItem = false := Line.isItem_of_beginsPlain (beginsPlain_of_readKey hkey)
  rw [block, hdrop]
  simp only [hitem, hentry, if_true, hindent, hall, Option.map_some]
  rfl

/-- Lines that are read as items are a sequence. -/
lemma block_of_items {f : ℕ} {ls : List Line} {x : Tree} {xs : List Tree}
    (h : readAll (readItem (block f) n) n ls = some ([], x :: xs)) :
    block (f + 1) ls = some (.seq (x :: xs)) := by
  obtain ⟨l, rest, body, hdrop, hread, hall⟩ := exists_of_readAll h rfl
  rw [readItem] at hread
  split_ifs at hread with hindent
  have hitem : l.isItem = true := by
    rw [Line.isItem]
    split at hread
    · next hrest => simp [hrest]
    · next hrest => simp [hrest]
    · cases hread
  rw [block, hdrop]
  simp only [hitem, if_true, hindent, hall, Option.map_some]

/-! ## Literal scalars -/

/-- An indented text. -/
lemma Line.ofText_replicate (n : ℕ) (s : Str) :
    Line.ofText (List.replicate n ' ' ++ s) =
      ⟨n + (Line.ofText s).indent, (Line.ofText s).rest⟩ := by
  simp [Line.ofText, List.takeWhile_append_of_pos, List.dropWhile_append_of_pos]

/-- A line of a literal scalar is read back. -/
lemma Line.literal_ofText (n : ℕ) (s : Str) :
    Line.literal n (Line.ofText (List.replicate n ' ' ++ s)) = some s := by
  have hspaces : List.replicate (s.takeWhile (· = ' ')).length ' ' = s.takeWhile (· = ' ') := by
    refine (List.eq_replicate_iff.mpr ⟨rfl, fun c hc => ?_⟩).symm
    simpa using List.mem_takeWhile_imp hc
  rw [Line.ofText_replicate, Line.literal, if_pos (Nat.le_add_right _ _), Nat.add_sub_cancel_left]
  simp only [Line.ofText]
  rw [hspaces, List.takeWhile_append_dropWhile]

/-- **A literal scalar** is read back from its lines, if the first of them begins with no space and
the last of them is not empty. -/
lemma readLiteral_map {c : Char} {s : Str} {ls : List Str} (hc : c ≠ ' ')
    (hlast : ((c :: s) :: ls).getLast? ≠ some []) (n : ℕ) :
    readLiteral (((c :: s) :: ls).map fun l => Line.ofText (List.replicate n ' ' ++ l)) =
      some (join "\n" ((c :: s) :: ls) ++ "\n".toList) := by
  have hfirst : Line.ofText (List.replicate n ' ' ++ c :: s) = ⟨n, c :: s⟩ :=
    Line.ofText_append n hc s
  have htexts : (((c :: s) :: ls).map fun l => Line.ofText (List.replicate n ' ' ++ l)).mapM
      (Line.literal n) = some ((c :: s) :: ls) :=
    mapM_map_eq_some fun l _ => Line.literal_ofText n l
  have htrim : ((c :: s) :: ls).rdropWhile (· = []) = (c :: s) :: ls := by
    rw [List.rdropWhile_eq_self_iff]
    intro hne h
    rw [List.getLast?_eq_some_getLast hne] at hlast
    exact hlast (congrArg some (of_decide_eq_true h))
  rw [List.map_cons, hfirst] at htexts ⊢
  rw [readLiteral, if_neg (List.cons_ne_nil _ _), htexts, Option.map_some, htrim]

/-! ## Templates -/

/-- The template renders to the lines, which are indented by the given number of spaces at
least. -/
def HasLines (n : ℕ) (t : Template) (ls : List Line) : Prop :=
  ∃ texts : List Str, render t = texts.flatMap (· ++ "\n".toList) ∧
    (∀ s ∈ texts, isLine s = true ∧ n ≤ (Line.ofText s).indent) ∧ ls = texts.map Line.ofText

/-- The lines of the template are read. -/
def Reads (read : Line → List Line → Option β) (n : ℕ) (t : Template) (bs : List β) : Prop :=
  ∃ ls, HasLines n t ls ∧ readAll read n ls = some ([], bs)

namespace HasLines

/-- No lines. -/
lemma nil (n : ℕ) : HasLines n [] [] := ⟨[], rfl, by simp, rfl⟩

/-- Lines one after the other. -/
lemma append {t u : Template} {ls ms : List Line} (ht : HasLines n t ls) (hu : HasLines n u ms) :
    HasLines n (t ++ u) (ls ++ ms) := by
  obtain ⟨ts, hts, hline, rfl⟩ := ht
  obtain ⟨us, hus, hline', rfl⟩ := hu
  refine ⟨ts ++ us, ?_, ?_, List.map_append.symm⟩
  · rw [render_append, hts, hus, List.flatMap_append]
  · intro s hs
    rcases List.mem_append.mp hs with hs | hs
    · exact hline s hs
    · exact hline' s hs

/-- A lower bound of the indentation. -/
lemma indent_le {t : Template} {ls : List Line} (h : HasLines n t ls) {l : Line} (hl : l ∈ ls) :
    n ≤ l.indent := by
  obtain ⟨ts, -, hline, rfl⟩ := h
  obtain ⟨s, hs, rfl⟩ := List.mem_map.mp hl
  exact (hline s hs).2

/-- Lines that are indented more. -/
lemma mono {m : ℕ} {t : Template} {ls : List Line} (h : HasLines m t ls) (hn : n ≤ m) :
    HasLines n t ls := by
  obtain ⟨ts, hts, hline, rfl⟩ := h
  exact ⟨ts, hts, fun s hs => ⟨(hline s hs).1, hn.trans (hline s hs).2⟩, rfl⟩

/-- Fixed lines. -/
lemma cons {text : String} {s : Str} {l : List String} {ls : List Line}
    (hs : text.toByteArray = s.utf8Encode)
    (hline : (isLine s && decide (n ≤ (Line.ofText s).indent)) = true)
    (h : HasLines n (lines l) ls) : HasLines n (lines (text :: l)) (Line.ofText s :: ls) := by
  rw [Bool.and_eq_true, decide_eq_true_eq] at hline
  have hfirst : HasLines n (Text.line [text]) [Line.ofText s] := by
    refine ⟨[s], ?_, by simpa using hline, rfl⟩
    rw [Text.line, render_append, render_cons, Piece.text, toList_eq hs]
    simp [Piece.text]
  exact hfirst.append h

/-- A line with values. -/
lemma line {ps : Template} {c : Char} {s : Str}
    (hrender : render ps = List.replicate n ' ' ++ c :: s) (hc : c ≠ ' ')
    (hline : isLine (List.replicate n ' ' ++ c :: s) = true) :
    HasLines n (line ps) [⟨n, c :: s⟩] := by
  refine ⟨[List.replicate n ' ' ++ c :: s], ?_, ?_, ?_⟩
  · rw [Text.line, render_append, hrender]
    simp [Piece.text]
  · intro t ht
    rw [List.mem_singleton.mp ht, Line.ofText_append n hc]
    exact ⟨hline, le_rfl⟩
  · rw [List.map_singleton, Line.ofText_append n hc]

end HasLines

namespace Reads

/-- Nothing to read. -/
lemma nil : Reads read n [] [] := ⟨[], .nil n, rfl⟩

/-- **Templates are read part by part.** -/
lemma append {t u : Template} {bs cs : List β} (ht : Reads read n t bs) (hu : Reads read n u cs) :
    Reads read n (t ++ u) (bs ++ cs) := by
  obtain ⟨ls, hls, hread⟩ := ht
  obtain ⟨ms, hms, hread'⟩ := hu
  exact ⟨ls ++ ms, hls.append hms, readAll_append hread hread'⟩

/-- A loop is read round by round. -/
lemma exists_flatMap {α γ : Type} {f : α → Template} {p : β → γ} {q : α → γ} {l : List α}
    (h : ∀ a ∈ l, ∃ b, p b = q a ∧ Reads read n (f a) [b]) :
    ∃ bs, bs.map p = l.map q ∧ Reads read n (l.flatMap f) bs := by
  induction l with
  | nil => exact ⟨[], rfl, .nil⟩
  | cons a l ih =>
    obtain ⟨b, hb, hread⟩ := h a (by simp)
    obtain ⟨bs, hbs, hreads⟩ := ih fun a ha => h a (List.mem_cons_of_mem _ ha)
    refine ⟨b :: bs, by rw [List.map_cons, List.map_cons, hb, hbs], ?_⟩
    rw [List.flatMap_cons]
    exact hread.append hreads

/-- **A line with what belongs to it** is read. -/
lemma cons {m : ℕ} {t u : Template} {l : Line} {ls : List Line} {b : β} (ht : HasLines n t [l])
    (hl : l.indent = n) (hskipped : l.isSkipped = false) (hu : HasLines m u ls) (hm : n < m)
    (hread : read l ls = some b) : Reads read n (t ++ u) [b] :=
  ⟨l :: ls, ht.append (hu.mono hm.le),
    readAll_cons hl hskipped (fun _ h => hm.trans_le (hu.indent_le h)) hread⟩

/-- A line that is read by itself. -/
lemma single {t : Template} {l : Line} {b : β} (ht : HasLines n t [l]) (hl : l.indent = n)
    (hskipped : l.isSkipped = false) (hread : read l [] = some b) : Reads read n t [b] :=
  ⟨[l], ht, readAll_cons hl hskipped (by simp) hread⟩

/-- A comment with the comments that belong to it is not read. -/
lemma comment {m : ℕ} {t u : Template} {l : Line} {ls : List Line} (ht : HasLines n t [l])
    (hl : l.indent = n) (hcomment : l.rest.head? = some '#') (hu : HasLines m u ls) (hm : n < m)
    (hls : ls.all Line.isSkipped = true) : Reads read n (t ++ u) [] := by
  have hindent : ∀ l ∈ ls, n < l.indent := fun _ h => hm.trans_le (hu.indent_le h)
  have hskipped : l.isSkipped = true := by
    rw [Line.isSkipped, hcomment]
    rfl
  have hne : l.rest ≠ [] := by
    intro hnil
    rw [hnil] at hcomment
    cases hcomment
  refine ⟨l :: ls, ht.append (hu.mono hm.le), ?_⟩
  rw [readAll, readAll_of_indented hindent, Option.bind_some, if_neg fun hblank => hne hblank.2.1,
    if_neg (by simp [Line.belongs, hne, hl]), if_pos hskipped, if_pos hls]

end Reads

/-! ## Lines with values -/

/-- A line of characters of a line, after some spaces. -/
lemma isLine_replicate (hn : 0 < n) {s : Str} (hs : s.all isLineChar = true) :
    isLine (List.replicate n ' ' ++ s) = true := by
  obtain ⟨n, rfl⟩ := Nat.exists_eq_add_of_lt hn
  rw [isLine, List.all_append, hs, Bool.and_true, List.all_replicate, Nat.zero_add]
  rfl

section Keys

variable {nested : List Line → Option Tree} {m : ℕ} {t u : Template} {key : Scalar} {v : Str}
  {l : Line} {ls : List Line}

/-- A line that begins with a key is not skipped. -/
lemma isSkipped_of_readKey (hkey : readKey l.rest = some (key, v)) : l.isSkipped = false := by
  obtain ⟨c, r, hcons, -, hcomment⟩ := exists_of_beginsPlain (beginsPlain_of_readKey hkey)
  simp [Line.isSkipped, hcons, hcomment]

/-- **A key with a value under it** is read. -/
lemma reads_nested {x : Tree} (ht : HasLines n t [l]) (hl : l.indent = n)
    (hkey : readKey l.rest = some (key, [])) (hu : HasLines m u ls) (hm : n < m)
    (hx : nested ls = some x) : Reads (readEntry nested n) n (t ++ u) [(key, x)] := by
  refine .cons ht hl (isSkipped_of_readKey hkey) hu hm ?_
  rw [readEntry, if_pos hl, hkey, Option.bind_some, readValue, if_pos rfl, hx, Option.map_some]

/-- **A key with a literal scalar under it** is read. -/
lemma reads_literal {x : Str} (ht : HasLines n t [l]) (hl : l.indent = n)
    (hkey : readKey l.rest = some (key, ['|'])) (hu : HasLines m u ls) (hm : n < m)
    (hx : readLiteral ls = some x) :
    Reads (readEntry nested n) n (t ++ u) [(key, .scalar (.str x))] := by
  refine .cons ht hl (isSkipped_of_readKey hkey) hu hm ?_
  rw [readEntry, if_pos hl, hkey, Option.bind_some, readValue, if_neg (List.cons_ne_nil _ _),
    if_pos rfl, hx, Option.map_some, Option.map_some]

/-- The line of a key. -/
lemma hasLines_keyOf {ps : Template} {s : Str} (hn : 0 < n)
    (hrender : render ps = List.replicate n ' ' ++ (s ++ [':'])) (hs : s.all isLineChar = true)
    (hkey : keyOf s = some key) : HasLines n (line ps) [⟨n, s ++ [':']⟩] := by
  have hread : readKey (s ++ [':']) = some (key, []) := readKey_of_keyOf hkey
  obtain ⟨c, r, hcons, hspace, -⟩ := exists_of_beginsPlain (beginsPlain_of_readKey hread)
  have hline : isLine (List.replicate n ' ' ++ (s ++ [':'])) = true :=
    isLine_replicate hn (by rw [List.all_append, hs]; rfl)
  rw [hcons] at hrender hline ⊢
  exact .line hrender hspace hline

end Keys

/-- **A key with a quoted value** is read. -/
lemma reads_quoted {nested : List Line → Option Tree} {ps : Template} {k s v : Str} {key : Scalar}
    (hn : 0 < n) (hrender : render ps = List.replicate n ' ' ++
      (k ++ ':' :: ' ' :: '\'' :: (s ++ ['\'']))) (hk : k.all isLineChar = true)
    (hplain : isPlain k [':'] = true) (hlength : k.length ≤ maxKeyLength)
    (hkey : (resolve k).filter isKey = some key) (hs : s.all isLineChar = true)
    (hv : paired s = some v) :
    Reads (readEntry nested n) n (line ps) [(key, .scalar (.str v))] := by
  have hread : readKey (k ++ ':' :: ' ' :: '\'' :: (s ++ ['\''])) =
      some (key, '\'' :: (s ++ ['\''])) :=
    readKey_append (v := '\'' :: (s ++ ['\''])) hplain hlength hkey rfl
  obtain ⟨c, r, hcons, hspace, -⟩ := exists_of_beginsPlain (beginsPlain_of_readKey hread)
  have hline : isLine (List.replicate n ' ' ++ (k ++ ':' :: ' ' :: '\'' :: (s ++ ['\'']))) = true :=
    isLine_replicate hn (by simp [hk, hs, isLineChar])
  rw [hcons] at hrender hread hline
  refine .single (.line hrender hspace hline) rfl (isSkipped_of_readKey hread) ?_
  rw [readEntry, if_pos rfl, hread, Option.bind_some, readValue, if_neg (List.cons_ne_nil _ _),
    if_neg (by simp), List.all_nil, if_pos rfl, readInline_quoted hv, Option.map_some]

/-- **A quoted item** is read. -/
lemma reads_item {f : ℕ} {ps : Template} {s v : Str} (hn : 0 < n)
    (hrender : render ps = List.replicate n ' ' ++ '-' :: ' ' :: '\'' :: (s ++ ['\'']))
    (hs : s.all isLineChar = true) (hv : paired s = some v) :
    Reads (readItem (block (f + 1)) n) n (line ps) [.scalar (.str v)] := by
  have hline : isLine (List.replicate n ' ' ++ '-' :: ' ' :: '\'' :: (s ++ ['\''])) = true :=
    isLine_replicate hn (by simp [hs, isLineChar])
  have hvalue : readItem (block (f + 1)) n ⟨n, '-' :: ' ' :: '\'' :: (s ++ ['\''])⟩ [] =
      readInline ('\'' :: (s ++ ['\''])) := by
    rw [readItem, if_pos rfl]
    rfl
  refine .single (.line hrender (by decide) hline) rfl rfl ?_
  rw [hvalue, readInline_quoted hv]

/-! ## Documents -/

/-- The value at a path of keys. -/
def valueAt : Tree → List String → Option Tree
  | t, [] => some t
  | .map es, k :: ks => (es.lookup (field k)).bind fun t => valueAt t ks
  | _, _ :: _ => none

/-- The value at a path that begins with a key. -/
lemma valueAt_cons {es : List (Scalar × Tree)} {k : String} {t : Tree}
    (hnodup : (es.map Prod.fst).Nodup) (h : (field k, t) ∈ es) (ks : List String) :
    valueAt (.map es) (k :: ks) = valueAt t ks := by
  rw [valueAt, Dict.lookup_of_mem hnodup h, Option.bind_some]

/-- There is no value at a path that begins with another key. -/
lemma valueAt_eq_none {es : List (Scalar × Tree)} {k : String} (h : field k ∉ es.map Prod.fst)
    (ks : List String) : valueAt (.map es) (k :: ks) = none := by
  have hnone : es.lookup (field k) = none :=
    List.lookup_eq_none_iff.mpr fun p hp => bne_iff_ne.mpr fun he =>
      h (he ▸ List.mem_map_of_mem hp)
  rw [valueAt, hnone, Option.bind_none]

/-- **The lines that are read as entries** are the value of a document, whatever blank lines and
comments are in front of them. -/
lemma load_render {a : Str} {t : Template} {e : Scalar × Tree} {es : List (Scalar × Tree)}
    (h : Reads (readEntry (block (a ++ render t).length) 0) 0 t (e :: es))
    (hskip : skipFrom [] (a ++ render t) = render t)
    (hhead : (a ++ render t).head? ≠ some '\uFEFF')
    (ha : (a.all fun c => isLineChar c || isBreak c) = true) :
    load (a ++ render t) = some (.map (Dict.ofList (e :: es)).entries) := by
  obtain ⟨ls, ⟨texts, hrender, hline, rfl⟩, hread⟩ := h
  have hchars : ∀ s ∈ texts, s.all isLineChar = true := fun s hs =>
    (Bool.and_eq_true_iff.mp (hline s hs).1).1
  have hfeed : ∀ s ∈ texts, '\n' ∉ s := fun s hs hmem =>
    absurd (List.all_eq_true.mp (hchars s hs) '\n' hmem) (by decide)
  have hlines : feedLines (render t) = texts ++ [[]] := by
    rw [hrender]
    exact feedLines_flatMap hfeed
  have hall : (feedLines (skipFrom [] (a ++ render t))).all isLine = true := by
    rw [hskip, hlines, List.all_append, Bool.and_eq_true]
    exact ⟨List.all_eq_true.mpr fun s hs => (hline s hs).1, rfl⟩
  have hprintable : ((a ++ render t).all fun c => isLineChar c || isBreak c) = true := by
    rw [List.all_append, ha, Bool.true_and, hrender, List.all_flatMap]
    refine List.all_eq_true.mpr fun s hs => List.all_eq_true.mpr fun c hc => ?_
    rcases List.mem_append.mp hc with hc | hc
    · rw [List.all_eq_true.mp (hchars s hs) c hc, Bool.true_or]
    · rw [show c = '\n' by simpa using hc]
      rfl
  have hlast : (a ++ render t).getLast? = some '\n' := by
    obtain rfl | ⟨ts, last, rfl⟩ := texts.eq_nil_or_concat
    · cases hread
    · rw [hrender, List.concat_eq_append, List.flatMap_append, List.flatMap_singleton,
        ← List.append_assoc, ← List.append_assoc]
      exact List.getLast?_concat
  have hend : readAll (readEntry (block (a ++ render t).length) 0) 0 [Line.ofText []] =
    some ([], []) := rfl
  have hread' := readAll_append hread hend
  rw [List.append_nil] at hread'
  rw [load, if_pos ⟨hhead, hlast, hprintable, hall⟩, hskip, hlines, List.map_append]
  exact block_of_entries hread'

example : load "on: 1\n" = some (.map [(.bool true, .scalar (.int 1))]) := rfl

end Yaml
