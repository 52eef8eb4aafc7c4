import DngPreflight.Text.Basic

set_option relaxedAutoImplicit false
set_option autoImplicit false

/-!
# Templates

A rendered template is the concatenation of fixed text and of substituted values. The pieces
are kept apart, so that one can say what becomes of the values in the rendered text.

## Main definitions

* `Text.Piece`, `Text.Template` — fixed text and values.
* `Text.render` — the rendered text.
* `Text.line`, `Text.lines` — templates by lines.
* `Text.markedLines` — the values of the lines that have a given piece of fixed text.

## Main results

* `Text.Emits.append`, `Text.Emits.flatMap` — the marked lines of a template, part by part.
-/

namespace Text

/-- A piece of a template. -/
inductive Piece where
  | fixed (s : Str)
  | value (s : Str)
  deriving DecidableEq

/-- Literals are fixed pieces. -/
instance : Coe String Piece := ⟨fun s => .fixed s.toList⟩

/-- The text of a piece. -/
def Piece.text : Piece → Str
  | .fixed s => s
  | .value s => s

/-- A template with its values. -/
abbrev Template := List Piece

/-- The rendered text. -/
def render (t : Template) : Str := t.flatMap Piece.text

/-- A line of a template. -/
def line (ps : Template) : Template := ps ++ [.fixed ['\n']]

/-- Lines of fixed text. -/
def lines (l : List String) : Template := l.flatMap fun s => line [s]

/-- Lines are rendered one after the other. -/
lemma lines_cons (s : String) (l : List String) : lines (s :: l) = line [s] ++ lines l := rfl

/-- No lines are an empty template. -/
lemma lines_nil : lines [] = [] := rfl

/-- Rendering is a homomorphism. -/
@[simp] lemma render_append (s t : Template) : render (s ++ t) = render s ++ render t := by
  simp [render]

/-- A template is rendered piece by piece. -/
@[simp] lemma render_cons (p : Piece) (t : Template) : render (p :: t) = p.text ++ render t := rfl

/-- An empty template is rendered as nothing. -/
@[simp] lemma render_nil : render [] = [] := rfl

/-- Lines of fixed text begin as the first of them does. -/
lemma exists_render_lines_append {s : String} {c : Char} {l : Str}
    (h : s.toByteArray = (c :: l).utf8Encode) (ls : List String) (t : Template) :
    ∃ u, render (lines (s :: ls) ++ t) = c :: u := by
  have hs : s.toList = c :: l := toList_eq h
  refine ⟨l ++ '\n' :: render (lines ls ++ t), ?_⟩
  simp [lines_cons, line, Piece.text, hs]

/-! ## Marked lines -/

/-- The values of the line that a template begins with. -/
def lineValues : Template → List Str
  | [] => []
  | .fixed s :: t => if s = ['\n'] then [] else lineValues t
  | .value v :: t => v :: lineValues t

/-- The values of each line that has the marker as a piece of fixed text, from the marker on. -/
def markedLines (marker : Str) : Template → List (List Str)
  | [] => []
  | .fixed s :: t =>
    if s = marker then lineValues t :: markedLines marker t else markedLines marker t
  | .value _ :: t => markedLines marker t

/-- The template consists of whole lines, of which the marked ones have the given values. -/
def Emits (marker : Str) (t : Template) (rows : List (List Str)) : Prop :=
  ∀ u, markedLines marker (t ++ u) = rows ++ markedLines marker u

variable {marker : Str}

/-- The marked lines of a template of whole lines. -/
lemma Emits.eq {t : Template} {rows : List (List Str)} (h : Emits marker t rows) :
    markedLines marker t = rows := by
  have h := h []
  rwa [List.append_nil, markedLines, List.append_nil] at h

/-- Templates of whole lines are put together. -/
lemma Emits.append {t u : Template} {rows rows' : List (List Str)} (ht : Emits marker t rows)
    (hu : Emits marker u rows') : Emits marker (t ++ u) (rows ++ rows') := by
  intro v
  rw [List.append_assoc, ht, hu, List.append_assoc]

/-- The marked lines of a loop. -/
lemma Emits.flatMap {α : Type} {f : α → Template} {g : α → List (List Str)} {l : List α}
    (h : ∀ a ∈ l, Emits marker (f a) (g a)) : Emits marker (l.flatMap f) (l.flatMap g) := by
  induction l with
  | nil => exact fun _ => rfl
  | cons a l ih =>
    rw [List.flatMap_cons, List.flatMap_cons]
    exact (h a (by simp)).append (ih fun b hb => h b (List.mem_cons_of_mem a hb))

/-- A template without the marker has no marked lines. -/
lemma emits_of_unmarked {t : Template} (h : (t.all fun p => p != .fixed marker) = true) :
    Emits marker t [] := by
  intro u
  induction t with
  | nil => rfl
  | cons p t ih =>
    rw [List.all_cons, Bool.and_eq_true, bne_iff_ne] at h
    cases p with
    | fixed s =>
      have hs : s ≠ marker := fun he => h.1 (congrArg Piece.fixed he)
      rw [List.cons_append, markedLines, if_neg hs, ih h.2]
    | value v => rw [List.cons_append, markedLines, ih h.2]

/-- Lines of fixed text have no marked lines, if the marker is none of them. -/
lemma emits_lines {m : String} {l : List String} (hline : m.toList ≠ ['\n'])
    (h : (l.all (· != m)) = true) : Emits m.toList (lines l) [] := by
  refine emits_of_unmarked (List.all_eq_true.mpr fun p hp => bne_iff_ne.mpr fun he => ?_)
  subst he
  obtain ⟨q, hq, hp⟩ := List.mem_flatMap.mp hp
  simp only [List.bind_eq_flatMap, List.pure_def, List.mem_flatMap, List.mem_singleton] at hq
  obtain ⟨s, hs, rfl⟩ := hq
  have hne : s ≠ m := bne_iff_ne.mp (List.all_eq_true.mp h s hs)
  rcases List.mem_cons.mp hp with he | hp
  · exact hne (String.toList_inj.mp (Piece.fixed.inj he).symm)
  · exact hline (Piece.fixed.inj (List.mem_singleton.mp hp))

/-- A marked line has the values after the marker. -/
lemma emits_line {ps : Template} (hmarker : (line ps).all (fun p => p != .fixed marker) = true)
    (hline : ps.all (fun p => p != .fixed ['\n']) = true) :
    Emits marker (line (.fixed marker :: ps)) [lineValues ps] := by
  intro u
  have hvalues : lineValues (line ps ++ u) = lineValues ps := by
    clear hmarker
    induction ps with
    | nil => rfl
    | cons p ps ih =>
      rw [List.all_cons, Bool.and_eq_true, bne_iff_ne] at hline
      cases p with
      | fixed s =>
        have hs : s ≠ ['\n'] := fun he => hline.1 (congrArg Piece.fixed he)
        simp only [line, List.cons_append, lineValues, if_neg hs]
        exact ih hline.2
      | value v => exact congrArg (v :: ·) (ih hline.2)
  change markedLines marker (.fixed marker :: (line ps ++ u)) = _
  rw [markedLines, if_pos rfl, hvalues, emits_of_unmarked hmarker]
  rfl

end Text
