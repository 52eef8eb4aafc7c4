import DngPreflight.Store.FileSystem

set_option relaxedAutoImplicit false
set_option autoImplicit false

/-!
# Interrupted writes

A program that writes files can be stopped at any time: a file that is open for writing has been
truncated, and has a part of its contents. The changes of the file system that are made at once, of
which any number has been made when the program stops.

## Main definitions

* `Store.Step`, `Store.FileSystem.applyAll` — changes that are made at once.
* `Store.Output.steps` — the steps in which a file is written.
* `Store.Output.Torn` — what is left of a file that is being written.

## Main results

* `Store.FileSystem.applyAll_steps` — all steps write the file.
* `Store.FileSystem.interrupted_cases` — what is left of several files, wherever one stops.
-/

namespace Store

/-- A change of the file system that is made at once. -/
inductive Step where
  | mkdirs (p : Path)
  | truncate (p : Path)
  | append (p : Path) (b : UInt8)
  | chmod (p : Path) (mode : ℕ)

/-- The steps in which a file is written, byte by byte, and its mode set. -/
def Output.steps (o : Output) : List Step :=
  .truncate o.path :: (o.content.map (Step.append o.path) ++ o.mode.toList.map (Step.chmod o.path))

/-- What is left of a file that is being written, `before` being the file that was there: a part of
its contents, and not yet its mode. -/
structure Output.Torn (o : Output) (newMode : ℕ) (before : Option File) (f : File) : Prop where
  content : f.content <+: o.content
  mode : f.mode = (before.map File.mode).getD newMode

namespace FileSystem

/-- A file is there, and nothing else is changed. -/
def setFile (fs : FileSystem) (p : Path) (f : File) : FileSystem :=
  { fs with file := fun q => if q = p then some f else fs.file q }

/-- Make a change. -/
def apply (fs : FileSystem) : Step → FileSystem
  | .mkdirs p => fs.mkdirs p
  | .truncate p => fs.write p []
  | .append p b =>
    { fs with file := fun q =>
        if q = p then (fs.file p).map fun f => { f with content := f.content ++ [b] }
        else fs.file q }
  | .chmod p mode => fs.chmod p mode

/-- Make changes one after the other. -/
def applyAll (fs : FileSystem) (steps : List Step) : FileSystem := steps.foldl apply fs

variable (fs : FileSystem)

/-- Changes are made one after the other. -/
lemma applyAll_append (as bs : List Step) :
    fs.applyAll (as ++ bs) = (fs.applyAll as).applyAll bs := List.foldl_append

/-- The file that is set is the new one. -/
lemma file_setFile_self (p : Path) (f : File) : (fs.setFile p f).file p = some f := if_pos rfl

/-- Other files are not set. -/
lemma file_setFile_of_ne {p q : Path} (h : q ≠ p) (f : File) :
    (fs.setFile p f).file q = fs.file q := if_neg h

/-- A file that is written is there. -/
lemma put_eq_setFile (o : Output) :
    fs.put o = fs.setFile o.path (o.file fs.newMode (fs.file o.path)) := by
  ext : 1
  · funext q
    exact fs.file_put o q
  · exact fs.isDir_put o
  · exact fs.newMode_put o

/-! ## One file -/

/-- A byte is appended to a file that is there. -/
lemma apply_append (p : Path) (f : File) (b : UInt8) : (fs.setFile p f).apply (.append p b) =
    fs.setFile p { f with content := f.content ++ [b] } := by
  ext : 1
  · funext q
    show (if q = p then ((fs.setFile p f).file p).map _ else (fs.setFile p f).file q) = _
    by_cases hq : q = p
    · rw [if_pos hq, file_setFile_self, hq, file_setFile_self]
      rfl
    · rw [if_neg hq, file_setFile_of_ne _ hq, file_setFile_of_ne _ hq]
  · rfl
  · rfl

/-- Bytes are appended to a file that is there. -/
lemma applyAll_appends (p : Path) (f : File) (bs : Bytes) :
    (fs.setFile p f).applyAll (bs.map (Step.append p)) =
      fs.setFile p { f with content := f.content ++ bs } := by
  induction bs generalizing f with
  | nil =>
    rw [List.map_nil, List.append_nil]
    rfl
  | cons b bs ih =>
    rw [List.map_cons, applyAll, List.foldl_cons, apply_append, ← applyAll, ih]
    simp

/-- A file after `k` of its bytes have been written. -/
lemma applyAll_truncate (o : Output) (bs : Bytes) :
    fs.applyAll (.truncate o.path :: bs.map (Step.append o.path)) =
      fs.setFile o.path ⟨bs, ((fs.file o.path).map File.mode).getD fs.newMode⟩ := by
  have htruncate : fs.apply (.truncate o.path) =
      fs.setFile o.path ⟨[], ((fs.file o.path).map File.mode).getD fs.newMode⟩ := rfl
  rw [applyAll, List.foldl_cons, htruncate, ← applyAll, applyAll_appends]
  rfl

/-- **All steps** write the file. -/
lemma applyAll_steps (o : Output) : fs.applyAll o.steps = fs.put o := by
  rw [Output.steps, ← List.cons_append, applyAll_append, applyAll_truncate, put_eq_setFile]
  obtain ⟨p, content, mode⟩ := o
  cases mode with
  | none => rfl
  | some mode =>
    show (fs.setFile p _).chmod p mode = _
    ext : 1
    · funext q
      show (if q = p then ((fs.setFile p _).file p).map _ else (fs.setFile p _).file q) = _
      by_cases hq : q = p
      · rw [if_pos hq, file_setFile_self, hq, file_setFile_self]
        rfl
      · rw [if_neg hq, file_setFile_of_ne _ hq, file_setFile_of_ne _ hq]
    · rfl
    · rfl

/-- **What is left of a file**: the file that was there, a torn one, or the file. -/
lemma applyAll_take_steps (o : Output) (k : ℕ) : fs.applyAll (o.steps.take k) = fs ∨
    (∃ f, o.Torn fs.newMode (fs.file o.path) f ∧
      fs.applyAll (o.steps.take k) = fs.setFile o.path f) ∨
    fs.applyAll (o.steps.take k) = fs.put o := by
  cases k with
  | zero => exact .inl rfl
  | succ k =>
    rcases le_or_gt k o.content.length with hle | hlt
    · refine .inr (.inl ⟨⟨o.content.take k, ((fs.file o.path).map File.mode).getD fs.newMode⟩,
        ⟨List.take_prefix k o.content, rfl⟩, ?_⟩)
      have htake : o.steps.take (k + 1) =
          .truncate o.path :: (o.content.take k).map (Step.append o.path) := by
        rw [Output.steps, List.take_succ_cons, List.take_append_of_le_length (by simpa using hle),
          List.map_take]
      rw [htake, applyAll_truncate]
    · refine .inr (.inr ?_)
      have htake : o.steps.take (k + 1) = o.steps := by
        refine List.take_of_length_le ?_
        have hmode : o.mode.toList.length ≤ 1 := by cases o.mode <;> simp
        rw [Output.steps, List.length_cons, List.length_append, List.length_map, List.length_map]
        omega
      rw [htake, applyAll_steps]

/-! ## Several files -/

/-- **All changes** of writing files are what writing them does. -/
lemma applyAll_flatMap_steps (os : List Output) :
    fs.applyAll (os.flatMap Output.steps) = fs.putAll os := by
  induction os generalizing fs with
  | nil => rfl
  | cons o os ih =>
    rw [List.flatMap_cons, applyAll_append, applyAll_steps, ih]
    rfl

/-- **What is left of several files**, wherever one stops: those up to some file are written, the
next one may be torn, and the others are as they were.

**Proof sketch.** By induction on the files: either one stops in the first of them, or after it. -/
lemma interrupted_cases (os : List Output) (k : ℕ) : ∃ done rest, os = done ++ rest ∧
    (fs.applyAll ((os.flatMap Output.steps).take k) = fs.putAll done ∨
      ∃ o rest' f, rest = o :: rest' ∧
        o.Torn (fs.putAll done).newMode ((fs.putAll done).file o.path) f ∧
        fs.applyAll ((os.flatMap Output.steps).take k) = (fs.putAll done).setFile o.path f) := by
  induction os generalizing fs k with
  | nil => exact ⟨[], [], rfl, .inl (by simp [applyAll, putAll])⟩
  | cons o os ih =>
    rw [List.flatMap_cons, List.take_append, applyAll_append]
    rcases le_or_gt k o.steps.length with hle | hlt
    · rw [Nat.sub_eq_zero_of_le hle, List.take_zero]
      rcases fs.applyAll_take_steps o k with h | ⟨f, htorn, h⟩ | h
      · exact ⟨[], o :: os, rfl, .inl h⟩
      · exact ⟨[], o :: os, rfl, .inr ⟨o, os, f, rfl, htorn, h⟩⟩
      · exact ⟨[o], os, rfl, .inl h⟩
    · rw [List.take_of_length_le hlt.le, applyAll_steps]
      obtain ⟨done, rest, rfl, h⟩ := ih (fs.put o) (k - o.steps.length)
      exact ⟨o :: done, rest, rfl, h⟩

end FileSystem

end Store
