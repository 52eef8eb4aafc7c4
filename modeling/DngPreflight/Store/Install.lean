import DngPreflight.Store.FileSystem

set_option relaxedAutoImplicit false
set_option autoImplicit false

/-!
# install

The command `install`, which makes a directory or copies a file and sets its mode, and what an
editor does to a file. The modes of directories are not recorded.

## Main definitions

* `Store.FileSystem.installDir`, `Store.FileSystem.installFile` — the two uses of the command.
* `Store.FileSystem.replace` — a file is edited by hand.

## Main results

* `Store.FileSystem.installFile_eq_some` — what a copy leaves behind.
-/

namespace Store.FileSystem

open Text

variable (fs : FileSystem)

/-- `install -d p`: make a directory and those above it; none if a file is in the way. -/
def installDir (p : Path) : Option FileSystem :=
  if p.inits.any fun q => (fs.file q).isSome then none else some (fs.mkdirs p)

/-- Where a file is copied to: into a directory under its own name, or over a file. -/
def installTarget (src dst : Path) : Path := if fs.isDir dst then dst ++ [src.name] else dst

/-- `install -m mode src dst`: copy a file and set the mode of the copy. None if there is no such
file, if it would be copied over itself or over a directory, or if there is no directory for the
copy. -/
def installFile (src dst : Path) (mode : ℕ) : Option FileSystem :=
  match fs.file src with
  | none => none
  | some f =>
    let target := fs.installTarget src dst
    if target = src ∨ fs.isDir target = true ∨ fs.isDir target.dropLast = false then none
    else some (fs.put ⟨target, f.content, some mode⟩)

/-- A file is edited by hand: another file is there afterwards. -/
def replace (p : Path) (f : File) : FileSystem :=
  { fs with
    file := fun q => if q = p then some f else fs.file q
    isDir := fun q => decide (q ≠ p) && fs.isDir q }

/-- The file that is replaced is the new one. -/
lemma file_replace_self (p : Path) (f : File) : (fs.replace p f).file p = some f := if_pos rfl

/-- Other files are not replaced. -/
lemma file_replace_of_ne {p q : Path} (h : q ≠ p) (f : File) :
    (fs.replace p f).file q = fs.file q := if_neg h

/-- A file is no directory. -/
lemma isDir_replace_self (p : Path) (f : File) : (fs.replace p f).isDir p = false := by
  simp [replace]

variable {fs}

/-- Making a directory. -/
lemma installDir_eq_some {p : Path} {fs' : FileSystem} (h : fs.installDir p = some fs') :
    fs' = fs.mkdirs p := by
  unfold installDir at h
  split_ifs at h
  exact (Option.some.inj h).symm

/-- **A copy** leaves the contents of the file at its target, with the given mode. The file is not
its own target. -/
lemma installFile_eq_some {src dst : Path} {mode : ℕ} {fs' : FileSystem}
    (h : fs.installFile src dst mode = some fs') :
    ∃ f, fs.file src = some f ∧ fs.installTarget src dst ≠ src ∧
      fs' = fs.put ⟨fs.installTarget src dst, f.content, some mode⟩ := by
  cases hsrc : fs.file src with
  | none => simp [installFile, hsrc] at h
  | some f =>
    simp only [installFile, hsrc] at h
    split_ifs at h with hbad
    exact ⟨f, rfl, fun heq => hbad (Or.inl heq), (Option.some.inj h).symm⟩

/-- A path that is no directory is its own target. -/
lemma installTarget_of_isDir_eq_false {src dst : Path} (h : fs.isDir dst = false) :
    fs.installTarget src dst = dst := by
  simp [installTarget, h]

end Store.FileSystem
