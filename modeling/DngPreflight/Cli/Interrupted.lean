import DngPreflight.Store.Interrupt
import DngPreflight.Cli

set_option relaxedAutoImplicit false
set_option autoImplicit false

/-!
# Interrupted runs of `generate`

The artifacts are written in place, one after the other, so that a run of `generate` which is
killed, or for which the disk is full, leaves some of them written and one of them torn. What such
runs leave behind, and what a run that comes to its end makes of it.

## Main definitions

* `DngPreflight.Cli.generateSteps` — the changes that `generate` makes.
* `DngPreflight.Cli.interrupted` — the files after runs that were interrupted.

## Main results

* `DngPreflight.Cli.interrupted_exact` — what is left of interrupted runs, and that a run which
  comes to its end leaves nothing of them.
-/

namespace DngPreflight.Cli

open Text Store

/-- The changes that `generate` makes once the plan has been accepted. -/
def generateSteps (config : DngConfig) (outputDir : Path) : List Step :=
  .mkdirs outputDir :: (outputs config outputDir).flatMap Output.steps

/-- The files after runs of `generate` into a directory, each with an accepted plan and the number
of changes after which it was interrupted. -/
def interrupted (outputDir : Path) (fs : FileSystem) (runs : List (DngConfig × ℕ)) : FileSystem :=
  runs.foldl (fun fs run => fs.applyAll ((generateSteps run.1 outputDir).take run.2)) fs

/-- All changes are those of a run that comes to its end. -/
lemma applyAll_generateSteps (config : DngConfig) (outputDir : Path) (fs : FileSystem) :
    fs.applyAll (generateSteps config outputDir) = (generateAll config outputDir fs).1 := by
  rw [generateSteps, FileSystem.applyAll, List.foldl_cons, ← FileSystem.applyAll,
    FileSystem.applyAll_flatMap_steps]
  rfl

/-- The contents of a file are what was there, or the beginning of an artifact of one of the
plans. -/
def FromRuns (outputDir : Path) (fs : FileSystem) (configs : List DngConfig) (p : Path)
    (f : Option File) : Prop :=
  f = fs.file p ∨ ∃ config ∈ configs, ∃ name text, Renders config name text ∧
    p = outputDir ++ [name] ∧ ∃ g, f = some g ∧ g.content <+: encode text

/-- What interrupted runs leave of the files `fs`: other files are unchanged, artifacts are from the
runs, and the modes of artifacts that are no scripts are what they would be. -/
structure LeftOver (outputDir : Path) (fs : FileSystem) (configs : List DngConfig)
    (fs' : FileSystem) : Prop where
  newMode : fs'.newMode = fs.newMode
  isDir : (fs'.mkdirs outputDir).isDir = (fs.mkdirs outputDir).isDir
  file : ∀ p, FromRuns outputDir fs configs p (fs'.file p)
  mode : ∀ p : Path, p.suffix ≠ ".sh" →
    ((fs'.file p).map File.mode).getD fs.newMode = ((fs.file p).map File.mode).getD fs.newMode

variable {outputDir : Path} {fs fs' : FileSystem} {configs : List DngConfig}

/-- Files that are as they were are left over. -/
lemma leftOver_self (outputDir : Path) (fs : FileSystem) : LeftOver outputDir fs [] fs where
  newMode := rfl
  isDir := rfl
  file _ := .inl rfl
  mode _ _ := rfl

/-- Runs of more plans. -/
lemma FromRuns.append {p : Path} {f : Option File} (h : FromRuns outputDir fs configs p f)
    (more : List DngConfig) : FromRuns outputDir fs (configs ++ more) p f := by
  rcases h with h | ⟨config, hconfig, h⟩
  · exact .inl h
  · exact .inr ⟨config, List.mem_append_left _ hconfig, h⟩

/-- After further runs, what the earlier ones left is still left over. -/
lemma LeftOver.append (h : LeftOver outputDir fs configs fs') (more : List DngConfig) :
    LeftOver outputDir fs (configs ++ more) fs' :=
  { h with file := fun p => (h.file p).append more }

/-- The directory is made. -/
lemma LeftOver.mkdirs (h : LeftOver outputDir fs configs fs') :
    LeftOver outputDir fs configs (fs'.mkdirs outputDir) where
  newMode := h.newMode
  isDir := by
    rw [← h.isDir]
    funext q
    simp
  file := h.file
  mode := h.mode

/-- An artifact is set to a part of its contents, with a mode that only scripts are given. -/
lemma LeftOver.setFile (h : LeftOver outputDir fs configs fs') {config : DngConfig}
    (hconfig : config ∈ configs) {o : Output} (ho : o ∈ outputs config outputDir) {f : File}
    (hcontent : f.content <+: o.content)
    (hmode : o.path.suffix ≠ ".sh" →
      f.mode = ((fs'.file o.path).map File.mode).getD fs'.newMode) :
    LeftOver outputDir fs configs (fs'.setFile o.path f) where
  newMode := h.newMode
  isDir := h.isDir
  file := by
    intro p
    by_cases hp : p = o.path
    · obtain ⟨payload, hpayload, rfl⟩ := List.mem_map.mp ho
      rw [hp, FileSystem.file_setFile_self]
      exact .inr ⟨config, hconfig, payload.1, payload.2, mem_payloads_iff.mp hpayload, rfl, f, rfl,
        hcontent⟩
    · rw [FileSystem.file_setFile_of_ne _ hp]
      exact h.file p
  mode := by
    intro p hp
    by_cases hpath : p = o.path
    · subst hpath
      rw [FileSystem.file_setFile_self, ← h.mode _ hp, ← h.newMode]
      exact hmode hp
    · rw [FileSystem.file_setFile_of_ne _ hpath]
      exact h.mode p hp

/-- Artifacts are written. -/
lemma LeftOver.putAll (h : LeftOver outputDir fs configs fs') {config : DngConfig}
    (hconfig : config ∈ configs) {os : List Output} (hos : ∀ o ∈ os, o ∈ outputs config outputDir) :
    LeftOver outputDir fs configs (fs'.putAll os) := by
  induction os generalizing fs' with
  | nil => exact h
  | cons o os ih =>
    obtain ⟨ho, hos⟩ := List.forall_mem_cons.mp hos
    refine ih ?_ hos
    rw [FileSystem.put_eq_setFile]
    refine h.setFile hconfig ho (List.prefix_refl _) fun hsuffix => ?_
    obtain ⟨payload, -, rfl⟩ := List.mem_map.mp ho
    have hnone : (outputOf outputDir payload).mode = none := if_neg hsuffix
    rw [Output.file, hnone]
    rfl

/-- **One interrupted run** leaves files that interrupted runs leave. -/
lemma LeftOver.run (h : LeftOver outputDir fs configs fs') (config : DngConfig) (k : ℕ) :
    LeftOver outputDir fs (configs ++ [config])
      (fs'.applyAll ((generateSteps config outputDir).take k)) := by
  have hmem : config ∈ configs ++ [config] := by simp
  have h := h.append [config]
  cases k with
  | zero => exact h
  | succ k =>
    have hstep : fs'.applyAll ((generateSteps config outputDir).take (k + 1)) =
        (fs'.mkdirs outputDir).applyAll
          (((outputs config outputDir).flatMap Output.steps).take k) := rfl
    rw [hstep]
    obtain ⟨done, rest, hos, hcases⟩ :=
      (fs'.mkdirs outputDir).interrupted_cases (outputs config outputDir) k
    have hdone : LeftOver outputDir fs (configs ++ [config])
        ((fs'.mkdirs outputDir).putAll done) :=
      h.mkdirs.putAll hmem fun o ho => hos ▸ List.mem_append_left _ ho
    rcases hcases with heq | ⟨o, rest', f, rfl, htorn, heq⟩
    · rw [heq]
      exact hdone
    · rw [heq]
      exact hdone.setFile hmem (hos ▸ by simp) htorn.content fun _ => htorn.mode

/-- **Interrupted runs** leave files that are from them. -/
lemma leftOver_interrupted (outputDir : Path) (fs : FileSystem) (runs : List (DngConfig × ℕ)) :
    LeftOver outputDir fs (runs.map Prod.fst) (interrupted outputDir fs runs) := by
  induction runs using List.reverseRecOn with
  | nil => exact leftOver_self outputDir fs
  | append_singleton runs run ih =>
    rw [interrupted, List.foldl_append, ← interrupted, List.map_append]
    exact ih.run run.1 run.2

/-- Only artifacts are from runs. -/
lemma FromRuns.eq_of_not_mem {p : Path} {f : Option File} (h : FromRuns outputDir fs configs p f)
    (hp : p ∉ artifactPaths outputDir) : f = fs.file p := by
  rcases h with h | ⟨config, -, name, text, hrenders, rfl, -⟩
  · exact h
  · exact absurd (List.mem_map_of_mem hrenders.mem_artifactNames) hp

/-- **A run that comes to its end** leaves nothing of what was left over. -/
lemma LeftOver.generateAll_eq (h : LeftOver outputDir fs configs fs') (config : DngConfig) :
    (generateAll config outputDir fs').1 = (generateAll config outputDir fs).1 := by
  ext : 1
  · funext p
    by_cases hp : p ∈ (outputs config outputDir).map Output.path
    · obtain ⟨o, ho, rfl⟩ := List.mem_map.mp hp
      have hfile : o.file fs'.newMode (fs'.file o.path) = o.file fs.newMode (fs.file o.path) := by
        obtain ⟨payload, -, rfl⟩ := List.mem_map.mp ho
        by_cases hsuffix : (outputDir ++ [payload.1] : Path).suffix = ".sh"
        · have hmode : (outputOf outputDir payload).mode = some 0o755 := if_pos hsuffix
          rw [Output.file, Output.file, hmode]
          rfl
        · have hmode : (outputOf outputDir payload).mode = none := if_neg hsuffix
          rw [Output.file, Output.file, hmode, h.newMode]
          exact congrArg (File.mk _) (h.mode _ hsuffix)
      have hnodup := nodup_outputs config outputDir
      show ((fs'.mkdirs outputDir).putAll _).file _ = ((fs.mkdirs outputDir).putAll _).file _
      rw [FileSystem.file_putAll_of_mem _ hnodup ho, FileSystem.file_putAll_of_mem _ hnodup ho]
      exact congrArg some hfile
    · rw [file_generateAll_of_not_mem config fs' hp, file_generateAll_of_not_mem config fs hp]
      exact (h.file p).eq_of_not_mem hp
  · show ((fs'.mkdirs outputDir).putAll _).isDir = ((fs.mkdirs outputDir).putAll _).isDir
    rw [FileSystem.isDir_putAll, FileSystem.isDir_putAll]
    exact h.isDir
  · show ((fs'.mkdirs outputDir).putAll _).newMode = ((fs.mkdirs outputDir).putAll _).newMode
    rw [FileSystem.newMode_putAll, FileSystem.newMode_putAll]
    exact h.newMode

/-- One run, wherever it is interrupted, writes the artifacts up to some one, and leaves those after
the next one alone. -/
lemma exists_outputs_of_interrupted (config : DngConfig) (outputDir : Path) (fs : FileSystem)
    (k : ℕ) :
    ∃ done rest, outputs config outputDir = done ++ rest ∧
      (∀ o ∈ done, ((fs.applyAll ((generateSteps config outputDir).take k)).file o.path).map
        File.content = some o.content) ∧
      ∀ o ∈ rest.tail, (fs.applyAll ((generateSteps config outputDir).take k)).file o.path =
        fs.file o.path := by
  cases k with
  | zero => exact ⟨[], _, rfl, nofun, fun _ _ => rfl⟩
  | succ k =>
    have hstep : fs.applyAll ((generateSteps config outputDir).take (k + 1)) =
        (fs.mkdirs outputDir).applyAll
          (((outputs config outputDir).flatMap Output.steps).take k) := rfl
    rw [hstep]
    obtain ⟨done, rest, hos, hcases⟩ :=
      (fs.mkdirs outputDir).interrupted_cases (outputs config outputDir) k
    have hnodup := nodup_outputs config outputDir
    rw [hos, List.map_append, List.nodup_append] at hnodup
    obtain ⟨hdone, hrest, hdisjoint⟩ := hnodup
    have hput : ∀ o ∈ done, ((fs.mkdirs outputDir).putAll done).file o.path =
        some (o.file fs.newMode (fs.file o.path)) := fun o ho =>
      FileSystem.file_putAll_of_mem _ hdone ho
    have hother : ∀ o ∈ rest, ((fs.mkdirs outputDir).putAll done).file o.path =
        fs.file o.path := fun o ho =>
      FileSystem.file_putAll_of_not_mem _ fun hmem =>
        hdisjoint _ hmem _ (List.mem_map_of_mem ho) rfl
    refine ⟨done, rest, hos, ?_, ?_⟩
    · intro o ho
      rcases hcases with heq | ⟨o', rest', f, rfl, -, heq⟩
      · rw [heq, hput o ho]
        rfl
      · have hne : o.path ≠ o'.path :=
          hdisjoint _ (List.mem_map_of_mem ho) _ (List.mem_map_of_mem List.mem_cons_self)
        rw [heq, FileSystem.file_setFile_of_ne _ hne, hput o ho]
        rfl
    · intro o ho
      rcases hcases with heq | ⟨o', rest', f, rfl, -, heq⟩
      · rw [heq, hother o (List.mem_of_mem_tail ho)]
      · rw [List.map_cons, List.nodup_cons] at hrest
        have hne : o.path ≠ o'.path := fun hpath =>
          hrest.1 (hpath ▸ List.mem_map_of_mem ho)
        rw [heq, FileSystem.file_setFile_of_ne _ hne, hother o (List.mem_cons_of_mem _ ho)]

/-- The same by the names of the artifacts. -/
lemma exists_done_of_interrupted (config : DngConfig) (outputDir : Path) (fs : FileSystem) (k : ℕ) :
    ∃ done rest, artifactNames = done ++ rest ∧
      (∀ name text, Renders config name text → name ∈ done →
        ((fs.applyAll ((generateSteps config outputDir).take k)).file (outputDir ++ [name])).map
          File.content = some (encode text)) ∧
      ∀ name ∈ rest.tail, (fs.applyAll ((generateSteps config outputDir).take k)).file
        (outputDir ++ [name]) = fs.file (outputDir ++ [name]) := by
  obtain ⟨done, rest, hos, hdone, hrest⟩ := exists_outputs_of_interrupted config outputDir fs k
  obtain ⟨done, rest, hpayloads, rfl, rfl⟩ := List.map_eq_append_iff.mp hos
  have hnames : (payloads config).map Prod.fst = artifactNames := rfl
  refine ⟨done.map Prod.fst, rest.map Prod.fst, ?_, fun name text h hname => ?_,
    fun name hname => ?_⟩
  · rw [← hnames, hpayloads, List.map_append]
  · obtain ⟨payload, hpayload, rfl⟩ := List.mem_map.mp hname
    have hmem : payload ∈ payloads config := hpayloads ▸ List.mem_append_left _ hpayload
    obtain rfl : text = payload.2 := h.unique (mem_payloads_iff.mp hmem)
    exact hdone _ (List.mem_map_of_mem hpayload)
  · rw [← List.map_tail] at hname
    obtain ⟨payload, hpayload, rfl⟩ := List.mem_map.mp hname
    refine hrest (outputOf outputDir payload) ?_
    rw [← List.map_tail]
    exact List.mem_map_of_mem hpayload

/-- **What is left of interrupted runs**, of any plans, stopped after any byte: no other file than
the artifacts is changed; each artifact is as it was, or the beginning of the text for one of the
plans; a further run, wherever it is interrupted, has written the artifacts up to some one, and not
begun those after the next one; and a run that makes all of its changes has the same effect as
`generate` without the interrupted ones.

**Proof sketch.** A run changes the artifacts in their order, one byte at a time. Only scripts are
given a mode, and a run that comes to its end gives it to them again. -/
theorem interrupted_exact (outputDir : Path) (fs : FileSystem) (runs : List (DngConfig × ℕ)) :
    (∀ p ∉ artifactPaths outputDir, (interrupted outputDir fs runs).file p = fs.file p) ∧
    (∀ p, FromRuns outputDir fs (runs.map Prod.fst) p ((interrupted outputDir fs runs).file p)) ∧
    (∀ config k, ∃ done rest, artifactNames = done ++ rest ∧
      (∀ name text, Renders config name text → name ∈ done →
        ((interrupted outputDir fs (runs ++ [(config, k)])).file (outputDir ++ [name])).map
          File.content = some (encode text)) ∧
      ∀ name ∈ rest.tail, (interrupted outputDir fs (runs ++ [(config, k)])).file
        (outputDir ++ [name]) = (interrupted outputDir fs runs).file (outputDir ++ [name])) ∧
    ∀ config k, (generateSteps config outputDir).length ≤ k →
      interrupted outputDir fs (runs ++ [(config, k)]) = (generateAll config outputDir fs).1 := by
  have hleft := leftOver_interrupted outputDir fs runs
  have hlast : ∀ config k, interrupted outputDir fs (runs ++ [(config, k)]) =
      (interrupted outputDir fs runs).applyAll ((generateSteps config outputDir).take k) := by
    intro config k
    rw [interrupted, List.foldl_append]
    rfl
  refine ⟨fun p hp => (hleft.file p).eq_of_not_mem hp, hleft.file, fun config k => ?_,
    fun config k hk => ?_⟩
  · rw [hlast]
    exact exists_done_of_interrupted config outputDir _ k
  · rw [hlast, List.take_of_length_le hk, applyAll_generateSteps, hleft.generateAll_eq]

end DngPreflight.Cli
