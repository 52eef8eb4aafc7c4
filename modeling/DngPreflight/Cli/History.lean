import DngPreflight.Cli.Pipeline
import DngPreflight.Store.Install

set_option relaxedAutoImplicit false
set_option autoImplicit false

/-!
# Histories of commands

Any commands in any order, with files being edited between them. An output directory holds the
artifacts of one plan, or what it held before, and a plan that was saved is accepted later exactly
with the flags that its violations call for.

## Main definitions

* `DngPreflight.Cli.Event`, `DngPreflight.Cli.history` — what happens to the files.
* `DngPreflight.Cli.Event.deposits` — the plan that an event generates into a directory.

## Main results

* `DngPreflight.Cli.artifacts_provenance` — where the files of an output directory come from.
* `DngPreflight.Cli.savedPlan_accepted_iff` — when a saved plan is accepted later.
-/

namespace DngPreflight.Cli

open Text Codec Store

variable {σ δ : Type}

/-! ## Events -/

/-- A command is run, or a file is edited. -/
inductive Event (σ δ : Type) where
  | inspect (host : Host σ δ) (hostname : Str) (fmt : Format) (output : Option Path)
  | plan (host : Host σ δ) (hostname : Option Str) (snapshotPath save : Option Path)
      (flags : Flags)
  | validate (planPath : Path) (flags : Flags)
  | generate (planPath outputDir : Path) (flags : Flags)
  | edit (p : Path) (f : File)

/-- The paths that an event may write to. -/
def Event.writes : Event σ δ → List Path
  | .inspect _ _ _ output => output.toList
  | .plan _ _ _ save _ => save.toList
  | .validate _ _ => []
  | .generate _ outputDir _ => artifactPaths outputDir
  | .edit p _ => [p]

variable (safeLoad : Bytes → Option Tree) (safeDump jsonDumps : Tree → Str) (L : Leaves)

/-- The file system after an event. -/
def Event.apply (fs : FileSystem) : Event σ δ → FileSystem
  | .inspect host hostname fmt output =>
    (inspectCmd safeDump jsonDumps fs host hostname fmt output).fs
  | .plan host hostname snapshotPath save flags =>
    (planCmd safeLoad safeDump L fs host hostname snapshotPath save flags).fs
  | .validate planPath flags => (validateCmd safeLoad L fs planPath flags).fs
  | .generate planPath outputDir flags => (generateCmd safeLoad L fs planPath outputDir flags).fs
  | .edit p f => fs.replace p f

/-- The file system after several events. -/
def history (fs : FileSystem) (events : List (Event σ δ)) : FileSystem :=
  events.foldl (Event.apply safeLoad safeDump jsonDumps L) fs

/-- The plan whose artifacts an event puts into a directory, if it does, and the flags. -/
def Event.deposits (outputDir : Path) (fs : FileSystem) :
    Event σ δ → Option (DngConfig × Flags)
  | .generate planPath outputDir' flags =>
    if outputDir' = outputDir then
      match fs.file planPath, fs.file outputDir with
      | some f, none =>
        match acceptPlan safeLoad L flags f.content with
        | .error _ => none
        | .ok config => some (config, flags)
      | _, _ => none
    else none
  | _ => none

/-! ## What events leave alone -/

variable {safeLoad safeDump jsonDumps L} {fs : FileSystem} {outputDir : Path}

/-- Printing leaves the files alone, and writing the other files. -/
lemma file_emit_of_ne {label text : Str} {output : Option Path} {p : Path}
    (h : p ∉ output.toList) : (emit fs label output text).fs.file p = fs.file p := by
  cases output with
  | none => rfl
  | some q => exact file_write_of_ne (fun hp => h (List.mem_singleton.mpr hp)) _

/-- `inspect` writes to its output only. -/
lemma file_inspectCmd_of_not_mem {host : Host σ δ} {hostname : Str} {fmt : Format}
    {output : Option Path} {p : Path} (h : p ∉ output.toList) :
    (inspectCmd safeDump jsonDumps fs host hostname fmt output).fs.file p = fs.file p := by
  unfold inspectCmd
  split
  · split
    · rfl
    · exact file_emit_of_ne h
  · rfl

/-- `plan` writes to its output only. -/
lemma file_planCmd_of_not_mem {host : Host σ δ} {hostname : Option Str}
    {snapshotPath save : Option Path} {flags : Flags} {p : Path} (h : p ∉ save.toList) :
    (planCmd safeLoad safeDump L fs host hostname snapshotPath save flags).fs.file p =
      fs.file p := by
  unfold planCmd
  split
  · split
    · rfl
    · exact file_emit_of_ne h
  · rfl

/-- `validate` writes nothing. -/
lemma fs_validateCmd (planPath : Path) (flags : Flags) :
    (validateCmd safeLoad L fs planPath flags).fs = fs := by
  unfold validateCmd
  split
  · rfl
  · split <;> rfl

/-- Only `generate` writes to the artifacts of a directory. -/
def Event.Spares (outputDir : Path) : Event σ δ → Prop
  | .generate _ _ _ => True
  | e => ∀ p ∈ artifactPaths outputDir, p ∉ e.writes

/-- The artifacts of two directories have different paths. -/
lemma not_mem_artifactPaths {outputDir' p : Path} (hne : outputDir' ≠ outputDir)
    (h : p ∈ artifactPaths outputDir) : p ∉ artifactPaths outputDir' := by
  intro h'
  obtain ⟨name, -, rfl⟩ := List.mem_map.mp h
  obtain ⟨name', -, hsame⟩ := List.mem_map.mp h'
  exact hne (List.append_inj_left' hsame rfl)

variable (safeLoad L) in
/-- **`generate`** is given a plan that is accepted, and writes its artifacts, or it changes
nothing. -/
lemma generateCmd_cases (fs : FileSystem) (planPath outputDir : Path) (flags : Flags) :
    (∃ plan config, fs.file planPath = some plan ∧ fs.file outputDir = none ∧
      acceptPlan safeLoad L flags plan.content = .ok config ∧
      (generateCmd safeLoad L fs planPath outputDir flags).fs =
        (generateAll config outputDir fs).1) ∨
    (∀ plan config, fs.file planPath = some plan → fs.file outputDir = none →
      acceptPlan safeLoad L flags plan.content ≠ .ok config) ∧
      (generateCmd safeLoad L fs planPath outputDir flags).fs = fs := by
  cases hplan : fs.file planPath with
  | none =>
    refine Or.inr ⟨fun _ _ h => (Option.some_ne_none _ h.symm).elim, ?_⟩
    simp only [generateCmd, hplan]
    rfl
  | some plan =>
    cases hout : fs.file outputDir with
    | some f =>
      refine Or.inr ⟨fun _ _ _ h => (Option.some_ne_none _ h).elim, ?_⟩
      simp only [generateCmd, hplan, hout]
      rfl
    | none =>
      cases haccept : acceptPlan safeLoad L flags plan.content with
      | error stop =>
        refine Or.inr ⟨fun plan' config h _ hok => ?_, ?_⟩
        · obtain rfl : plan = plan' := Option.some.inj h
          rw [haccept] at hok
          cases hok
        · rw [generateCmd_of_error hplan hout haccept]
          rfl
      | ok config =>
        exact Or.inl ⟨plan, config, rfl, rfl, haccept, (generateCmd_of_ok hplan hout haccept).2⟩

/-- **One event**: a plan is deposited in the directory, or its artifacts stay as they are. -/
lemma apply_cases {e : Event σ δ} (hspares : e.Spares outputDir) (fs : FileSystem) :
    (∃ planPath flags plan config, e = .generate planPath outputDir flags ∧
      fs.file planPath = some plan ∧ acceptPlan safeLoad L flags plan.content = .ok config ∧
      e.apply safeLoad safeDump jsonDumps L fs = (generateAll config outputDir fs).1) ∨
    e.deposits safeLoad L outputDir fs = none ∧ ∀ p ∈ artifactPaths outputDir,
      (e.apply safeLoad safeDump jsonDumps L fs).file p = fs.file p := by
  cases e with
  | inspect host hostname fmt output =>
    exact Or.inr ⟨rfl, fun p hp => file_inspectCmd_of_not_mem (hspares p hp)⟩
  | plan host hostname snapshotPath save flags =>
    exact Or.inr ⟨rfl, fun p hp => file_planCmd_of_not_mem (hspares p hp)⟩
  | validate planPath flags =>
    exact Or.inr ⟨rfl, fun p _ => congrArg (fun fs => fs.file p) (fs_validateCmd planPath flags)⟩
  | edit p f =>
    refine Or.inr ⟨rfl, fun q hq => fs.file_replace_of_ne (fun h => ?_) f⟩
    exact hspares q hq (List.mem_singleton.mpr h)
  | generate planPath outputDir' flags =>
    rcases generateCmd_cases safeLoad L fs planPath outputDir' flags with
      ⟨plan, config, hplan, hout, haccept, hfs⟩ | ⟨hnone, hfs⟩
    · by_cases hdir : outputDir' = outputDir
      · subst hdir
        exact Or.inl ⟨planPath, flags, plan, config, rfl, hplan, haccept, hfs⟩
      · refine Or.inr ⟨if_neg hdir, fun p hp => ?_⟩
        rw [Event.apply, hfs]
        exact file_generateAll_of_not_mem config fs (not_mem_artifactPaths hdir hp)
    · refine Or.inr ⟨?_, fun p _ => ?_⟩
      · simp only [Event.deposits]
        split_ifs with hdir
        · split
          · split
            · rfl
            · rename_i hplan hout _ config haccept
              exact absurd haccept (hnone _ config hplan (hdir ▸ hout))
          · rfl
        · rfl
      · rw [Event.apply, hfs]

/-! ## Where artifacts come from -/

/-- No event deposits a plan in the directory. -/
def Quiet (safeLoad : Bytes → Option Tree) (safeDump jsonDumps : Tree → Str) (L : Leaves)
    (outputDir : Path) : FileSystem → List (Event σ δ) → Prop
  | _, [] => True
  | fs, e :: es => e.deposits safeLoad L outputDir fs = none ∧
      Quiet safeLoad safeDump jsonDumps L outputDir (e.apply safeLoad safeDump jsonDumps L fs) es

/-- The artifacts of a plan are in a directory, the scripts executable. -/
def HoldsArtifacts (config : DngConfig) (outputDir : Path) (fs : FileSystem) : Prop :=
  ∀ name text, Renders config name text → ∃ mode,
    fs.file (outputDir ++ [name]) = some ⟨encode text, mode⟩ ∧
      (name = "install.sh".toList ∨ name = "firewall.sh".toList → mode = 0o755)

/-- The artifacts of a plan, after they have been written. -/
lemma holdsArtifacts_generateAll (config : DngConfig) (outputDir : Path) (fs : FileSystem) :
    HoldsArtifacts config outputDir (generateAll config outputDir fs).1 := by
  intro name text h
  have hfile := (fs.mkdirs outputDir).file_putAll_of_mem (nodup_outputs config outputDir)
    (List.mem_map_of_mem (mem_payloads_iff.mpr h))
  refine ⟨_, hfile, fun hname => ?_⟩
  have hsuffix : Path.suffix (outputDir ++ [name]) = ".sh".toList := by
    rcases hname with rfl | rfl <;> simp [Path.suffix, Path.name]
  simp only [outputOf, hsuffix, if_true, Option.getD_some]

/-- The artifacts are still there if no file of the directory has changed. -/
lemma HoldsArtifacts.congr {config : DngConfig} {fs fs' : FileSystem}
    (h : HoldsArtifacts config outputDir fs)
    (hsame : ∀ p ∈ artifactPaths outputDir, fs'.file p = fs.file p) :
    HoldsArtifacts config outputDir fs' := by
  intro name text hmem
  obtain ⟨mode, hfile, hmode⟩ := h name text hmem
  have hpath : outputDir ++ [name] ∈ artifactPaths outputDir :=
    List.mem_map_of_mem hmem.mem_artifactNames
  exact ⟨mode, (hsame _ hpath).trans hfile, hmode⟩

variable (safeLoad safeDump jsonDumps L) in
/-- **Where the artifacts of a directory come from**, after any commands in any order, with any
files being edited but the artifacts themselves: either no plan has been deposited, and they are as
they were before; or they all come from one plan, the last one that was deposited, which was read
from a file at that time and passed the rules under the flags that were given then.

**Proof sketch.** Induction on the last event. -/
theorem artifacts_provenance {events : List (Event σ δ)}
    (hspares : ∀ e ∈ events, e.Spares outputDir) (fs : FileSystem) :
    (Quiet safeLoad safeDump jsonDumps L outputDir fs events ∧
      ∀ p ∈ artifactPaths outputDir,
        (history safeLoad safeDump jsonDumps L fs events).file p = fs.file p) ∨
    ∃ before planPath flags after plan config,
      events = before ++ .generate planPath outputDir flags :: after ∧
      (history safeLoad safeDump jsonDumps L fs before).file planPath = some plan ∧
      loadPlan safeLoad L plan.content = some config ∧
      (∀ r, Violates config r → Overridden (collectOverrides flags) r) ∧
      Quiet safeLoad safeDump jsonDumps L outputDir (history safeLoad safeDump jsonDumps L fs
        (before ++ [.generate planPath outputDir flags])) after ∧
      HoldsArtifacts config outputDir (history safeLoad safeDump jsonDumps L fs events) := by
  induction events generalizing fs with
  | nil => exact Or.inl ⟨trivial, fun _ _ => rfl⟩
  | cons e es ih =>
    obtain ⟨hfirst, hlater⟩ := List.forall_mem_cons.mp hspares
    rcases ih hlater (e.apply safeLoad safeDump jsonDumps L fs) with ⟨hquiet, hsame⟩ | hlast
    · rcases apply_cases hfirst fs with
        ⟨planPath, flags, plan, config, rfl, hplan, haccept, hfs⟩ | ⟨hnone, hunchanged⟩
      · obtain ⟨hload, hvalid⟩ := acceptPlan_eq_ok_iff.mp haccept
        refine Or.inr ⟨[], planPath, flags, es, plan, config, rfl, hplan, hload,
          (validatePlan_eq_nil_iff.mp hvalid).2, hquiet, ?_⟩
        have hholds := holdsArtifacts_generateAll config outputDir fs
        rw [← hfs] at hholds
        exact hholds.congr hsame
      · exact Or.inl ⟨⟨hnone, hquiet⟩, fun p hp => (hsame p hp).trans (hunchanged p hp)⟩
    · obtain ⟨before, planPath, flags, after, plan, config, rfl, hrest⟩ := hlast
      exact Or.inr ⟨e :: before, planPath, flags, after, plan, config, rfl, hrest⟩

/-- A plan that is accepted is deposited. -/
lemma deposits_generate {planPath : Path} {f : File} {config : DngConfig} {flags : Flags}
    (hplan : fs.file planPath = some f) (hout : fs.file outputDir = none)
    (haccept : acceptPlan safeLoad L flags f.content = .ok config) :
    (Event.generate (σ := σ) (δ := δ) planPath outputDir flags).deposits safeLoad L outputDir fs =
      some (config, flags) := by
  simp only [Event.deposits, if_true, hplan, hout, haccept]

/-- A directory with the canned plan. -/
def cannedFs : FileSystem where
  file p := if p = ["plan.yaml".toList] then some ⟨encode (textOf planLines), 0o644⟩ else none
  isDir _ := false
  newMode := 0o644

/-- The canned plan is generated, then its file is emptied, and it is generated again. -/
def cannedEvents : List (Event Unit Empty) :=
  [.generate ["plan.yaml"] ["dng-build"] {}, .edit ["plan.yaml"] ⟨[], 0o644⟩,
    .generate ["plan.yaml"] ["dng-build"] {}]

/-- The canned plan is accepted. -/
lemma acceptPlan_canned :
    acceptPlan cannedLoad .strict {} (encode (textOf planLines)) = .ok cannedPlan := by
  refine acceptPlan_eq_ok_iff.mpr ⟨?_, validatePlan_canned⟩
  rw [loadPlan, cannedLoad_plan, Option.bind_some]
  exact modelValidate_canned false

/-- The artifacts in the sample directory are those of one plan, although the second command
fails. -/
theorem artifacts_provenance_canned :
    ∃ config, HoldsArtifacts config ["dng-build"]
      (history cannedLoad cannedDump cannedDump .strict cannedFs cannedEvents) := by
  have hspares : ∀ e ∈ cannedEvents, e.Spares ["dng-build"] := by
    intro e he
    simp only [cannedEvents, List.mem_cons, List.not_mem_nil, or_false] at he
    rcases he with rfl | rfl | rfl
    · trivial
    · show ∀ p ∈ artifactPaths ["dng-build"], p ∉ [["plan.yaml".toList]]
      decide
    · trivial
  rcases artifacts_provenance cannedLoad cannedDump cannedDump .strict hspares cannedFs with
    ⟨⟨hnone, -⟩, -⟩ | ⟨_, _, _, _, _, config, -, -, -, -, -, hholds⟩
  · have hplan : cannedFs.file ["plan.yaml"] = some ⟨encode (textOf planLines), 0o644⟩ := rfl
    have hout : cannedFs.file ["dng-build"] = none := by decide
    exact (Option.some_ne_none _ ((deposits_generate hplan hout acceptPlan_canned).symm.trans
      hnone)).elim
  · exact ⟨config, hholds⟩

/-! ## A saved plan -/

/-- An event changes the files that it writes to only. -/
lemma file_apply_of_not_mem {e : Event σ δ} {p : Path} (h : p ∉ e.writes) (fs : FileSystem) :
    (e.apply safeLoad safeDump jsonDumps L fs).file p = fs.file p := by
  cases e with
  | inspect host hostname fmt output => exact file_inspectCmd_of_not_mem h
  | plan host hostname snapshotPath save flags => exact file_planCmd_of_not_mem h
  | validate planPath flags => exact congrArg (fun fs => fs.file p) (fs_validateCmd planPath flags)
  | edit q f => exact fs.file_replace_of_ne (fun hp => h (List.mem_singleton.mpr hp)) f
  | generate planPath outputDir flags =>
    rcases generateCmd_cases safeLoad L fs planPath outputDir flags with
      ⟨plan, config, -, -, -, hfs⟩ | ⟨-, hfs⟩
    · rw [Event.apply, hfs]
      exact file_generateAll_of_not_mem config fs h
    · rw [Event.apply, hfs]

/-- So do several events. -/
lemma file_history_of_not_mem {events : List (Event σ δ)} {p : Path}
    (h : ∀ e ∈ events, p ∉ e.writes) (fs : FileSystem) :
    (history safeLoad safeDump jsonDumps L fs events).file p = fs.file p := by
  induction events generalizing fs with
  | nil => rfl
  | cons e es ih =>
    obtain ⟨hfirst, hlater⟩ := List.forall_mem_cons.mp h
    rw [history, List.foldl_cons, ← history, ih hlater]
    exact file_apply_of_not_mem hfirst fs

/-- A plan that is saved was made of a snapshot. -/
lemma exists_of_planCmd {host : Host σ δ} {hostname : Option Str} {snapshotPath : Option Path}
    {p : Path} {flags : Flags}
    (h : (planCmd safeLoad safeDump L fs host hostname snapshotPath (some p) flags).exitCode = 0) :
    ∃ snapshot config, takeSnapshot safeLoad L fs host hostname snapshotPath = .ok snapshot ∧
      makePlan L host flags snapshot = .ok config ∧
      (planCmd safeLoad safeDump L fs host hostname snapshotPath (some p) flags).fs =
        fs.write p (encode (safeDump config.modelDump)) := by
  unfold planCmd at h ⊢
  split_ifs at h ⊢ with hwritable
  · cases htake : takeSnapshot safeLoad L fs host hostname snapshotPath with
    | error stop =>
      rw [htake] at h
      exact absurd h (exitCode_takeSnapshot_ne_zero htake)
    | ok snapshot =>
      rw [htake] at h
      simp only [Except.bind] at h ⊢
      cases hmake : makePlan L host flags snapshot with
      | error stop =>
        rw [hmake] at h
        exact absurd h (exitCode_makePlan_ne_zero hmake)
      | ok config => exact ⟨snapshot, config, rfl, hmake, rfl⟩
  · exact absurd h (Nat.succ_ne_zero 1)

/-- `generate` on a plan that is loaded, and whose version can be read. -/
lemma generateCmd_of_loadPlan {p : Path} {f : File} {config : DngConfig} (flags : Flags)
    (hplan : fs.file p = some f) (hout : fs.file outputDir = none)
    (hload : loadPlan safeLoad L f.content = some config)
    (hreturns : Gate.Returns config allChecks) :
    ((generateCmd safeLoad L fs p outputDir flags).exitCode = 0 ↔
      ∀ r, Violates config r → Overridden (collectOverrides flags) r) ∧
    ((generateCmd safeLoad L fs p outputDir flags).exitCode = 0 →
      HoldsArtifacts config outputDir (generateCmd safeLoad L fs p outputDir flags).fs) := by
  have hiff : acceptPlan safeLoad L flags f.content = .ok config ↔
      ∀ r, Violates config r → Overridden (collectOverrides flags) r := by
    rw [acceptPlan_eq_ok_iff, and_iff_right hload, validatePlan_eq_nil_iff, and_iff_right hreturns]
  cases haccept : acceptPlan safeLoad L flags f.content with
  | error stop =>
    rw [haccept] at hiff
    rw [generateCmd_of_error hplan hout haccept, ← hiff]
    have hne := exitCode_ne_zero haccept
    refine ⟨⟨fun h => absurd h hne, fun h => ?_⟩, fun h => absurd h hne⟩
    cases h
  | ok config' =>
    obtain rfl : config' = config :=
      Option.some.inj ((acceptPlan_eq_ok_iff.mp haccept).1.symm.trans hload)
    rw [generateCmd_eq_generated hplan hout haccept, ← hiff]
    exact ⟨⟨fun _ => haccept, fun _ => rfl⟩,
      fun _ => holdsArtifacts_generateAll config' outputDir fs⟩

variable (jsonDumps) in
/-- **A plan that was saved is accepted later**, after any commands and edits that do not write to
its file, exactly with flags that override every rule that it violates; so with the flags that it
was saved with, or more. What `generate` writes then are the artifacts of the plan that was made.
The snapshot is storable, the parser reads back the text that is printed of the plan, and the output
directory is no file.

**Proof sketch.** The file still has that text, and the plan was made by the interview, so its
version can be read and its answers have been validated. -/
theorem savedPlan_accepted_iff {host : Host σ δ} {hostname : Option Str}
    {snapshotPath : Option Path} {p : Path} {flags : Flags} {events : List (Event σ δ)}
    (hsaved :
      (planCmd safeLoad safeDump L fs host hostname snapshotPath (some p) flags).exitCode = 0)
    (hkept : ∀ e ∈ events, p ∉ e.writes)
    (hround : ∀ snapshot config, takeSnapshot safeLoad L fs host hostname snapshotPath =
      .ok snapshot → makePlan L host flags snapshot = .ok config → snapshot.Storable ∧
        safeLoad (encode (safeDump config.modelDump)) = some config.modelDump) :
    let saved := (planCmd safeLoad safeDump L fs host hostname snapshotPath (some p) flags).fs
    let fs' := history safeLoad safeDump jsonDumps L saved events
    ∃ config, (takeSnapshot safeLoad L fs host hostname snapshotPath).bind (makePlan L host flags) =
        .ok config ∧
      ∀ outputDir flags', fs'.file outputDir = none →
        ((generateCmd safeLoad L fs' p outputDir flags').exitCode = 0 ↔
          ∀ r, Violates config r → Overridden (collectOverrides flags') r) ∧
        (collectOverrides flags ⊆ collectOverrides flags' →
          (generateCmd safeLoad L fs' p outputDir flags').exitCode = 0) ∧
        ((generateCmd safeLoad L fs' p outputDir flags').exitCode = 0 →
          HoldsArtifacts config outputDir (generateCmd safeLoad L fs' p outputDir flags').fs) := by
  intro saved fs'
  obtain ⟨snapshot, config, htake, hmake, hfs⟩ := exists_of_planCmd hsaved
  obtain ⟨hstore, hread⟩ := hround snapshot config htake hmake
  have hmade : (takeSnapshot safeLoad L fs host hostname snapshotPath).bind
      (makePlan L host flags) = .ok config := by
    rw [htake]
    exact hmake
  have hload := loadPlan_of_makePlan hstore hmake hread
  obtain ⟨answers, -, hconfig, hvalid⟩ := makePlan_eq_ok_iff.mp hmake
  obtain ⟨hreturns, hoverridden⟩ := validatePlan_eq_nil_iff.mp hvalid
  obtain ⟨mode, hfile⟩ : ∃ mode, fs'.file p =
      some ⟨encode (safeDump config.modelDump), mode⟩ := by
    obtain ⟨mode, hwritten⟩ := file_write_self fs p (encode (safeDump config.modelDump))
    refine ⟨mode, (file_history_of_not_mem hkept saved).trans ?_⟩
    rw [← hwritten]
    exact congrArg (fun fs => fs.file p) hfs
  refine ⟨config, hmade, fun outputDir flags' hout => ?_⟩
  obtain ⟨hexit, hholds⟩ := generateCmd_of_loadPlan flags' hfile hout hload hreturns
  refine ⟨hexit, fun hflags => hexit.mpr fun r hr => ?_, hholds⟩
  obtain ⟨flag, hflag, hwaiver⟩ := hoverridden r hr
  exact ⟨flag, hflags hflag, hwaiver⟩

/-- A file next to the plan is edited. -/
def cannedNotes : List (Event Unit Empty) := [.edit ["notes.txt"] ⟨[], 0o644⟩]

/-- The canned plan is accepted after the other file has been edited. -/
theorem savedPlan_accepted_iff_canned :
    (generateCmd cannedLoad .strict (history cannedLoad cannedDump cannedDump .strict
      (planCmd cannedLoad cannedDump .strict emptyFs cannedHost (some "dng.example.com") none
        (some ["plan.yaml"]) {}).fs cannedNotes) ["plan.yaml"] ["dng-build"] {}).exitCode = 0 := by
  have htake : takeSnapshot cannedLoad .strict emptyFs cannedHost (some "dng.example.com") none =
      .ok (makeSnapshot {}) := rfl
  have hsaved : (planCmd cannedLoad cannedDump .strict emptyFs cannedHost (some "dng.example.com")
      none (some ["plan.yaml"]) {}).exitCode = 0 := by
    rw [planCmd, if_pos (by rfl), htake]
    simp only [Except.bind, makePlan_canned]
    rfl
  have hround : ∀ snapshot config, takeSnapshot cannedLoad .strict emptyFs cannedHost
      (some "dng.example.com") none = .ok snapshot →
      makePlan .strict cannedHost {} snapshot = .ok config → snapshot.Storable ∧
        cannedLoad (encode (cannedDump config.modelDump)) = some config.modelDump := by
    intro snapshot config h h'
    obtain rfl : makeSnapshot {} = snapshot := Except.ok.inj (htake.symm.trans h)
    obtain rfl : cannedPlan = config := Except.ok.inj (makePlan_canned.symm.trans h')
    exact ⟨storable_sample false, cannedLoad_plan⟩
  have hkept : ∀ p, p ≠ ["notes.txt".toList] → ∀ e ∈ cannedNotes, p ∉ e.writes := by
    intro p hp e he
    obtain rfl := List.mem_singleton.mp he
    exact fun h => hp (List.mem_singleton.mp h)
  obtain ⟨config, -, hall⟩ := savedPlan_accepted_iff cannedDump hsaved
    (hkept ["plan.yaml"] (by decide)) hround
  refine (hall ["dng-build"] {} ?_).2.1 (Finset.Subset.refl _)
  exact (file_history_of_not_mem (hkept ["dng-build"] (by decide)) _).trans
    (file_planCmd_of_not_mem (by decide))

end DngPreflight.Cli
