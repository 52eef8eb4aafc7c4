import DngPreflight.Cli
import DngPreflight.Interview.Engine

set_option relaxedAutoImplicit false
set_option autoImplicit false

/-!
# The workflow

The commands that come before `generate`: `inspect` writes a snapshot, and `plan` runs the interview
on a snapshot, from a file or from the host, and writes the plan. How snapshots and plans are
printed is a parameter, as is how they are read. Writing succeeds.

## Main definitions

* `DngPreflight.Cli.inspectCmd`, `DngPreflight.Cli.planCmd` — the commands.
* `DngPreflight.Cli.workflowCmds` — the commands one after the other.

## Main results

* `DngPreflight.Cli.workflow` — the commands one after the other do what they do at once.
-/

namespace DngPreflight.Cli

open Text Codec Store

variable {σ δ : Type}

/-! ## The commands -/

/-- What the commands find on the host: discovery, given a hostname, which may raise; and whoever
answers the questions. -/
structure Host (σ δ : Type) where
  collect : Str → Option EnvironmentSnapshot
  provider : Interview.AnswersProvider σ δ
  st : σ

/-- What a command leaves behind, and what it prints on its standard output. -/
structure Printed extends Outcome where
  stdout : Str

/-- A command that ends early prints nothing on its standard output. -/
def Stop.printed (stop : Stop) (fs : FileSystem) : Printed := ⟨stop.outcome fs, []⟩

/-- A file to be written must not be a directory. -/
def writable (fs : FileSystem) (output : Option Path) : Bool := output.all fun p => ! fs.isDir p

/-- Write a text to a file, and say so; or print it. -/
def emit (fs : FileSystem) (label : Str) (output : Option Path) (text : Str) : Printed :=
  match output with
  | some p =>
    ⟨⟨0, [[.text (label ++ " written to ".toList ++ p.text)]], [p], fs.write p (encode text)⟩, []⟩
  | none => ⟨⟨0, [], [], fs⟩, text⟩

/-- The serialization formats of a snapshot. -/
inductive Format where
  | yaml
  | json
  deriving DecidableEq

variable (safeLoad : Bytes → Option Tree) (safeDump jsonDumps : Tree → Str) (L : Leaves)

/-- The text of a snapshot. -/
def snapshotText (fmt : Format) (snapshot : EnvironmentSnapshot) : Str :=
  match fmt with
  | .yaml => safeDump snapshot.modelDump
  | .json => jsonDumps snapshot.modelDump ++ "\n".toList

/-- `inspect`: run discovery and write a snapshot. -/
def inspectCmd (fs : FileSystem) (host : Host σ δ) (hostname : Str) (fmt : Format)
    (output : Option Path) : Printed :=
  if writable fs output then
    match host.collect hostname with
    | none => Stop.printed ⟨1, []⟩ fs
    | some snapshot => emit fs "snapshot" output (snapshotText safeDump jsonDumps fmt snapshot)
  else usageError.printed fs

/-- Load a snapshot; none if the file cannot be decoded or parsed, or does not validate. -/
def loadSnapshot (content : Bytes) : Option EnvironmentSnapshot :=
  (safeLoad content).bind (EnvironmentSnapshot.modelValidate L)

/-- The snapshot of a plan: from a file, or else from discovery. -/
def takeSnapshot (fs : FileSystem) (host : Host σ δ) (hostname : Option Str)
    (snapshotPath : Option Path) : Except Stop EnvironmentSnapshot :=
  match snapshotPath with
  | some p =>
    match fs.file p with
    | none => .error usageError
    | some f =>
      match loadSnapshot safeLoad L f.content with
      | none => .error ⟨1, []⟩
      | some snapshot => .ok snapshot
  | none =>
    match hostname with
    | some name =>
      match host.collect name with
      | none => .error ⟨1, []⟩
      | some snapshot => .ok snapshot
    | none => .error usageError

/-- Run the interview on a snapshot, and the rules on the plan. -/
def makePlan (host : Host σ δ) (flags : Flags) (snapshot : EnvironmentSnapshot) :
    Except Stop DngConfig :=
  match Interview.run L snapshot host.provider host.st with
  | .error _ => .error ⟨1, []⟩
  | .ok answers =>
    match reportViolationsAndExit (buildConfig snapshot answers) (collectOverrides flags) with
    | .error stop => .error stop
    | .ok () => .ok (buildConfig snapshot answers)

/-- `plan`: run the interview and write a plan. -/
def planCmd (fs : FileSystem) (host : Host σ δ) (hostname : Option Str)
    (snapshotPath save : Option Path) (flags : Flags) : Printed :=
  if writable fs save then
    match (takeSnapshot safeLoad L fs host hostname snapshotPath).bind (makePlan L host flags) with
    | .error stop => stop.printed fs
    | .ok config => emit fs "plan" save (safeDump config.modelDump)
  else usageError.printed fs

/-! ## What the commands leave behind -/

variable {safeLoad safeDump jsonDumps L} {fs : FileSystem} {host : Host σ δ} {flags : Flags}
  {snapshot : EnvironmentSnapshot} {config : DngConfig}

/-- The file that was written. -/
lemma file_write_self (fs : FileSystem) (p : Path) (content : Bytes) :
    ∃ mode, (fs.write p content).file p = some ⟨content, mode⟩ := ⟨_, if_pos rfl⟩

/-- Other files are unchanged. -/
lemma file_write_of_ne {p q : Path} (h : q ≠ p) (content : Bytes) :
    (fs.write p content).file q = fs.file q := if_neg h

/-- A plan is made exactly if the interview succeeds and no violation is left. -/
lemma makePlan_eq_ok_iff : makePlan L host flags snapshot = .ok config ↔
    ∃ answers, Interview.run L snapshot host.provider host.st = .ok answers ∧
      config = buildConfig snapshot answers ∧
      validatePlan config (collectOverrides flags) = .ok [] := by
  unfold makePlan
  cases hrun : Interview.run L snapshot host.provider host.st with
  | error e => simp
  | ok answers =>
    cases hreport : reportViolationsAndExit (buildConfig snapshot answers)
        (collectOverrides flags) with
    | error stop =>
      simp only [hreport, reduceCtorEq, Except.ok.injEq, false_iff]
      rintro ⟨_, rfl, rfl, hvalid⟩
      rw [reportViolationsAndExit_eq_ok_iff.mpr hvalid] at hreport
      cases hreport
    | ok =>
      have hvalid := reportViolationsAndExit_eq_ok_iff.mp hreport
      simp only [hreport, Except.ok.injEq]
      constructor
      · rintro rfl
        exact ⟨answers, rfl, rfl, hvalid⟩
      · rintro ⟨_, rfl, rfl, -⟩
        rfl

/-- The answers of an interview were built through the validating constructors. -/
lemma validated_of_run {answers : InterviewAnswers}
    (h : Interview.run L snapshot host.provider host.st = .ok answers) : answers.Validated := by
  obtain ⟨prior, -, hfields⟩ := Interview.exists_of_run h
  exact InterviewAnswers.validated_of_ofFields L hfields

/-- A plan that ends early was stopped by a nonzero exit code. -/
lemma exitCode_takeSnapshot_ne_zero {hostname : Option Str} {snapshotPath : Option Path}
    {stop : Stop} (h : takeSnapshot safeLoad L fs host hostname snapshotPath = .error stop) :
    stop.exitCode ≠ 0 := by
  unfold takeSnapshot at h
  split at h
  · split at h
    · cases h
      decide
    · split at h
      · cases h
        decide
      · cases h
  · split at h
    · split at h
      · cases h
        decide
      · cases h
    · cases h
      decide

/-- A report of violations has a nonzero exit code. -/
lemma exitCode_report_ne_zero {overrides : Finset Str} {stop : Stop}
    (h : reportViolationsAndExit config overrides = .error stop) : stop.exitCode ≠ 0 := by
  unfold reportViolationsAndExit at h
  split at h
  · cases h
    decide
  · cases h
  · cases h
    exact Nat.succ_ne_zero 1

/-- An interview that fails, and a plan with violations, have nonzero exit codes. -/
lemma exitCode_makePlan_ne_zero {stop : Stop} (h : makePlan L host flags snapshot = .error stop) :
    stop.exitCode ≠ 0 := by
  unfold makePlan at h
  split at h
  · cases h
    decide
  · split at h
    · rename_i hreport
      cases h
      exact exitCode_report_ne_zero hreport
    · cases h

/-- `inspect` writes the snapshot that is collected. -/
lemma inspectCmd_of_some {hostname : Str} {fmt : Format} {p : Path} (hdir : fs.isDir p = false)
    (h : host.collect hostname = some snapshot) :
    inspectCmd safeDump jsonDumps fs host hostname fmt (some p) =
      emit fs "snapshot" (some p) (snapshotText safeDump jsonDumps fmt snapshot) := by
  rw [inspectCmd, writable, Option.all_some, hdir, Bool.not_false, if_pos rfl, h]

/-- If nothing is collected, `inspect` fails and writes nothing. -/
lemma inspectCmd_of_none {hostname : Str} {fmt : Format} {p : Path} (hdir : fs.isDir p = false)
    (h : host.collect hostname = none) :
    inspectCmd safeDump jsonDumps fs host hostname fmt (some p) = Stop.printed ⟨1, []⟩ fs := by
  rw [inspectCmd, writable, Option.all_some, hdir, Bool.not_false, if_pos rfl, h]

/-- A plan that was accepted is accepted again when it is loaded, with the same flags or more. -/
lemma acceptPlan_of_subset {flags' : Flags} {content : Bytes}
    (hload : loadPlan safeLoad L content = some config)
    (hvalid : validatePlan config (collectOverrides flags) = .ok [])
    (hflags : collectOverrides flags ⊆ collectOverrides flags') :
    acceptPlan safeLoad L flags' content = .ok config := by
  refine acceptPlan_eq_ok_iff.mpr ⟨hload, validatePlan_eq_nil_iff.mpr ?_⟩
  obtain ⟨hreturns, hoverridden⟩ := validatePlan_eq_nil_iff.mp hvalid
  refine ⟨hreturns, fun r hr => ?_⟩
  obtain ⟨f, hf, hwaiver⟩ := hoverridden r hr
  exact ⟨f, hflags hf, hwaiver⟩

/-- A plan that was made is loaded from its text. -/
lemma loadPlan_of_makePlan (hstore : snapshot.Storable)
    (hplan : makePlan L host flags snapshot = .ok config)
    (hround : safeLoad (encode (safeDump config.modelDump)) = some config.modelDump) :
    loadPlan safeLoad L (encode (safeDump config.modelDump)) = some config := by
  obtain ⟨answers, hrun, rfl, -⟩ := makePlan_eq_ok_iff.mp hplan
  rw [loadPlan, hround, Option.bind_some]
  exact DngConfig.modelValidate_modelDump L (validated_of_run hrun) hstore

/-! ## One command after the other -/

/-- `first && next`: the next command is run only if the first one succeeds. -/
def andThen (first : Outcome) (next : FileSystem → Outcome) : Outcome :=
  if first.exitCode = 0 then next first.fs else first

/-- Nothing is run after a command that fails. -/
lemma andThen_of_ne_zero {first : Outcome} (h : first.exitCode ≠ 0)
    (next : FileSystem → Outcome) : andThen first next = first := if_neg h

/-- The plan that is made of what discovery collects. -/
def madePlan (L : Leaves) (host : Host σ δ) (hostname : Str) (flags : Flags) : Option DngConfig :=
  (host.collect hostname).bind fun snapshot => (makePlan L host flags snapshot).toOption

/-- Where the commands of the workflow write to. -/
structure Targets where
  snapshot : Path
  plan : Path
  outputDir : Path

/-- The files may be written to: the first two are no directories, and the third is no file. -/
structure Targets.Free (t : Targets) (fs : FileSystem) : Prop where
  snapshot : fs.isDir t.snapshot = false
  plan : fs.isDir t.plan = false
  outputDir : fs.file t.outputDir = none
  ne_snapshot : t.outputDir ≠ t.snapshot
  ne_plan : t.outputDir ≠ t.plan

variable (safeLoad safeDump jsonDumps L) in
/-- The whole workflow: `inspect`, then `plan` on its snapshot, then `generate` on its plan. -/
def workflowCmds (fs : FileSystem) (host : Host σ δ) (hostname : Str) (fmt : Format)
    (flags flags' : Flags) (t : Targets) : Outcome :=
  andThen (inspectCmd safeDump jsonDumps fs host hostname fmt (some t.snapshot)).toOutcome fun fs =>
    andThen (planCmd safeLoad safeDump L fs host none (some t.snapshot) (some t.plan)
      flags).toOutcome fun fs =>
        generateCmd safeLoad L fs t.plan t.outputDir flags'

variable (safeLoad safeDump L) in
/-- The same without a snapshot file: `plan` on the host, then `generate` on its plan. -/
def directCmds (fs : FileSystem) (host : Host σ δ) (hostname : Str) (flags flags' : Flags)
    (t : Targets) : Outcome :=
  andThen (planCmd safeLoad safeDump L fs host (some hostname) none (some t.plan)
    flags).toOutcome fun fs => generateCmd safeLoad L fs t.plan t.outputDir flags'

/-- A file that was written before another one only matters at its own path. -/
lemma file_write_congr {p q : Path} (q' : Path) (content : Bytes) {content' : Bytes} (h : p ≠ q) :
    ((fs.write q content').write q' content).file p = (fs.write q' content).file p := by
  by_cases hp : p = q'
  · subst hp
    simp only [FileSystem.write, if_true, if_neg h]
  · rw [file_write_of_ne hp, file_write_of_ne hp, file_write_of_ne h]

/-- The artifacts depend on the files that are there only through their modes. -/
lemma file_generateAll_congr (config : DngConfig) (outputDir : Path) {fs fs' : FileSystem}
    {p : Path} (hfile : fs.file p = fs'.file p) (hmode : fs.newMode = fs'.newMode) :
    (generateAll config outputDir fs).1.file p = (generateAll config outputDir fs').1.file p := by
  by_cases hp : p ∈ artifactPaths outputDir
  · obtain ⟨o, ho, rfl⟩ : ∃ o ∈ outputs config outputDir, o.path = p := List.mem_map.mp hp
    show ((fs.mkdirs outputDir).putAll (outputs config outputDir)).file o.path =
      ((fs'.mkdirs outputDir).putAll (outputs config outputDir)).file o.path
    rw [FileSystem.file_putAll_of_mem _ (nodup_outputs config outputDir) ho,
      FileSystem.file_putAll_of_mem _ (nodup_outputs config outputDir) ho]
    simp only [FileSystem.file_mkdirs, FileSystem.newMode_mkdirs, hfile, hmode]
  · rw [file_generateAll_of_not_mem config fs hp, file_generateAll_of_not_mem config fs' hp, hfile]

/-- What `generate` leaves behind when the plan is accepted. -/
def generated (config : DngConfig) (outputDir : Path) (fs : FileSystem) : Outcome :=
  let (fs', written) := generateAll config outputDir fs
  ⟨0, [.text ("wrote ".toList ++ numeral 10 written.length ++ " artifact(s) to ".toList ++
      outputDir.text ++ ":".toList)] ::
    written.map (fun path => [.text ("  - ".toList ++ path.name)]), written, fs'⟩

/-- `generate` on a plan that is accepted. -/
lemma generateCmd_eq_generated {p outputDir : Path} {f : File} (hfile : fs.file p = some f)
    (hout : fs.file outputDir = none)
    (haccept : acceptPlan safeLoad L flags f.content = .ok config) :
    generateCmd safeLoad L fs p outputDir flags = generated config outputDir fs := by
  simp only [generateCmd, hfile, hout, haccept]
  rfl

/-- `plan` and then `generate`, once the snapshot is there: what they leave behind depends on the
plan that is made. -/
lemma planThenGenerate {hostname : Option Str} {snapshotPath : Option Path} {flags' : Flags}
    {t : Targets} (hplanDir : fs.isDir t.plan = false) (hout : fs.file t.outputDir = none)
    (hne : t.outputDir ≠ t.plan) (hstore : snapshot.Storable)
    (htake : takeSnapshot safeLoad L fs host hostname snapshotPath = .ok snapshot)
    (hflags : collectOverrides flags ⊆ collectOverrides flags')
    (hround : ∀ config, makePlan L host flags snapshot = .ok config →
      safeLoad (encode (safeDump config.modelDump)) = some config.modelDump) :
    andThen (planCmd safeLoad safeDump L fs host hostname snapshotPath (some t.plan)
        flags).toOutcome (fun fs => generateCmd safeLoad L fs t.plan t.outputDir flags') =
      match makePlan L host flags snapshot with
      | .error stop => stop.outcome fs
      | .ok config => generated config t.outputDir
          (fs.write t.plan (encode (safeDump config.modelDump))) := by
  have hwritable : writable fs (some t.plan) = true := by
    rw [writable, Option.all_some, hplanDir, Bool.not_false]
  have hcmd : planCmd safeLoad safeDump L fs host hostname snapshotPath (some t.plan) flags =
      match makePlan L host flags snapshot with
      | .error stop => stop.printed fs
      | .ok config => emit fs "plan" (some t.plan) (safeDump config.modelDump) := by
    rw [planCmd, if_pos hwritable, htake]
    rfl
  rw [hcmd]
  cases hplan : makePlan L host flags snapshot with
  | error stop => exact andThen_of_ne_zero (exitCode_makePlan_ne_zero hplan) _
  | ok config =>
    show generateCmd safeLoad L (fs.write t.plan (encode (safeDump config.modelDump))) t.plan
      t.outputDir flags' = _
    obtain ⟨mode, hfile⟩ := file_write_self fs t.plan (encode (safeDump config.modelDump))
    have hload := loadPlan_of_makePlan hstore hplan (hround config hplan)
    obtain ⟨-, -, -, hvalid⟩ := makePlan_eq_ok_iff.mp hplan
    exact generateCmd_eq_generated hfile ((file_write_of_ne hne _).trans hout)
      (acceptPlan_of_subset hload hvalid hflags)

/-- `generate` succeeds exactly when the plan is accepted. -/
lemma exitCode_generateCmd {p outputDir : Path} {f : File} (hfile : fs.file p = some f)
    (hout : fs.file outputDir = none) : (generateCmd safeLoad L fs p outputDir flags).exitCode = 0 ↔
      ∃ config, acceptPlan safeLoad L flags f.content = .ok config := by
  cases haccept : acceptPlan safeLoad L flags f.content with
  | error stop =>
    rw [generateCmd_of_error hfile hout haccept]
    simp only [reduceCtorEq, exists_false, iff_false]
    exact exitCode_ne_zero haccept
  | ok config =>
    rw [generateCmd_eq_generated hfile hout haccept]
    exact ⟨fun _ => ⟨config, rfl⟩, fun _ => rfl⟩

/-- What the last two commands leave behind on a snapshot. -/
def finished (L : Leaves) (safeDump : Tree → Str) (host : Host σ δ) (flags : Flags) (t : Targets)
    (snapshot : EnvironmentSnapshot) (fs : FileSystem) : Outcome :=
  match makePlan L host flags snapshot with
  | .error stop => stop.outcome fs
  | .ok config =>
    generated config t.outputDir (fs.write t.plan (encode (safeDump config.modelDump)))

/-- If the parts are there, the workflow ends as its last two commands do. -/
lemma workflowCmds_of_some {hostname : Str} {fmt : Format} {flags' : Flags} {t : Targets}
    (hfree : t.Free fs) (hcollect : host.collect hostname = some snapshot)
    (hstore : snapshot.Storable)
    (hsnapshot : safeLoad (encode (snapshotText safeDump jsonDumps fmt snapshot)) =
      some snapshot.modelDump)
    (hflags : collectOverrides flags ⊆ collectOverrides flags')
    (hround : ∀ config, makePlan L host flags snapshot = .ok config →
      safeLoad (encode (safeDump config.modelDump)) = some config.modelDump) :
    workflowCmds safeLoad safeDump jsonDumps L fs host hostname fmt flags flags' t =
      finished L safeDump host flags t snapshot
        (fs.write t.snapshot (encode (snapshotText safeDump jsonDumps fmt snapshot))) := by
  obtain ⟨mode, hfile⟩ := file_write_self fs t.snapshot
    (encode (snapshotText safeDump jsonDumps fmt snapshot))
  have htake : takeSnapshot safeLoad L
      (fs.write t.snapshot (encode (snapshotText safeDump jsonDumps fmt snapshot))) host none
      (some t.snapshot) = .ok snapshot := by
    have hload : loadSnapshot safeLoad L
        (encode (snapshotText safeDump jsonDumps fmt snapshot)) = some snapshot := by
      rw [loadSnapshot, hsnapshot, Option.bind_some]
      exact EnvironmentSnapshot.modelValidate_modelDump L hstore
    simp only [takeSnapshot, hfile, hload]
  have hout := (file_write_of_ne hfree.ne_snapshot
    (encode (snapshotText safeDump jsonDumps fmt snapshot))).trans hfree.outputDir
  rw [workflowCmds, inspectCmd_of_some hfree.snapshot hcollect]
  exact planThenGenerate hfree.plan hout hfree.ne_plan hstore htake hflags hround

/-- The same without a snapshot file. -/
lemma directCmds_of_some {hostname : Str} {flags' : Flags} {t : Targets} (hfree : t.Free fs)
    (hcollect : host.collect hostname = some snapshot) (hstore : snapshot.Storable)
    (hflags : collectOverrides flags ⊆ collectOverrides flags')
    (hround : ∀ config, makePlan L host flags snapshot = .ok config →
      safeLoad (encode (safeDump config.modelDump)) = some config.modelDump) :
    directCmds safeLoad safeDump L fs host hostname flags flags' t =
      finished L safeDump host flags t snapshot fs := by
  have htake : takeSnapshot safeLoad L fs host (some hostname) none = .ok snapshot := by
    simp only [takeSnapshot, hcollect]
  exact planThenGenerate hfree.plan hfree.outputDir hfree.ne_plan hstore htake hflags hround

/-- If nothing is collected, nothing is written. -/
lemma workflowCmds_of_none {hostname : Str} {fmt : Format} {flags' : Flags} {t : Targets}
    (hfree : t.Free fs) (hcollect : host.collect hostname = none) :
    workflowCmds safeLoad safeDump jsonDumps L fs host hostname fmt flags flags' t =
      Stop.outcome ⟨1, []⟩ fs := by
  rw [workflowCmds, inspectCmd_of_none hfree.snapshot hcollect]
  exact andThen_of_ne_zero Nat.one_ne_zero _

/-- The same without a snapshot file. -/
lemma directCmds_of_none {hostname : Str} {flags' : Flags} {t : Targets} (hfree : t.Free fs)
    (hcollect : host.collect hostname = none) :
    directCmds safeLoad safeDump L fs host hostname flags flags' t =
      Stop.outcome ⟨1, []⟩ fs := by
  have hcmd : planCmd safeLoad safeDump L fs host (some hostname) none (some t.plan) flags =
      Stop.printed ⟨1, []⟩ fs := by
    have htake : takeSnapshot safeLoad L fs host (some hostname) none = .error ⟨1, []⟩ := by
      simp only [takeSnapshot, hcollect]
    rw [planCmd, writable, Option.all_some, hfree.plan, Bool.not_false, if_pos rfl, htake]
    rfl
  rw [directCmds, hcmd]
  exact andThen_of_ne_zero Nat.one_ne_zero _

/-- **The workflow**: `inspect`, `plan` on the snapshot and `generate` on the plan, each run if the
one before succeeded. It succeeds exactly if discovery collects a snapshot, the interview yields
answers and no rule is violated that is not overridden; then the artifacts hold the texts that are
rendered from the plan which these three make without any file, and nothing else changes but the
two files in between. If it fails, only the snapshot may have been written. Without a snapshot file
the end is the same. The parser reads back the snapshot and the plan from the texts that are printed
of them, and `generate` is given the flags of `plan`, or more.

**Proof sketch.** Each file holds the text of a value that the next command reads back, and the
rules that `plan` has passed are passed again. -/
theorem workflow {hostname : Str} {fmt : Format} {flags' : Flags} {t : Targets} (hfree : t.Free fs)
    (hflags : collectOverrides flags ⊆ collectOverrides flags')
    (hsnapshot : ∀ snapshot, host.collect hostname = some snapshot → snapshot.Storable ∧
      safeLoad (encode (snapshotText safeDump jsonDumps fmt snapshot)) = some snapshot.modelDump)
    (hplan : ∀ config, madePlan L host hostname flags = some config →
      safeLoad (encode (safeDump config.modelDump)) = some config.modelDump) :
    let files := workflowCmds safeLoad safeDump jsonDumps L fs host hostname fmt flags flags' t
    let direct := directCmds safeLoad safeDump L fs host hostname flags flags' t
    (files.exitCode = direct.exitCode ∧ files.echoed = direct.echoed ∧
      files.written = direct.written ∧
      ∀ p, p ≠ t.snapshot → files.fs.file p = direct.fs.file p) ∧
    (∀ config, madePlan L host hostname flags = some config →
      files.exitCode = 0 ∧ files.written = artifactPaths t.outputDir ∧
      (∀ name text, Renders config name text →
        ∃ mode, files.fs.file (t.outputDir ++ [name]) = some ⟨encode text, mode⟩) ∧
      ∀ p, p ∉ artifactPaths t.outputDir → p ≠ t.snapshot → p ≠ t.plan →
        files.fs.file p = fs.file p) ∧
    (madePlan L host hostname flags = none →
      files.exitCode ≠ 0 ∧ ∀ p, p ≠ t.snapshot → files.fs.file p = fs.file p) := by
  intro files direct
  cases hcollect : host.collect hostname with
  | none =>
    have hnone : madePlan L host hostname flags = none := by rw [madePlan, hcollect]; rfl
    have hfiles : files = Stop.outcome ⟨1, []⟩ fs := workflowCmds_of_none hfree hcollect
    have hdirect : direct = Stop.outcome ⟨1, []⟩ fs := directCmds_of_none hfree hcollect
    rw [hfiles, hdirect, hnone]
    exact ⟨⟨rfl, rfl, rfl, fun _ _ => rfl⟩, fun _ h => (Option.some_ne_none _ h.symm).elim,
      fun _ => ⟨Nat.one_ne_zero, fun _ _ => rfl⟩⟩
  | some snapshot =>
    obtain ⟨hstore, hread⟩ := hsnapshot snapshot hcollect
    have hmade : madePlan L host hostname flags = (makePlan L host flags snapshot).toOption := by
      rw [madePlan, hcollect, Option.bind_some]
    have hround : ∀ config, makePlan L host flags snapshot = .ok config →
        safeLoad (encode (safeDump config.modelDump)) = some config.modelDump := by
      intro config h
      apply hplan
      rw [hmade, h]
      rfl
    have hfiles := workflowCmds_of_some hfree hcollect hstore hread hflags hround
    have hdirect := directCmds_of_some hfree hcollect hstore hflags hround
    change files = _ at hfiles
    change direct = _ at hdirect
    rw [hfiles, hdirect, hmade]
    unfold finished
    cases hmake : makePlan L host flags snapshot with
    | error stop =>
      exact ⟨⟨rfl, rfl, rfl, fun _ hp => file_write_of_ne hp _⟩,
        fun _ h => (Option.some_ne_none _ h.symm).elim, fun _ =>
          ⟨exitCode_makePlan_ne_zero hmake, fun _ hp => file_write_of_ne hp _⟩⟩
    | ok config =>
      refine ⟨⟨rfl, rfl, rfl, fun p hp => ?_⟩, ?_, fun h => (Option.some_ne_none _ h).elim⟩
      · refine file_generateAll_congr config t.outputDir ?_ rfl
        exact file_write_congr t.plan _ hp
      · intro config' h
        obtain rfl : config = config' := Option.some.inj h
        refine ⟨rfl, rfl, fun name text h => file_generateAll_of_renders config _ _ h, ?_⟩
        intro p hp hne hne'
        exact (file_generateAll_of_not_mem config _ hp).trans
          ((file_write_of_ne hne' _).trans (file_write_of_ne hne _))

/-! ## A sample workflow -/

/-- The lines of the sample snapshot. -/
def snapshotLines : List Str :=
  ["captured_at: '2026-05-12T12:00:00+00:00'", "hostname_planned: dng.example.com", "system:",
    "  detected: true", "  platform: linux", "  distro: ubuntu", "  distro_version: '24.04'",
    "  kernel: 6.8.0-31-generic", "  arch: x86_64", "  ram_mb: 8192", "  cpu_count: 4",
    "  selinux_mode: null", "  apparmor_active: true", "  domain_joined: false", "docker:",
    "  detected: true", "  engine_version: 27.0.0", "  compose_version: 2.27.0",
    "  daemon_reachable: true", "  current_user_in_docker_group: true", "network:",
    "  detected: true", "  interfaces:", "    eth0:", "    - 10.0.0.5",
    "  default_route_iface: eth0", "  listening_ports:", "    '22': sshd",
    "  egress_public_ip: 203.0.113.10", "dns:", "  detected: true",
    "  hostname: dng.example.com", "  a_records:", "    1.1.1.1:", "    - 203.0.113.10",
    "  aaaa_records:", "    1.1.1.1: []", "  reverse_ptr: null", "  local_resolvers:",
    "  - 127.0.0.53", "tls:", "  detected: true", "  answers_on_443: false", "  cn: null",
    "  sans: []", "  not_before: null", "  not_after: null", "  issuer: null",
    "  key_algorithm: null", "time_sync:", "  detected: true", "  daemon: chronyd",
    "  sync_source: time.cloudflare.com", "  offset_seconds: 0.012", "firewall:",
    "  detected: true", "  kind: ufw", "  active: true", "duo_reachability:",
    "  detected: true", "  endpoints:", "    https://duo.com: 200"]

/-- The lines of the plan that the canned answers lead to. -/
def planLines : List Str :=
  "snapshot:".toList :: snapshotLines.map (fun l => "  ".toList ++ l) ++
  ["answers:", "  deployment_scope: web_ssh_rdp_smb", "  idp: okta",
    "  public_hostname: dng.example.com", "  tls_strategy:", "    kind: internal_ca",
    "    cert_path: /c", "    key_path: /k", "    chain_path: /chain", "  wildcard_cert: true",
    "  load_balancer: null", "  internal_dns: split_horizon", "  seed_apps:", "    web_apps: []",
    "    ssh_relays:", "    - name: ssh-1", "    rdp_relays:", "    - name: rdp-1",
    "requires_extra_dns_container: true", "dng_version_minimum: 3.3.0"].map String.toList

/-- The text of lines. -/
def textOf (ls : List Str) : Str := ls.flatMap fun l => l ++ ['\n']

/-- A host whose snapshot is the sample one, and whose questions get the canned answers. -/
def cannedHost : Host Unit Empty := ⟨fun _ => some (makeSnapshot {}), Interview.cannedProvider, ()⟩

/-- The plan that the canned answers lead to. -/
def cannedPlan : DngConfig :=
  buildConfig (makeSnapshot {})
    { makeAnswers { deploymentScope := .webSshRdpSmb, idp := .okta, internalDns := .splitHorizon,
                    seedApps := stubApps 0 1 1 } with
      tlsStrategy := .internalCa ⟨"/c", "/k", "/chain"⟩ }

/-- A printer of these two values. -/
def cannedDump : Tree → Str
  | .map ((key, _) :: _) => textOf (if key = .str "snapshot" then planLines else snapshotLines)
  | _ => []

/-- A parser of these two texts. -/
def cannedLoad (content : Bytes) : Option Tree :=
  if content = encode (textOf snapshotLines) then some (makeSnapshot {}).modelDump
  else if content = encode (textOf planLines) then some cannedPlan.modelDump
  else none

/-- The paths that the sample workflow writes to. -/
def cannedTargets : Targets := ⟨["snapshot.yaml"], ["plan.yaml"], ["dng-build"]⟩

/-- An empty directory. -/
def emptyFs : FileSystem := ⟨fun _ => none, fun _ => false, 0o644⟩

/-- The canned plan passes. -/
lemma validatePlan_canned : validatePlan cannedPlan (collectOverrides {}) = .ok [] := by
  decide +kernel

/-- The canned answers lead to the canned plan. -/
lemma makePlan_canned : makePlan .strict cannedHost {} (makeSnapshot {}) = .ok cannedPlan :=
  makePlan_eq_ok_iff.mpr ⟨cannedPlan.answers, rfl, rfl, validatePlan_canned⟩

/-- So does what discovery collects. -/
lemma madePlan_canned :
    madePlan .strict cannedHost "dng.example.com" {} = some cannedPlan := by
  show (makePlan .strict cannedHost {} (makeSnapshot {})).toOption = some cannedPlan
  rw [makePlan_canned]
  rfl

/-- The parser reads the text of the canned plan. -/
lemma cannedLoad_plan :
    cannedLoad (encode (textOf planLines)) = some cannedPlan.modelDump :=
  (if_neg (by decide +kernel)).trans (if_pos rfl)

/-- The canned plan is read from its text, also with a snapshot of a host that is joined. -/
lemma modelValidate_canned (joined : Bool) :
    DngConfig.modelValidate .strict
        { cannedPlan with snapshot := makeSnapshot { domainJoined := joined } }.modelDump =
      some { cannedPlan with snapshot := makeSnapshot { domainJoined := joined } } := by
  refine DngConfig.modelValidate_modelDump .strict ?_ (storable_sample joined)
  intro lb hlb
  cases hlb

/-- The sample workflow ends with the artifacts of the canned plan. -/
theorem workflow_canned :
    (workflowCmds cannedLoad cannedDump cannedDump .strict emptyFs cannedHost "dng.example.com"
      .yaml {} {} cannedTargets).written = artifactPaths ["dng-build"] := by
  have hfree : cannedTargets.Free emptyFs := ⟨rfl, rfl, rfl, by decide, by decide⟩
  have hsnapshot : ∀ snapshot, cannedHost.collect "dng.example.com" = some snapshot →
      snapshot.Storable ∧ cannedLoad (encode (snapshotText cannedDump cannedDump .yaml
        snapshot)) = some snapshot.modelDump := by
    intro snapshot h
    obtain rfl : makeSnapshot {} = snapshot := Option.some.inj h
    exact ⟨storable_sample false, if_pos rfl⟩
  have hplan : ∀ config, madePlan .strict cannedHost "dng.example.com" {} = some config →
      cannedLoad (encode (cannedDump config.modelDump)) = some config.modelDump := by
    intro config h
    obtain rfl : cannedPlan = config := Option.some.inj (madePlan_canned.symm.trans h)
    exact cannedLoad_plan
  exact ((workflow hfree (Finset.Subset.refl _) hsnapshot hplan).2.1 cannedPlan
    madePlan_canned).2.1

end DngPreflight.Cli
