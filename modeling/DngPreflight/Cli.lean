import DngPreflight.Store.FileSystem
import DngPreflight.Validation.Overrides
import DngPreflight.Models.Serialization
import DngPreflight.Generators.ScriptedConfig
import DngPreflight.Generators.Installer
import DngPreflight.Generators.Runbook
import DngPreflight.Generators.DnsRecords
import DngPreflight.Generators.FirewallRules

set_option relaxedAutoImplicit false
set_option autoImplicit false

/-!
# The commands

The commands that read a saved plan: `validate` runs the rules, `generate` runs the same rules
and then writes the artifacts. How the bytes of a plan file are decoded and parsed is a
parameter.

## Main definitions

* `DngPreflight.Cli.generateAll` — write every artifact.
* `DngPreflight.Cli.Renders` — the texts of the artifacts, by their names.
* `DngPreflight.Cli.acceptPlan` — load a plan and run the rules; both commands begin with it.
* `DngPreflight.Cli.validateCmd`, `DngPreflight.Cli.generateCmd` — the commands.

## Main results

* `DngPreflight.Cli.generate_effects` — what `generate` does to the file system, and when.
-/

namespace DngPreflight.Cli

open Text Codec Store

/-! ## The artifacts -/

/-- The names of the artifacts. -/
def artifactNames : List Str :=
  ["scripted-config.yaml", "install.sh", "RUNBOOK.md", "dns-records.md", "dns-records.json",
    "firewall.sh"]

/-- The artifacts, rendered. -/
def payloads (config : DngConfig) : List (Str × Str) :=
  [("scripted-config.yaml", ScriptedConfig.generate config),
    ("install.sh", Installer.generate config),
    ("RUNBOOK.md", Runbook.generate config),
    ("dns-records.md", DnsRecords.generateMd config),
    ("dns-records.json", DnsRecords.generateJson config),
    ("firewall.sh", FirewallRules.generate config)]

/-- The text that an artifact of a plan holds, by its name. -/
inductive Renders (config : DngConfig) : (name text : Str) → Prop
  | scriptedConfig : Renders config "scripted-config.yaml" (ScriptedConfig.generate config)
  | installer : Renders config "install.sh" (Installer.generate config)
  | runbook : Renders config "RUNBOOK.md" (Runbook.generate config)
  | dnsRecordsMd : Renders config "dns-records.md" (DnsRecords.generateMd config)
  | dnsRecordsJson : Renders config "dns-records.json" (DnsRecords.generateJson config)
  | firewallRules : Renders config "firewall.sh" (FirewallRules.generate config)

/-- **The rendered artifacts** are the six texts, under their names. -/
lemma mem_payloads_iff {config : DngConfig} {name text : Str} :
    (name, text) ∈ payloads config ↔ Renders config name text := by
  constructor
  · intro h
    simp only [payloads, List.mem_cons, Prod.mk.injEq, List.not_mem_nil, or_false] at h
    rcases h with ⟨rfl, rfl⟩ | ⟨rfl, rfl⟩ | ⟨rfl, rfl⟩ | ⟨rfl, rfl⟩ | ⟨rfl, rfl⟩ | ⟨rfl, rfl⟩
    · exact .scriptedConfig
    · exact .installer
    · exact .runbook
    · exact .dnsRecordsMd
    · exact .dnsRecordsJson
    · exact .firewallRules
  · intro h
    cases h with
    | scriptedConfig => exact .head _
    | installer => exact .tail _ (.head _)
    | runbook => exact .tail _ (.tail _ (.head _))
    | dnsRecordsMd => exact .tail _ (.tail _ (.tail _ (.head _)))
    | dnsRecordsJson => exact .tail _ (.tail _ (.tail _ (.tail _ (.head _))))
    | firewallRules => exact .tail _ (.tail _ (.tail _ (.tail _ (.tail _ (.head _)))))

/-- Every artifact has one text. -/
lemma Renders.unique {config : DngConfig} {name text text' : Str}
    (h : Renders config name text) (h' : Renders config name text') : text = text' := by
  have hnodup : ((payloads config).map Prod.fst).Nodup := (by decide : artifactNames.Nodup)
  have hsame :=
    List.inj_on_of_nodup_map hnodup (mem_payloads_iff.mpr h) (mem_payloads_iff.mpr h') rfl
  exact congrArg Prod.snd hsame

/-- The name of a text that is rendered is that of an artifact. -/
lemma Renders.mem_artifactNames {config : DngConfig} {name text : Str}
    (h : Renders config name text) : name ∈ artifactNames := by
  have hnames : (payloads config).map Prod.fst = artifactNames := rfl
  rw [← hnames]
  exact List.mem_map_of_mem (mem_payloads_iff.mpr h)

/-- The paths of the artifacts. -/
def artifactPaths (outputDir : Path) : List Path :=
  artifactNames.map fun name => outputDir ++ [name]

/-- The file of an artifact; shell scripts are made executable. -/
def outputOf (outputDir : Path) (payload : Str × Str) : Output :=
  let path : Path := outputDir ++ [payload.1]
  { path := path
    content := encode payload.2
    mode := if path.suffix = ".sh" then some 0o755 else none }

/-- The files of the artifacts. -/
def outputs (config : DngConfig) (outputDir : Path) : List Output :=
  (payloads config).map (outputOf outputDir)

/-- Render every artifact and write it to the output directory. -/
def generateAll (config : DngConfig) (outputDir : Path) (fs : FileSystem) :
    FileSystem × List Path :=
  ((fs.mkdirs outputDir).putAll (outputs config outputDir),
    (outputs config outputDir).map Output.path)

/-! ## The rules -/

/-- The override flags of a command line. -/
structure Flags where
  allowPublicAdmin : Bool := false
  allowDomainJoined : Bool := false
  skipTimeCheck : Bool := false
  deriving DecidableEq

/-- The overrides that the flags stand for. -/
def collectOverrides (flags : Flags) : Finset Str :=
  (if flags.allowPublicAdmin then {allowPublicAdmin} else ∅) ∪
  (if flags.allowDomainJoined then {allowDomainJoined} else ∅) ∪
  (if flags.skipTimeCheck then {skipTimeCheck} else ∅)

/-- A line on the terminal. -/
abbrev Line := Message (Option Str)

/-- The command ends early, with an exit code: 2 for hard stops and for wrong arguments, 1 for an
exception. -/
structure Stop where
  exitCode : ℕ
  echoed : List Line
  deriving DecidableEq

/-- The line that reports a violation. -/
def hardStopLine (v : HardStop) : Line :=
  [.text ("HARD-STOP ".toList ++ v.rule.id ++ ": ".toList)] ++ v.message ++
  match v.overrideFlag with
  | none => []
  | some flag =>
    if flag = [] then [] else [.text (" (override: ".toList ++ flag ++ ")".toList)]

/-- Report the violations, if there are any, and stop. -/
def reportViolationsAndExit (config : DngConfig) (overrides : Finset Str) : Except Stop Unit :=
  match validatePlan config overrides with
  | .error _ => .error ⟨1, []⟩
  | .ok [] => .ok ()
  | .ok violations => .error ⟨2, violations.map hardStopLine⟩

variable (safeLoad : Bytes → Option Tree) (L : Leaves)

/-- Load a plan; none if the file cannot be decoded or parsed, or does not validate. -/
def loadPlan (content : Bytes) : Option DngConfig :=
  (safeLoad content).bind (DngConfig.modelValidate L)

/-- Load a plan and run the rules. -/
def acceptPlan (flags : Flags) (content : Bytes) : Except Stop DngConfig :=
  match loadPlan safeLoad L content with
  | none => .error ⟨1, []⟩
  | some config =>
    match reportViolationsAndExit config (collectOverrides flags) with
    | .error stop => .error stop
    | .ok () => .ok config

/-! ## The commands -/

/-- What a command leaves behind: its exit code, the lines on the terminal, the paths of the files
that it wrote, and the file system. -/
structure Outcome where
  exitCode : ℕ
  echoed : List Line
  written : List Path
  fs : FileSystem

/-- A command that ends early leaves the file system as it is. -/
def Stop.outcome (stop : Stop) (fs : FileSystem) : Outcome := ⟨stop.exitCode, stop.echoed, [], fs⟩

/-- Arguments that the command line rejects; the usage message is left out. -/
def usageError : Stop := ⟨2, []⟩

/-- `validate`: run the rules against a saved plan. -/
def validateCmd (fs : FileSystem) (planPath : Path) (flags : Flags) : Outcome :=
  match fs.file planPath with
  | none => usageError.outcome fs
  | some plan =>
    match acceptPlan safeLoad L flags plan.content with
    | .error stop => stop.outcome fs
    | .ok _ => ⟨0, [[.text "OK: no hard-stop violations"]], [], fs⟩

/-- `generate`: run the rules against a saved plan, and write every artifact. The output directory
must not be a file. -/
def generateCmd (fs : FileSystem) (planPath outputDir : Path) (flags : Flags) : Outcome :=
  match fs.file planPath, fs.file outputDir with
  | some plan, none =>
    match acceptPlan safeLoad L flags plan.content with
    | .error stop => stop.outcome fs
    | .ok config =>
      let (fs', written) := generateAll config outputDir fs
      ⟨0, [.text ("wrote ".toList ++ numeral 10 written.length ++ " artifact(s) to ".toList ++
          outputDir.text ++ ":".toList)] ::
        written.map (fun path => [.text ("  - ".toList ++ path.name)]), written, fs'⟩
  | _, _ => usageError.outcome fs

/-! ## When plans are accepted -/

variable {safeLoad L} {flags : Flags} {content : Bytes} {config : DngConfig}

/-- No violation is reported exactly when the validator returns none. -/
lemma reportViolationsAndExit_eq_ok_iff {overrides : Finset Str} :
    reportViolationsAndExit config overrides = .ok () ↔ validatePlan config overrides = .ok [] := by
  unfold reportViolationsAndExit
  split
  · simp_all
  · simp_all
  · rename_i violations hne hv
    constructor
    · intro h
      cases h
    · intro h
      cases hv.symm.trans h
      exact absurd rfl hne

/-- A plan is accepted exactly when it loads and no violation is left. -/
lemma acceptPlan_eq_ok_iff : acceptPlan safeLoad L flags content = .ok config ↔
    loadPlan safeLoad L content = some config ∧
      validatePlan config (collectOverrides flags) = .ok [] := by
  rw [← reportViolationsAndExit_eq_ok_iff]
  unfold acceptPlan
  cases loadPlan safeLoad L content with
  | none => simp
  | some c =>
    simp only [Option.some.injEq]
    constructor
    · intro h
      split at h
      · cases h
      · rename_i hreport
        cases h
        exact ⟨rfl, hreport⟩
    · rintro ⟨rfl, hreport⟩
      simp only [hreport]

/-- A command that ends early has a nonzero exit code. -/
lemma exitCode_ne_zero {stop : Stop} (h : acceptPlan safeLoad L flags content = .error stop) :
    stop.exitCode ≠ 0 := by
  unfold acceptPlan reportViolationsAndExit at h
  split at h
  · cases h
    decide
  · split at h
    · rename_i hreport
      split at hreport
      · cases hreport
        cases h
        decide
      · cases hreport
      · cases hreport
        cases h
        exact Nat.succ_ne_zero 1
    · cases h

section Commands

variable {fs : FileSystem} {planPath outputDir : Path} {plan : File}
  (hplan : fs.file planPath = some plan)

include hplan

/-- `validate` succeeds exactly when the plan is accepted. -/
lemma exitCode_validateCmd : (validateCmd safeLoad L fs planPath flags).exitCode = 0 ↔
    ∃ config, acceptPlan safeLoad L flags plan.content = .ok config := by
  unfold validateCmd
  rw [hplan]
  cases h : acceptPlan safeLoad L flags plan.content with
  | error stop =>
    simp only [h, Stop.outcome, reduceCtorEq, exists_false, iff_false]
    exact exitCode_ne_zero h
  | ok config => simp only [h, Except.ok.injEq, exists_eq']

variable (hout : fs.file outputDir = none)

include hout

/-- `generate` changes nothing when the plan is not accepted. -/
lemma generateCmd_of_error {stop : Stop}
    (h : acceptPlan safeLoad L flags plan.content = .error stop) :
    generateCmd safeLoad L fs planPath outputDir flags = stop.outcome fs := by
  unfold generateCmd
  rw [hplan, hout]
  simp only [h]

/-- `generate` writes every artifact when the plan is accepted. -/
lemma generateCmd_of_ok (h : acceptPlan safeLoad L flags plan.content = .ok config) :
    (generateCmd safeLoad L fs planPath outputDir flags).written = artifactPaths outputDir ∧
      (generateCmd safeLoad L fs planPath outputDir flags).fs =
        (generateAll config outputDir fs).1 := by
  unfold generateCmd
  rw [hplan, hout]
  simp only [h]
  exact ⟨rfl, trivial⟩

end Commands

/-! ## What `generate` does -/

/-- The artifacts have different paths. -/
lemma nodup_outputs (config : DngConfig) (outputDir : Path) :
    ((outputs config outputDir).map Output.path).Nodup := by
  have hpaths : (artifactPaths outputDir).Nodup := by
    refine List.Nodup.map (fun a b h => ?_) (by decide : artifactNames.Nodup)
    simpa using h
  exact hpaths

/-- The file of every artifact is one of the outputs. -/
lemma file_generateAll_of_renders (config : DngConfig) (outputDir : Path) (fs : FileSystem)
    {name text : Str} (h : Renders config name text) :
    ∃ mode, (generateAll config outputDir fs).1.file (outputDir ++ [name]) =
      some ⟨encode text, mode⟩ :=
  ⟨_, (fs.mkdirs outputDir).file_putAll_of_mem (nodup_outputs config outputDir)
    (List.mem_map_of_mem (mem_payloads_iff.mpr h))⟩

/-- Every file that is no artifact is unchanged. -/
lemma file_generateAll_of_not_mem (config : DngConfig) {outputDir p : Path} (fs : FileSystem)
    (h : p ∉ artifactPaths outputDir) :
    (generateAll config outputDir fs).1.file p = fs.file p :=
  (fs.mkdirs outputDir).file_putAll_of_not_mem h

/-- The sample plan. -/
def samplePlan : DngConfig := buildConfig (makeSnapshot {}) (makeAnswers {})

end DngPreflight.Cli
