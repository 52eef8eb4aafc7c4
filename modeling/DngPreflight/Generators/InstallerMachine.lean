import DngPreflight.Discovery.OsRelease
import DngPreflight.Generators.InstallerRuns
import DngPreflight.Validation.MachineGate

set_option relaxedAutoImplicit false
set_option autoImplicit false

/-!
# The installer on the machine that was inspected

The installer looks at the machine once more: at its realms, at its Docker CLI, and at its release
file, which it sources. When it succeeds, in terms of the snapshot from which its plan was made.

## Main definitions

* `DngPreflight.Installer.Host.On` — a run of the installer is on a machine.
* `DngPreflight.Installer.SameListing` — the probe and the installer see the same list of realms.

## Main results

* `DngPreflight.Installer.packageManager_detectDistro_iff` — the package manager of the installer,
  in terms of the distribution in the snapshot.
* `DngPreflight.Installer.main_ok_iff` — when the installer succeeds.
-/

namespace DngPreflight.Installer

open Text Codec Shell Discovery Timing
open Store (Path FileSystem)

/-! ## The distribution -/

/-- The value that `/etc/os-release` assigns to `ID`, as a shell has it after sourcing the file. -/
def releaseId : TextFile → Option Str
  | .text s => (environment s).get? "ID"
  | _ => none

/-- A run of the installer is on a machine. Its environment has no variable `ID`, which it would
take for one of the release file. -/
structure Host.On (host : Host) (m : Machine) : Prop where
  realm : host.facts.realm.outcome = outcomeOf m.realm
  krb5 : host.facts.krb5 = m.krb5Text
  docker : host.hasDocker = m.docker.isSome
  osId : host.osId = releaseId m.osRelease

/-- A supported distribution is read as it is written, whatever the quotes. -/
lemma faithful_of_packageManager {v : Str} {manager : PackageManager}
    (h : packageManager v = some manager) (q : Quotes) : Faithful q v := by
  have hmem : v ∈ ["ubuntu".toList, "debian".toList, "rhel".toList, "rocky".toList,
      "almalinux".toList, "centos".toList] := by
    unfold packageManager at h
    split_ifs at h with hapt hdnf
    · simp only [List.any_cons, List.any_nil, Bool.or_false, Bool.or_eq_true,
        decide_eq_true_eq] at hapt
      rcases hapt with rfl | rfl <;> simp
    · simp only [List.any_cons, List.any_nil, Bool.or_false, Bool.or_eq_true,
        decide_eq_true_eq] at hdnf
      rcases hdnf with rfl | rfl | rfl | rfl <;> simp
  intro hq
  have hall : ∀ w ∈ ["ubuntu".toList, "debian".toList, "rhel".toList, "rocky".toList,
      "almalinux".toList, "centos".toList], (w.all fun c => isSpecial c == false) = true ∧
        w.head? ≠ some '\'' ∧ w.getLast? ≠ some '\'' := by decide
  obtain ⟨hspecial, hends⟩ := hall v hmem
  exact ⟨forall_eq_of_all hspecial, hends⟩

/-- The distribution in the snapshot. -/
lemma distro_of_reports {m : Machine} {system : SystemInfo} {text : Str}
    (hrelease : m.osRelease = .text text) (h : m.systemProbe.value = .ok system) :
    system.distro = Machine.orElse ((parseOsRelease text).get? "ID") (lower m.system) := by
  unfold Machine.systemProbe at h
  rw [hrelease] at h
  simp only [readOsRelease, TextFile.readText] at h
  split at h
  · cases h
  · cases h
    rfl

/-- **The package manager of the installer**: that of the distribution in the snapshot, if the probe
reads the value of `ID` as the shell does; and none otherwise.

**Proof sketch.** The shell gets the name of a supported distribution only from values that the
probe reads alike. -/
lemma packageManager_detectDistro_iff {m : Machine} {host : Host} {system : SystemInfo}
    {ls : List Line} (hon : host.On m) (hvalid : ∀ l ∈ ls, l.Valid)
    (hrelease : m.osRelease = .text (writeLines ls))
    (hsystem : packageManager (lower m.system) = none)
    (h : m.systemProbe.value = .ok system) (manager : PackageManager) :
    packageManager (detectDistro host) = some manager ↔
      packageManager system.distro = some manager ∧
        ∀ q v, lastWritten ls "ID" = some (q, v) → Faithful q v := by
  have hid : host.osId = (lastWritten ls "ID").map Prod.snd := by
    rw [hon.osId, hrelease, releaseId, get?_environment hvalid]
  have hunknown : packageManager "unknown" = none := by decide
  rw [detectDistro, hid, distro_of_reports hrelease h, get?_parseOsRelease hvalid]
  cases hlast : lastWritten ls "ID" with
  | none =>
    simp only [Option.map_none, Machine.orElse, hunknown, hsystem]
    simp
  | some e =>
    obtain ⟨q, v⟩ := e
    have hunquoted := unquoted_eq_iff (canWrite_of_lastWritten hvalid hlast)
    have hall : (∀ q' v', some (q, v) = some (q', v') → Faithful q' v') ↔ Faithful q v := by
      constructor
      · exact fun h => h q v rfl
      · rintro hfaithful q' v' ⟨⟩
        exact hfaithful
    simp only [Option.map_some, Machine.orElse]
    rw [hall]
    by_cases hfaithful : Faithful q v
    · rw [hunquoted.mpr hfaithful, and_iff_left hfaithful]
      by_cases hnil : v = []
      · rw [if_pos hnil, if_pos hnil, hunknown, hsystem]
      · rw [if_neg hnil, if_neg hnil]
    · refine iff_of_false ?_ fun hboth => hfaithful hboth.2
      split_ifs
      · rw [hunknown]
        nofun
      · exact fun hmanager => hfaithful (faithful_of_packageManager hmanager q)

/-! ## The checks -/

/-- The Docker CLI is in the path exactly if the snapshot does not tell that it is missing. -/
lemma docker_isSome_iff {m : Machine} {docker : OrMissing DockerInfo}
    (h : Aggregator.OrLate "docker" (m.dockerProbe.map .ok) docker) :
    m.docker.isSome = true ↔ docker ≠ .missing ⟨"docker CLI not found in PATH"⟩ := by
  cases hcli : m.docker with
  | none =>
    have hprobe : m.dockerProbe = Timed.pure (.missing ⟨"docker CLI not found in PATH"⟩) := by
      rw [Machine.dockerProbe, hcli]
    rw [hprobe] at h
    refine iff_of_false (by simp) fun hne => ?_
    rcases h with ⟨-, hvalue⟩ | ⟨hlate, -⟩
    · exact hne (Except.ok.inj hvalue).symm
    · have hzero : ¬ perProbeTimeout < 0 := by norm_num [perProbeTimeout]
      exact hzero hlate
  | some cli =>
    refine iff_of_true rfl ?_
    rintro rfl
    rcases h with ⟨-, hvalue⟩ | ⟨-, hlate⟩
    · have hvalue : m.dockerProbe.value = .missing ⟨"docker CLI not found in PATH"⟩ :=
        Except.ok.inj hvalue
      unfold Machine.dockerProbe at hvalue
      simp only [hcli, Timed.bind] at hvalue
      cases hengine : (engineVersion cli).value with
      | none =>
        rw [hengine] at hvalue
        have hreason : "docker CLI present but `docker version` failed".toList =
            "docker CLI not found in PATH".toList :=
          congrArg NotDetected.reason (OrMissing.missing.inj hvalue)
        exact absurd hreason (by decide)
      | some engine =>
        rw [hengine] at hvalue
        cases hvalue
    · exact absurd hlate (by decide)

/-- The installer sees the list of realms that the probe has seen: it was not too slow for the
probe, and `grep` takes no other characters for whitespace. -/
def SameListing (host : Host) : Prop :=
  ∀ returncode stdout slow, host.facts.realm = .exits returncode stdout slow →
    slow = false ∧ ∀ c ∈ stdout, isSpace c = true → host.space c = true

/-- A line that `grep` sees is a line that Python sees. -/
lemma mem_feedLines_of_mem_grepLines {s l : Str} (h : l ∈ Grep.grepLines s) : l ∈ feedLines s := by
  unfold Grep.grepLines at h
  split_ifs at h
  · exact List.mem_of_mem_dropLast h
  · exact h

/-- On a machine that is not joined, the installer looks for a default realm only. -/
lemma verifyNotDomainJoined_eq_ok_iff {m : Machine} {host : Host} (hon : host.On m)
    (hsame : SameListing host) (hjoined : ¬ Joined m) :
    verifyNotDomainJoined host = .ok () ↔ ¬ host.facts.HasDefaultRealm host.space := by
  have hprints : ¬ host.facts.PrintsRealm host.space := by
    rintro ⟨stdout, slow, hrealm, c, t, hline, hspace⟩
    obtain ⟨rfl, hblank⟩ := hsame 0 stdout slow hrealm
    obtain ⟨pre, post, hstdout, -⟩ := exists_of_mem_feedLines (mem_feedLines_of_mem_grepLines hline)
    have hmem : c ∈ stdout := by
      rw [hstdout]
      simp
    have hvisible : isSpace c = false := by
      by_contra hc
      rw [hblank c hmem (by simpa using hc)] at hspace
      cases hspace
    have hrealms : m.realms = .exits 0 stdout false := by
      have houtcome := hon.realm
      rw [hrealm] at houtcome
      rw [Machine.realms, ← houtcome]
      rfl
    exact hjoined (.inl ⟨stdout, hrealms, c, hmem, hvisible⟩)
  have hcheck : verifyNotDomainJoined host = .ok () ↔
      Discovery.verifyNotDomainJoined host.space host.facts = false := by
    unfold verifyNotDomainJoined Discovery.verifyNotDomainJoined die
    cases host.facts.realm.refused host.space with
    | true => simp
    | false =>
      cases host.facts.krb5 with
      | none => simp
      | some text =>
        cases hdefault : namesDefaultRealm host.space text <;> simp [hdefault]
  rw [hcheck, ← Bool.not_eq_true, verifyNotDomainJoined_iff, or_iff_right hprints]

/-- Docker is ensured exactly if it is there, or if the package manager of the distribution installs
it. -/
lemma ensureDocker_eq_ok_iff (host : Host) : ensureDocker host = .ok () ↔
    host.hasDocker = true ∨ ∃ manager, packageManager (detectDistro host) = some manager ∧
      host.installsDocker manager = true := by
  unfold ensureDocker command
  cases host.hasDocker with
  | true => simp
  | false =>
    cases packageManager (detectDistro host) with
    | none => simp [die]
    | some manager => simp

/-- The steps of the script, all of which have to succeed. -/
lemma main_eq_ok_iff (config : DngConfig) (dir : Path) (host : Host) (fs : FileSystem) :
    (main config dir host fs).1 = .ok () ↔ requireRoot host = .ok () ∧
      verifyNotDomainJoined host = .ok () ∧ verifyHostnameResolves config host = .ok () ∧
      ensureDocker host = .ok () ∧ (prepareConfigDir dir fs).1 = .ok () ∧
      pullDngImage config host = .ok () := by
  unfold main
  simp only [Action.sequence_cons_eq_ok_iff, Action.check_fst, Action.check_snd,
    Action.sequence_nil, and_true]

section Machine

variable {L : Leaves} {ops : Operations} {m : Machine} {capturedAt hostname : Str}
  {snapshot : EnvironmentSnapshot} {answers : InterviewAnswers} {overrides : Finset Str}
  {host : Host} {ls : List Line}

/-- **When the installer succeeds** on the machine that was inspected, if the plan has passed
without the override for joined machines: it is run as root, `/etc/krb5.conf` has no line that
begins with a default realm, the hostname resolves, the snapshot tells of a Docker CLI or of a
distribution that is supported (whose name the probe has read as the shell does, and whose packages
are installed), the file can be copied, and the image be pulled.

**Proof sketch.** Each check of the script reads what some probe has read. -/
theorem main_ok_iff
    (hcollect : (Aggregator.collect ops m capturedAt hostname).value = .ok snapshot)
    (hgate : validatePlan (buildConfig snapshot answers) overrides = .ok [])
    (hoverride : ¬ Overridden overrides .hostMustNotBeDomainJoined) (hon : host.On m)
    (hsame : SameListing host) (hvalid : ∀ l ∈ ls, l.Valid)
    (hrelease : m.osRelease = .text (writeLines ls))
    (hsystem : packageManager (lower m.system) = none) (dir : Path) (fs : FileSystem) :
    (main (buildConfig snapshot answers) dir host fs).1 = .ok () ↔
      host.euid = 0 ∧ ¬ host.facts.HasDefaultRealm host.space ∧
      host.resolves answers.publicHostname = true ∧
      (snapshot.docker ≠ .missing ⟨"docker CLI not found in PATH"⟩ ∨
        ∃ manager, (packageManager snapshot.system.distro = some manager ∧
          ∀ q v, lastWritten ls "ID" = some (q, v) → Faithful q v) ∧
          host.installsDocker manager = true) ∧
      (prepareConfigDir dir fs).1 = .ok () ∧
      host.pulls (dngImage (buildConfig snapshot answers)) = true := by
  obtain ⟨hreports, -⟩ := Aggregator.value_collect_iff.mp hcollect
  have hjoined : ¬ Joined m := fun h =>
    hoverride ((validatePlan_eq_nil_iff.mp hgate).2 _
      ((domainJoined_of_reports hreports.system).mpr h))
  have hroot : requireRoot host = .ok () ↔ host.euid = 0 := by
    unfold requireRoot die
    split_ifs with h
    · exact iff_of_false nofun h
    · exact iff_of_true rfl (not_not.mp h)
  have hresolves : verifyHostnameResolves (buildConfig snapshot answers) host = .ok () ↔
      host.resolves answers.publicHostname = true := by
    unfold verifyHostnameResolves die
    show (if (! host.resolves answers.publicHostname) = true then _ else _) = _ ↔ _
    cases host.resolves answers.publicHostname <;> simp
  have hpull : pullDngImage (buildConfig snapshot answers) host = .ok () ↔
      host.pulls (dngImage (buildConfig snapshot answers)) = true := by
    unfold pullDngImage command
    split_ifs with h <;> simp [h]
  rw [main_eq_ok_iff, hroot, verifyNotDomainJoined_eq_ok_iff hon hsame hjoined, hresolves, hpull,
    ensureDocker_eq_ok_iff, hon.docker, docker_isSome_iff hreports.docker]
  simp only [packageManager_detectDistro_iff hon hvalid hrelease hsystem hreports.system]

end Machine

/-- The lines of the release file of the plain machine. -/
def plainRelease : List Line :=
  [.assign "ID" "ubuntu" .none, .assign "VERSION_ID" "24.04" .double]

/-- The file of the example is written by the rules. -/
lemma valid_plainRelease : ∀ l ∈ plainRelease, l.Valid := by
  refine List.forall_mem_cons.mpr ⟨⟨by decide, ?_, ?_⟩, List.forall_mem_cons.mpr
    ⟨⟨by decide, trivial, ?_⟩, nofun⟩⟩
  · exact forall_eq_of_all (s := "ubuntu") (by decide)
  · exact forall_eq_of_all (s := "ubuntu") (by decide)
  · exact forall_eq_of_all (s := "24.04") (by decide)

/-- The probe reads the file of the example. -/
lemma osRelease_plainMachine : plainMachine.osRelease = .text (writeLines plainRelease) :=
  congrArg TextFile.text (by decide)

/-- A run on the plain machine, where packages can be installed. -/
def plainHost : Host := { sampleHost with hasDocker := false }

/-- The example host is the example machine as the script sees it. -/
lemma on_plainHost : plainHost.On plainMachine where
  realm := rfl
  krb5 := rfl
  docker := rfl
  osId := by
    rw [osRelease_plainMachine, releaseId, get?_environment valid_plainRelease]
    decide

/-- The installer succeeds on the plain machine. -/
theorem main_ok_iff_plainMachine : ∃ snapshot answers,
    (Aggregator.collect responsive plainMachine "" "dng.example.com").value = .ok snapshot ∧
    (main (buildConfig snapshot answers) sampleDir plainHost bareFiles).1 = .ok () := by
  obtain ⟨snapshot, hcollect⟩ : ∃ s,
      (Aggregator.collect responsive plainMachine "" "dng.example.com").value = .ok s :=
    Aggregator.exists_collect_iff_collects.mpr collects_plainMachine
  have hrun : ∃ answers, Interview.run .strict snapshot Interview.cannedProvider () = .ok answers :=
    ⟨_, rfl⟩
  obtain ⟨answers, hrun⟩ := hrun
  have hgate : validatePlan (buildConfig snapshot answers) ∅ = .ok [] :=
    passes_of_not_refuses Interview.cannedProvider_readOnly hcollect hrun not_refuses_plainMachine ∅
  have hdistro : packageManager snapshot.system.distro = some .apt := by
    rw [distro_of_reports osRelease_plainMachine
      (Aggregator.value_collect_iff.mp hcollect).1.system, get?_parseOsRelease valid_plainRelease]
    decide
  refine ⟨snapshot, answers, hcollect, ?_⟩
  refine (main_ok_iff hcollect hgate (not_overridden_empty _) on_plainHost nofun
    valid_plainRelease osRelease_plainMachine (by decide) sampleDir bareFiles).mpr
    ⟨rfl, ?_, rfl, .inr ⟨.apt, ⟨hdistro, ?_⟩, rfl⟩, rfl, rfl⟩
  · rintro ⟨text, htext, -⟩
    cases htext
  · intro q v hlast
    have hid : lastWritten plainRelease "ID" = some (.none, "ubuntu".toList) := by decide
    rw [hid] at hlast
    cases hlast
    exact nofun

end DngPreflight.Installer
