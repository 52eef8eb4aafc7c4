import DngPreflight.Cli.Pipeline
import DngPreflight.Interview.Terminal
import DngPreflight.Validation.MachineGate

set_option relaxedAutoImplicit false
set_option autoImplicit false

/-!
# The commands at a terminal

`plan` and `generate` at a terminal of a machine, from what is typed and what the machine and its
network report to the artifacts.

## Main definitions

* `DngPreflight.Cli.hostAt` — a machine, and what is typed at its terminal.
* `DngPreflight.Cli.Deploys` — the commands deploy the artifacts of some answers.

## Main results

* `DngPreflight.Cli.deploys_iff` — the answers whose artifacts can be deployed from a machine.
-/

namespace DngPreflight.Cli

open Text Codec Store Interview Discovery

/-- A machine, and what is typed at its terminal. -/
def hostAt (ops : Operations) (m : Machine) (capturedAt : Str) (typed : List Typed) :
    Host (List Typed) Raised where
  collect hostname := (Aggregator.collect ops m capturedAt hostname).value.toOption
  provider := questionaryProvider
  st := typed

variable {safeLoad : Bytes → Option Tree} {safeDump : Tree → Str} {L : Leaves}
  {ops : Operations} {m : Machine} {capturedAt hostname : Str} {fs : FileSystem}
  {flags flags' : Flags} {t : Targets} {a : InterviewAnswers} {typed : List Typed}
  {snapshot : EnvironmentSnapshot}

variable (safeLoad safeDump L ops m capturedAt hostname fs flags flags' t a) in
/-- What is typed leads to the answers, and `plan` and `generate` to the artifacts of the plan that
they make with the snapshot of the machine. -/
structure Deploys (typed : List Typed) (snapshot : EnvironmentSnapshot) : Prop where
  collected : (Aggregator.collect ops m capturedAt hostname).value = .ok snapshot
  answered : run L snapshot questionaryProvider typed = .ok a
  succeeds : (directCmds safeLoad safeDump L fs (hostAt ops m capturedAt typed) hostname flags
    flags' t).exitCode = 0
  deployed : ∀ name text, Renders (buildConfig snapshot a) name text →
    ∃ mode, (directCmds safeLoad safeDump L fs (hostAt ops m capturedAt typed) hostname flags
      flags' t).fs.file (t.outputDir ++ [name]) = some ⟨encode text, mode⟩

/-- Offsets that are reported are finite. -/
lemma finiteOffset_of_reports (h : Aggregator.Reports ops m capturedAt hostname snapshot) :
    snapshot.FiniteOffset := by
  intro ts o hts ho
  rcases h.timeSync with ⟨-, hvalue⟩ | ⟨-, hmissing⟩
  · rw [Machine.value_timeSyncProbe] at hvalue
    split at hvalue
    · cases hvalue
    · rename_i state hcollect
      obtain rfl : state = snapshot.timeSync := Except.ok.inj hvalue
      obtain ⟨offset, rfl⟩ :=
        finite_of_queryNtpOffset ((offset_of_collectTimeSync hcollect).mp ⟨ts, hts, ho⟩)
      rfl
  · cases hmissing.symm.trans hts

/-- Names that are reported are texts. -/
lemma textKeys_of_reports (h : Aggregator.Reports ops m capturedAt hostname snapshot) :
    snapshot.TextKeys := by
  have hzip : ∀ records : List (List Str), ∀ e ∈ (publicResolvers.map ofStr).zip records,
      ∃ s, e.1 = ofStr s := by
    intro records e he
    obtain ⟨s, -, hs⟩ := List.mem_map.mp (List.of_mem_zip he).1
    exact ⟨s, hs.symm⟩
  have hdns := Aggregator.dns_of_reports h.dns
  refine ⟨?_, ?_, ?_, ?_⟩
  · rw [(Aggregator.network_of_reports h.network).2.1]
    refine Dict.textKeys_ofList fun e' he' => ?_
    obtain ⟨e, -, he⟩ := List.mem_filterMap.mp he'
    exact ⟨e.1, (interfaceEntry_eq_some he).1⟩
  · rw [← hdns]
    exact Dict.textKeys_ofList (hzip _)
  · rw [← hdns]
    exact Dict.textKeys_ofList (hzip _)
  · rw [h.duoReachability]
    show (Dict.ofList (Timing.Timed.traverse _ duoEndpoints).value).TextKeys
    rw [Timing.Timed.value_traverse]
    refine Dict.textKeys_ofList fun e he => ?_
    obtain ⟨url, -, rfl⟩ := List.mem_map.mp he
    exact ⟨url, rfl⟩

/-- Snapshots that are collected are storable. -/
lemma storable_of_reports (h : Aggregator.Reports ops m capturedAt hostname snapshot) :
    snapshot.Storable := ⟨finiteOffset_of_reports h, textKeys_of_reports h⟩

/-- The plan that is made of a snapshot and the answers, unless it is refused. -/
lemma makePlan_hostAt (hrun : run L snapshot questionaryProvider typed = .ok a)
    {config : DngConfig} :
    makePlan L (hostAt ops m capturedAt typed) flags snapshot = .ok config ↔
      config = buildConfig snapshot a ∧ validatePlan config (collectOverrides flags) = .ok [] := by
  rw [makePlan_eq_ok_iff]
  constructor
  · rintro ⟨a', hrun', rfl, hvalid⟩
    obtain rfl : a' = a := Except.ok.inj (hrun'.symm.trans hrun)
    exact ⟨rfl, hvalid⟩
  · rintro ⟨rfl, hvalid⟩
    exact ⟨a, hrun, rfl, hvalid⟩

/-- **The answers whose artifacts can be deployed from a machine**: those that can be typed, if a
snapshot of the machine can be taken and every reason that it gives is overridden. Something that is
typed then leads through the interview, past the gate of `plan`, into the plan file, past the gate
of `generate`, and to files with exactly the texts that are rendered from the plan. The parser reads
back the plan that is printed, and `generate` is given the flags of `plan`, or more.

**Proof sketch.** What is typed for the answers leads to them on every snapshot. The plan violates
the rules for which the machine gives a reason, and no others, so that both gates let it pass. -/
theorem deploys_iff (hfree : t.Free fs) (hflags : collectOverrides flags ⊆ collectOverrides flags')
    (hround : ∀ snapshot, (Aggregator.collect ops m capturedAt hostname).value = .ok snapshot →
      safeLoad (encode (safeDump (buildConfig snapshot a).modelDump)) =
        some (buildConfig snapshot a).modelDump) :
    (∃ typed snapshot,
      Deploys safeLoad safeDump L ops m capturedAt hostname fs flags flags' t a typed snapshot) ↔
    Aggregator.Collects ops m ∧ Typable a ∧
      ∀ r, Refuses ops m hostname r → Overridden (collectOverrides flags) r := by
  have hdirect : ∀ {typed : List Typed} {snapshot : EnvironmentSnapshot},
      (Aggregator.collect ops m capturedAt hostname).value = .ok snapshot →
      run L snapshot questionaryProvider typed = .ok a →
      directCmds safeLoad safeDump L fs (hostAt ops m capturedAt typed) hostname flags flags' t =
        finished L safeDump (hostAt ops m capturedAt typed) flags t snapshot fs := by
    intro typed snapshot hcollect hrun
    obtain ⟨hreports, -⟩ := Aggregator.value_collect_iff.mp hcollect
    have hhost : (hostAt ops m capturedAt typed).collect hostname = some snapshot :=
      congrArg Except.toOption hcollect
    refine directCmds_of_some hfree hhost (storable_of_reports hreports) hflags ?_
    intro config hplan
    obtain ⟨rfl, -⟩ := (makePlan_hostAt hrun).mp hplan
    exact hround snapshot hcollect
  have hgate : ∀ {typed : List Typed} {snapshot : EnvironmentSnapshot},
      (Aggregator.collect ops m capturedAt hostname).value = .ok snapshot →
      run L snapshot questionaryProvider typed = .ok a →
      (validatePlan (buildConfig snapshot a) (collectOverrides flags) = .ok [] ↔
        ∀ r, Refuses ops m hostname r → Overridden (collectOverrides flags) r) := by
    intro typed snapshot hcollect hrun
    rw [validatePlan_eq_nil_iff, and_iff_right (returns_buildConfig snapshot a)]
    simp only [violates_iff_refuses hcollect
      (not_violates_of_run questionaryProvider_readOnly hrun)]
  constructor
  · rintro ⟨typed, snapshot, h⟩
    refine ⟨Aggregator.exists_collect_iff_collects.mp ⟨_, h.collected⟩, typable_of_run h.answered,
      (hgate h.collected h.answered).mp ?_⟩
    have hexit := h.succeeds
    rw [hdirect h.collected h.answered, finished] at hexit
    split at hexit
    · rename_i stop hstop
      exact absurd hexit (exitCode_makePlan_ne_zero hstop)
    · rename_i config hplan
      obtain ⟨rfl, hvalid⟩ := (makePlan_hostAt h.answered).mp hplan
      exact hvalid
  · rintro ⟨hcollects, htypable, hrefuses⟩
    obtain ⟨snapshot, hcollect⟩ := Aggregator.exists_collect_iff_collects.mpr hcollects
    have hrun := run_typeAnswers L snapshot htypable
    have hvalid := (hgate hcollect hrun).mpr hrefuses
    have hplan : makePlan L (hostAt ops m capturedAt (typeAnswers a)) flags snapshot =
        .ok (buildConfig snapshot a) := (makePlan_hostAt hrun).mpr ⟨rfl, hvalid⟩
    have hfinished : directCmds safeLoad safeDump L fs (hostAt ops m capturedAt (typeAnswers a))
        hostname flags flags' t = generated (buildConfig snapshot a) t.outputDir
          (fs.write t.plan (encode (safeDump (buildConfig snapshot a).modelDump))) := by
      rw [hdirect hcollect hrun, finished, hplan]
    refine ⟨typeAnswers a, snapshot, hcollect, hrun, ?_, ?_⟩
    · rw [hfinished]
      rfl
    · intro name text hmem
      rw [hfinished]
      exact file_generateAll_of_renders _ _ _ hmem

/-- The lines of the plan that is made on the plain machine. -/
def plainLines : List Str :=
  ["snapshot:", "  captured_at: '2026-05-12T12:00:00+00:00'", "  hostname_planned: dng.example.com",
    "  system:", "    detected: true", "    platform: linux", "    distro: ubuntu",
    "    distro_version: '24.04'", "    kernel: 6.8.0-45-generic", "    arch: x86_64",
    "    ram_mb: 4096", "    cpu_count: 2", "    selinux_mode: null", "    apparmor_active: true",
    "    domain_joined: false", "  docker:", "    detected: false",
    "    reason: docker CLI not found in PATH", "  network:", "    detected: true",
    "    interfaces:", "      eth0:", "      - 10.0.0.5", "    default_route_iface: eth0",
    "    listening_ports: \x7b\x7d", "    egress_public_ip: 203.0.113.10", "  dns:",
    "    detected: true", "    hostname: dng.example.com", "    a_records:", "      1.1.1.1:",
    "      - 203.0.113.10", "      8.8.8.8:", "      - 203.0.113.10", "      9.9.9.9:",
    "      - 203.0.113.10", "    aaaa_records:", "      1.1.1.1: []", "      8.8.8.8: []",
    "      9.9.9.9: []", "    reverse_ptr: null", "    local_resolvers:", "    - 10.0.0.1",
    "  tls:",
    "    detected: true", "    answers_on_443: false", "    cn: null", "    sans: []",
    "    not_before: null", "    not_after: null", "    issuer: null", "    key_algorithm: null",
    "  time_sync:", "    detected: false",
    "    reason: no time-sync daemon detected and pool.ntp.org unreachable", "  firewall:",
    "    detected: true", "    kind: none", "    active: false", "  duo_reachability:",
    "    detected: true", "    endpoints:", "      https://duo.com: 200",
    "      https://api.duosecurity.com: 200", "      https://admin-d1.duosecurity.com: 200",
    "answers:", "  deployment_scope: web_ssh", "  idp: okta",
    "  public_hostname: dng.example.com", "  tls_strategy:", "    kind: internal_ca",
    "    cert_path: /c", "    key_path: /k", "    chain_path: /chain", "  wildcard_cert: false",
    "  load_balancer: null", "  internal_dns: none", "  seed_apps:", "    web_apps: []",
    "    ssh_relays: []", "    rdp_relays: []", "requires_extra_dns_container: false",
    "dng_version_minimum: 3.3.0"].map String.toList

/-- Answers without seed applications. -/
def plainAnswers : InterviewAnswers :=
  { makeAnswers { idp := .okta, internalDns := .none } with
    tlsStrategy := .internalCa ⟨"/c", "/k", "/chain"⟩ }

/-- The plain answers can be typed. -/
lemma typable_plainAnswers : Typable plainAnswers where
  publicHostname := by decide
  chainPath := by
    rintro b ⟨⟩
  wildcardCert := by decide
  validated := by
    rintro lb ⟨⟩
  scopes := by
    rintro lb ⟨⟩
  seedApps := by
    refine ⟨0, 0, 0, fun n hn => ?_, fun _ => rfl, rfl⟩
    obtain rfl : n = 0 := by simpa using hn
    exact Nat.pow_pos (by decide)

/-- The artifacts of the plain answers can be deployed from the plain machine. -/
theorem deploys_iff_plain : ∃ safeLoad, ∃ typed snapshot,
    Deploys safeLoad (fun _ => textOf plainLines) .strict responsive plainMachine
      "2026-05-12T12:00:00+00:00" "dng.example.com" emptyFs {} {} cannedTargets plainAnswers typed
      snapshot := by
  have hcollects : ∃ snapshot, (Aggregator.collect responsive plainMachine
      "2026-05-12T12:00:00+00:00" "dng.example.com").value = .ok snapshot :=
    Aggregator.exists_collect_iff_collects.mpr collects_plainMachine
  obtain ⟨snapshot, hcollect⟩ := hcollects
  refine ⟨fun content => if content = encode (textOf plainLines) then
    some (buildConfig snapshot plainAnswers).modelDump else none, ?_⟩
  have hfree : cannedTargets.Free emptyFs := ⟨rfl, rfl, rfl, by decide, by decide⟩
  refine (deploys_iff hfree (Finset.Subset.refl _) ?_).mpr
    ⟨collects_plainMachine, typable_plainAnswers,
      fun r hr => absurd hr (not_refuses_plainMachine r)⟩
  intro snapshot' hcollect'
  obtain rfl : snapshot = snapshot' := Except.ok.inj (hcollect.symm.trans hcollect')
  exact if_pos rfl

end DngPreflight.Cli
