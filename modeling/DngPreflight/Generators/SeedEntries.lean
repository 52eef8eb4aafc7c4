import DngPreflight.Generators.ScriptedConfig
import DngPreflight.Generators.DnsJson
import DngPreflight.Interview.Coherence

set_option relaxedAutoImplicit false
set_option autoImplicit false

/-!
# The seed applications in the configuration and in the records

The scripted configuration has an entry for each seed application, the RDP relays being there on
the derived flag only. The array of the DNS records, as a reader of JSON finds it in the file, has a
record for each of them without regard to the flag. In a plan that comes from an interview both have
the same names, unless the answer about the scope compares equal to both scopes.

## Main definitions

* `DngPreflight.ScriptedConfig.entryNames` — the names of the entries that the template emits.
* `DngPreflight.DnsRecords.SeededWith` — the array in the file ends with the records of the given
  names.

## Main results

* `DngPreflight.ScriptedConfig.entryNames_eq` — the entries are those of the three sections.
* `DngPreflight.Interview.seededWith_iff_of_run` — the names are the same after an interview.
-/

namespace DngPreflight

open Text Codec Net

/-! ## The entries of the configuration -/

namespace ScriptedConfig

/-- What the line of an entry's key begins with. -/
def entryMarker : String := "  "

/-- The names of the entries that the template emits, in their order. -/
def entryNames (config : DngConfig) : List Str :=
  (markedLines entryMarker.toList (template config)).flatten

/-- Fixed lines have no entry. -/
lemma emits_prose {l : List String} (h : (l.all (· != entryMarker)) = true) :
    Emits entryMarker.toList (lines l) [] := emits_lines (by decide) h

/-- The key of an entry is the only line with its name. -/
lemma emits_entryKey {name : Str} {body : Template} (h : Emits entryMarker.toList body []) :
    Emits entryMarker.toList (entryKey name ++ body) [[name]] := by
  have hkey : Emits entryMarker.toList (entryKey name) [[name]] := emits_line rfl rfl
  exact hkey.append h

/-- A file-based certificate has no entry. -/
lemma emits_ownCert (certPath keyPath : Str) :
    Emits entryMarker.toList (ownCert certPath keyPath) [] := by
  have h1 : Emits entryMarker.toList (lines ["    source: own", "    cert: |"]) [] :=
    emits_prose (by simp [entryMarker])
  have h2 : Emits entryMarker.toList (lines ["    key: |"]) [] :=
    emits_prose (by simp [entryMarker])
  exact ((h1.append (emits_of_unmarked rfl)).append h2).append (emits_of_unmarked rfl)

/-- The addresses of the load balancer are no entries. -/
lemma emits_balancer (proxies : List IpNetwork) :
    Emits entryMarker.toList (lines ["  load_balancer_cidrs_ips:"] ++
      proxies.flatMap fun cidr => line ["    - ", .value (yamlStr cidr.str)]) [] := by
  have hcidrs : Emits entryMarker.toList (proxies.flatMap fun cidr =>
      line ["    - ", .value (yamlStr cidr.str)]) (proxies.flatMap fun _ => []) :=
    Emits.flatMap fun cidr _ => emits_of_unmarked rfl
  rw [List.flatMap_eq_nil_iff.mpr fun _ _ => rfl] at hcidrs
  exact (emits_prose (by simp [entryMarker])).append hcidrs

/-- The gateway section has no entry. -/
lemma emits_gateway (config : DngConfig) : Emits entryMarker.toList (gateway config) [] := by
  unfold gateway
  refine ((((((((emits_prose ?_).append (emits_of_unmarked rfl)).append
    (emits_of_unmarked rfl)).append (emits_of_unmarked rfl)).append (emits_prose ?_)).append
    (emits_of_unmarked rfl)).append (emits_prose ?_)).append (emits_of_unmarked rfl)).append ?_
  · simp [entryMarker]
  · simp [entryMarker]
  · simp [entryMarker]
  · cases config.answers.loadBalancer with
    | none => exact fun _ => rfl
    | some lb => exact emits_balancer lb.trustedProxies

/-- The certificate section has no entry. -/
lemma emits_sslCert (config : DngConfig) : Emits entryMarker.toList (sslCert config) [] := by
  unfold sslCert
  have hhead : Emits entryMarker.toList (lines ["  ssl_cert:"]) [] :=
    emits_prose (by simp [entryMarker])
  refine hhead.append ?_
  cases config.answers.tlsStrategy with
  | letsEncryptDns01 l => exact emits_prose (by simp [entryMarker])
  | existingBundle b => exact emits_ownCert b.certPath b.keyPath
  | internalCa c =>
    have hchain : Emits entryMarker.toList (lines ["    # chain: |"]) [] :=
      emits_prose (by simp [entryMarker])
    exact ((emits_ownCert c.certPath c.keyPath).append hchain).append (emits_of_unmarked rfl)

/-- The head of the file has no entry. -/
lemma emits_head (config : DngConfig) :
    Emits entryMarker.toList (gateway config ++ sslCert config ++ primaryAuth) [] := by
  have hauth : Emits entryMarker.toList primaryAuth [] := emits_prose (by simp [entryMarker])
  exact ((emits_gateway config).append (emits_sslCert config)).append hauth

/-- The second factor has no entry. -/
lemma emits_duo2fa : Emits entryMarker.toList duo2fa [] := emits_prose (by simp [entryMarker])

/-- The certificate of an entry is no entry. -/
lemma emits_externalSslCert : Emits entryMarker.toList externalSslCert [] :=
  emits_prose (by simp [entryMarker])

/-- The external hostname of an entry is no entry. -/
lemma emits_externalHostname (name domain : Str) :
    Emits entryMarker.toList (externalHostname name domain) [] := emits_of_unmarked rfl

/-- A web application is one entry. -/
lemma emits_webApplication (domain : Str) (app : AppStub) :
    Emits entryMarker.toList (webApplication domain app) [[app.name]] := by
  have hbody : Emits entryMarker.toList (externalHostname app.name domain ++
      lines [
        "    internal_hostname: '<<set: internal FQDN or IP>>'",
        "    internal_port: 443",
        "    internal_use_ssl: true"] ++ externalSslCert ++ duo2fa) [] :=
    (((emits_externalHostname app.name domain).append (emits_prose (by simp [entryMarker]))).append
      emits_externalSslCert).append emits_duo2fa
  exact emits_entryKey hbody

/-- An SSH relay is one entry. -/
lemma emits_sshServer (domain : Str) (relay : AppStub) :
    Emits entryMarker.toList (sshServer domain relay) [[relay.name]] := by
  have hbody : Emits entryMarker.toList (externalHostname relay.name domain ++ externalSslCert ++
      lines [
        "    internal_servers:",
        "      - host_pattern: '<<internal hostname pattern, * supported>>'",
        "        ports: '22'"] ++ duo2fa) [] :=
    (((emits_externalHostname relay.name domain).append emits_externalSslCert).append
      (emits_prose (by simp [entryMarker]))).append emits_duo2fa
  exact emits_entryKey hbody

/-- An RDP relay is one entry. -/
lemma emits_applicationRelay (domain : Str) (relay : AppStub) :
    Emits entryMarker.toList (applicationRelay domain relay) [[relay.name]] := by
  have hbody : Emits entryMarker.toList (lines ["    application_type: 'rdp'"] ++
      externalHostname relay.name domain ++ externalSslCert ++
      lines [
        "    internal_servers:",
        "      - host_pattern: '<<internal hostname pattern, * supported>>'"] ++ duo2fa) [] :=
    ((((emits_prose (by simp [entryMarker])).append
      (emits_externalHostname relay.name domain)).append emits_externalSslCert).append
        (emits_prose (by simp [entryMarker]))).append emits_duo2fa
  exact emits_entryKey hbody

/-- A section has one entry for each stub. -/
lemma emits_entries {key missing : String} {entry : AppStub → Template} {stubs : List AppStub}
    (hkey : key ≠ entryMarker) (hmissing : missing ≠ entryMarker)
    (hentry : ∀ stub ∈ stubs, Emits entryMarker.toList (entry stub) [[stub.name]]) :
    Emits entryMarker.toList (entries key missing entry stubs)
      (stubs.map fun stub => [stub.name]) := by
  have hhead : Emits entryMarker.toList (lines ["", key]) [] := by
    refine emits_prose ?_
    simp only [List.all_cons, List.all_nil, Bool.and_true, Bool.and_eq_true, bne_iff_ne]
    exact ⟨by decide, hkey⟩
  have hnone : Emits entryMarker.toList
      (if stubs = [] then lines [missing, "  \x7b\x7d"] else []) [] := by
    split_ifs
    · refine emits_prose ?_
      simp only [List.all_cons, List.all_nil, Bool.and_true, Bool.and_eq_true, bne_iff_ne]
      exact ⟨hmissing, by decide⟩
    · exact fun _ => rfl
  rw [List.map_eq_flatMap]
  exact (hhead.append hnone).append (Emits.flatMap hentry)

/-- **The entries of the configuration** are the seed applications of the three sections, the RDP
relays on the derived flag. -/
lemma entryNames_eq (config : DngConfig) :
    entryNames config =
      (config.answers.seedApps.webApps ++ config.answers.seedApps.sshRelays ++
        (if config.requiresExtraDnsContainer then config.answers.seedApps.rdpRelays else [])).map
          AppStub.name := by
  have hrelays : Emits entryMarker.toList
      (if config.requiresExtraDnsContainer then
        entries "application_relays:"
          "  # No RDP relays seeded; add entries here keyed by friendly name."
          (applicationRelay (domainFromFqdn config.answers.publicHostname))
          config.answers.seedApps.rdpRelays ++
        lines ["", "subdomains: []"]
      else [])
      ((if config.requiresExtraDnsContainer then config.answers.seedApps.rdpRelays else []).map
        fun stub => [stub.name]) := by
    split_ifs
    · rw [← List.append_nil (List.map _ _)]
      refine (emits_entries ?_ ?_ fun stub _ => emits_applicationRelay _ stub).append
        (emits_prose ?_)
      all_goals simp [entryMarker]
    · exact fun _ => rfl
  have h : Emits entryMarker.toList (template config)
      ([] ++ config.answers.seedApps.webApps.map (fun stub => [stub.name]) ++
        config.answers.seedApps.sshRelays.map (fun stub => [stub.name]) ++
        (if config.requiresExtraDnsContainer then config.answers.seedApps.rdpRelays else []).map
          fun stub => [stub.name]) := by
    refine (((emits_head config).append
      (emits_entries ?_ ?_ fun stub _ => emits_webApplication _ stub)).append
      (emits_entries ?_ ?_ fun stub _ => emits_sshServer _ stub)).append hrelays
    all_goals simp [entryMarker]
  rw [entryNames, h.eq, List.nil_append, ← List.map_append, ← List.map_append, ← List.flatMap_def,
    List.map_eq_flatMap]

end ScriptedConfig

/-! ## The records of the array -/

namespace DnsRecords

/-- The records of the host: its own address, that of the wildcard, and the challenges. -/
def hostRecords (config : DngConfig) : List DnsRecord :=
  [⟨"A", config.answers.publicHostname, targetValue config, 300⟩] ++
  (if config.answers.wildcardCert then
    [⟨"A", "*.".toList ++ publicHostnameDomain config, targetValue config, 300⟩]
    else []) ++
  (if usesAcme config then acmeRows config else [])

/-- The record of a seed application. -/
def seedRecord (config : DngConfig) (name : Str) : DnsRecord :=
  ⟨"A", name ++ '.' :: publicHostnameDomain config, targetValue config, 300⟩

/-- The array that is read from the file has the records of the host, and then those of seed
applications of the given names. -/
def SeededWith (config : DngConfig) (names : List Str) : Prop :=
  ∃ doc, readDocument (generateJson config) = some doc ∧
    doc.records = hostRecords config ++ names.map (seedRecord config)

/-- The record of a seed application tells its name. -/
lemma seedRecord_injective (config : DngConfig) : Function.Injective (seedRecord config) := by
  intro name name' h
  exact List.append_cancel_right (congrArg DnsRecord.name h)

/-- The array is seeded with the names of all stubs, and with no other names. -/
lemma seededWith_iff {config : DngConfig} {names : List Str} :
    SeededWith config names ↔ names = seedAppHostnames config := by
  have hrecords : (document config).records =
    hostRecords config ++ (seedAppHostnames config).map (seedRecord config) := rfl
  simp only [SeededWith, readDocument_generateJson, Option.some.injEq, exists_eq_left', hrecords]
  rw [List.append_cancel_left_eq,
    (List.map_injective_iff.mpr (seedRecord_injective config)).eq_iff, eq_comm]

end DnsRecords

/-! ## Plans from interviews -/

namespace Interview

variable {σ δ : Type}

/-- In a plan whose relays are in scope, the configuration has an entry for every stub. -/
lemma entryNames_buildConfig (snapshot : EnvironmentSnapshot) {answers : InterviewAnswers}
    (h : answers.RelaysInScope) :
    ScriptedConfig.entryNames (buildConfig snapshot answers) =
      DnsRecords.seedAppHostnames (buildConfig snapshot answers) := by
  rw [ScriptedConfig.entryNames_eq, DnsRecords.seedAppHostnames]
  by_cases hflag : (buildConfig snapshot answers).requiresExtraDnsContainer = true
  · rw [if_pos hflag]
  · have hnil : answers.seedApps.rdpRelays = [] := by
      by_contra hne
      exact hflag (decide_eq_true (h hne))
    rw [if_neg hflag, show (buildConfig snapshot answers).answers.seedApps.rdpRelays = [] from hnil]

/-- **The seed applications after an interview**: whatever the provider, provided that it does not
write to the record and that its answer about the scope does not compare equal to both scopes, the
configuration of the derived plan has an entry for every stub, and the names that the array in the
file of the DNS records is seeded with are those of the entries, in the same order and as often.

**Proof sketch.** The question about seed applications accepts RDP relays in the RDP/SMB scope
only, and the flag on which the configuration has their section is derived from the scope. -/
theorem seededWith_iff_of_run {L : Leaves} {snapshot : EnvironmentSnapshot}
    {provider : AnswersProvider σ δ} {st : σ} {answers : InterviewAnswers}
    (hro : provider.ReadOnly) (hone : TellsOneScope provider snapshot st)
    (h : run L snapshot provider st = .ok answers) :
    ScriptedConfig.generate (buildConfig snapshot answers) =
        render (ScriptedConfig.template (buildConfig snapshot answers)) ∧
      ScriptedConfig.entryNames (buildConfig snapshot answers) =
        (answers.seedApps.webApps ++ answers.seedApps.sshRelays ++
          answers.seedApps.rdpRelays).map AppStub.name ∧
      ∀ names, DnsRecords.SeededWith (buildConfig snapshot answers) names ↔
        names = ScriptedConfig.entryNames (buildConfig snapshot answers) := by
  obtain ⟨prior, hprior, hfields⟩ := exists_of_run h
  have hscope := relaysInScope_of_run hro hone hprior (readFrom_of_ofFields hfields)
  have hnames := entryNames_buildConfig snapshot hscope
  refine ⟨rfl, hnames, fun names => ?_⟩
  rw [DnsRecords.seededWith_iff, hnames]

/-- The plan of the canned interview has an SSH relay and an RDP relay in both files. -/
theorem seededWith_iff_of_run_canned :
    ∃ answers, run .strict (makeSnapshot {}) cannedProvider () = .ok answers ∧
      DnsRecords.SeededWith (buildConfig (makeSnapshot {}) answers) ["ssh-1", "rdp-1"] := by
  have h : ∃ answers, run .strict (makeSnapshot {}) cannedProvider () = .ok answers ∧
      answers.seedApps = stubApps 0 1 1 := ⟨_, rfl, rfl⟩
  obtain ⟨answers, hrun, happs⟩ := h
  obtain ⟨-, hnames, hseeded⟩ :=
    seededWith_iff_of_run cannedProvider_readOnly tellsOneScope_canned hrun
  refine ⟨answers, hrun, (hseeded _).mpr ?_⟩
  rw [hnames, happs]
  decide

/-- With a scope that compares equal to both, the RDP relay has a record and no entry. -/
theorem ambiguousScope_not_seeded :
    ambiguousProvider.ReadOnly ∧
      ∃ answers, run .strict (makeSnapshot {}) ambiguousProvider () = .ok answers ∧
        ScriptedConfig.entryNames (buildConfig (makeSnapshot {}) answers) = ["ssh-1".toList] ∧
        DnsRecords.SeededWith (buildConfig (makeSnapshot {}) answers)
          ["ssh-1".toList, "rdp-1".toList] := by
  have h : ∃ answers, run .strict (makeSnapshot {}) ambiguousProvider () = .ok answers ∧
      answers.seedApps = stubApps 0 1 1 ∧ answers.deploymentScope = .webSsh := ⟨_, rfl, rfl, rfl⟩
  obtain ⟨answers, hrun, happs, hscope⟩ := h
  refine ⟨ambiguousProvider_readOnly, answers, hrun, ?_, DnsRecords.seededWith_iff.mpr ?_⟩
  · have hflag : (buildConfig (makeSnapshot {}) answers).requiresExtraDnsContainer = false :=
      decide_eq_false (by simp [hscope])
    rw [ScriptedConfig.entryNames_eq, hflag]
    simp only [buildConfig, happs]
    decide
  · simp only [DnsRecords.seedAppHostnames, buildConfig, happs]
    decide

end Interview

end DngPreflight
