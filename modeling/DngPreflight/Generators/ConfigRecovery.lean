import DngPreflight.Generators.ConfigReading
import DngPreflight.Cli

set_option relaxedAutoImplicit false
set_option autoImplicit false

/-!
# What is recovered from the scripted configuration

The names of the seed applications are keys of the scripted configuration, and they are written
there as they are. Whether the plan is recovered from the file depends on how YAML reads them.

## Main definitions

* `DngPreflight.ScriptedConfig.Recovers` — a parser recovers the plan from the file.
* `DngPreflight.ScriptedConfig.Kept` — the names are kept by YAML, and told apart.

## Main results

* `DngPreflight.ScriptedConfig.recovers_iff_kept` — the plan is recovered exactly when the names
  are kept.
-/

namespace DngPreflight.ScriptedConfig

open Text Codec Net Yaml

/-! ## Recovery -/

/-- The literal of the certificate section at a key contains the path. -/
def BlockHas (doc : Tree) (key : String) (path : Str) : Prop :=
  ∃ text, valueAt doc ["network_gateway", "ssl_cert", key] = some (.scalar (.str text)) ∧
    path <:+: text

/-- The paths of the file-based strategies are in the certificate section. -/
def PathsIn (doc : Tree) : TlsStrategy → Prop
  | .letsEncryptDns01 _ => True
  | .existingBundle b => BlockHas doc "cert" b.certPath ∧ BlockHas doc "key" b.keyPath
  | .internalCa c => BlockHas doc "cert" c.certPath ∧ BlockHas doc "key" c.keyPath

/-- The keys of a section are the names of the stubs. -/
def KeysAt (doc : Tree) (key : String) (stubs : List AppStub) : Prop :=
  ∃ es, valueAt doc [key] = some (.map es) ∧
    es.map Prod.fst = stubs.map fun stub => .str stub.name

/-- The plan is recovered from the document. -/
structure RecoveredFrom (config : DngConfig) (doc : Tree) : Prop where
  hostname : valueAt doc ["network_gateway", "hostname"] =
    some (.scalar (.str config.answers.publicHostname))
  balancer : valueAt doc ["network_gateway", "load_balancer_cidrs_ips"] =
    config.answers.loadBalancer.map fun lb =>
      .seq (lb.trustedProxies.map fun cidr => .scalar (.str cidr.str))
  paths : PathsIn doc config.answers.tlsStrategy
  webApps : KeysAt doc "web_applications" config.answers.seedApps.webApps
  sshRelays : KeysAt doc "ssh_servers" config.answers.seedApps.sshRelays
  rdpRelays : config.answers.deploymentScope = .webSshRdpSmb →
    KeysAt doc "application_relays" config.answers.seedApps.rdpRelays

/-- A parser recovers the plan from the file. -/
def Recovers (parse : Str → Option Tree) (config : DngConfig) : Prop :=
  ∃ doc, parse (generate config) = some doc ∧ RecoveredFrom config doc

/-- The names are kept, there is an address if there is a load balancer, and the RDP relays have
their section in their scope. -/
structure Kept (config : DngConfig) : Prop where
  balancer : config.answers.Validated
  webApps : NamesKept config.answers.seedApps.webApps
  sshRelays : NamesKept config.answers.seedApps.sshRelays
  rdpRelays : config.answers.deploymentScope = .webSshRdpSmb →
    config.requiresExtraDnsContainer = true ∧ NamesKept config.answers.seedApps.rdpRelays

/-! ## Values of the document -/

section Values

variable (config : DngConfig) (ui password primary : Tree)
  (apps servers relays : List (Scalar × Tree))

/-- A value of the gateway section. -/
lemma valueAt_gateway (ks : List String) :
    valueAt (document config ui password primary apps servers relays) ("network_gateway" :: ks) =
      valueAt (.map (gatewayEntries config ui password)) ks :=
  valueAt_cons (nodup_documentEntries _ _ _ _ _ _ _) (by simp [documentEntries]) ks

/-- The hostname of the gateway. -/
lemma valueAt_hostname : valueAt (.map (gatewayEntries config ui password)) ["hostname"] =
    some (.scalar (.str config.answers.publicHostname)) :=
  valueAt_cons (nodup_gatewayEntries _ _ _) (by simp [gatewayEntries]) []

/-- The addresses of the load balancer are a list, if there are any. -/
lemma valueAt_balancer_iff :
    valueAt (.map (gatewayEntries config ui password)) ["load_balancer_cidrs_ips"] =
        (config.answers.loadBalancer.map fun lb =>
          .seq (lb.trustedProxies.map fun cidr => .scalar (.str cidr.str))) ↔
      config.answers.Validated := by
  cases hlb : config.answers.loadBalancer with
  | none =>
    have hkeys : (gatewayEntries config ui password).map Prod.fst =
        ["hostname", "enable_ui", "password", "admin_email", "ssl_cert"].map field := by
      simp only [gatewayEntries, hlb]
      rfl
    have hnone : field "load_balancer_cidrs_ips" ∉
        (gatewayEntries config ui password).map Prod.fst := by
      rw [hkeys, List.mem_map_of_injective field_injective]
      decide
    simp [valueAt_eq_none hnone, InterviewAnswers.Validated, hlb]
  | some lb =>
    have hvalue : valueAt (.map (gatewayEntries config ui password)) ["load_balancer_cidrs_ips"] =
        some (if lb.trustedProxies = [] then .scalar .null
          else .seq (lb.trustedProxies.map fun cidr => .scalar (.str cidr.str))) :=
      valueAt_cons (nodup_gatewayEntries _ _ _) (by simp [gatewayEntries, balancerEntries, hlb]) []
    have hvalidated : config.answers.Validated ↔ lb.trustedProxies ≠ [] := by
      simp [InterviewAnswers.Validated, LoadBalancerConfig.Validated, hlb]
    rw [hvalue, hvalidated, Option.map_some]
    split_ifs with hproxies <;> simp [hproxies]

/-- A value of the certificate section. -/
lemma valueAt_sslCert (ks : List String) :
    valueAt (.map (gatewayEntries config ui password)) ("ssl_cert" :: ks) =
      valueAt (.map (sslCertEntries config.answers.tlsStrategy)) ks :=
  valueAt_cons (nodup_gatewayEntries _ _ _) (by simp [gatewayEntries]) ks

/-- The paths of the file-based strategies are in their literals. -/
lemma pathsIn_document : PathsIn (document config ui password primary apps servers relays)
    config.answers.tlsStrategy := by
  have hblock : ∀ {key : String} {path : Str} {es : List (Scalar × Tree)},
      sslCertEntries config.answers.tlsStrategy = es → (es.map Prod.fst).Nodup →
      pastedEntry key path ∈ es →
      BlockHas (document config ui password primary apps servers relays) key path := by
    intro key path es hes hnodup hmem
    refine ⟨pasted path ++ "\n".toList, ?_, ?_⟩
    · rw [valueAt_gateway, valueAt_sslCert, hes]
      exact valueAt_cons hnodup hmem []
    · unfold pasted
      simp only [List.append_assoc]
      exact ⟨_, _, List.append_assoc _ _ _⟩
  cases htls : config.answers.tlsStrategy with
  | letsEncryptDns01 l => trivial
  | existingBundle b =>
    have hes : sslCertEntries config.answers.tlsStrategy = ownEntries b.certPath b.keyPath := by
      rw [htls]
      rfl
    exact ⟨hblock hes (nodup_ownEntries _ _) (by simp [ownEntries]),
      hblock hes (nodup_ownEntries _ _) (by simp [ownEntries])⟩
  | internalCa c =>
    have hes : sslCertEntries config.answers.tlsStrategy = ownEntries c.certPath c.keyPath := by
      rw [htls]
      rfl
    exact ⟨hblock hes (nodup_ownEntries _ _) (by simp [ownEntries]),
      hblock hes (nodup_ownEntries _ _) (by simp [ownEntries])⟩

end Values

/-- **The keys of a section** are the names of the stubs exactly when the names are kept. -/
lemma keysAt_iff {doc : Tree} {key : String} {stubs : List AppStub} {es : List (Scalar × Tree)}
    (hdoc : valueAt doc [key] = some (.map (Dict.ofList es).entries)) (hes : KeyedBy stubs es) :
    KeysAt doc key stubs ↔ NamesKept stubs := by
  rw [← keys_eq_iff hes]
  constructor
  · rintro ⟨es', hdoc', hkeys⟩
    rw [hdoc] at hdoc'
    cases hdoc'
    exact hkeys
  · exact fun hkeys => ⟨_, hdoc, hkeys⟩

section Document

variable {config : DngConfig} {ui password primary : Tree}
  {apps servers relays : List (Scalar × Tree)}

/-- The section of the RDP relays is there on the derived flag. -/
lemma keysAt_relays_iff (hrelays : config.requiresExtraDnsContainer = true →
      KeyedBy config.answers.seedApps.rdpRelays relays) :
    KeysAt (document config ui password primary apps servers relays) "application_relays"
        config.answers.seedApps.rdpRelays ↔
      config.requiresExtraDnsContainer = true ∧ NamesKept config.answers.seedApps.rdpRelays := by
  by_cases hflag : config.requiresExtraDnsContainer = true
  · rw [document, keysAt_iff (valueAt_cons (nodup_documentEntries _ _ _ _ _ _ _)
      (by simp [documentEntries, hflag]) []) (hrelays hflag)]
    exact (and_iff_right hflag).symm
  · have hkeys : (documentEntries config ui password primary apps servers relays).map Prod.fst =
          ["network_gateway", "primary_auth", "web_applications", "ssh_servers"].map field := by
      simp only [documentEntries, if_neg hflag]
      rfl
    have hnone : field "application_relays" ∉
        (documentEntries config ui password primary apps servers relays).map Prod.fst := by
      rw [hkeys, List.mem_map_of_injective field_injective]
      decide
    constructor
    · rintro ⟨es, hdoc, -⟩
      rw [document, valueAt_eq_none hnone] at hdoc
      cases hdoc
    · exact fun h => absurd h.1 hflag

/-- The plan is recovered from its document exactly when the names are kept. -/
lemma recoveredFrom_iff (happs : KeyedBy config.answers.seedApps.webApps apps)
    (hservers : KeyedBy config.answers.seedApps.sshRelays servers)
    (hrelays : config.requiresExtraDnsContainer = true →
      KeyedBy config.answers.seedApps.rdpRelays relays) :
    RecoveredFrom config (document config ui password primary apps servers relays) ↔
      Kept config := by
  have hnodup := nodup_documentEntries config ui password primary apps servers relays
  have hweb : KeysAt _ "web_applications" config.answers.seedApps.webApps ↔ _ :=
    keysAt_iff (valueAt_cons hnodup (by simp [documentEntries]) []) happs
  have hssh : KeysAt _ "ssh_servers" config.answers.seedApps.sshRelays ↔ _ :=
    keysAt_iff (valueAt_cons hnodup (by simp [documentEntries]) []) hservers
  constructor
  · intro h
    exact ⟨(valueAt_balancer_iff config ui password).mp (by rw [← h.balancer, valueAt_gateway]),
      hweb.mp h.webApps, hssh.mp h.sshRelays,
      fun hscope => (keysAt_relays_iff hrelays).mp (h.rdpRelays hscope)⟩
  · intro h
    refine ⟨?_, ?_, pathsIn_document _ _ _ _ _ _ _, hweb.mpr h.webApps, hssh.mpr h.sshRelays,
      fun hscope => (keysAt_relays_iff hrelays).mpr (h.rdpRelays hscope)⟩
    · rw [valueAt_gateway, valueAt_hostname]
    · rw [valueAt_gateway]
      exact (valueAt_balancer_iff config ui password).mpr h.balancer

end Document

/-- If the plan is recovered, then the names are kept. -/
lemma kept_of_recovers {parse : Str → Option Tree}
    {config : DngConfig}
    (hparse : ∀ t, load (generate config) = some t → parse (generate config) = some t)
    (h : Wellformed config) (hrecovers : Recovers parse config) : Kept config := by
  obtain ⟨_, _, _, apps, servers, relays, happs, hservers, hrelays, hload⟩ := exists_load_generate h
  obtain ⟨doc, hdoc, hrecovered⟩ := hrecovers
  rw [hparse _ hload] at hdoc
  cases hdoc
  exact (recoveredFrom_iff happs hservers hrelays).mp hrecovered

/-- **The plan is recovered** from the scripted configuration exactly when the names are kept,
whatever the parser, provided that it reads the file as it is read here, and that the values of the
plan stand on lines.

**Proof sketch.** The file is read line by line, a key together with what belongs to it, and its
document is known but for the values of the stubs. The keys of a section are those that the names of
its stubs are read as, in their order, without those that are there already. So they are the names
exactly when every name is read as itself and none is there twice. -/
theorem recovers_iff_kept {parse : Str → Option Tree} {config : DngConfig}
    (hparse : ∀ t, load (generate config) = some t → parse (generate config) = some t)
    (h : Wellformed config) : Recovers parse config ↔ Kept config := by
  refine ⟨kept_of_recovers hparse h, fun hkept => ?_⟩
  obtain ⟨_, _, _, apps, servers, relays, happs, hservers, hrelays, hload⟩ := exists_load_generate h
  exact ⟨_, hparse _ hload, (recoveredFrom_iff happs hservers hrelays).mpr hkept⟩

/-! ## Sample plans -/

/-- The sample plan with web applications. -/
def seededPlan (names : List String) : DngConfig :=
  { Cli.samplePlan with
    answers :=
      { Cli.samplePlan.answers with seedApps := { webApps := names.map fun n => ⟨n.toList⟩ } } }

/-- The values of the plan stand on lines, if the names do. -/
lemma wellformed_seededPlan {names : List String} (h : ∀ n ∈ names, Readable n.toList) :
    Wellformed (seededPlan names) where
  version := ⟨rfl, rfl⟩
  hostname := rfl
  proxies lb hlb := by cases hlb
  paths := ⟨rfl, rfl⟩
  names stub hstub := by
    have hmem : stub ∈ names.map fun n => (⟨n.toList⟩ : AppStub) := by
      simpa [emittedStubs, seededPlan, Cli.samplePlan, buildConfig, makeAnswers] using hstub
    obtain ⟨n, hn, rfl⟩ := List.mem_map.mp hmem
    exact h n hn
  quotes _ := rfl

/-- The names of the web applications are kept, if each is read as itself and none is there
twice. -/
lemma namesKept_seededPlan_iff {names : List String} :
    NamesKept (seededPlan names).answers.seedApps.webApps ↔
      (∀ n ∈ names, keyOf n.toList = some (field n)) ∧ names.Nodup := by
  have hnames : (seededPlan names).answers.seedApps.webApps.map AppStub.name =
      names.map String.toList := by simp [seededPlan]
  have hnodup : (names.map String.toList).Nodup ↔ names.Nodup :=
    List.nodup_map_iff fun _ _ => String.toList_inj.mp
  constructor
  · intro h
    exact ⟨fun n hn => h.text ⟨n.toList⟩ (List.mem_map_of_mem hn), hnodup.mp (hnames ▸ h.nodup)⟩
  · rintro ⟨htext, hdistinct⟩
    refine ⟨fun stub hstub => ?_, hnames ▸ hnodup.mpr hdistinct⟩
    obtain ⟨n, hn, rfl⟩ := List.mem_map.mp hstub
    exact htext n hn

/-- The plan with two web applications is recovered. -/
theorem recovers_iff_kept_seeded : Recovers load (seededPlan ["web-1", "it''s"]) := by
  have hnames : ∀ n ∈ ["web-1", "it''s"], Readable n.toList := by
    simp only [List.forall_mem_cons]
    exact ⟨⟨rfl, rfl, rfl⟩, ⟨rfl, rfl, rfl⟩, by simp⟩
  refine (recovers_iff_kept (fun _ => id) (wellformed_seededPlan hnames)).mpr ⟨?_, ?_, ?_, ?_⟩
  · intro lb hlb
    cases hlb
  · refine namesKept_seededPlan_iff.mpr ⟨?_, by decide⟩
    simp only [List.forall_mem_cons]
    exact ⟨rfl, rfl, by simp⟩
  · exact ⟨by simp [seededPlan], List.nodup_nil⟩
  · intro hscope
    cases hscope

/-- A name that is a word for a truth value is no text in the file, and of two web applications with
one name only one is there. -/
theorem not_recovers_seeded :
    ¬ Recovers load (seededPlan ["on"]) ∧ ¬ Recovers load (seededPlan ["web-1", "web-1"]) := by
  have hline : ∀ n ∈ ["on", "web-1"], Readable n.toList := by
    simp only [List.forall_mem_cons]
    exact ⟨⟨rfl, rfl, rfl⟩, ⟨rfl, rfl, rfl⟩, by simp⟩
  constructor
  · intro h
    have hwellformed : Wellformed (seededPlan ["on"]) :=
      wellformed_seededPlan fun n hn => hline n (by simp_all)
    have hkept := kept_of_recovers (fun _ => id) hwellformed h
    have htext := (namesKept_seededPlan_iff.mp hkept.webApps).1 "on" (by simp)
    cases htext
  · intro h
    have hwellformed : Wellformed (seededPlan ["web-1", "web-1"]) :=
      wellformed_seededPlan fun n hn => hline n (by simp_all)
    have hkept := kept_of_recovers (fun _ => id) hwellformed h
    exact absurd (namesKept_seededPlan_iff.mp hkept.webApps).2 (by decide)

end DngPreflight.ScriptedConfig
