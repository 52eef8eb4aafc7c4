import DngPreflight.Codec.Record
import DngPreflight.Models.Factories

set_option relaxedAutoImplicit false
set_option autoImplicit false

/-!
# Dumping and validating the models

`modelDump` is `model_dump(mode="json")`, and `modelValidate` is `model_validate` on data read
from a file. Both list the fields in the order of the model, with their types and defaults;
unknown fields are errors.

The coercions of scalars belong to the validation library: `Leaves` is what is known about
them. An interview may hand over instances of sub-models instead of data (`PyValue`), which
validation takes as they are.

## Main definitions

* `DngPreflight.Leaves` — the scalar coercions, with those of networks.
* `DngPreflight.DngConfig.modelDump`, `DngPreflight.DngConfig.modelValidate`.
* `DngPreflight.InterviewAnswers.ofFields` — validation of the fields of the answers.

## Main results

* `DngPreflight.plan_roundTrip` — when a dumped plan reads back.
* `DngPreflight.DngConfig.validated_of_modelValidate` — a plan that is read has been built
  through the validating constructors.
-/

namespace DngPreflight

open Text Codec Net

/-- The coercions of scalars, with those to networks. -/
structure Leaves extends ScalarLeaves where
  ipv4 : Scalar → Option IPv4Network
  ipv6 : Scalar → Option IPv6Network
  ipv4_str : ∀ n, ipv4 (.str (IPv4Network.str n)) = some n
  ipv6_str : ∀ n, ipv6 (.str (IPv6Network.str n)) = some n
  ipv4_str6 : ∀ n, ipv4 (.str (IPv6Network.str n)) = none

/-- The strict coercions; networks are read from their text. -/
def Leaves.strict : Leaves where
  toScalarLeaves := .strict
  ipv4 := fun | .str s => IPv4Network.ofText s | _ => none
  ipv6 := fun | .str s => IPv6Network.ofText s | _ => none
  ipv4_str := IPv4Network.ofText_str
  ipv6_str := IPv6Network.ofText_str
  ipv4_str6 := IPv4Network.ofText_str6

variable (L : Leaves)

/-! ## Unions -/

/-- A sub-model told apart from `NotDetected` by its tag. -/
def OrMissing.modelDump {α : Type} (d : α → Tree) : OrMissing α → Tree
  | .detected a => d a
  | .missing n => record [("detected", dumpBool false), ("reason", dumpStr n.reason)]

/-- Validate the sentinel of an absent sub-model. -/
def NotDetected.modelValidate (t : Tree) : Option NotDetected := do
  let fs ← readFields ["detected", "reason"] t
  let _ ← defaulted fs "detected" () (readLiteral (.bool false))
  let reason ← required fs "reason" (leaf L.str)
  pure { reason }

/-- Validate a union discriminated by `detected`. -/
def OrMissing.modelValidate {α : Type} (r : Tree → Option α) (t : Tree) : Option (OrMissing α) :=
  match tagOf "detected" t with
  | some (.bool true) => (r t).map .detected
  | some (.bool false) => (NotDetected.modelValidate L t).map .missing
  | _ => none

/-- A union discriminated by `detected` reads back. -/
lemma OrMissing.modelValidate_modelDump {α : Type} {r : Tree → Option α} {d : α → Tree}
    {x : OrMissing α} (htag : ∀ a, tagOf "detected" (d a) = some (.bool true))
    (h : ∀ a, x = .detected a → r (d a) = some a) :
    OrMissing.modelValidate L r (x.modelDump d) = some x := by
  cases x with
  | detected a => simp [OrMissing.modelDump, OrMissing.modelValidate, htag, h a rfl]
  | missing n =>
    have hread : NotDetected.modelValidate L
        (record [("detected", dumpBool false), ("reason", dumpStr n.reason)]) = some n := by
      rw [NotDetected.modelValidate, readFields_record (by simp)]
      simp
    rw [OrMissing.modelDump, OrMissing.modelValidate, dumpBool, tagOf_record, ← dumpBool, hread]
    rfl

/-! ## The snapshot -/

/-- Dump host facts. -/
def SystemInfo.modelDump (x : SystemInfo) : Tree :=
  record [("detected", dumpBool true), ("platform", dumpStr x.platform),
    ("distro", dumpStr x.distro), ("distro_version", dumpStr x.distroVersion),
    ("kernel", dumpStr x.kernel), ("arch", dumpStr x.arch), ("ram_mb", dumpInt x.ramMb),
    ("cpu_count", dumpInt x.cpuCount), ("selinux_mode", dumpNullable dumpStr x.selinuxMode),
    ("apparmor_active", dumpNullable dumpBool x.apparmorActive),
    ("domain_joined", dumpBool x.domainJoined)]

/-- Validate host facts. -/
def SystemInfo.modelValidate (t : Tree) : Option SystemInfo := do
  let fs ← readFields ["detected", "platform", "distro", "distro_version", "kernel", "arch",
    "ram_mb", "cpu_count", "selinux_mode", "apparmor_active", "domain_joined"] t
  let _ ← defaulted fs "detected" () (readLiteral (.bool true))
  let platform ← required fs "platform" (leaf L.str)
  let distro ← required fs "distro" (leaf L.str)
  let distroVersion ← required fs "distro_version" (leaf L.str)
  let kernel ← required fs "kernel" (leaf L.str)
  let arch ← required fs "arch" (leaf L.str)
  let ramMb ← required fs "ram_mb" (leaf L.int)
  let cpuCount ← required fs "cpu_count" (leaf L.int)
  let selinuxMode ← defaulted fs "selinux_mode" none (readNullable (leaf L.str))
  let apparmorActive ← defaulted fs "apparmor_active" none (readNullable (leaf L.bool))
  let domainJoined ← defaulted fs "domain_joined" false (leaf L.bool)
  pure { platform, distro, distroVersion, kernel, arch, ramMb, cpuCount, selinuxMode,
         apparmorActive, domainJoined }

/-- The system is read back. -/
lemma SystemInfo.modelValidate_modelDump (x : SystemInfo) :
    SystemInfo.modelValidate L x.modelDump = some x := by
  rw [SystemInfo.modelValidate, SystemInfo.modelDump, readFields_record (by simp)]
  simp

/-- Dump Docker facts. -/
def DockerInfo.modelDump (x : DockerInfo) : Tree :=
  record [("detected", dumpBool true), ("engine_version", dumpStr x.engineVersion),
    ("compose_version", dumpNullable dumpStr x.composeVersion),
    ("daemon_reachable", dumpBool x.daemonReachable),
    ("current_user_in_docker_group", dumpBool x.currentUserInDockerGroup)]

/-- Validate Docker facts. -/
def DockerInfo.modelValidate (t : Tree) : Option DockerInfo := do
  let fs ← readFields ["detected", "engine_version", "compose_version", "daemon_reachable",
    "current_user_in_docker_group"] t
  let _ ← defaulted fs "detected" () (readLiteral (.bool true))
  let engineVersion ← required fs "engine_version" (leaf L.str)
  let composeVersion ← required fs "compose_version" (readNullable (leaf L.str))
  let daemonReachable ← required fs "daemon_reachable" (leaf L.bool)
  let currentUserInDockerGroup ← required fs "current_user_in_docker_group" (leaf L.bool)
  pure { engineVersion, composeVersion, daemonReachable, currentUserInDockerGroup }

/-- Docker is read back. -/
lemma DockerInfo.modelValidate_modelDump (x : DockerInfo) :
    DockerInfo.modelValidate L x.modelDump = some x := by
  rw [DockerInfo.modelValidate, DockerInfo.modelDump, readFields_record (by simp)]
  simp

/-- Dump network facts; the port numbers become text. -/
def NetworkInfo.modelDump (x : NetworkInfo) : Tree :=
  record [("detected", dumpBool true),
    ("interfaces", dumpDict dumpKey (dumpList dumpStr) x.interfaces),
    ("default_route_iface", dumpNullable dumpStr x.defaultRouteIface),
    ("listening_ports", dumpDict (fun n => .str (intText n)) dumpStr x.listeningPorts),
    ("egress_public_ip", dumpNullable dumpStr x.egressPublicIp)]

/-- Validate network facts. -/
def NetworkInfo.modelValidate (t : Tree) : Option NetworkInfo := do
  let fs ← readFields ["detected", "interfaces", "default_route_iface", "listening_ports",
    "egress_public_ip"] t
  let _ ← defaulted fs "detected" () (readLiteral (.bool true))
  let interfaces ← required fs "interfaces" (readDict L.key (readList (leaf L.str)))
  let defaultRouteIface ← required fs "default_route_iface" (readNullable (leaf L.str))
  let listeningPorts ← required fs "listening_ports" (readDict L.int (leaf L.str))
  let egressPublicIp ← required fs "egress_public_ip" (readNullable (leaf L.str))
  pure { interfaces, defaultRouteIface, listeningPorts, egressPublicIp }

/-- Network facts read back, if the names of the interfaces are texts. -/
lemma NetworkInfo.modelValidate_modelDump {x : NetworkInfo} (h : x.interfaces.TextKeys) :
    NetworkInfo.modelValidate L x.modelDump = some x := by
  have hports : readDict L.int (leaf L.str)
      (dumpDict (fun n => .str (intText n)) dumpStr x.listeningPorts) = some x.listeningPorts :=
    readDict_dump (fun n _ => L.int_text n) (leaf_dumpStr L.toScalarLeaves)
  have hifaces : readDict L.key (readList (leaf L.str))
      (dumpDict dumpKey (dumpList dumpStr) x.interfaces) = some x.interfaces :=
    readDict_dump (fun k hk => L.key_dumpKey (h k hk)) (readList_dumpStr L.toScalarLeaves)
  rw [NetworkInfo.modelValidate, NetworkInfo.modelDump, readFields_record (by simp)]
  simp [hports, hifaces]

/-- Dump DNS results. -/
def DnsResolution.modelDump (x : DnsResolution) : Tree :=
  record [("detected", dumpBool true), ("hostname", dumpStr x.hostname),
    ("a_records", dumpDict dumpKey (dumpList dumpStr) x.aRecords),
    ("aaaa_records", dumpDict dumpKey (dumpList dumpStr) x.aaaaRecords),
    ("reverse_ptr", dumpNullable dumpStr x.reversePtr),
    ("local_resolvers", dumpList dumpStr x.localResolvers)]

/-- Validate DNS results. -/
def DnsResolution.modelValidate (t : Tree) : Option DnsResolution := do
  let fs ← readFields ["detected", "hostname", "a_records", "aaaa_records", "reverse_ptr",
    "local_resolvers"] t
  let _ ← defaulted fs "detected" () (readLiteral (.bool true))
  let hostname ← required fs "hostname" (leaf L.str)
  let aRecords ← required fs "a_records" (readDict L.key (readList (leaf L.str)))
  let aaaaRecords ← required fs "aaaa_records" (readDict L.key (readList (leaf L.str)))
  let reversePtr ← required fs "reverse_ptr" (readNullable (leaf L.str))
  let localResolvers ← required fs "local_resolvers" (readList (leaf L.str))
  pure { hostname, aRecords, aaaaRecords, reversePtr, localResolvers }

/-- DNS results read back, if the resolvers are texts. -/
lemma DnsResolution.modelValidate_modelDump {x : DnsResolution} (h : x.aRecords.TextKeys)
    (h' : x.aaaaRecords.TextKeys) : DnsResolution.modelValidate L x.modelDump = some x := by
  have hrecords : ∀ d : Dict PyStr (List Str), d.TextKeys →
      readDict L.key (readList (leaf L.str)) (dumpDict dumpKey (dumpList dumpStr) d) = some d :=
    fun d hd => readDict_dump (fun k hk => L.key_dumpKey (hd k hk))
      (readList_dumpStr L.toScalarLeaves)
  rw [DnsResolution.modelValidate, DnsResolution.modelDump, readFields_record (by simp)]
  simp [hrecords _ h, hrecords _ h']

/-- Dump TLS facts. -/
def TlsObservation.modelDump (x : TlsObservation) : Tree :=
  record [("detected", dumpBool true), ("answers_on_443", dumpBool x.answersOn443),
    ("cn", dumpNullable dumpStr x.cn), ("sans", dumpList dumpStr x.sans),
    ("not_before", dumpNullable dumpStr x.notBefore),
    ("not_after", dumpNullable dumpStr x.notAfter), ("issuer", dumpNullable dumpStr x.issuer),
    ("key_algorithm", dumpNullable dumpStr x.keyAlgorithm)]

/-- Validate TLS facts. -/
def TlsObservation.modelValidate (t : Tree) : Option TlsObservation := do
  let fs ← readFields ["detected", "answers_on_443", "cn", "sans", "not_before", "not_after",
    "issuer", "key_algorithm"] t
  let _ ← defaulted fs "detected" () (readLiteral (.bool true))
  let answersOn443 ← required fs "answers_on_443" (leaf L.bool)
  let cn ← defaulted fs "cn" none (readNullable (leaf L.str))
  let sans ← defaulted fs "sans" [] (readList (leaf L.str))
  let notBefore ← defaulted fs "not_before" none (readNullable (leaf L.str))
  let notAfter ← defaulted fs "not_after" none (readNullable (leaf L.str))
  let issuer ← defaulted fs "issuer" none (readNullable (leaf L.str))
  let keyAlgorithm ← defaulted fs "key_algorithm" none (readNullable (leaf L.str))
  pure { answersOn443, cn, sans, notBefore, notAfter, issuer, keyAlgorithm }

/-- The TLS observation is read back. -/
lemma TlsObservation.modelValidate_modelDump (x : TlsObservation) :
    TlsObservation.modelValidate L x.modelDump = some x := by
  rw [TlsObservation.modelValidate, TlsObservation.modelDump, readFields_record (by simp)]
  simp

/-- Dump time-sync facts. -/
def TimeSyncState.modelDump (x : TimeSyncState) : Tree :=
  record [("detected", dumpBool true), ("daemon", dumpStr x.daemon),
    ("sync_source", dumpNullable dumpStr x.syncSource),
    ("offset_seconds", dumpNullable dumpFloat x.offsetSeconds)]

/-- Validate time-sync facts. -/
def TimeSyncState.modelValidate (t : Tree) : Option TimeSyncState := do
  let fs ← readFields ["detected", "daemon", "sync_source", "offset_seconds"] t
  let _ ← defaulted fs "detected" () (readLiteral (.bool true))
  let daemon ← required fs "daemon" (leaf L.str)
  let syncSource ← required fs "sync_source" (readNullable (leaf L.str))
  let offsetSeconds ← required fs "offset_seconds" (readNullable (leaf L.float))
  pure { daemon, syncSource, offsetSeconds }

/-- The state of time sync is read back if its offset is finite. -/
lemma TimeSyncState.modelValidate_modelDump {x : TimeSyncState}
    (h : ∀ o, x.offsetSeconds = some o → o.isFinite) :
    TimeSyncState.modelValidate L x.modelDump = some x := by
  have hoffset : readNullable (leaf L.float) (dumpNullable dumpFloat x.offsetSeconds) =
      some x.offsetSeconds :=
    readNullable_dump (by simp [dumpFloat]) fun o ho => leaf_dumpFloat L.toScalarLeaves (h o ho)
  rw [TimeSyncState.modelValidate, TimeSyncState.modelDump, readFields_record (by simp)]
  simp [hoffset]

/-- Dump firewall facts. -/
def FirewallState.modelDump (x : FirewallState) : Tree :=
  record [("detected", dumpBool true), ("kind", dumpEnum FirewallKind.value x.kind),
    ("active", dumpBool x.active)]

/-- Validate firewall facts. -/
def FirewallState.modelValidate (t : Tree) : Option FirewallState := do
  let fs ← readFields ["detected", "kind", "active"] t
  let _ ← defaulted fs "detected" () (readLiteral (.bool true))
  let kind ← required fs "kind" (readEnum FirewallKind.members FirewallKind.value)
  let active ← required fs "active" (leaf L.bool)
  pure { kind, active }

/-- Firewall kinds read back. -/
@[simp] lemma readEnum_firewallKind (k : FirewallKind) :
    readEnum FirewallKind.members FirewallKind.value (dumpEnum FirewallKind.value k) =
      some k := by
  cases k <;> rfl

/-- The state of the firewall is read back. -/
lemma FirewallState.modelValidate_modelDump (x : FirewallState) :
    FirewallState.modelValidate L x.modelDump = some x := by
  rw [FirewallState.modelValidate, FirewallState.modelDump, readFields_record (by simp)]
  simp

/-- Dump the result of an endpoint. -/
def EndpointResult.modelDump : EndpointResult → Tree
  | .status n => dumpInt n
  | .error s => dumpStr s

/-- Validate `int | str`: a value of either type is taken exactly, anything else is coerced to
the first type that accepts it. -/
def EndpointResult.modelValidate : Tree → Option EndpointResult
  | .scalar (.int n) => some (.status n)
  | .scalar (.str s) => some (.error s)
  | t => ((leaf L.int t).map .status).or ((leaf L.str t).map .error)

/-- The result for an endpoint is read back. -/
lemma EndpointResult.modelValidate_modelDump (x : EndpointResult) :
    EndpointResult.modelValidate L x.modelDump = some x := by
  cases x <;> rfl

/-- Dump endpoint results. -/
def DuoReachability.modelDump (x : DuoReachability) : Tree :=
  record [("detected", dumpBool true),
    ("endpoints", dumpDict dumpKey EndpointResult.modelDump x.endpoints)]

/-- Validate endpoint results. -/
def DuoReachability.modelValidate (t : Tree) : Option DuoReachability := do
  let fs ← readFields ["detected", "endpoints"] t
  let _ ← defaulted fs "detected" () (readLiteral (.bool true))
  let endpoints ← required fs "endpoints" (readDict L.key (EndpointResult.modelValidate L))
  pure { endpoints }

/-- Endpoint results read back, if the endpoints are texts. -/
lemma DuoReachability.modelValidate_modelDump {x : DuoReachability} (h : x.endpoints.TextKeys) :
    DuoReachability.modelValidate L x.modelDump = some x := by
  have hends : readDict L.key (EndpointResult.modelValidate L)
      (dumpDict dumpKey EndpointResult.modelDump x.endpoints) = some x.endpoints :=
    readDict_dump (fun k hk => L.key_dumpKey (h k hk)) (EndpointResult.modelValidate_modelDump L)
  rw [DuoReachability.modelValidate, DuoReachability.modelDump, readFields_record (by simp)]
  simp [hends]

/-- Dump a snapshot. -/
def EnvironmentSnapshot.modelDump (x : EnvironmentSnapshot) : Tree :=
  record [("captured_at", dumpStr x.capturedAt), ("hostname_planned", dumpStr x.hostnamePlanned),
    ("system", x.system.modelDump), ("docker", x.docker.modelDump DockerInfo.modelDump),
    ("network", x.network.modelDump), ("dns", x.dns.modelDump), ("tls", x.tls.modelDump),
    ("time_sync", x.timeSync.modelDump TimeSyncState.modelDump),
    ("firewall", x.firewall.modelDump FirewallState.modelDump),
    ("duo_reachability", x.duoReachability.modelDump)]

/-- Validate a snapshot. -/
def EnvironmentSnapshot.modelValidate (t : Tree) : Option EnvironmentSnapshot := do
  let fs ← readFields ["captured_at", "hostname_planned", "system", "docker", "network", "dns",
    "tls", "time_sync", "firewall", "duo_reachability"] t
  let capturedAt ← required fs "captured_at" (leaf L.str)
  let hostnamePlanned ← required fs "hostname_planned" (leaf L.str)
  let system ← required fs "system" (SystemInfo.modelValidate L)
  let docker ← required fs "docker" (OrMissing.modelValidate L (DockerInfo.modelValidate L))
  let network ← required fs "network" (NetworkInfo.modelValidate L)
  let dns ← required fs "dns" (DnsResolution.modelValidate L)
  let tls ← required fs "tls" (TlsObservation.modelValidate L)
  let timeSync ← required fs "time_sync"
    (OrMissing.modelValidate L (TimeSyncState.modelValidate L))
  let firewall ← required fs "firewall"
    (OrMissing.modelValidate L (FirewallState.modelValidate L))
  let duoReachability ← required fs "duo_reachability" (DuoReachability.modelValidate L)
  pure { capturedAt, hostnamePlanned, system, docker, network, dns, tls, timeSync, firewall,
         duoReachability }

/-- The time offset of a snapshot is finite, if there is one. -/
def EnvironmentSnapshot.FiniteOffset (x : EnvironmentSnapshot) : Prop :=
  ∀ ts o, x.timeSync = .detected ts → ts.offsetSeconds = some o → o.isFinite

/-- The keys of all dictionaries of a snapshot are texts. -/
structure EnvironmentSnapshot.TextKeys (x : EnvironmentSnapshot) : Prop where
  interfaces : x.network.interfaces.TextKeys
  aRecords : x.dns.aRecords.TextKeys
  aaaaRecords : x.dns.aaaaRecords.TextKeys
  endpoints : x.duoReachability.endpoints.TextKeys

/-- The snapshot can be stored without loss: its time offset is finite, and its keys are texts. -/
structure EnvironmentSnapshot.Storable (x : EnvironmentSnapshot) : Prop where
  offset : x.FiniteOffset
  keys : x.TextKeys

/-- **Snapshots read back**, if they are storable. -/
lemma EnvironmentSnapshot.modelValidate_modelDump {x : EnvironmentSnapshot}
    (h : x.Storable) : EnvironmentSnapshot.modelValidate L x.modelDump = some x := by
  have hdocker := OrMissing.modelValidate_modelDump L (x := x.docker) (fun a => rfl)
    fun a _ => DockerInfo.modelValidate_modelDump L a
  have htime := OrMissing.modelValidate_modelDump L (x := x.timeSync) (fun a => rfl)
    fun a ha => TimeSyncState.modelValidate_modelDump L fun o ho => h.offset a o ha ho
  have hfirewall := OrMissing.modelValidate_modelDump L (x := x.firewall) (fun a => rfl)
    fun a _ => FirewallState.modelValidate_modelDump L a
  rw [EnvironmentSnapshot.modelValidate, EnvironmentSnapshot.modelDump,
    readFields_record (by simp)]
  simp [SystemInfo.modelValidate_modelDump, hdocker,
    NetworkInfo.modelValidate_modelDump L h.keys.interfaces,
    DnsResolution.modelValidate_modelDump L h.keys.aRecords h.keys.aaaaRecords,
    TlsObservation.modelValidate_modelDump, htime, hfirewall,
    DuoReachability.modelValidate_modelDump L h.keys.endpoints]

/-- A snapshot that is read has texts as its keys. -/
lemma EnvironmentSnapshot.textKeys_of_modelValidate {t : Tree} {x : EnvironmentSnapshot}
    (h : EnvironmentSnapshot.modelValidate L t = some x) : x.TextKeys := by
  simp only [EnvironmentSnapshot.modelValidate, Option.bind_eq_bind, Option.bind_eq_some_iff] at h
  obtain ⟨_, -, _, -, _, -, _, -, _, -, network, hnetwork, dns, hdns, _, -, _, -, _, -, duo, hduo,
    h⟩ := h
  cases h
  obtain ⟨t, -, hnetwork⟩ := Option.bind_eq_some_iff.mp hnetwork
  obtain ⟨t', -, hdns⟩ := Option.bind_eq_some_iff.mp hdns
  obtain ⟨t'', -, hduo⟩ := Option.bind_eq_some_iff.mp hduo
  simp only [NetworkInfo.modelValidate, Option.bind_eq_bind, Option.bind_eq_some_iff] at hnetwork
  simp only [DnsResolution.modelValidate, Option.bind_eq_bind, Option.bind_eq_some_iff] at hdns
  simp only [DuoReachability.modelValidate, Option.bind_eq_bind, Option.bind_eq_some_iff] at hduo
  obtain ⟨_, -, _, -, interfaces, hinterfaces, _, -, _, -, _, -, hnetwork⟩ := hnetwork
  obtain ⟨_, -, _, -, _, -, a, ha, aaaa, haaaa, _, -, _, -, hdns⟩ := hdns
  obtain ⟨_, -, _, -, endpoints, hendpoints, hduo⟩ := hduo
  cases hnetwork
  cases hdns
  cases hduo
  obtain ⟨_, -, hinterfaces⟩ := Option.bind_eq_some_iff.mp hinterfaces
  obtain ⟨_, -, ha⟩ := Option.bind_eq_some_iff.mp ha
  obtain ⟨_, -, haaaa⟩ := Option.bind_eq_some_iff.mp haaaa
  obtain ⟨_, -, hendpoints⟩ := Option.bind_eq_some_iff.mp hendpoints
  exact ⟨textKeys_of_readDict hinterfaces, textKeys_of_readDict ha, textKeys_of_readDict haaaa,
    textKeys_of_readDict hendpoints⟩

/-! ## The answers -/

/-- Dump a TLS strategy; its first field is the discriminator. -/
def TlsStrategy.modelDump : TlsStrategy → Tree
  | .existingBundle b =>
    record [("kind", dumpStr "existing_bundle"), ("cert_path", dumpStr b.certPath),
      ("key_path", dumpStr b.keyPath), ("chain_path", dumpNullable dumpStr b.chainPath)]
  | .letsEncryptDns01 l =>
    record [("kind", dumpStr "lets_encrypt_dns01"), ("contact_email", dumpStr l.contactEmail),
      ("dns_provider", dumpStr l.dnsProvider)]
  | .internalCa c =>
    record [("kind", dumpStr "internal_ca"), ("cert_path", dumpStr c.certPath),
      ("key_path", dumpStr c.keyPath), ("chain_path", dumpStr c.chainPath)]

/-- Validate an existing bundle. -/
def ExistingBundle.modelValidate (t : Tree) : Option ExistingBundle := do
  let fs ← readFields ["kind", "cert_path", "key_path", "chain_path"] t
  let _ ← defaulted fs "kind" () (readLiteral (.str "existing_bundle"))
  let certPath ← required fs "cert_path" (leaf L.str)
  let keyPath ← required fs "key_path" (leaf L.str)
  let chainPath ← defaulted fs "chain_path" none (readNullable (leaf L.str))
  pure { certPath, keyPath, chainPath }

/-- Validate a Let's Encrypt strategy. -/
def LetsEncryptDns01.modelValidate (t : Tree) : Option LetsEncryptDns01 := do
  let fs ← readFields ["kind", "contact_email", "dns_provider"] t
  let _ ← defaulted fs "kind" () (readLiteral (.str "lets_encrypt_dns01"))
  let contactEmail ← required fs "contact_email" (leaf L.str)
  let dnsProvider ← required fs "dns_provider" (leaf L.str)
  pure { contactEmail, dnsProvider }

/-- Validate an internal CA strategy. -/
def InternalCa.modelValidate (t : Tree) : Option InternalCa := do
  let fs ← readFields ["kind", "cert_path", "key_path", "chain_path"] t
  let _ ← defaulted fs "kind" () (readLiteral (.str "internal_ca"))
  let certPath ← required fs "cert_path" (leaf L.str)
  let keyPath ← required fs "key_path" (leaf L.str)
  let chainPath ← required fs "chain_path" (leaf L.str)
  pure { certPath, keyPath, chainPath }

/-- Validate a TLS strategy, discriminated by `kind`. -/
def TlsStrategy.modelValidate (t : Tree) : Option TlsStrategy :=
  match tagOf "kind" t with
  | some (.str k) =>
    if k = "existing_bundle" then (ExistingBundle.modelValidate L t).map .existingBundle
    else if k = "lets_encrypt_dns01" then
      (LetsEncryptDns01.modelValidate L t).map .letsEncryptDns01
    else if k = "internal_ca" then (InternalCa.modelValidate L t).map .internalCa
    else none
  | _ => none

/-- The TLS strategy is read back. -/
lemma TlsStrategy.modelValidate_modelDump (x : TlsStrategy) :
    TlsStrategy.modelValidate L x.modelDump = some x := by
  cases x with
  | existingBundle b =>
    have hread : ExistingBundle.modelValidate L (TlsStrategy.modelDump (.existingBundle b)) =
        some b := by
      rw [ExistingBundle.modelValidate, TlsStrategy.modelDump, readFields_record (by simp)]
      simp
    rw [TlsStrategy.modelValidate, show tagOf "kind" (TlsStrategy.modelDump (.existingBundle b)) =
      some (.str "existing_bundle") from rfl]
    simp [hread]
  | letsEncryptDns01 l =>
    have hread : LetsEncryptDns01.modelValidate L
        (TlsStrategy.modelDump (.letsEncryptDns01 l)) = some l := by
      rw [LetsEncryptDns01.modelValidate, TlsStrategy.modelDump, readFields_record (by simp)]
      simp
    rw [TlsStrategy.modelValidate,
      show tagOf "kind" (TlsStrategy.modelDump (.letsEncryptDns01 l)) =
        some (.str "lets_encrypt_dns01") from rfl]
    simp [hread]
  | internalCa c =>
    have hread : InternalCa.modelValidate L (TlsStrategy.modelDump (.internalCa c)) =
        some c := by
      rw [InternalCa.modelValidate, TlsStrategy.modelDump, readFields_record (by simp)]
      simp
    rw [TlsStrategy.modelValidate, show tagOf "kind" (TlsStrategy.modelDump (.internalCa c)) =
      some (.str "internal_ca") from rfl]
    simp [hread]

/-- Dump a network as its text. -/
def IpNetwork.modelDump (n : IpNetwork) : Tree := dumpStr n.str

/-- Validate `IPv4Network | IPv6Network`: the first family that accepts the value. -/
def IpNetwork.modelValidate (t : Tree) : Option IpNetwork :=
  ((leaf L.ipv4 t).map .v4).or ((leaf L.ipv6 t).map .v6)

/-- A network is read back from its canonical text. -/
lemma IpNetwork.modelValidate_modelDump (n : IpNetwork) :
    IpNetwork.modelValidate L (IpNetwork.modelDump n) = some n := by
  cases n with
  | v4 n => simp [IpNetwork.modelValidate, IpNetwork.modelDump, dumpStr, IpNetwork.str, L.ipv4_str]
  | v6 n =>
    simp [IpNetwork.modelValidate, IpNetwork.modelDump, dumpStr, IpNetwork.str, L.ipv4_str6,
      L.ipv6_str]

/-- Dump a load balancer. -/
def LoadBalancerConfig.modelDump (lb : LoadBalancerConfig) : Tree :=
  record [("name", dumpStr lb.name),
    ("trusted_proxies", dumpList IpNetwork.modelDump lb.trustedProxies)]

/-- Validate a load balancer: `trusted_proxies` has at least one entry. -/
def LoadBalancerConfig.modelValidate (t : Tree) : Option LoadBalancerConfig := do
  let fs ← readFields ["name", "trusted_proxies"] t
  let name ← required fs "name" (leaf L.str)
  let trustedProxies ← required fs "trusted_proxies" (readList (IpNetwork.modelValidate L))
  if trustedProxies = [] then none else pure { name, trustedProxies }

/-- A load balancer that passes its own rule is read back. -/
lemma LoadBalancerConfig.modelValidate_modelDump {lb : LoadBalancerConfig} (h : lb.Validated) :
    LoadBalancerConfig.modelValidate L lb.modelDump = some lb := by
  have hproxies : readList (IpNetwork.modelValidate L)
      (dumpList IpNetwork.modelDump lb.trustedProxies) = some lb.trustedProxies :=
    readList_dump fun n _ => IpNetwork.modelValidate_modelDump L n
  have hne : ¬ lb.trustedProxies = [] := h
  rw [LoadBalancerConfig.modelValidate, LoadBalancerConfig.modelDump, readFields_record (by simp)]
  simp [hproxies, hne]

/-- A load balancer that validation accepts has trusted proxies. -/
lemma LoadBalancerConfig.validated_of_modelValidate {t : Tree} {lb : LoadBalancerConfig}
    (h : LoadBalancerConfig.modelValidate L t = some lb) : lb.Validated := by
  simp only [LoadBalancerConfig.modelValidate, Option.bind_eq_bind, Option.bind_eq_some_iff] at h
  obtain ⟨fs, -, name, -, proxies, -, h⟩ := h
  split at h
  · cases h
  · rename_i hne
    cases h
    exact hne

/-- Dump an application stub. -/
def AppStub.modelDump (a : AppStub) : Tree := record [("name", dumpStr a.name)]

/-- Validate an application stub. -/
def AppStub.modelValidate (t : Tree) : Option AppStub := do
  let fs ← readFields ["name"] t
  let name ← required fs "name" (leaf L.str)
  pure { name }

/-- An app is read back. -/
lemma AppStub.modelValidate_modelDump (a : AppStub) :
    AppStub.modelValidate L a.modelDump = some a := by
  rw [AppStub.modelValidate, AppStub.modelDump, readFields_record (by simp)]
  simp

/-- Dump the seed apps. -/
def SeedApps.modelDump (x : SeedApps) : Tree :=
  record [("web_apps", dumpList AppStub.modelDump x.webApps),
    ("ssh_relays", dumpList AppStub.modelDump x.sshRelays),
    ("rdp_relays", dumpList AppStub.modelDump x.rdpRelays)]

/-- Validate the seed apps. -/
def SeedApps.modelValidate (t : Tree) : Option SeedApps := do
  let fs ← readFields ["web_apps", "ssh_relays", "rdp_relays"] t
  let webApps ← defaulted fs "web_apps" [] (readList (AppStub.modelValidate L))
  let sshRelays ← defaulted fs "ssh_relays" [] (readList (AppStub.modelValidate L))
  let rdpRelays ← defaulted fs "rdp_relays" [] (readList (AppStub.modelValidate L))
  pure { webApps, sshRelays, rdpRelays }

/-- The seed apps are read back. -/
lemma SeedApps.modelValidate_modelDump (x : SeedApps) :
    SeedApps.modelValidate L x.modelDump = some x := by
  have hstubs : ∀ l : List AppStub,
      readList (AppStub.modelValidate L) (dumpList AppStub.modelDump l) = some l :=
    fun l => readList_dump fun a _ => AppStub.modelValidate_modelDump L a
  rw [SeedApps.modelValidate, SeedApps.modelDump, readFields_record (by simp)]
  simp [hstubs]

/-- A value that a model field may be given: data, an instance of an answer sub-model (built
through its validating constructor), or an object of some other type. Of an object is known which
strings it compares equal to, and which strings have its hash: none if it has no hash. -/
inductive PyValue where
  | data (t : Tree)
  | tlsStrategy (s : TlsStrategy)
  | loadBalancer (lb : LoadBalancerConfig) (h : lb.Validated)
  | seedApps (x : SeedApps)
  | object (eqStr sameHash : Str → Bool)

namespace PyValue

/-- `value == s` for a string `s`. -/
def eqStr : PyValue → Str → Bool
  | .data (.scalar (.str s)), t => decide (s = t)
  | .object eqStr _, t => eqStr t
  | _, _ => false

/-- Validate data; an instance is not data. -/
def ofData {α : Type} (r : Tree → Option α) : PyValue → Option α
  | .data t => r t
  | _ => none

/-- Data is validated as what it is. -/
@[simp] lemma ofData_data {α : Type} (r : Tree → Option α) (t : Tree) :
    ofData r (.data t) = r t := rfl

section Members

variable {α : Type} {members : List α} {text : α → Str} {v : PyValue} {a : α}

/-- Validate a member of an enumeration: a string by its text. An object that is no string is looked
up in the table of the texts, by its hash and then by comparing it to them. -/
def readMember (members : List α) (text : α → Str) : PyValue → Option α
  | .object eqStr sameHash => members.find? fun a => sameHash (text a) && eqStr (text a)
  | v => v.ofData (readEnum members text)

/-- Data is validated by the text of a member. -/
@[simp] lemma readMember_data (t : Tree) :
    readMember members text (.data t) = readEnum members text t := rfl

/-- What validates as a member of an enumeration is its text, or an object that compares equal to
it. -/
lemma eq_of_readMember (h : readMember members text v = some a) :
    v = .data (dumpEnum text a) ∨
      ∃ eqStr sameHash, v = .object eqStr sameHash ∧ eqStr (text a) = true := by
  cases v with
  | data t => exact .inl (congrArg PyValue.data (eq_dumpEnum_of_readEnum h))
  | object eqStr sameHash =>
    have hfound := List.find?_some h
    rw [Bool.and_eq_true] at hfound
    exact .inr ⟨eqStr, sameHash, rfl, hfound.2⟩
  | tlsStrategy s => cases h
  | loadBalancer lb hlb => cases h
  | seedApps x => cases h

/-- What validates as a member of an enumeration compares equal to its text. -/
lemma eqStr_of_readMember (h : readMember members text v = some a) : v.eqStr (text a) = true := by
  rcases eq_of_readMember h with rfl | ⟨eqStr, sameHash, rfl, heq⟩
  · exact decide_eq_true rfl
  · exact heq

end Members

/-- Validate a TLS strategy, or take the instance. -/
def readTlsStrategy : PyValue → Option TlsStrategy
  | .tlsStrategy s => some s
  | v => v.ofData (TlsStrategy.modelValidate L)

/-- Validate a load balancer, or take the instance. -/
def readLoadBalancer : PyValue → Option (Option LoadBalancerConfig)
  | .loadBalancer lb _ => some (some lb)
  | v => v.ofData (readNullable (LoadBalancerConfig.modelValidate L))

/-- Validate the seed apps, or take the instance. -/
def readSeedApps : PyValue → Option SeedApps
  | .seedApps x => some x
  | v => v.ofData (SeedApps.modelValidate L)

end PyValue

/-- The fields of the answers. -/
def InterviewAnswers.fieldNames : List String :=
  ["deployment_scope", "idp", "public_hostname", "tls_strategy", "wildcard_cert",
    "load_balancer", "internal_dns", "seed_apps"]

/-- Validate the answers from the values of their fields. -/
def InterviewAnswers.ofFields (fs : List (String × PyValue)) : Option InterviewAnswers := do
  let deploymentScope ← required fs "deployment_scope"
    (PyValue.readMember DeploymentScope.members DeploymentScope.text)
  let idp ← required fs "idp" (PyValue.readMember IdpKind.members IdpKind.text)
  let publicHostname ← required fs "public_hostname" (PyValue.ofData (leaf L.str))
  let tlsStrategy ← required fs "tls_strategy" (PyValue.readTlsStrategy L)
  let wildcardCert ← required fs "wildcard_cert" (PyValue.ofData (leaf L.bool))
  let loadBalancer ← defaulted fs "load_balancer" none (PyValue.readLoadBalancer L)
  let internalDns ← required fs "internal_dns"
    (PyValue.readMember InternalDnsTopology.members InternalDnsTopology.text)
  let seedApps ← required fs "seed_apps" (PyValue.readSeedApps L)
  pure { deploymentScope, idp, publicHostname, tlsStrategy, wildcardCert, loadBalancer,
         internalDns, seedApps }

/-- Dump the answers. -/
def InterviewAnswers.modelDump (a : InterviewAnswers) : Tree :=
  record [("deployment_scope", dumpEnum DeploymentScope.text a.deploymentScope),
    ("idp", dumpEnum IdpKind.text a.idp), ("public_hostname", dumpStr a.publicHostname),
    ("tls_strategy", a.tlsStrategy.modelDump), ("wildcard_cert", dumpBool a.wildcardCert),
    ("load_balancer", dumpNullable LoadBalancerConfig.modelDump a.loadBalancer),
    ("internal_dns", dumpEnum InternalDnsTopology.text a.internalDns),
    ("seed_apps", a.seedApps.modelDump)]

/-- Validate the answers from a tree. -/
def InterviewAnswers.modelValidate (t : Tree) : Option InterviewAnswers := do
  let fs ← readFields InterviewAnswers.fieldNames t
  InterviewAnswers.ofFields L (fs.map fun f => (f.1, .data f.2))

/-- **Answers read back**, if they were built through the validating constructors. -/
lemma InterviewAnswers.modelValidate_modelDump {a : InterviewAnswers} (h : a.Validated) :
    InterviewAnswers.modelValidate L a.modelDump = some a := by
  have hscope : ∀ s, readEnum DeploymentScope.members DeploymentScope.text
      (dumpEnum DeploymentScope.text s) = some s := by intro s; cases s <;> rfl
  have hidp : ∀ k, readEnum IdpKind.members IdpKind.text (dumpEnum IdpKind.text k) = some k := by
    intro k; cases k <;> rfl
  have hdns : ∀ t, readEnum InternalDnsTopology.members InternalDnsTopology.text
      (dumpEnum InternalDnsTopology.text t) = some t := by intro t; cases t <;> rfl
  have hlb : readNullable (LoadBalancerConfig.modelValidate L)
      (dumpNullable LoadBalancerConfig.modelDump a.loadBalancer) = some a.loadBalancer :=
    readNullable_dump (by simp [LoadBalancerConfig.modelDump, record])
      fun lb hlb => LoadBalancerConfig.modelValidate_modelDump L (h lb hlb)
  rw [InterviewAnswers.modelValidate, InterviewAnswers.modelDump,
    readFields_record (by simp [InterviewAnswers.fieldNames])]
  simp [InterviewAnswers.ofFields, PyValue.ofData, PyValue.readTlsStrategy,
    PyValue.readLoadBalancer, PyValue.readSeedApps, hscope, hidp, hdns, hlb,
    TlsStrategy.modelValidate_modelDump, SeedApps.modelValidate_modelDump]

/-- Answers that validation accepts were built through the validating constructors. -/
lemma InterviewAnswers.validated_of_ofFields {fs : List (String × PyValue)}
    {a : InterviewAnswers} (h : InterviewAnswers.ofFields L fs = some a) : a.Validated := by
  simp only [InterviewAnswers.ofFields, Option.bind_eq_bind, Option.bind_eq_some_iff] at h
  obtain ⟨_, -, _, -, _, -, _, -, _, -, lbo, hlb, _, -, _, -, h⟩ := h
  cases h
  intro lb hlbo
  simp only at hlbo
  subst hlbo
  unfold defaulted at hlb
  split at hlb
  · cases hlb
  · rename_i v _
    unfold PyValue.readLoadBalancer at hlb
    split at hlb
    · cases hlb
      assumption
    · cases v with
      | data t =>
        simp only [PyValue.ofData] at hlb
        unfold readNullable at hlb
        split at hlb
        · cases hlb
        · obtain ⟨lb', hread, heq⟩ := Option.map_eq_some_iff.mp hlb
          cases heq
          exact LoadBalancerConfig.validated_of_modelValidate L hread
      | _ => cases hlb

/-! ## The plan -/

/-- Dump a plan. -/
def DngConfig.modelDump (c : DngConfig) : Tree :=
  record [("snapshot", c.snapshot.modelDump), ("answers", c.answers.modelDump),
    ("requires_extra_dns_container", dumpBool c.requiresExtraDnsContainer),
    ("dng_version_minimum", dumpStr c.dngVersionMinimum)]

/-- Validate a plan. -/
def DngConfig.modelValidate (t : Tree) : Option DngConfig := do
  let fs ← readFields ["snapshot", "answers", "requires_extra_dns_container",
    "dng_version_minimum"] t
  let snapshot ← required fs "snapshot" (EnvironmentSnapshot.modelValidate L)
  let answers ← required fs "answers" (InterviewAnswers.modelValidate L)
  let requiresExtraDnsContainer ← required fs "requires_extra_dns_container" (leaf L.bool)
  let dngVersionMinimum ← required fs "dng_version_minimum" (leaf L.str)
  pure { snapshot, answers, requiresExtraDnsContainer, dngVersionMinimum }

/-- A plan that validation accepts was built through the validating constructors. -/
lemma DngConfig.validated_of_modelValidate {t : Tree} {c : DngConfig}
    (h : DngConfig.modelValidate L t = some c) : c.answers.Validated := by
  simp only [DngConfig.modelValidate, Option.bind_eq_bind, Option.bind_eq_some_iff] at h
  obtain ⟨fs, -, s, -, a, ha, b, -, v, -, h⟩ := h
  cases h
  obtain ⟨tree, -, ha⟩ := Option.bind_eq_some_iff.mp ha
  obtain ⟨fs, -, ha⟩ := Option.bind_eq_some_iff.mp ha
  exact InterviewAnswers.validated_of_ofFields L ha

/-- A plan that validation accepts has texts as the keys of its snapshot. -/
lemma DngConfig.textKeys_of_modelValidate {t : Tree} {c : DngConfig}
    (h : DngConfig.modelValidate L t = some c) : c.snapshot.TextKeys := by
  simp only [DngConfig.modelValidate, Option.bind_eq_bind, Option.bind_eq_some_iff] at h
  obtain ⟨fs, -, s, hs, a, -, b, -, v, -, h⟩ := h
  cases h
  obtain ⟨tree, -, hs⟩ := Option.bind_eq_some_iff.mp hs
  exact EnvironmentSnapshot.textKeys_of_modelValidate L hs

/-- **Plans read back**: validating the dump of a plan gives the plan, whatever its
sub-models, if the plan was built through the validating constructors and its snapshot is
storable.

**Proof sketch.** One lemma for each record: its fields are found again under their names, and
each of them reads back; the unions are told apart by their tags, and the text of an IPv6
network is not that of an IPv4 network. -/
lemma DngConfig.modelValidate_modelDump {c : DngConfig} (hanswers : c.answers.Validated)
    (hstore : c.snapshot.Storable) : DngConfig.modelValidate L c.modelDump = some c := by
  rw [DngConfig.modelValidate, DngConfig.modelDump, readFields_record (by simp)]
  simp [EnvironmentSnapshot.modelValidate_modelDump L hstore,
    InterviewAnswers.modelValidate_modelDump L hanswers]

/-- **When the plan format is lossless**: validating the tree that a plan is dumped to gives back an
equal plan exactly if no key in its snapshot has a surrogate. -/
theorem plan_roundTrip (c : DngConfig) (hanswers : c.answers.Validated)
    (hoffset : c.snapshot.FiniteOffset) :
    DngConfig.modelValidate L (DngConfig.modelDump c) = some c ↔ c.snapshot.TextKeys :=
  ⟨DngConfig.textKeys_of_modelValidate L,
    fun hkeys => DngConfig.modelValidate_modelDump L hanswers ⟨hoffset, hkeys⟩⟩

/-- A plan in the RDP/SMB scope, with trusted proxies of both families. -/
def rdpSmbPlan : DngConfig :=
  buildConfig (makeSnapshot { dockerDetected := false })
    (makeAnswers
      { deploymentScope := .webSshRdpSmb, seedApps := stubApps 2 1 1
        loadBalancer := some (lbOf [.v4 tenNetwork,
          .v6 ⟨⟨0xFD00 * 2 ^ 112, 8, by decide, by decide, by decide⟩, none⟩]) })

/-- The key of a dictionary with one entry is a text. -/
lemma textKeys_single {ν : Type} (s : Str) (v : ν) : (Dict.single (ofStr s) v).TextKeys := by
  intro key hkey
  rw [List.mem_singleton.mp hkey]
  exact isText_ofStr s

/-- A sample snapshot has texts as its keys, if what it is given does. -/
lemma textKeys_makeSnapshot {k : SnapshotKnobs} (h : k.interfaces.TextKeys)
    (h' : k.aRecords.TextKeys) : (makeSnapshot k).TextKeys :=
  ⟨h, h', textKeys_single _ _, textKeys_single _ _⟩

/-- A sample snapshot has a finite time offset, if one has been measured. -/
lemma finiteOffset_makeSnapshot {k : SnapshotKnobs}
    (h : ∀ o, k.timeOffsetSeconds = some o → o.isFinite) : (makeSnapshot k).FiniteOffset := by
  intro ts o hts ho
  unfold makeSnapshot at hts
  dsimp only at hts
  split at hts
  · rename_i offset hoffset
    cases hts
    cases ho
    exact h o hoffset
  · cases hts

/-- A sample snapshot is storable, if what it is given is. -/
lemma storable_makeSnapshot {k : SnapshotKnobs} (h : k.interfaces.TextKeys)
    (h' : k.aRecords.TextKeys) (hoffset : ∀ o, k.timeOffsetSeconds = some o → o.isFinite) :
    (makeSnapshot k).Storable := ⟨finiteOffset_makeSnapshot hoffset, textKeys_makeSnapshot h h'⟩

/-- The offset of the default knobs is finite. -/
lemma isFinite_of_default {k : SnapshotKnobs}
    (h : k.timeOffsetSeconds = some (.fin (3458764513820541 / 288230376151711744))) :
    ∀ o, k.timeOffsetSeconds = some o → o.isFinite := by
  intro o ho
  cases h.symm.trans ho
  rfl

/-- The sample snapshot is storable. -/
lemma storable_sample (joined : Bool) : (makeSnapshot { domainJoined := joined }).Storable :=
  storable_makeSnapshot (textKeys_single _ _) (textKeys_single _ _) (isFinite_of_default rfl)

/-- The round trip of a plan with both union branches and both address families. -/
theorem plan_roundTrip_rdpSmb :
    DngConfig.modelValidate .strict (DngConfig.modelDump rdpSmbPlan) = some rdpSmbPlan := by
  refine (plan_roundTrip .strict rdpSmbPlan ?_ ?_).mpr ?_
  · intro lb hlb
    cases hlb
    simp [LoadBalancerConfig.Validated, lbOf]
  · exact finiteOffset_makeSnapshot (isFinite_of_default rfl)
  · exact textKeys_makeSnapshot (textKeys_single _ _) (textKeys_single _ _)

/-- Network facts whose interfaces are dumped as the same mapping are dumped as the same tree. -/
lemma NetworkInfo.modelDump_congr {x y : NetworkInfo}
    (h : dumpDict dumpKey (dumpList dumpStr) x.interfaces =
      dumpDict dumpKey (dumpList dumpStr) y.interfaces)
    (hroute : x.defaultRouteIface = y.defaultRouteIface)
    (hports : x.listeningPorts = y.listeningPorts)
    (hegress : x.egressPublicIp = y.egressPublicIp) : x.modelDump = y.modelDump := by
  rw [NetworkInfo.modelDump, NetworkInfo.modelDump, h, hroute, hports, hegress]

/-- The sample plan on a host with the given interfaces. -/
def interfacePlan (interfaces : Dict PyStr (List Str)) : DngConfig :=
  buildConfig (makeSnapshot { interfaces := interfaces }) (makeAnswers {})

/-- Plans whose interfaces are dumped as the same mapping are dumped as the same tree. -/
lemma modelDump_interfacePlan {i j : Dict PyStr (List Str)}
    (h : dumpDict dumpKey (dumpList dumpStr) i = dumpDict dumpKey (dumpList dumpStr) j) :
    (interfacePlan i).modelDump = (interfacePlan j).modelDump := by
  have hnetwork : (interfacePlan i).snapshot.network.modelDump =
      (interfacePlan j).snapshot.network.modelDump := NetworkInfo.modelDump_congr h rfl rfl rfl
  rw [DngConfig.modelDump, DngConfig.modelDump, EnvironmentSnapshot.modelDump,
    EnvironmentSnapshot.modelDump, hnetwork]
  rfl

/-- Two interfaces whose names are one surrogate each. -/
def surrogateInterfaces : Dict PyStr (List Str) :=
  ⟨[([⟨0xD800, by decide⟩], ["10.0.0.5"]), ([⟨0xD801, by decide⟩], ["10.0.0.6"])], by decide⟩

/-- The interfaces that they are stored as. -/
def replacedInterfaces : Dict PyStr (List Str) :=
  Dict.single (ofStr ['\uFFFD', '\uFFFD', '\uFFFD']) ["10.0.0.6"]

/-- Both names become the same text, and the second address remains. -/
lemma dumpDict_surrogateInterfaces :
    dumpDict dumpKey (dumpList dumpStr) surrogateInterfaces =
      dumpDict dumpKey (dumpList dumpStr) replacedInterfaces := by
  have hkey : dumpKey [⟨0xD800, by decide⟩] = .str ['\uFFFD', '\uFFFD', '\uFFFD'] := by decide
  have hkey' : dumpKey [⟨0xD801, by decide⟩] = .str ['\uFFFD', '\uFFFD', '\uFFFD'] := by decide
  have hkept : dumpKey (ofStr ['\uFFFD', '\uFFFD', '\uFFFD']) =
      .str ['\uFFFD', '\uFFFD', '\uFFFD'] := by decide
  have hlast : ∀ (k : Scalar) (v w : Tree),
      Dict.ofList [(k, v), (k, w)] = Dict.ofList [(k, w)] := by
    intro k v w
    ext1
    simp [Dict.ofList, Dict.insert, Dict.insertEntry, Dict.empty]
  simp only [dumpDict, surrogateInterfaces, replacedInterfaces, Dict.single, List.map_cons,
    List.map_nil, hkey, hkey', hkept, hlast]

/-- The plan with surrogates in the names of its interfaces reads back as another one. -/
theorem surrogatePlan_not_roundTrip :
    DngConfig.modelValidate .strict (interfacePlan surrogateInterfaces).modelDump =
        some (interfacePlan replacedInterfaces) ∧
      interfacePlan replacedInterfaces ≠ interfacePlan surrogateInterfaces := by
  constructor
  · rw [modelDump_interfacePlan dumpDict_surrogateInterfaces]
    refine DngConfig.modelValidate_modelDump .strict ?_
      (storable_makeSnapshot (textKeys_single _ _) (textKeys_single _ _) (isFinite_of_default rfl))
    intro lb hlb
    cases hlb
  · intro h
    have hkeys : replacedInterfaces = surrogateInterfaces :=
      congrArg (fun c => c.snapshot.network.interfaces) h
    exact absurd hkeys (by decide)

end DngPreflight
