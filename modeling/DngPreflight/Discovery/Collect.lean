import Mathlib.Tactic.NormNum
import DngPreflight.Timing.Timed
import DngPreflight.Models.Factories

set_option relaxedAutoImplicit false
set_option autoImplicit false

/-!
# Collecting a snapshot

The probes that use the network, on a clock, and the aggregator that gives each of them ten seconds.
Every operation on the network honours its own time limit; anything else takes no time.

## Main definitions

* `DngPreflight.Discovery.Operations` — what the operations on the network result in, and when.
* `DngPreflight.Discovery.networkProbe`, `DngPreflight.Discovery.duoProbe`,
  `DngPreflight.Discovery.dnsProbe` — the probes.
* `DngPreflight.Discovery.collect` — the snapshot, unless a probe takes too long.

## Main results

* `DngPreflight.Discovery.duration_dnsProbe_le` — the DNS probe always keeps to its budget.
* `DngPreflight.Discovery.exists_collect_iff` — when a snapshot is returned.
-/

namespace DngPreflight.Discovery

open Text Codec Timing

/-! ## Operations -/

/-- The result of fetching a URL. -/
inductive GetResult where
  | httpError
  | response (status : ℤ) (text : Str)
  deriving DecidableEq

/-- The result of a HEAD request. -/
inductive HeadResult where
  | connectTimeout
  | readTimeout
  | connectError
  | httpError (name : Str)
  | response (status : ℤ)
  deriving DecidableEq

/-- The result of a DNS query: the records, in no particular order. -/
inductive QueryResult where
  | failed
  | answered (records : List Str)
  deriving DecidableEq

/-- The time limit of fetching a URL, in seconds. -/
def egressTimeout : ℚ := 4

/-- The time limit of a HEAD request. -/
def headTimeout : ℚ := 4

/-- The time limit of a DNS query. -/
def queryTimeout : ℚ := 3

/-- What the operations on the network result in, each within its time limit. -/
structure Operations where
  get : Str → Op egressTimeout GetResult
  head : Str → Op headTimeout HeadResult
  query : (hostname rdtype resolver : Str) → Op queryTimeout QueryResult
  reverse : Str → Op queryTimeout QueryResult

/-- What the probes find out on the host itself. -/
structure LocalFacts where
  capturedAt : Str
  system : SystemInfo
  docker : OrMissing DockerInfo
  interfaces : Dict PyStr (List Str)
  defaultRouteIface : Option Str
  listeningPorts : Dict ℤ Str
  localResolvers : List Str
  tls : TlsObservation
  timeSync : OrMissing TimeSyncState
  firewall : OrMissing FirewallState

variable (ops : Operations) (host : LocalFacts)

/-! ## The probes -/

/-- The services that tell the public address of whoever asks. -/
def egressFallback : List Str :=
  ["https://api.ipify.org", "https://ifconfig.me/ip", "https://icanhazip.com"]

/-- The address in the result of such a service. -/
def GetResult.ip : GetResult → Option Str
  | .response status text =>
    if status = 200 then if strip text = [] then none else some (strip text) else none
  | .httpError => none

/-- The attempt to learn the public address from a service. -/
def egressAttempt (url : Str) : Timed (Option Str) := (ops.get url).map GetResult.ip

/-- The public address of the host, from the first service that tells it. -/
def egressPublicIp : Timed (Option Str) := Timed.firstSome (egressAttempt ops) egressFallback

/-- Local interfaces, listening ports, default route, and egress address. -/
def networkProbe : Timed NetworkInfo :=
  (egressPublicIp ops).map fun egress =>
    { interfaces := host.interfaces
      defaultRouteIface := host.defaultRouteIface
      listeningPorts := host.listeningPorts
      egressPublicIp := egress }

/-- The service endpoints of Duo. -/
def duoEndpoints : List Str :=
  ["https://duo.com", "https://api.duosecurity.com", "https://admin-d1.duosecurity.com"]

/-- The status or the error of a HEAD request. -/
def HeadResult.endpoint : HeadResult → EndpointResult
  | .connectTimeout => .error "connect_timeout"
  | .readTimeout => .error "read_timeout"
  | .connectError => .error "connect_error"
  | .httpError name => .error ("http_error:".toList ++ name)
  | .response status => .status status

/-- The result for one endpoint. -/
def probeOne (url : Str) : Timed EndpointResult := (ops.head url).map HeadResult.endpoint

/-- HEAD requests to the endpoints, one after the other. -/
def duoProbe : Timed DuoReachability :=
  (Timed.traverse (fun url => (probeOne ops url).map fun r => (ofStr url, r)) duoEndpoints).map
    fun results => ⟨Dict.ofList results⟩

/-- The public resolvers. -/
def publicResolvers : List Str := ["1.1.1.1", "8.8.8.8", "9.9.9.9"]

/-- The order of texts, by code points. -/
def strLe (a b : Str) : Bool := ! List.lex b a fun c d => decide (c.toNat < d.toNat)

/-- The records of a query, sorted; none if it fails. -/
def QueryResult.sorted : QueryResult → List Str
  | .failed => []
  | .answered records => records.mergeSort strLe

/-- The records of a type at a resolver. -/
def query (hostname rdtype resolver : Str) : Timed (List Str) :=
  (ops.query hostname rdtype resolver).map QueryResult.sorted

/-- The first name, without dots at its end. -/
def QueryResult.name : QueryResult → Option Str
  | .answered (name :: _) => some (name.rdropWhile (· = '.'))
  | _ => none

/-- The name of an address. -/
def reversePtr (ip : Str) : Timed (Option Str) :=
  if ip = [] then Timed.pure none else (ops.reverse ip).map QueryResult.name

/-- Resolve the hostname at the public resolvers at once, and then the first address back. -/
def dnsProbe (hostname : Str) : Timed DnsResolution :=
  (Timed.both (Timed.gather (query ops hostname "A") publicResolvers)
    (Timed.gather (query ops hostname "AAAA") publicResolvers)).bind fun results =>
      let reverse :=
        match results.1.flatten with
        | [] => Timed.pure none
        | firstA :: _ => reversePtr ops firstA
      reverse.map fun name =>
        { hostname := hostname
          aRecords := Dict.ofList ((publicResolvers.map ofStr).zip results.1)
          aaaaRecords := Dict.ofList ((publicResolvers.map ofStr).zip results.2)
          reversePtr := name
          localResolvers := host.localResolvers }

/-! ## The aggregator -/

/-- The budget of a probe, in seconds. -/
def perProbeTimeout : ℚ := 10

/-- The budget of all probes. -/
def totalBudget : ℚ := 30

/-- A probe breaches its budget. -/
inductive CollectError where
  | timeout
  deriving DecidableEq

/-- The result of a probe that has to keep to its budget. When it breaches it, it is cancelled. -/
def required {α : Type} (probe : Timed α) : Timed (Except CollectError α) :=
  ⟨match waitFor perProbeTimeout probe with
    | some a => .ok a
    | none => .error .timeout, min probe.duration perProbeTimeout⟩

/-- The snapshot, unless a probe that it requires breached its budget. -/
def assemble (hostname : Str) (network : Except CollectError NetworkInfo)
    (dns : Except CollectError DnsResolution)
    (duoReachability : Except CollectError DuoReachability) :
    Except CollectError EnvironmentSnapshot := do
  let network ← network
  let dns ← dns
  let duoReachability ← duoReachability
  return {
    capturedAt := host.capturedAt
    hostnamePlanned := hostname
    system := host.system
    docker := host.docker
    network := network
    dns := dns
    tls := host.tls
    timeSync := host.timeSync
    firewall := host.firewall
    duoReachability := duoReachability }

/-- All probes that are required, at once. -/
def probes (hostname : Str) : Timed (Except CollectError NetworkInfo ×
    Except CollectError DnsResolution × Except CollectError DuoReachability) :=
  (required (networkProbe ops host)).both
    ((required (dnsProbe ops host hostname)).both (required (duoProbe ops)))

/-- Run every probe at once, and put the snapshot together. -/
def collect (hostname : Str) : Except CollectError EnvironmentSnapshot :=
  match waitFor totalBudget (probes ops host hostname) with
  | some (network, dns, duoReachability) => assemble host hostname network dns duoReachability
  | none => .error .timeout

/-! ## Durations -/

variable {ops host}

/-- The time of the network probe is that of the attempts to learn the public address. -/
lemma duration_networkProbe : (networkProbe ops host).duration =
    ((Timed.attempts (egressAttempt ops) egressFallback).map fun url =>
      (ops.get url).duration).sum := by
  rw [networkProbe, Timed.duration_map, egressPublicIp, Timed.duration_firstSome]
  rfl

/-- The time of the Duo probe is that of all its requests. -/
lemma duration_duoProbe :
    (duoProbe ops).duration = (duoEndpoints.map fun url => (ops.head url).duration).sum := by
  rw [duoProbe, Timed.duration_map, Timed.duration_traverse]
  rfl

/-- Looking up the name of an address takes no more than one query. -/
lemma duration_reversePtr_le (ip : Str) : (reversePtr ops ip).duration ≤ queryTimeout := by
  unfold reversePtr
  split_ifs
  · rw [Timed.duration_pure, queryTimeout]
    norm_num
  · exact (ops.reverse ip).le_limit

/-- **The DNS probe keeps to its budget**: it takes no more than two queries. -/
lemma duration_dnsProbe_le (hostname : Str) :
    (dnsProbe ops host hostname).duration ≤ queryTimeout + queryTimeout := by
  have hnonneg : (0 : ℚ) ≤ queryTimeout := by
    rw [queryTimeout]
    norm_num
  have hgather : ∀ rdtype, (Timed.gather (query ops hostname rdtype) publicResolvers).duration ≤
      queryTimeout := fun rdtype =>
    Timed.duration_gather_le hnonneg fun resolver _ => (ops.query hostname rdtype resolver).le_limit
  refine add_le_add (max_le (hgather "A") (hgather "AAAA")) ?_
  rw [Timed.duration_map]
  split
  · exact hnonneg
  · exact duration_reversePtr_le _

/-- A required probe never takes more than its budget, since it is cancelled. -/
lemma duration_required_le {α : Type} (probe : Timed α) :
    (required probe).duration ≤ perProbeTimeout := min_le_right _ _

/-- A required probe has its result within its budget. -/
lemma value_required_of_le {α : Type} {probe : Timed α} (h : probe.duration ≤ perProbeTimeout) :
    (required probe).value = .ok probe.value := by
  rw [required, waitFor_of_le h]

/-- A required probe that breaches its budget is an error. -/
lemma value_required_of_lt {α : Type} {probe : Timed α} (h : perProbeTimeout < probe.duration) :
    (required probe).value = .error .timeout := by
  rw [required, waitFor_of_lt h]

/-- A snapshot is put together exactly from the results of all required probes. -/
lemma exists_assemble_iff {hostname : Str} {network : Except CollectError NetworkInfo}
    {dns : Except CollectError DnsResolution}
    {duoReachability : Except CollectError DuoReachability} {n : NetworkInfo} {d : DnsResolution}
    {r : DuoReachability} :
    (∃ snapshot, assemble host hostname network dns duoReachability = .ok snapshot ∧
      snapshot.network = n ∧ snapshot.dns = d ∧ snapshot.duoReachability = r) ↔
      network = .ok n ∧ dns = .ok d ∧ duoReachability = .ok r := by
  constructor
  · rintro ⟨snapshot, h, rfl, rfl, rfl⟩
    cases network with
    | error e => cases h
    | ok n =>
      cases dns with
      | error e => cases h
      | ok d =>
        cases duoReachability with
        | error e => cases h
        | ok r =>
          cases h
          exact ⟨rfl, rfl, rfl⟩
  · rintro ⟨rfl, rfl, rfl⟩
    exact ⟨_, rfl, rfl, rfl, rfl⟩

/-- A required probe has its result exactly if it keeps to its budget. -/
lemma value_required_iff {α : Type} {probe : Timed α} :
    (required probe).value = .ok probe.value ↔ probe.duration ≤ perProbeTimeout := by
  rcases le_or_gt probe.duration perProbeTimeout with h | h
  · exact iff_of_true (value_required_of_le h) h
  · rw [value_required_of_lt h]
    exact iff_of_false (by simp) (not_le.mpr h)

/-- All probes together never breach the budget of all. -/
lemma waitFor_probes (hostname : Str) :
    waitFor totalBudget (probes ops host hostname) = some (probes ops host hostname).value := by
  have htotal : (probes ops host hostname).duration ≤ totalBudget := by
    refine le_trans (max_le (duration_required_le _) (max_le (duration_required_le _)
      (duration_required_le _))) ?_
    rw [perProbeTimeout, totalBudget]
    norm_num
  exact waitFor_of_le htotal

/-- What is collected is put together from the results of the required probes. -/
lemma collect_eq (hostname : Str) :
    collect ops host hostname = assemble host hostname (required (networkProbe ops host)).value
      (required (dnsProbe ops host hostname)).value (required (duoProbe ops)).value := by
  unfold collect
  simp only [waitFor_probes]
  rfl

/-- A snapshot with the results of the probes is returned exactly if every required probe keeps to
its budget. -/
lemma exists_collect_iff_durations (hostname : Str) :
    (∃ snapshot, collect ops host hostname = .ok snapshot ∧
      snapshot.network = (networkProbe ops host).value ∧
      snapshot.dns = (dnsProbe ops host hostname).value ∧
      snapshot.duoReachability = (duoProbe ops).value) ↔
      (networkProbe ops host).duration ≤ perProbeTimeout ∧
      (dnsProbe ops host hostname).duration ≤ perProbeTimeout ∧
      (duoProbe ops).duration ≤ perProbeTimeout := by
  rw [collect_eq, exists_assemble_iff, value_required_iff, value_required_iff, value_required_iff]

/-- **When a snapshot is returned**, every operation honouring its time limit: exactly if the
attempts to learn the public address, up to the first that succeeds, take no more than ten seconds
together, and neither do the three requests to Duo.

**Proof sketch.** A required probe fails exactly when it breaches its budget. The attempts and the
requests are made one after the other, so that their times add; the DNS queries are made at once. -/
theorem exists_collect_iff (ops : Operations) (host : LocalFacts) (hostname : Str) :
    (((networkProbe ops host).duration ≤ perProbeTimeout ∧
        (dnsProbe ops host hostname).duration ≤ perProbeTimeout ∧
        (duoProbe ops).duration ≤ perProbeTimeout) ∧
      ∃ snapshot, collect ops host hostname = .ok snapshot ∧
        snapshot.network = (networkProbe ops host).value ∧
        snapshot.dns = (dnsProbe ops host hostname).value ∧
        snapshot.duoReachability = (duoProbe ops).value) ↔
      ((Timed.attempts (egressAttempt ops) egressFallback).map fun url =>
        (ops.get url).duration).sum ≤ perProbeTimeout ∧
      (duoEndpoints.map fun url => (ops.head url).duration).sum ≤ perProbeTimeout := by
  have hdns : (dnsProbe ops host hostname).duration ≤ perProbeTimeout := by
    refine (duration_dnsProbe_le hostname).trans ?_
    rw [queryTimeout, perProbeTimeout]
    norm_num
  rw [exists_collect_iff_durations, and_self, duration_networkProbe, duration_duoProbe]
  simp only [hdns, true_and]

/-- The network of a host without outbound connectivity, where every operation fails at its time
limit. -/
def offline : Operations where
  get _ := ⟨⟨.httpError, egressTimeout⟩, by norm_num [egressTimeout], le_refl _⟩
  head _ := ⟨⟨.connectTimeout, headTimeout⟩, by norm_num [headTimeout], le_refl _⟩
  query _ _ _ := ⟨⟨.failed, queryTimeout⟩, by norm_num [queryTimeout], le_refl _⟩
  reverse _ := ⟨⟨.failed, queryTimeout⟩, by norm_num [queryTimeout], le_refl _⟩

/-- What the sample snapshot tells about its host. -/
def sampleFacts : LocalFacts :=
  let s := makeSnapshot {}
  { capturedAt := s.capturedAt
    system := s.system
    docker := s.docker
    interfaces := s.network.interfaces
    defaultRouteIface := s.network.defaultRouteIface
    listeningPorts := s.network.listeningPorts
    localResolvers := s.dns.localResolvers
    tls := s.tls
    timeSync := s.timeSync
    firewall := s.firewall }

/-- Without outbound connectivity no snapshot is returned: the three attempts to learn the public
address take twelve seconds, and so do the three requests to Duo. -/
theorem offline_collect_timeout :
    collect offline sampleFacts "dng.example.com" = .error .timeout ∧
      (networkProbe offline sampleFacts).duration = 12 ∧ (duoProbe offline).duration = 12 := by
  have hnetwork : (networkProbe offline sampleFacts).duration = 12 := by
    rw [duration_networkProbe]
    have hattempts : Timed.attempts (egressAttempt offline) egressFallback = egressFallback := rfl
    rw [hattempts]
    norm_num [offline, egressTimeout, egressFallback]
  have hduo : (duoProbe offline).duration = 12 := by
    rw [duration_duoProbe]
    norm_num [offline, headTimeout, duoEndpoints]
  refine ⟨?_, hnetwork, hduo⟩
  have hlate : perProbeTimeout < (networkProbe offline sampleFacts).duration := by
    rw [hnetwork, perProbeTimeout]
    norm_num
  rw [collect_eq, value_required_of_lt hlate]
  rfl

end DngPreflight.Discovery
