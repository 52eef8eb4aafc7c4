import DngPreflight.Models.Config

set_option relaxedAutoImplicit false
set_option autoImplicit false

/-!
# Sample plans

The builders that the test suite uses: a healthy snapshot and valid answers, with knobs for the
fields that matter.

## Main definitions

* `DngPreflight.makeSnapshot`, `DngPreflight.makeAnswers` — the builders, with the default knobs
  of `SnapshotKnobs` and `AnswersKnobs`.
* `DngPreflight.lbOf`, `DngPreflight.stubApps` — load balancers and seed apps.
-/

namespace DngPreflight

open Text Codec Net

/-- The knobs of `makeSnapshot`. -/
structure SnapshotKnobs where
  hostname : Str := "dng.example.com"
  dockerDetected : Bool := true
  domainJoined : Bool := false
  egressPublicIp : Option Str := some "203.0.113.10".toList
  interfaces : Dict PyStr (List Str) := Dict.single "eth0" ["10.0.0.5"]
  firewall : OrMissing FirewallState := .detected ⟨.ufw, true⟩
  timeOffsetSeconds : Option PyFloat := some (.fin (3458764513820541 / 288230376151711744))
  aRecords : Dict PyStr (List Str) := Dict.single "1.1.1.1" ["203.0.113.10"]

/-- A healthy snapshot. -/
def makeSnapshot (k : SnapshotKnobs) : EnvironmentSnapshot where
  capturedAt := "2026-05-12T12:00:00+00:00"
  hostnamePlanned := k.hostname
  system :=
    { platform := "linux", distro := "ubuntu", distroVersion := "24.04"
      kernel := "6.8.0-31-generic", arch := "x86_64", ramMb := 8192, cpuCount := 4
      apparmorActive := some true, domainJoined := k.domainJoined }
  docker :=
    if k.dockerDetected then
      .detected ⟨"27.0.0", some "2.27.0".toList, true, true⟩
    else .missing ⟨"docker CLI not found in PATH"⟩
  network :=
    { interfaces := k.interfaces, defaultRouteIface := some "eth0".toList
      listeningPorts := Dict.single 22 "sshd", egressPublicIp := k.egressPublicIp }
  dns :=
    { hostname := k.hostname, aRecords := k.aRecords
      aaaaRecords := Dict.single "1.1.1.1" [], reversePtr := none
      localResolvers := ["127.0.0.53"] }
  tls := { answersOn443 := false }
  timeSync :=
    match k.timeOffsetSeconds with
    | some o => .detected ⟨"chronyd", some "time.cloudflare.com".toList, some o⟩
    | none => .missing ⟨"no time daemon"⟩
  firewall := k.firewall
  duoReachability := ⟨Dict.single "https://duo.com" (.status 200)⟩

/-- The knobs of `makeAnswers`; the wildcard certificate follows the scope by default. -/
structure AnswersKnobs where
  deploymentScope : DeploymentScope := .webSsh
  idp : IdpKind := .duoSso
  publicHostname : Str := "dng.example.com"
  wildcardCert : Option Bool := none
  loadBalancer : Option LoadBalancerConfig := none
  internalDns : InternalDnsTopology := .internalOnly
  seedApps : SeedApps := {}

/-- Valid answers. -/
def makeAnswers (k : AnswersKnobs) : InterviewAnswers where
  deploymentScope := k.deploymentScope
  idp := k.idp
  publicHostname := k.publicHostname
  tlsStrategy :=
    .existingBundle { certPath := "/etc/ssl/dng/cert.pem", keyPath := "/etc/ssl/dng/key.pem" }
  wildcardCert := k.wildcardCert.getD (k.deploymentScope = .webSshRdpSmb)
  loadBalancer := k.loadBalancer
  internalDns := k.internalDns
  seedApps := k.seedApps

/-- A load balancer with the given trusted proxies. -/
def lbOf (proxies : List IpNetwork) : LoadBalancerConfig := ⟨"nginx", proxies⟩

/-- Numbered stubs of a category. -/
def stubs (label : String) (n : ℕ) : List AppStub :=
  (List.range n).map fun i => ⟨label.toList ++ '-' :: numeral 10 (i + 1)⟩

/-- Seed apps with numbered stubs. -/
def stubApps (web ssh rdp : ℕ) : SeedApps := ⟨stubs "web" web, stubs "ssh" ssh, stubs "rdp" rdp⟩

end DngPreflight
