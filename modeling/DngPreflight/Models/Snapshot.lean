import DngPreflight.Codec.PyString
import DngPreflight.Codec.Tree

set_option relaxedAutoImplicit false
set_option autoImplicit false

/-!
# The environment snapshot

The output of the discovery phase. Each probe contributes one sub-model; a probe whose tooling
is absent contributes `NotDetected` instead. The constant `detected` tag of a sub-model is not
a field here: it is the constructor of `OrMissing`. The keys of dictionaries may be any strings of
Python, with surrogates in them; all other strings are texts.

## Main definitions

* `DngPreflight.EnvironmentSnapshot` and its sub-models.
* `DngPreflight.OrMissing` — a sub-model, or the reason for its absence.
-/

namespace DngPreflight

open Text Codec

/-- Recognised host firewall implementations. -/
inductive FirewallKind where
  | firewalld
  | ufw
  | iptables
  | none
  deriving DecidableEq

/-- The value of a firewall kind. -/
def FirewallKind.value : FirewallKind → Str
  | .firewalld => "firewalld"
  | .ufw => "ufw"
  | .iptables => "iptables"
  | .none => "none"

/-- The firewall kinds, in the order of their definition. -/
def FirewallKind.members : List FirewallKind := [.firewalld, .ufw, .iptables, .none]

/-- Returned by a probe when its required tooling is absent. -/
structure NotDetected where
  reason : Str
  deriving DecidableEq

/-- A sub-model of a probe, or the reason why it is empty. -/
inductive OrMissing (α : Type) where
  | detected (a : α)
  | missing (n : NotDetected)
  deriving DecidableEq

/-- Host OS, hardware, and security-mode facts. -/
structure SystemInfo where
  platform : Str
  distro : Str
  distroVersion : Str
  kernel : Str
  arch : Str
  ramMb : ℤ
  cpuCount : ℤ
  selinuxMode : Option Str := none
  apparmorActive : Option Bool := none
  domainJoined : Bool := false
  deriving DecidableEq

/-- Docker Engine and Compose plugin presence. -/
structure DockerInfo where
  engineVersion : Str
  composeVersion : Option Str
  daemonReachable : Bool
  currentUserInDockerGroup : Bool
  deriving DecidableEq

/-- Local network: interfaces, listening ports, egress IP. -/
structure NetworkInfo where
  interfaces : Dict PyStr (List Str)
  defaultRouteIface : Option Str
  listeningPorts : Dict ℤ Str
  egressPublicIp : Option Str
  deriving DecidableEq

/-- Authoritative DNS lookup results for the planned hostname, by resolver. -/
structure DnsResolution where
  hostname : Str
  aRecords : Dict PyStr (List Str)
  aaaaRecords : Dict PyStr (List Str)
  reversePtr : Option Str
  localResolvers : List Str
  deriving DecidableEq

/-- TLS certificate observed on the host's port 443, if anything answers. -/
structure TlsObservation where
  answersOn443 : Bool
  cn : Option Str := none
  sans : List Str := []
  notBefore : Option Str := none
  notAfter : Option Str := none
  issuer : Option Str := none
  keyAlgorithm : Option Str := none
  deriving DecidableEq

/-- Time-sync daemon state and offset from the reference clock. -/
structure TimeSyncState where
  daemon : Str
  syncSource : Option Str
  offsetSeconds : Option PyFloat
  deriving DecidableEq

/-- Active host firewall and its enabled/disabled status. -/
structure FirewallState where
  kind : FirewallKind
  active : Bool
  deriving DecidableEq

/-- The result of one endpoint: an HTTP status code, or a short error text. -/
inductive EndpointResult where
  | status (code : ℤ)
  | error (text : Str)
  deriving DecidableEq

/-- HTTP HEAD probe results by URL. -/
structure DuoReachability where
  endpoints : Dict PyStr EndpointResult
  deriving DecidableEq

/-- Full output of the discovery phase. -/
structure EnvironmentSnapshot where
  capturedAt : Str
  hostnamePlanned : Str
  system : SystemInfo
  docker : OrMissing DockerInfo
  network : NetworkInfo
  dns : DnsResolution
  tls : TlsObservation
  timeSync : OrMissing TimeSyncState
  firewall : OrMissing FirewallState
  duoReachability : DuoReachability
  deriving DecidableEq

end DngPreflight
