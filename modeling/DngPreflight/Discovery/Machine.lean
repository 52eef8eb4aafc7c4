import DngPreflight.Discovery.FirewallChain
import DngPreflight.Discovery.NtpOffset
import DngPreflight.Discovery.OptionalProbe
import DngPreflight.Discovery.RealmSections
import DngPreflight.Timing.TaskGroup

set_option relaxedAutoImplicit false
set_option autoImplicit false

/-!
# A machine

Everything that the probes read on the machine on which they run: its files, the outcomes of the
commands that are installed, and what the system libraries tell. The probes as tasks, which take the
time of the commands that they run.

## Main definitions

* `DngPreflight.Discovery.Machine` — a machine.
* `DngPreflight.Discovery.Machine.systemProbe`, `DngPreflight.Discovery.Machine.dockerProbe`,
  `DngPreflight.Discovery.Machine.networkProbe`, `DngPreflight.Discovery.Machine.dnsProbe`,
  `DngPreflight.Discovery.Machine.timeSyncProbe`, `DngPreflight.Discovery.Machine.firewallProbe` —
  the probes.

## Main results

* `DngPreflight.Discovery.Machine.duration_systemProbe_le`,
  `DngPreflight.Discovery.Machine.duration_firewallProbe_le`,
  `DngPreflight.Discovery.Machine.duration_dnsProbe_le` — probes that keep to their budget.
-/

namespace DngPreflight.Discovery

open Text Codec Timing

/-! ## Machines -/

/-- A file that is read as a text. -/
inductive TextFile where
  | missing
  | unreadable
  | undecodable
  | text (s : Str)
  deriving DecidableEq

/-- What a probe raises. -/
inductive ProbeError where
  | timeoutError
  | osError
  | unicodeDecodeError
  | indexError
  | other
  deriving DecidableEq

/-- The text of a file that exists. An `OSError` is handled if there is a value for it. -/
def TextFile.readText {α : Type} (file : TextFile) (absent : α) (onOsError : Option α)
    (f : Str → α) : Except ProbeError α :=
  match file with
  | .missing => .ok absent
  | .unreadable =>
    match onOsError with
    | some a => .ok a
    | none => .error .osError
  | .undecodable => .error .unicodeDecodeError
  | .text s => .ok (f s)

/-- A command that is installed, with its time limit. -/
abbrev Tool (limit : ℚ) := Option (Op limit Outcome)

/-- The commands of the Docker CLI that are run. -/
structure DockerCli where
  serverVersion : Op 5 Outcome
  cliVersion : Op 5 Outcome
  composeVersion : Op 5 Outcome
  info : Op 5 Outcome

/-- The groups of the current user, and the `docker` group. -/
structure Groups where
  docker : Option (ℕ × List Str)
  current : List ℕ
  login : Option Str

/-- A socket: whether it listens, its port, and the name of its process, if it can be told. -/
structure Connection where
  listening : Bool
  port : ℤ
  process : Option Str

/-- A machine. `addresses` are those of each interface, with whether they are of the Internet
families. `ntp` is the exchange with the reference clock, whose name has to be resolved first. -/
structure Machine where
  system : Str
  release : Str
  machine : Str
  memory : ℕ
  cpus : Option ℕ
  logicalCpus : Option ℕ
  osRelease : TextFile
  selinuxEnforce : TextFile
  getenforce : Tool 2
  apparmorDir : Bool
  realm : Tool 2
  krb5 : TextFile
  docker : Option DockerCli
  groups : Groups
  addresses : Dict Str (List (Bool × Str))
  routes : TextFile
  routeCommand : Tool 2
  connections : Option (List Connection)
  resolvConf : TextFile
  tls : Task ProbeError TlsObservation
  chronyc : Tool 2
  ntpq : Tool 2
  timedatectl : Tool 2
  ntp : Timed (Option Exchange)
  firewallCmd : Tool 3
  ufw : Tool 3
  iptables : Tool 3

/-- The outcome of a command, if it is installed. -/
def outcomeOf {limit : ℚ} (tool : Tool limit) : Option Outcome := tool.map fun op => op.value

/-- The time that a command takes, if it is installed. -/
def timeOf {limit : ℚ} (tool : Tool limit) : ℚ := (tool.map fun op => op.duration).getD 0

/-- Looking for a tool and running it honours the time limit of the tool. -/
lemma timeOf_le {limit : ℚ} (hlimit : 0 ≤ limit) (tool : Tool limit) : timeOf tool ≤ limit := by
  cases tool with
  | none => exact hlimit
  | some op => exact op.le_limit

/-- A text, or nothing if it is empty. -/
def nonempty (s : Str) : Option Str := if s = [] then none else some s

/-! ## The system -/

/-- The parts of a text before and after the first occurrence of a character. -/
def partition (c : Char) (s : Str) : Str × Str :=
  (s.takeWhile (· ≠ c), (s.dropWhile (· ≠ c)).drop 1)

/-- The key and the value that a line assigns. -/
def osReleaseEntry (rawLine : Str) : Option (Str × Str) :=
  let line := strip rawLine
  if line = [] ∨ startsWith line "#" ∨ '=' ∉ line then none
  else
    let (key, value) := partition '=' line
    some (strip key, trim (· = '\'') (trim (· = '"') (strip value)))

/-- The entries of `/etc/os-release`. -/
def parseOsRelease (text : Str) : Dict Str Str :=
  Dict.ofList ((splitlines text).filterMap osReleaseEntry)

/-- `_read_os_release`. -/
def readOsRelease (file : TextFile) : Except ProbeError (Dict Str Str) :=
  file.readText Dict.empty none parseOsRelease

/-- The mode that the kernel shows. -/
def selinuxMode (text : Str) : Option Str :=
  if strip text = "1".toList then some "enforcing"
  else if strip text = "0".toList then some "permissive"
  else some "disabled"

/-- The mode that `getenforce` prints. -/
def getenforceMode : Outcome → Option Str
  | .exited returncode stdout => if returncode = 0 then nonempty (lower (strip stdout)) else none
  | .failed => none

namespace Machine

variable (m : Machine)

/-- `_detect_selinux_mode`. -/
def detectSelinuxMode : Task ProbeError (Option Str) :=
  match m.selinuxEnforce with
  | .missing => ⟨.ok ((outcomeOf m.getenforce).bind getenforceMode), timeOf m.getenforce⟩
  | file => ⟨file.readText none (some none) selinuxMode, 0⟩

/-- `_detect_apparmor_active`. -/
def detectApparmorActive : Option Bool :=
  if m.system = "Linux".toList then some m.apparmorDir else none

/-- The realms that the machine has joined, by the command that lists them. -/
def realms : Realm :=
  match outcomeOf m.realm with
  | none => .notInstalled
  | some .failed => .unusable
  | some (.exited returncode stdout) => .exits returncode stdout false

/-- The text of `/etc/krb5.conf`; what cannot be decoded is ignored. -/
def krb5Text : Option Str :=
  match m.krb5 with
  | .text s => some s
  | _ => none

/-- `_detect_domain_joined`. -/
def domainJoined : Timed Bool := ⟨detectDomainJoined ⟨m.realms, m.krb5Text⟩, timeOf m.realm⟩

/-- The first value that is neither missing nor falsy. -/
def orElse (a : Option Str) (b : Str) : Str :=
  match a with
  | some s => if s = [] then b else s
  | none => b

/-- The number of processors. -/
def cpuCount : ℕ :=
  match m.cpus.filter (· ≠ 0), m.logicalCpus.filter (· ≠ 0) with
  | some n, _ => n
  | none, some n => n
  | none, none => 1

/-- The facts about the system, once its files have been read. -/
def systemInfo (osRelease : Dict Str Str) (selinux : Option Str) (joined : Bool) : SystemInfo where
  platform := lower m.system
  distro := orElse (osRelease.get? "ID") (lower m.system)
  distroVersion := orElse (osRelease.get? "VERSION_ID") (m.release.takeWhile (· ≠ '-'))
  kernel := m.release
  arch := m.machine
  ramMb := m.memory / (1024 * 1024)
  cpuCount := m.cpuCount
  selinuxMode := selinux
  apparmorActive := m.detectApparmorActive
  domainJoined := joined

/-- `system.probe`. -/
def systemProbe : Task ProbeError SystemInfo :=
  match readOsRelease m.osRelease with
  | .error e => ⟨.error e, 0⟩
  | .ok osRelease =>
    match m.detectSelinuxMode with
    | ⟨.error e, d⟩ => ⟨.error e, d⟩
    | ⟨.ok selinux, d⟩ =>
      ⟨.ok (m.systemInfo osRelease selinux m.domainJoined.value), d + m.domainJoined.duration⟩

end Machine

/-! ## Docker -/

/-- What a command printed, if it was successful and printed anything. -/
def printed (outcome : Outcome) : Option Str :=
  if (run outcome).1 = 0 then nonempty (run outcome).2 else none

/-- `_engine_version`. -/
def engineVersion (docker : DockerCli) : Timed (Option Str) :=
  (docker.serverVersion.map printed).bind fun
    | some out => Timed.pure (some out)
    | none => docker.cliVersion.map printed

/-- `_current_user_in_docker_group`. -/
def currentUserInDockerGroup (groups : Groups) : Bool :=
  match groups.docker with
  | none => false
  | some (gid, members) =>
    groups.current.contains gid ||
      match groups.login with
      | none => false
      | some login => members.contains login

/-- `docker.probe`. -/
def Machine.dockerProbe (m : Machine) : Timed (OrMissing DockerInfo) :=
  match m.docker with
  | none => Timed.pure (.missing ⟨"docker CLI not found in PATH"⟩)
  | some docker =>
    (engineVersion docker).bind fun
      | none => Timed.pure (.missing ⟨"docker CLI present but `docker version` failed"⟩)
      | some engine =>
        (docker.composeVersion.map printed).bind fun compose =>
          docker.info.map fun info => .detected {
            engineVersion := engine
            composeVersion := compose
            daemonReachable := decide ((run info).1 = 0)
            currentUserInDockerGroup := currentUserInDockerGroup m.groups }

/-! ## The network -/

/-- The addresses of an interface that are of the Internet families, if there are any. -/
def interfaceEntry (e : Str × List (Bool × Str)) : Option (PyStr × List Str) :=
  let ips := (e.2.filter fun a => a.1).map Prod.snd
  if ips = [] then none else some (ofStr e.1, ips)

/-- `_interfaces`. -/
def interfacesOf (addresses : Dict Str (List (Bool × Str))) : Dict PyStr (List Str) :=
  Dict.ofList (addresses.entries.filterMap interfaceEntry)

/-- The ports that are looked for. -/
def relevantPorts : List ℤ := [80, 443, 8443]

/-- `_listening_ports`. -/
def listeningPorts (connections : Option (List Connection)) : Dict ℤ Str :=
  Dict.ofList (((connections.getD []).filter fun c =>
    c.listening && decide (c.port ∈ relevantPorts)).map fun c =>
      (c.port, c.process.getD "unknown"))

/-- The words of a text. -/
def words (s : Str) : List Str := (s.splitOnP isSpace).filter (· ≠ [])

/-- The interface of a line of the routing table, if it is about the destination 0.0.0.0. -/
def routeEntry (raw : Str) : Option Str :=
  match words raw with
  | iface :: destination :: _ => if destination = "00000000".toList then some iface else none
  | _ => none

/-- The interface of the first such line, after the header. -/
def parseRoutes (text : Str) : Option Str := ((splitlines text).drop 1).findSome? routeEntry

/-- The interface in the output of `route`. -/
def parseRouteCommand (stdout : Str) : Option Str :=
  ((splitlines stdout).find? fun raw => startsWith (strip raw) "interface:").map fun raw =>
    strip (partition ':' (strip raw)).2

/-- The interface that the `route` command tells, whatever its exit code. -/
def routeCommandIface : Outcome → Option Str
  | .exited _ stdout => parseRouteCommand stdout
  | .failed => none

/-- The address after the keyword. -/
def nameserver (raw : Str) : Option Str :=
  let line := strip raw
  if startsWith line "nameserver" then (words line)[1]? else none

/-- `_local_resolvers`. -/
def localResolvers (file : TextFile) : Except ProbeError (List Str) :=
  file.readText [] (some []) fun text => (splitlines text).filterMap nameserver

namespace Machine

variable (m : Machine) (ops : Operations) (hostname : Str)

/-- `_default_route_iface`. -/
def defaultRouteIface : Task ProbeError (Option Str) :=
  match m.routes with
  | .missing =>
    if m.system = "Darwin".toList then
      ⟨.ok ((outcomeOf m.routeCommand).bind routeCommandIface), timeOf m.routeCommand⟩
    else ⟨.ok none, 0⟩
  | file => ⟨file.readText none (some none) parseRoutes, 0⟩

/-- `network.probe`: the public address is asked for after everything else. -/
def networkProbe : Task ProbeError NetworkInfo :=
  match m.defaultRouteIface with
  | ⟨.error e, d⟩ => ⟨.error e, d⟩
  | ⟨.ok iface, d⟩ =>
    ⟨.ok { interfaces := interfacesOf m.addresses
           defaultRouteIface := iface
           listeningPorts := listeningPorts m.connections
           egressPublicIp := (egressPublicIp ops).value },
      d + (egressPublicIp ops).duration⟩

/-- The records of a type, from all public resolvers at once. -/
def queries (rdtype : Str) : Timed (List (List Str)) :=
  Timed.gather (query ops hostname rdtype) publicResolvers

/-- `dns.probe`: the local resolvers are read at the end. -/
def dnsProbe : Task ProbeError DnsResolution :=
  ((queries ops hostname "A").both (queries ops hostname "AAAA")).bind fun results =>
    (match results.1.flatten with
    | [] => Timed.pure none
    | firstA :: _ => reversePtr ops firstA).map fun name =>
      (localResolvers m.resolvConf).map fun resolvers =>
        { hostname := hostname
          aRecords := Dict.ofList ((publicResolvers.map ofStr).zip results.1)
          aaaaRecords := Dict.ofList ((publicResolvers.map ofStr).zip results.2)
          reversePtr := name
          localResolvers := resolvers }

/-- `duo_reachability.probe` never raises. -/
def duoProbe : Task ProbeError DuoReachability := (Discovery.duoProbe ops).map .ok

end Machine

/-! ## Time synchronisation and firewall -/

namespace Machine

variable (m : Machine)

/-- The commands that tell the daemon. -/
def timeTools : TimeTools := ⟨outcomeOf m.chronyc, outcomeOf m.ntpq, outcomeOf m.timedatectl⟩

/-- The time to run them, up to the first that succeeds. -/
def detectionTime : ℚ :=
  timeOf m.chronyc + if (succeeded m.timeTools.chronyc).isSome then 0
    else timeOf m.ntpq + if (succeeded m.timeTools.ntpq).isSome then 0
      else timeOf m.timedatectl

/-- `time_sync.probe`: the offset is asked for when the daemon is known. -/
def timeSyncProbe : Task ProbeError (OrMissing TimeSyncState) :=
  match collectTimeSync m.timeTools (queryNtpOffset m.ntp.value) with
  | none => ⟨.error .indexError, m.detectionTime⟩
  | some state => ⟨.ok state, m.detectionTime + m.ntp.duration⟩

/-- The commands that tell the firewall. -/
def firewallTools : FirewallTools :=
  ⟨outcomeOf m.firewallCmd, outcomeOf m.ufw, outcomeOf m.iptables⟩

/-- `firewall.probe`: the commands are run up to the first that tells a firewall. -/
def firewallProbe : Timed FirewallState :=
  ⟨collectSync m.firewallTools,
    timeOf m.firewallCmd + if (probeFirewalld m.firewallTools).isSome then 0
      else timeOf m.ufw + if (probeUfw m.firewallTools).isSome then 0
        else timeOf m.iptables⟩

/-! ## Which probes raise -/

/-- The system probe has a result exactly if the files that it reads can be read and decoded. -/
lemma exists_value_systemProbe_iff : (∃ x, m.systemProbe.value = .ok x) ↔
    (m.osRelease ≠ .unreadable ∧ m.osRelease ≠ .undecodable) ∧
      m.selinuxEnforce ≠ .undecodable := by
  unfold systemProbe readOsRelease detectSelinuxMode
  cases m.osRelease <;> cases m.selinuxEnforce <;> simp [TextFile.readText]

/-- The network probe has a result exactly if the routes can be decoded. -/
lemma exists_value_networkProbe_iff (ops : Operations) :
    (∃ x, (m.networkProbe ops).value = .ok x) ↔ m.routes ≠ .undecodable := by
  unfold networkProbe defaultRouteIface
  cases m.routes with
  | missing =>
    dsimp only
    split_ifs <;> simp
  | unreadable => simp [TextFile.readText]
  | undecodable => simp [TextFile.readText]
  | text s => simp [TextFile.readText]

/-- The DNS probe has a result exactly if the list of local resolvers can be decoded. -/
lemma exists_value_dnsProbe_iff (ops : Operations) (hostname : Str) :
    (∃ x, (m.dnsProbe ops hostname).value = .ok x) ↔ m.resolvConf ≠ .undecodable := by
  unfold dnsProbe localResolvers
  cases m.resolvConf <;> simp [TextFile.readText, Timed.bind, Timed.map, Except.map]

/-- The result of the time-sync probe, or the `IndexError` that it raises. -/
lemma value_timeSyncProbe : m.timeSyncProbe.value =
    match collectTimeSync m.timeTools (queryNtpOffset m.ntp.value) with
    | none => .error .indexError
    | some state => .ok state := by
  unfold timeSyncProbe
  split <;> rfl

/-! ## Durations -/

/-- Two commands take no longer than both of their limits. -/
lemma timeOf_add_ite_le {a b : ℚ} (hb : 0 ≤ b) {x y : ℚ} (hx : x ≤ a) (hy : y ≤ b) (p : Prop)
    [Decidable p] : (x + if p then 0 else y) ≤ a + b := by
  refine add_le_add hx ?_
  split_ifs
  · exact hb
  · exact hy

/-- The SELinux mode is known after one command. -/
lemma duration_detectSelinuxMode_le : m.detectSelinuxMode.duration ≤ 2 := by
  unfold detectSelinuxMode
  split
  · exact timeOf_le (by norm_num) _
  · norm_num

/-- **The system probe keeps to its budget**: it runs two commands. -/
lemma duration_systemProbe_le : m.systemProbe.duration ≤ 2 + 2 := by
  have hselinux := m.duration_detectSelinuxMode_le
  have hrealm : m.domainJoined.duration ≤ 2 := timeOf_le (by norm_num) _
  unfold systemProbe
  split
  · norm_num
  · split
    · rename_i e d heq
      rw [heq] at hselinux
      exact hselinux.trans (by norm_num)
    · rename_i selinux d heq
      rw [heq] at hselinux
      exact add_le_add hselinux hrealm

/-- The daemon is known after three commands. -/
lemma detectionTime_le : m.detectionTime ≤ 2 + (2 + 2) := by
  have htwo : (0 : ℚ) ≤ 2 := by norm_num
  refine timeOf_add_ite_le (by norm_num) (timeOf_le htwo _) ?_ _
  exact timeOf_add_ite_le htwo (timeOf_le htwo _) (timeOf_le htwo _) _

/-- **The firewall probe keeps to its budget**: it runs three commands. -/
lemma duration_firewallProbe_le : m.firewallProbe.duration ≤ 3 + (3 + 3) := by
  have hthree : (0 : ℚ) ≤ 3 := by norm_num
  refine timeOf_add_ite_le (by norm_num) (timeOf_le hthree _) ?_ _
  exact timeOf_add_ite_le hthree (timeOf_le hthree _) (timeOf_le hthree _) _

/-- **The DNS probe keeps to its budget**: it makes two queries. -/
lemma duration_dnsProbe_le (ops : Operations) (hostname : Str) :
    (m.dnsProbe ops hostname).duration ≤ queryTimeout + queryTimeout := by
  have hnonneg : (0 : ℚ) ≤ queryTimeout := by
    rw [queryTimeout]
    norm_num
  have hgather : ∀ rdtype, (queries ops hostname rdtype).duration ≤ queryTimeout := fun rdtype =>
    Timed.duration_gather_le hnonneg fun resolver _ => (ops.query hostname rdtype resolver).le_limit
  refine add_le_add (max_le (hgather "A") (hgather "AAAA")) ?_
  rw [Timed.duration_map]
  split
  · exact hnonneg
  · exact duration_reversePtr_le _

end Machine

end DngPreflight.Discovery
