import DngPreflight.Discovery.Machine

set_option relaxedAutoImplicit false
set_option autoImplicit false

/-!
# The aggregator

All eight probes run at once, each with a budget of ten seconds. Three of them may be late; the
others, and whatever a probe raises, end the collection. What the commands print is assumed to be
ASCII text.

## Main definitions

* `DngPreflight.Discovery.Aggregator.collect` — the snapshot of a machine.
* `DngPreflight.Discovery.Aggregator.Collects` — the machines of which there is a snapshot.
* `DngPreflight.Discovery.Aggregator.Reports` — what a snapshot tells about its machine.

## Main results

* `DngPreflight.Discovery.Aggregator.collect_exact` — how collecting a snapshot ends.
* `DngPreflight.Discovery.Aggregator.required_eq`,
  `DngPreflight.Discovery.Aggregator.optional_eq` — what this aggregator does with a probe is what
  the other aggregators do with it.
* `DngPreflight.Discovery.Aggregator.collect_of_collected`,
  `DngPreflight.Discovery.Aggregator.collectWithTimeSync_of_collected` — the snapshot is also one of
  the aggregators for which only operations on the network, or the time-sync probe, take time.
-/

namespace DngPreflight.Discovery.Aggregator

open Text Codec Timing

/-! ## Collecting -/

/-- `_required`. -/
def required {α : Type} (probe : Task ProbeError α) : Task ProbeError α :=
  probe.within perProbeTimeout .timeoutError

/-- `_optional`: being late is no error. -/
def optional {α : Type} (label : Str) (probe : Task ProbeError (OrMissing α)) :
    Task ProbeError (OrMissing α) :=
  match probe.within perProbeTimeout .timeoutError with
  | ⟨.error .timeoutError, d⟩ => ⟨.ok (.missing ⟨label ++ " probe exceeded 10s timeout"⟩), d⟩
  | r => r

variable (ops : Operations) (m : Machine) (capturedAt hostname : Str)

/-- The results of the probes. -/
abbrev Results := SystemInfo × OrMissing DockerInfo × NetworkInfo × DnsResolution ×
  TlsObservation × OrMissing TimeSyncState × OrMissing FirewallState × DuoReachability

/-- All probes at once. -/
def results : Group ProbeError Results :=
  (required m.systemProbe).start.both <|
  (optional "docker" (m.dockerProbe.map .ok)).start.both <|
  (required (m.networkProbe ops)).start.both <|
  (required (m.dnsProbe ops hostname)).start.both <|
  (required m.tls).start.both <|
  (optional "time_sync" m.timeSyncProbe).start.both <|
  (optional "firewall" (m.firewallProbe.map fun state => .ok (.detected state))).start.both <|
  (required (Machine.duoProbe ops)).start

/-- The snapshot with these results. -/
def snapshotOf (r : Results) : EnvironmentSnapshot :=
  let (system, docker, network, dns, tls, timeSync, firewall, duoReachability) := r
  { capturedAt, hostnamePlanned := hostname, system, docker, network, dns, tls, timeSync, firewall,
    duoReachability }

/-- `collect`: the snapshot, or the errors that are raised first. -/
def collect : Group ProbeError EnvironmentSnapshot :=
  Task.within totalBudget [.timeoutError]
    ((results ops m hostname).map (Except.map (snapshotOf capturedAt hostname)))

/-- How the probes fail, and when. -/
def failures : List (ℚ × ProbeError) :=
  (required m.systemProbe).failures ++
  ((optional "docker" (m.dockerProbe.map .ok)).failures ++
  ((required (m.networkProbe ops)).failures ++
  ((required (m.dnsProbe ops hostname)).failures ++
  ((required m.tls).failures ++
  ((optional "time_sync" m.timeSyncProbe).failures ++
  ((optional "firewall" (m.firewallProbe.map fun state => .ok (.detected state))).failures ++
  (required (Machine.duoProbe ops)).failures))))))

/-! ## What is collected -/

/-- A snapshot can be taken: files that are read outside of handlers can be read and decoded, no
line of `ntpq` is only a mark, and the TLS probe, the network probe and the Duo probe keep to their
budgets. -/
structure Collects : Prop where
  osRelease : m.osRelease ≠ .unreadable ∧ m.osRelease ≠ .undecodable
  selinuxEnforce : m.selinuxEnforce ≠ .undecodable
  routes : m.routes ≠ .undecodable
  resolvConf : m.resolvConf ≠ .undecodable
  tls : (∃ tls, m.tls.value = .ok tls) ∧ m.tls.duration ≤ perProbeTimeout
  marks : (succeeded m.timeTools.chronyc).isSome = true ∨
    ∀ stdout, succeeded m.timeTools.ntpq = some stdout → MarkFollowed stdout
  network : (m.networkProbe ops).duration ≤ perProbeTimeout
  duo : (Machine.duoProbe ops).duration ≤ perProbeTimeout

/-- The result of a probe that may be late. -/
def OrLate {α : Type} (label : Str) (probe : Task ProbeError (OrMissing α)) (x : OrMissing α) :
    Prop :=
  (probe.duration ≤ perProbeTimeout ∧ probe.value = .ok x) ∨
    (perProbeTimeout < probe.duration ∧ x = .missing ⟨label ++ " probe exceeded 10s timeout"⟩)

/-- What a snapshot tells about its machine. -/
structure Reports (s : EnvironmentSnapshot) : Prop where
  capturedAt : s.capturedAt = capturedAt
  hostnamePlanned : s.hostnamePlanned = hostname
  system : m.systemProbe.value = .ok s.system
  docker : OrLate "docker" (m.dockerProbe.map .ok) s.docker
  network : (m.networkProbe ops).value = .ok s.network
  dns : (m.dnsProbe ops hostname).value = .ok s.dns
  tls : m.tls.value = .ok s.tls
  timeSync : OrLate "time_sync" m.timeSyncProbe s.timeSync
  firewall : s.firewall = .detected (collectSync m.firewallTools)
  duoReachability : s.duoReachability = (Discovery.duoProbe ops).value

/-! ### Single probes -/

section Single

variable {α : Type} {label : Str} {probe : Task ProbeError α} {late : Task ProbeError (OrMissing α)}

/-- An optional probe keeps to its budget. -/
lemma duration_optional_le (label : Str) (late : Task ProbeError (OrMissing α)) :
    (optional label late).duration ≤ perProbeTimeout := by
  have h := Task.duration_within_le perProbeTimeout ProbeError.timeoutError late
  unfold optional
  split
  · rename_i d heq
    rw [heq] at h
    exact h
  · exact h

/-- An optional probe that breaches its budget is reported as late. -/
lemma optional_of_lt (h : perProbeTimeout < late.duration) : optional label late =
    ⟨.ok (.missing ⟨label ++ " probe exceeded 10s timeout"⟩), perProbeTimeout⟩ := by
  rw [optional, Task.within_of_lt h]

/-- An optional probe within its budget is left alone. -/
lemma optional_of_le (h : late.duration ≤ perProbeTimeout)
    (hraises : late.value ≠ .error .timeoutError) : optional label late = late := by
  rw [optional, Task.within_of_le h]
  split
  · exact absurd rfl hraises
  · rfl

/-- The result of an optional probe that raises no `TimeoutError` of its own. -/
lemma value_optional_eq_ok_iff {x : OrMissing α} (hraises : late.value ≠ .error .timeoutError) :
    (optional label late).value = .ok x ↔ OrLate label late x := by
  rcases le_or_gt late.duration perProbeTimeout with h | h
  · rw [optional_of_le h hraises, OrLate]
    simp only [h, true_and, not_lt.mpr h, false_and, or_false]
  · rw [optional_of_lt h, OrLate]
    simp only [not_le.mpr h, false_and, h, true_and, false_or, Except.ok.injEq]
    exact eq_comm

end Single

variable {ops m capturedAt hostname}

/-- Whatever the probes do, collecting takes no more than ten seconds. -/
lemma duration_results_le : (results ops m hostname).duration ≤ perProbeTimeout := by
  have hrequired : ∀ {α : Type} (t : Task ProbeError α),
      (required t).start.duration ≤ perProbeTimeout := fun t => Task.duration_within_le _ _ t
  have hoptional : ∀ {α : Type} (label : Str) (t : Task ProbeError (OrMissing α)),
      (optional label t).start.duration ≤ perProbeTimeout := fun label t =>
    duration_optional_le label t
  exact Group.duration_both_le (hrequired _) <| Group.duration_both_le (hoptional _ _) <|
    Group.duration_both_le (hrequired _) <| Group.duration_both_le (hrequired _) <|
    Group.duration_both_le (hrequired _) <| Group.duration_both_le (hoptional _ _) <|
    Group.duration_both_le (hoptional _ _) (hrequired _)

/-- The budget of all probes is never reached. -/
lemma collect_eq : collect ops m capturedAt hostname =
    (results ops m hostname).map (Except.map (snapshotOf capturedAt hostname)) :=
  Task.within_of_le (duration_results_le.trans (by norm_num [perProbeTimeout, totalBudget]))

/-- Collecting fails as the probes do. -/
lemma tracks_collect : (collect ops m capturedAt hostname).Tracks (failures ops m hostname) := by
  rw [collect_eq]
  refine Group.Tracks.map ?_
  exact (Group.tracks_start _).both <| (Group.tracks_start _).both <|
    (Group.tracks_start _).both <| (Group.tracks_start _).both <| (Group.tracks_start _).both <|
    (Group.tracks_start _).both <| (Group.tracks_start _).both (Group.tracks_start _)

/-- The results that a snapshot holds. -/
def resultsOf (s : EnvironmentSnapshot) : Results :=
  (s.system, s.docker, s.network, s.dns, s.tls, s.timeSync, s.firewall, s.duoReachability)

/-- A snapshot is put together from its results. -/
lemma snapshotOf_eq_iff {r : Results} {s : EnvironmentSnapshot} :
    snapshotOf capturedAt hostname r = s ↔
      s.capturedAt = capturedAt ∧ s.hostnamePlanned = hostname ∧ r = resultsOf s := by
  constructor
  · rintro rfl
    exact ⟨rfl, rfl, rfl⟩
  · rintro ⟨rfl, rfl, rfl⟩
    rfl

/-- A snapshot is collected if all results are there. -/
lemma value_collect_eq_ok_iff {s : EnvironmentSnapshot} :
    (collect ops m capturedAt hostname).value = .ok s ↔ s.capturedAt = capturedAt ∧
      s.hostnamePlanned = hostname ∧ (results ops m hostname).value = .ok (resultsOf s) := by
  rw [collect_eq, Timed.map]
  cases (results ops m hostname).value with
  | error es => simp [Except.map]
  | ok r =>
    show Except.ok (snapshotOf capturedAt hostname r) = _ ↔ _
    rw [Except.ok.injEq, Except.ok.injEq, snapshotOf_eq_iff]

/-- The time-sync probe raises no `TimeoutError`. -/
lemma value_timeSyncProbe_ne : m.timeSyncProbe.value ≠ .error .timeoutError := by
  rw [Machine.value_timeSyncProbe]
  split <;> simp

/-- The required probes that are not known to keep to their budgets do so. -/
def InTime (ops : Operations) (m : Machine) : Prop :=
  (m.networkProbe ops).duration ≤ perProbeTimeout ∧ m.tls.duration ≤ perProbeTimeout ∧
    (Machine.duoProbe ops).duration ≤ perProbeTimeout

/-- **What is collected** is what the snapshot reports. -/
lemma value_collect_iff {s : EnvironmentSnapshot} :
    (collect ops m capturedAt hostname).value = .ok s ↔
      Reports ops m capturedAt hostname s ∧ InTime ops m := by
  have hsystem : m.systemProbe.duration ≤ perProbeTimeout :=
    m.duration_systemProbe_le.trans (by norm_num [perProbeTimeout])
  have hdns : (m.dnsProbe ops hostname).duration ≤ perProbeTimeout :=
    (m.duration_dnsProbe_le ops hostname).trans (by norm_num [perProbeTimeout, queryTimeout])
  have hfirewall : m.firewallProbe.duration ≤ perProbeTimeout :=
    m.duration_firewallProbe_le.trans (by norm_num [perProbeTimeout])
  have hstate : (optional "firewall"
      (m.firewallProbe.map fun state => .ok (.detected state))).value = .ok s.firewall ↔
        s.firewall = .detected (collectSync m.firewallTools) := by
    rw [optional_of_le hfirewall (by simp [Timed.map])]
    exact (Except.ok.injEq _ _).to_iff.trans eq_comm
  have hduo : (Machine.duoProbe ops).value = .ok s.duoReachability ↔
      s.duoReachability = (Discovery.duoProbe ops).value :=
    (Except.ok.injEq _ _).to_iff.trans eq_comm
  rw [value_collect_eq_ok_iff]
  simp only [results, resultsOf, Group.value_both_eq_ok_iff, Task.value_start_eq_ok_iff, required,
    Task.value_within_eq_ok_iff, hstate, hduo, value_optional_eq_ok_iff value_timeSyncProbe_ne,
    and_iff_left hsystem, and_iff_left hdns]
  rw [value_optional_eq_ok_iff (by simp [Timed.map])]
  constructor
  · rintro ⟨hat, hname, hsys, hdocker, hnet, hdns, htls, htime, hfw, hduo⟩
    exact ⟨⟨hat, hname, hsys, hdocker, hnet.1, hdns, htls.1, htime, hfw, hduo.1⟩,
      hnet.2, htls.2, hduo.2⟩
  · rintro ⟨h, hnet, htls, hduo⟩
    exact ⟨h.capturedAt, h.hostnamePlanned, h.system, h.docker, ⟨h.network, hnet⟩, h.dns,
      ⟨h.tls, htls⟩, h.timeSync, h.firewall, ⟨h.duoReachability, hduo⟩⟩

/-- The result of the time-sync probe, or its being late, unless a line of `ntpq` is only a mark. -/
lemma exists_timeSync_iff : (∃ x, OrLate "time_sync" m.timeSyncProbe x) ↔
    ((succeeded m.timeTools.chronyc).isSome = true ∨
      ∀ stdout, succeeded m.timeTools.ntpq = some stdout → MarkFollowed stdout) := by
  have hdetect : detectDaemon m.timeTools ≠ none ↔
      ((succeeded m.timeTools.chronyc).isSome = true ∨
        ∀ stdout, succeeded m.timeTools.ntpq = some stdout → MarkFollowed stdout) := by
    rw [ne_eq, detectDaemon_eq_none_iff, Option.isSome_iff_ne_none]
    push Not
    rw [or_iff_not_imp_left, not_not]
  rw [← hdetect]
  rcases hstate : collectTimeSync m.timeTools (queryNtpOffset m.ntp.value) with _ | state
  · have hnone : detectDaemon m.timeTools = none := Option.map_eq_none_iff.mp hstate
    refine iff_of_false ?_ fun h => h hnone
    have hprobe : m.timeSyncProbe = ⟨.error .indexError, m.detectionTime⟩ := by
      rw [Machine.timeSyncProbe, hstate]
    have htime : m.detectionTime ≤ perProbeTimeout :=
      m.detectionTime_le.trans (by norm_num [perProbeTimeout])
    rw [hprobe]
    rintro ⟨x, ⟨-, hx⟩ | ⟨hlate, -⟩⟩
    · cases hx
    · exact not_lt.mpr htime hlate
  · have hsome : detectDaemon m.timeTools ≠ none := by
      intro hnone
      rw [collectTimeSync, hnone] at hstate
      cases hstate
    refine iff_of_true ?_ hsome
    have hprobe : m.timeSyncProbe = ⟨.ok state, m.detectionTime + m.ntp.duration⟩ := by
      rw [Machine.timeSyncProbe, hstate]
    rcases le_or_gt m.timeSyncProbe.duration perProbeTimeout with h | h
    · exact ⟨state, .inl ⟨h, by rw [hprobe]⟩⟩
    · exact ⟨_, .inr ⟨h, rfl⟩⟩

/-- **When a snapshot is collected.** -/
lemma exists_collect_iff_collects :
    (∃ s, (collect ops m capturedAt hostname).value = .ok s) ↔ Collects ops m := by
  constructor
  · rintro ⟨s, hs⟩
    obtain ⟨h, hnet, htls, hduo⟩ := value_collect_iff.mp hs
    obtain ⟨hrelease, hselinux⟩ := m.exists_value_systemProbe_iff.mp ⟨_, h.system⟩
    exact ⟨hrelease, hselinux, (m.exists_value_networkProbe_iff ops).mp ⟨_, h.network⟩,
      (m.exists_value_dnsProbe_iff ops hostname).mp ⟨_, h.dns⟩, ⟨⟨_, h.tls⟩, htls⟩,
      exists_timeSync_iff.mp ⟨_, h.timeSync⟩, hnet, hduo⟩
  · intro h
    obtain ⟨system, hsystem⟩ := m.exists_value_systemProbe_iff.mpr ⟨h.osRelease, h.selinuxEnforce⟩
    obtain ⟨network, hnetwork⟩ := (m.exists_value_networkProbe_iff ops).mpr h.routes
    obtain ⟨dns, hdns⟩ := (m.exists_value_dnsProbe_iff ops hostname).mpr h.resolvConf
    obtain ⟨⟨tls, htls⟩, hintime⟩ := h.tls
    obtain ⟨timeSync, htime⟩ := exists_timeSync_iff.mpr h.marks
    have hdocker : ∃ docker, OrLate "docker" (m.dockerProbe.map .ok) docker := by
      rcases le_or_gt m.dockerProbe.duration perProbeTimeout with hle | hlt
      · exact ⟨m.dockerProbe.value, .inl ⟨hle, rfl⟩⟩
      · exact ⟨_, .inr ⟨hlt, rfl⟩⟩
    obtain ⟨docker, hdocker⟩ := hdocker
    refine ⟨snapshotOf capturedAt hostname (system, docker, network, dns, tls, timeSync,
      .detected (collectSync m.firewallTools), (Discovery.duoProbe ops).value), ?_⟩
    exact value_collect_iff.mpr
      ⟨⟨rfl, rfl, hsystem, hdocker, hnetwork, hdns, htls, htime, rfl, rfl⟩, h.network, hintime,
        h.duo⟩

/-- **How collecting a snapshot ends**, for every machine whose commands print ASCII text and
whatever the network does: within ten seconds; with a snapshot exactly if files that are read
outside of handlers can be decoded, no line of `ntpq` is only a mark, and the TLS, network and Duo
probes keep to their budgets; the snapshot then reports what the probes found, or that an optional
one was late; and otherwise with the errors that are raised first.

**Proof sketch.** The commands and queries of the other probes have time limits that add up to less
than ten seconds, so that only three required probes can be late. A group fails as its tasks do. -/
theorem collect_exact (ops : Operations) (m : Machine) (capturedAt hostname : Str) :
    (collect ops m capturedAt hostname).duration ≤ perProbeTimeout ∧
    ((∃ s, (collect ops m capturedAt hostname).value = .ok s) ↔ Collects ops m) ∧
    (∀ s, (collect ops m capturedAt hostname).value = .ok s →
      Reports ops m capturedAt hostname s) ∧
    (¬ Collects ops m → (collect ops m capturedAt hostname).Fails (failures ops m hostname)) := by
  refine ⟨?_, exists_collect_iff_collects, fun s hs => (value_collect_iff.mp hs).1, ?_⟩
  · rw [collect_eq]
    exact duration_results_le
  · intro h
    rcases tracks_collect with ⟨-, hok⟩ | hfails
    · exact absurd (exists_collect_iff_collects.mp hok) h
    · exact hfails

/-! ## The other aggregators -/

/-- **A required probe** that raises nothing is treated alike by both aggregators. -/
lemma required_eq {α : Type} (probe : Timed α) : required (probe.map .ok) =
    (Discovery.required probe).map (Except.mapError fun _ => .timeoutError) := by
  rcases le_or_gt probe.duration perProbeTimeout with h | h
  · rw [required, Task.within_of_le h, Discovery.required, waitFor_of_le h, min_eq_left h]
    rfl
  · rw [required, Task.within_of_lt h, Discovery.required, waitFor_of_lt h, min_eq_right h.le]
    rfl

/-- **An optional probe** that raises no `TimeoutError` of its own is treated alike by both
aggregators. -/
lemma optional_eq {α : Type} (label : Str) {probe : Task ProbeError (OrMissing α)}
    (hraises : probe.value ≠ .error .timeoutError) :
    Discovery.optional label (probe.map Except.toOption) =
      (optional label probe).value.mapError fun _ => .exception := by
  rcases le_or_gt probe.duration perProbeTimeout with h | h
  · have hintime : waitFor perProbeTimeout (probe.map Except.toOption) =
        some probe.value.toOption := waitFor_of_le h
    rw [optional_of_le h hraises, Discovery.optional, hintime]
    cases probe.value with
    | ok result => rfl
    | error e => rfl
  · have hlate : waitFor perProbeTimeout (probe.map Except.toOption) = none := waitFor_of_lt h
    rw [optional_of_lt h, Discovery.optional, hlate]
    rfl

/-- What a snapshot tells about its host, apart from the operations on the network. -/
def factsOf (s : EnvironmentSnapshot) : LocalFacts where
  capturedAt := s.capturedAt
  system := s.system
  docker := s.docker
  interfaces := s.network.interfaces
  defaultRouteIface := s.network.defaultRouteIface
  listeningPorts := s.network.listeningPorts
  localResolvers := s.dns.localResolvers
  tls := s.tls
  timeSync := s.timeSync
  firewall := s.firewall

/-- The network that is reported has the public address that is told first. -/
lemma network_of_reports {network : NetworkInfo} (h : (m.networkProbe ops).value = .ok network) :
    network.egressPublicIp = (egressPublicIp ops).value ∧
      network.interfaces = interfacesOf m.addresses ∧
      (egressPublicIp ops).duration ≤ (m.networkProbe ops).duration := by
  have hnonneg : 0 ≤ m.defaultRouteIface.duration := by
    have htime : 0 ≤ timeOf m.routeCommand := by
      cases hcommand : m.routeCommand with
      | none => exact le_refl _
      | some op => exact op.nonneg
    unfold Machine.defaultRouteIface
    split
    · split_ifs
      · exact htime
      · exact le_refl _
    · exact le_refl _
  unfold Machine.networkProbe at h ⊢
  split at h
  · cases h
  · rename_i iface d heq
    cases h
    rw [heq] at hnonneg
    exact ⟨rfl, rfl, le_add_of_nonneg_left hnonneg⟩

/-- The resolution that is reported, but for the local resolvers, is made of queries. -/
lemma dns_of_reports {s : EnvironmentSnapshot} (h : (m.dnsProbe ops hostname).value = .ok s.dns) :
    (Discovery.dnsProbe ops (factsOf s) hostname).value = s.dns := by
  unfold Machine.dnsProbe at h
  simp only [Timed.bind, Timed.map] at h
  cases hlocal : localResolvers m.resolvConf with
  | error e =>
    rw [hlocal] at h
    cases h
  | ok resolvers =>
    rw [hlocal] at h
    have hdns := (Except.ok.inj h).symm
    have hresolvers : (factsOf s).localResolvers = resolvers :=
      congrArg DnsResolution.localResolvers hdns
    rw [hdns, Discovery.dnsProbe, hresolvers]
    rfl

/-- **What is collected of a machine** is also collected when nothing but the operations on the
network takes time. -/
theorem collect_of_collected {s : EnvironmentSnapshot}
    (h : (collect ops m capturedAt hostname).value = .ok s) :
    Discovery.collect ops (factsOf s) hostname = .ok s := by
  obtain ⟨h, hnet, -, hduo⟩ := value_collect_iff.mp h
  obtain ⟨hegress, -, htime⟩ := network_of_reports h.network
  have hnetwork : (Discovery.networkProbe ops (factsOf s)).value = s.network := by
    show NetworkInfo.mk _ _ _ (egressPublicIp ops).value = _
    rw [← hegress]
    rfl
  have hdnsTime : (Discovery.dnsProbe ops (factsOf s) hostname).duration ≤ perProbeTimeout :=
    (Discovery.duration_dnsProbe_le hostname).trans (by norm_num [perProbeTimeout, queryTimeout])
  have hnetworkTime : (Discovery.networkProbe ops (factsOf s)).duration ≤ perProbeTimeout :=
    htime.trans hnet
  have hduoTime : (Discovery.duoProbe ops).duration ≤ perProbeTimeout := hduo
  rw [Discovery.collect_eq, value_required_of_le hnetworkTime, value_required_of_le hdnsTime,
    value_required_of_le hduoTime, hnetwork, dns_of_reports h.dns, ← h.duoReachability,
    ← h.hostnamePlanned]
  rfl

/-- **What is collected of a machine** is also collected when the time-sync probe is the one
optional probe. -/
theorem collectWithTimeSync_of_collected {s : EnvironmentSnapshot}
    (h : (collect ops m capturedAt hostname).value = .ok s) :
    collectWithTimeSync ops (factsOf s) hostname (m.timeSyncProbe.map Except.toOption) = .ok s := by
  have htime : (optional "time_sync" m.timeSyncProbe).value = .ok s.timeSync :=
    (value_optional_eq_ok_iff value_timeSyncProbe_ne).mpr (value_collect_iff.mp h).1.timeSync
  have hcollect := collect_of_collected h
  rw [collectWithTimeSync, optional_eq _ value_timeSyncProbe_ne, htime]
  show (Discovery.collect ops (factsOf s) hostname).mapError _ = _
  rw [hcollect]
  rfl

/-- **An exception of the time-sync probe** ends the collection of this aggregator as it does that
of the other one. -/
lemma not_collects_of_exception {host : LocalFacts}
    (h : collectWithTimeSync ops host hostname (m.timeSyncProbe.map Except.toOption) =
      .error .exception) : ¬ Collects ops m := by
  intro hcollects
  obtain ⟨x, hx⟩ := exists_timeSync_iff.mpr hcollects.marks
  have htime := (value_optional_eq_ok_iff value_timeSyncProbe_ne).mpr hx
  rw [collectWithTimeSync, optional_eq _ value_timeSyncProbe_ne, htime] at h
  cases hcollect : Discovery.collect ops { host with timeSync := x } hostname <;>
    simp [Except.mapError, hcollect] at h

end DngPreflight.Discovery.Aggregator
