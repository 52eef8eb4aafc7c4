import DngPreflight.Discovery.Aggregator
import DngPreflight.Interview.Engine

set_option relaxedAutoImplicit false
set_option autoImplicit false

/-!
# The gate on a machine

What makes the validation refuse a plan that is made on a machine, in terms of the machine itself:
what its commands print, what its files hold, and what the network answers.

## Main definitions

* `DngPreflight.Discovery.Refuses` — a machine gives a reason for a rule to refuse its plans.

## Main results

* `DngPreflight.Discovery.violates_iff_refuses` — the rules that a plan violates are those for which
  the machine gives a reason.
* `DngPreflight.Discovery.gate_iff` — when a plan that is made on a machine passes.
-/

namespace DngPreflight.Discovery

open Text Codec Timing

/-! ## Reasons -/

/-- The command of a firewall tells that it is active, and no command asked before it answers. -/
def FirewallSeen (tools : FirewallTools) : Prop :=
  FirewalldRunning tools ∨ (tools.firewallCmd = none ∧
    (UfwActive tools ∨ (¬ UfwAnswers tools ∧ IptablesActive tools)))

/-- The public address that is told first is one of the machine's own. -/
def Exposed (ops : Operations) (m : Machine) : Prop :=
  ∃ egress, (egressPublicIp ops).value = some egress ∧
    ∃ e ∈ m.addresses.entries, (true, egress) ∈ e.2

/-- A realm is listed, or configured. -/
def Joined (m : Machine) : Prop :=
  (HostFacts.mk m.realms m.krb5Text).ListsRealm ∨ (HostFacts.mk m.realms m.krb5Text).HasRealm

/-- The clock is measured in time, and more than half a minute off. -/
def OffClock (m : Machine) : Prop :=
  m.timeSyncProbe.duration ≤ perProbeTimeout ∧
    ∃ offset, queryNtpOffset m.ntp.value = some (.fin offset) ∧ 30 < |offset|

/-- A public resolver answers a query about the hostname with a record. -/
def Resolves (ops : Operations) (hostname : Str) : Prop :=
  ∃ rdtype ∈ ["A", "AAAA"], ∃ resolver ∈ publicResolvers, ∃ records,
    (ops.query hostname rdtype.toList resolver).value = .answered records ∧ records ≠ []

/-- The machine gives a reason for a rule to refuse its plans. -/
def Refuses (ops : Operations) (m : Machine) (hostname : Str) : Rule → Prop
  | .adminPortMustBePrivate => Exposed ops m ∧ ¬ FirewallSeen m.firewallTools
  | .hostMustNotBeDomainJoined => Joined m
  | .timeOffsetWithin30s => OffClock m
  | .publicHostnameMustResolve => ¬ Resolves ops hostname
  | _ => False

/-! ## What the probes find -/

/-- The firewall that is found is active exactly if it is seen. -/
lemma collectSync_active_iff (tools : FirewallTools) :
    ((collectSync tools).active = true ∧ (collectSync tools).kind ≠ .none) ↔
      FirewallSeen tools := by
  unfold collectSync FirewallSeen
  rcases probeFirewalld_cases tools with ⟨hnone, hprobe, hrun⟩ | ⟨hsome, active, hprobe, hrun⟩
  · rcases probeUfw_cases tools with ⟨hufw, hprobeUfw, hactive⟩ | ⟨hufw, active, hprobeUfw, hactive⟩
    · rcases probeIptables_cases tools with ⟨hprobeIp, hip⟩ | ⟨active, hprobeIp, hip⟩
      · simp [hprobe, hprobeUfw, hprobeIp, hrun, hactive, hip]
      · simp [hprobe, hprobeUfw, hprobeIp, hrun, hactive, hip, hnone, hufw]
    · simp [hprobe, hprobeUfw, hrun, hactive, hnone, hufw]
  · simp [hprobe, hrun, hsome]

/-- Entries that are left out or changed have the images of their keys in the same order. -/
lemma map_fst_filterMap_sublist {κ κ' ν μ : Type} {f : κ × ν → Option (κ' × μ)} {g : κ → κ'}
    (h : ∀ e e', f e = some e' → e'.1 = g e.1) (l : List (κ × ν)) :
    ((l.filterMap f).map Prod.fst).Sublist ((l.map Prod.fst).map g) := by
  induction l with
  | nil => exact .slnil
  | cons e l ih =>
    cases he : f e with
    | none =>
      rw [List.filterMap_cons_none he, List.map_cons, List.map_cons]
      exact ih.cons _
    | some e' =>
      rw [List.filterMap_cons_some he, List.map_cons, List.map_cons, List.map_cons, h e e' he]
      exact ih.cons_cons _

/-- What is reported of an interface. -/
lemma interfaceEntry_eq_some {e : Str × List (Bool × Str)} {e' : PyStr × List Str}
    (h : interfaceEntry e = some e') :
    e'.1 = ofStr e.1 ∧ e'.2 = (e.2.filter fun a => a.1).map Prod.snd := by
  unfold interfaceEntry at h
  dsimp only at h
  split_ifs at h
  cases h
  exact ⟨rfl, rfl⟩

/-- An address is bound to an interface that is reported exactly if it is one of its addresses of
the Internet families. -/
lemma mem_interfacesOf_iff {addresses : Dict Str (List (Bool × Str))} {ip : Str} :
    (∃ ips ∈ (interfacesOf addresses).values, ip ∈ ips) ↔
      ∃ e ∈ addresses.entries, (true, ip) ∈ e.2 := by
  have hnodup : ((addresses.entries.filterMap interfaceEntry).map Prod.fst).Nodup :=
    (map_fst_filterMap_sublist (fun e e' h => (interfaceEntry_eq_some h).1) _).nodup
      (addresses.nodup.map ofStr_injective)
  have hmem : ∀ e : Str × List (Bool × Str),
      ip ∈ (e.2.filter fun a => a.1).map Prod.snd ↔ (true, ip) ∈ e.2 := by
    intro e
    simp [List.mem_map, List.mem_filter]
  rw [interfacesOf, Dict.values, Dict.ofList_of_nodup hnodup]
  constructor
  · rintro ⟨ips, hips, hip⟩
    obtain ⟨e', he', rfl⟩ := List.mem_map.mp hips
    obtain ⟨e, he, hentry⟩ := List.mem_filterMap.mp he'
    rw [(interfaceEntry_eq_some hentry).2] at hip
    exact ⟨e, he, (hmem e).mp hip⟩
  · rintro ⟨e, he, hip⟩
    have hips := (hmem e).mpr hip
    refine ⟨_, List.mem_map.mpr ⟨(ofStr e.1, (e.2.filter fun a => a.1).map Prod.snd),
      List.mem_filterMap.mpr ⟨e, he, ?_⟩, rfl⟩, hips⟩
    exact if_neg (List.ne_nil_of_mem hips)

/-- Sorting keeps a query from looking as if it had failed. -/
lemma sorted_eq_nil_iff (r : QueryResult) :
    r.sorted = [] ↔ ∀ records, r = .answered records → records = [] := by
  cases r with
  | failed => simp [QueryResult.sorted]
  | answered records =>
    rw [QueryResult.sorted, ← List.length_eq_zero_iff, List.length_mergeSort,
      List.length_eq_zero_iff]
    simp

/-- The resolution that is reported has no record exactly if no resolver answers with one. -/
lemma records_of_reports {ops : Operations} {m : Machine} {hostname : Str} {dns : DnsResolution}
    (h : (m.dnsProbe ops hostname).value = .ok dns) :
    (∀ ips ∈ dns.aRecords.values ++ dns.aaaaRecords.values, ips = []) ↔
      ¬ Resolves ops hostname := by
  have hvalues : ∀ rdtype, (Dict.ofList ((publicResolvers.map ofStr).zip
      (Machine.queries ops hostname rdtype).value)).values =
        publicResolvers.map fun resolver => (ops.query hostname rdtype resolver).value.sorted :=
    fun rdtype => rfl
  have hdns : dns.aRecords = Dict.ofList ((publicResolvers.map ofStr).zip
      (Machine.queries ops hostname "A").value) ∧ dns.aaaaRecords =
        Dict.ofList
          ((publicResolvers.map ofStr).zip (Machine.queries ops hostname "AAAA").value) := by
    unfold Machine.dnsProbe at h
    simp only [Timed.bind, Timed.map] at h
    cases hlocal : localResolvers m.resolvConf with
    | error e =>
      rw [hlocal] at h
      cases h
    | ok resolvers =>
      rw [hlocal] at h
      cases h
      exact ⟨rfl, rfl⟩
  rw [hdns.1, hdns.2, hvalues, hvalues, Resolves]
  simp only [List.mem_append, List.mem_map]
  constructor
  · rintro hall ⟨rdtype, hrdtype, resolver, hresolver, records, hanswer, hne⟩
    have hsorted : (ops.query hostname rdtype.toList resolver).value.sorted = [] := by
      rcases List.mem_pair.mp hrdtype with rfl | rfl
      · exact hall _ (.inl ⟨resolver, hresolver, rfl⟩)
      · exact hall _ (.inr ⟨resolver, hresolver, rfl⟩)
    exact hne ((sorted_eq_nil_iff _).mp hsorted records hanswer)
  · intro hnone ips hips
    have hempty : ∀ rdtype ∈ ["A", "AAAA"], ∀ resolver ∈ publicResolvers,
        (ops.query hostname rdtype.toList resolver).value.sorted = [] := by
      intro rdtype hrdtype resolver hresolver
      refine (sorted_eq_nil_iff _).mpr fun records hanswer => ?_
      by_contra hne
      exact hnone ⟨rdtype, hrdtype, resolver, hresolver, records, hanswer, hne⟩
    rcases hips with ⟨resolver, hresolver, rfl⟩ | ⟨resolver, hresolver, rfl⟩
    · exact hempty "A" (by simp) resolver hresolver
    · exact hempty "AAAA" (by simp) resolver hresolver

/-- The system that is reported is joined to a domain exactly if the machine is. -/
lemma domainJoined_of_reports {m : Machine} {system : SystemInfo}
    (h : m.systemProbe.value = .ok system) : system.domainJoined = true ↔ Joined m := by
  have hjoined : system.domainJoined = m.domainJoined.value := by
    unfold Machine.systemProbe at h
    split at h
    · cases h
    · split at h
      · cases h
      · cases h
        rfl
  rw [hjoined]
  exact detectDomainJoined_iff

/-- An offset that is measured is finite. -/
lemma finite_of_queryNtpOffset {x : Option Exchange} {o : PyFloat}
    (h : queryNtpOffset x = some o) : ∃ offset, o = .fin offset := by
  cases x with
  | none => cases h
  | some x =>
    simp only [queryNtpOffset] at h
    split_ifs at h
    cases h
    exact ⟨_, rfl⟩

/-- The offset in the state of the time synchronisation is the one that was measured. -/
lemma offset_of_collectTimeSync {tools : TimeTools} {offset : Option PyFloat}
    {state : OrMissing TimeSyncState} (h : collectTimeSync tools offset = some state)
    {o : PyFloat} : (∃ ts, state = .detected ts ∧ ts.offsetSeconds = some o) ↔ offset = some o := by
  obtain ⟨found, -, rfl⟩ := Option.map_eq_some_iff.mp h
  split_ifs with hnone
  · rw [hnone.2]
    exact iff_of_false (by rintro ⟨ts, hts, -⟩; cases hts) (by simp)
  · constructor
    · rintro ⟨ts, hts, ho⟩
      cases hts
      exact ho
    · intro ho
      exact ⟨_, rfl, ho⟩

/-- The time synchronisation that is reported is off exactly if the clock is. -/
lemma offClock_of_reports {m : Machine} {state : OrMissing TimeSyncState}
    (h : Aggregator.OrLate "time_sync" m.timeSyncProbe state) :
    (∃ ts o, state = .detected ts ∧ ts.offsetSeconds = some o ∧ ¬ o.absLe 30) ↔ OffClock m := by
  rcases h with ⟨htime, hvalue⟩ | ⟨hlate, rfl⟩
  · rw [Machine.value_timeSyncProbe] at hvalue
    split at hvalue
    · cases hvalue
    · rename_i state' hcollect
      obtain rfl : state' = state := Except.ok.inj hvalue
      constructor
      · rintro ⟨ts, o, hts, ho, habs⟩
        have hoffset := (offset_of_collectTimeSync hcollect).mp ⟨ts, hts, ho⟩
        obtain ⟨offset, rfl⟩ := finite_of_queryNtpOffset hoffset
        rw [PyFloat.absLe_fin_iff, not_le] at habs
        exact ⟨htime, offset, hoffset, habs⟩
      · rintro ⟨-, offset, hoffset, habs⟩
        obtain ⟨ts, hts, ho⟩ := (offset_of_collectTimeSync hcollect).mpr hoffset
        exact ⟨ts, .fin offset, hts, ho, by rwa [PyFloat.absLe_fin_iff, not_le]⟩
  · refine iff_of_false ?_ fun h => not_lt.mpr h.1 hlate
    rintro ⟨ts, o, hts, -⟩
    cases hts

/-! ## The gate -/

section Gate

variable {σ δ : Type} {L : Leaves} {ops : Operations} {m : Machine} {capturedAt hostname : Str}
  {snapshot : EnvironmentSnapshot} {answers : InterviewAnswers}

/-- **The rules that a plan violates**, if it is made on a machine and its answers violate none:
those for which the machine gives a reason. -/
lemma violates_iff_refuses
    (hcollect : (Aggregator.collect ops m capturedAt hostname).value = .ok snapshot)
    (hanswers : ∀ r ∈ Interview.answerRules, ¬ Violates (buildConfig snapshot answers) r)
    (r : Rule) :
    Violates (buildConfig snapshot answers) r ↔ Refuses ops m hostname r := by
  obtain ⟨hreports, -⟩ := Aggregator.value_collect_iff.mp hcollect
  cases r with
  | adminPortMustBePrivate =>
    obtain ⟨hegress, hinterfaces, -⟩ := Aggregator.network_of_reports hreports.network
    have hexposed : (∃ egress, snapshot.network.egressPublicIp = some egress ∧
        ∃ ips ∈ snapshot.network.interfaces.values, egress ∈ ips) ↔ Exposed ops m := by
      rw [hegress, hinterfaces]
      simp only [mem_interfacesOf_iff, Exposed]
    have hseen : (∃ fw, snapshot.firewall = .detected fw ∧ fw.active = true ∧ fw.kind ≠ .none) ↔
        FirewallSeen m.firewallTools := by
      rw [← collectSync_active_iff, hreports.firewall]
      constructor
      · rintro ⟨fw, hfw, hactive⟩
        cases hfw
        exact hactive
      · intro hactive
        exact ⟨_, rfl, hactive⟩
    exact and_congr hexposed (not_congr hseen)
  | hostMustNotBeDomainJoined => exact domainJoined_of_reports hreports.system
  | timeOffsetWithin30s => exact offClock_of_reports hreports.timeSync
  | publicHostnameMustResolve => exact records_of_reports hreports.dns
  | wildcardRequiredForRdpSmb => exact iff_of_false (hanswers _ (by decide)) id
  | dngVersionMinimum => exact iff_of_false (hanswers _ (by decide)) id
  | lbRequiresTrustedProxies => exact iff_of_false (hanswers _ (by decide)) id

/-- The answers of an interview violate no rule. -/
lemma not_violates_of_run {provider : Interview.AnswersProvider σ δ} {st : σ}
    (hro : provider.ReadOnly) (h : Interview.run L snapshot provider st = .ok answers) :
    ∀ r ∈ Interview.answerRules, ¬ Violates (buildConfig snapshot answers) r := by
  obtain ⟨prior, hprior, hfields⟩ := Interview.exists_of_run h
  have hread := Interview.readFrom_of_ofFields hfields
  exact Interview.not_violates_answerRules snapshot
    (fun hscope => (Interview.wildcardCert_of_run hro hprior hread hscope).1)
    (InterviewAnswers.validated_of_ofFields L hfields)

/-- **When a plan that is made on a machine passes**, whatever is answered in the interview: exactly
if every reason that the machine gives is overridden. It has to resolve the hostname that it is
inspected for, whichever hostname the interview settles on.

**Proof sketch.** The answers of an interview violate none of the rules about answers. Every other
rule reads one part of the snapshot, which reports what its probe found. -/
theorem gate_iff {provider : Interview.AnswersProvider σ δ} {st : σ} (hro : provider.ReadOnly)
    (hcollect : (Aggregator.collect ops m capturedAt hostname).value = .ok snapshot)
    (hrun : Interview.run L snapshot provider st = .ok answers) (overrides : Finset Str) :
    validatePlan (buildConfig snapshot answers) overrides = .ok [] ↔
      ∀ r, Refuses ops m hostname r → Overridden overrides r := by
  rw [validatePlan_eq_nil_iff, and_iff_right (returns_buildConfig snapshot answers)]
  simp only [violates_iff_refuses hcollect (not_violates_of_run hro hrun)]

/-- Plans of a machine that gives no reason pass, whatever is overridden. -/
lemma passes_of_not_refuses {provider : Interview.AnswersProvider σ δ} {st : σ}
    (hro : provider.ReadOnly)
    (hcollect : (Aggregator.collect ops m capturedAt hostname).value = .ok snapshot)
    (hrun : Interview.run L snapshot provider st = .ok answers)
    (hnone : ∀ r, ¬ Refuses ops m hostname r) (overrides : Finset Str) :
    validatePlan (buildConfig snapshot answers) overrides = .ok [] := by
  refine validatePlan_eq_nil_iff.mpr ⟨returns_buildConfig snapshot answers, fun r hr => ?_⟩
  have hanswers := not_violates_of_run hro hrun
  exact absurd ((violates_iff_refuses hcollect hanswers r).mp hr) (hnone r)

end Gate

/-- Without overrides, no rule is overridden. -/
lemma not_overridden_empty (r : Rule) : ¬ Overridden ∅ r := by
  rintro ⟨f, hf, -⟩
  simp at hf

/-- An operation with a result that takes no time. -/
def atOnce {limit : ℚ} {α : Type} (hlimit : 0 ≤ limit) (a : α) : Op limit α :=
  ⟨Timed.pure a, Timed.zero_le_duration_pure a, hlimit⟩

/-- A network where every service answers at once. -/
def responsive : Operations where
  get _ := atOnce (by decide) (.response 200 "203.0.113.10\n")
  head _ := atOnce (by decide) (.response 200)
  query _ rdtype _ :=
    atOnce (by decide) (.answered (if rdtype = "A" then ["203.0.113.10"] else []))
  reverse _ := atOnce (by decide) .failed

/-- A machine behind a router, on which little is installed. -/
def plainMachine : Machine where
  system := "Linux"
  release := "6.8.0-45-generic"
  machine := "x86_64"
  memory := 4294967296
  cpus := some 2
  logicalCpus := some 2
  osRelease := .text "ID=ubuntu\nVERSION_ID=\"24.04\"\n"
  selinuxEnforce := .missing
  getenforce := none
  apparmorDir := true
  realm := none
  krb5 := .missing
  docker := none
  groups := ⟨none, [], none⟩
  addresses := Dict.single "eth0" [(true, "10.0.0.5")]
  routes := .text "Iface\tDestination\tGateway\neth0\t00000000\t0100000A\n"
  routeCommand := none
  connections := some []
  resolvConf := .text "nameserver 10.0.0.1\n"
  tls := ⟨.ok { answersOn443 := false }, 0⟩
  chronyc := none
  ntpq := none
  timedatectl := none
  ntp := ⟨none, 3⟩
  firewallCmd := none
  ufw := none
  iptables := none

/-- A snapshot of the plain machine can be taken. -/
lemma collects_plainMachine : Aggregator.Collects responsive plainMachine where
  osRelease := ⟨by decide, by decide⟩
  selinuxEnforce := by decide
  routes := by decide
  resolvConf := by decide
  tls := ⟨⟨_, rfl⟩, by decide⟩
  marks := .inr nofun
  network := by
    have htimes : ∀ url, (egressAttempt responsive url).duration = 0 := fun _ => rfl
    have hegress : (egressPublicIp responsive).duration = 0 := by
      rw [egressPublicIp, Timed.duration_firstSome]
      simp only [htimes, List.map_const', List.sum_replicate, nsmul_zero]
    show 0 + (egressPublicIp responsive).duration ≤ perProbeTimeout
    norm_num [hegress, perProbeTimeout]
  duo := by
    have htimes : ∀ url, (responsive.head url).duration = 0 := fun _ => rfl
    show (Discovery.duoProbe responsive).duration ≤ perProbeTimeout
    rw [duration_duoProbe]
    simp only [htimes, List.map_const', List.sum_replicate, nsmul_zero]
    norm_num [perProbeTimeout]

/-- The plain machine gives no reason. -/
lemma not_refuses_plainMachine (r : Rule) :
    ¬ Refuses responsive plainMachine "dng.example.com" r := by
  intro hr
  cases r with
  | adminPortMustBePrivate =>
    obtain ⟨⟨egress, hegress, e, he, hip⟩, -⟩ := hr
    obtain rfl : "203.0.113.10".toList = egress := Option.some.inj hegress
    obtain rfl := List.mem_singleton.mp he
    exact absurd hip (by decide)
  | hostMustNotBeDomainJoined => exact absurd (detectDomainJoined_iff.mpr hr) (by decide)
  | timeOffsetWithin30s =>
    obtain ⟨-, offset, hoffset, -⟩ := hr
    cases hoffset
  | publicHostnameMustResolve =>
    exact hr ⟨"A", by decide, "1.1.1.1".toList, by decide, ["203.0.113.10".toList], rfl, by decide⟩
  | wildcardRequiredForRdpSmb => exact hr
  | dngVersionMinimum => exact hr
  | lbRequiresTrustedProxies => exact hr

/-- Plans that are made on the plain machine pass without overrides. -/
theorem gate_iff_plainMachine : ∃ snapshot answers,
    (Aggregator.collect responsive plainMachine "" "dng.example.com").value = .ok snapshot ∧
    Interview.run .strict snapshot Interview.cannedProvider () = .ok answers ∧
    validatePlan (buildConfig snapshot answers) ∅ = .ok [] := by
  obtain ⟨snapshot, hcollect⟩ := Aggregator.exists_collect_iff_collects.mpr collects_plainMachine
  have hrun : ∃ answers, Interview.run .strict snapshot Interview.cannedProvider () = .ok answers :=
    ⟨_, rfl⟩
  obtain ⟨answers, hrun⟩ := hrun
  refine ⟨snapshot, answers, hcollect, hrun, ?_⟩
  exact (gate_iff Interview.cannedProvider_readOnly hcollect hrun ∅).mpr fun r hr =>
    absurd hr (not_refuses_plainMachine r)

end DngPreflight.Discovery
