import DngPreflight.Generators.FirewallPolicy
import DngPreflight.Validation.MachineGate

set_option relaxedAutoImplicit false
set_option autoImplicit false

/-!
# The firewall script on the machine that was inspected

Which script a machine gets, and what it does there: the script of the first tool that tells a
firewall, whether that one is active or not. If the gate has found that a public admin port is
protected by an active firewall, then the script is for this firewall, or it is the stub.

## Main definitions

* `DngPreflight.FirewallRules.runOn` — the policy that the script sets up on a machine.
* `DngPreflight.FirewallRules.Protects` — the script closes the active firewall of a machine to all
  but the trusted proxies.

## Main results

* `DngPreflight.FirewallRules.frontEnd_of_collectSync` — which script a machine gets.
* `DngPreflight.FirewallRules.protects_iff` — when the script protects a machine that has passed.
-/

namespace DngPreflight.FirewallRules

open Text Net Discovery

/-! ## The script of a machine -/

/-- The tool of a script is installed. -/
def FrontEnd.installedOn (f : FrontEnd) (tools : FirewallTools) : Bool :=
  match f with
  | .ufw => tools.ufw.isSome
  | .firewalld => tools.firewallCmd.isSome

/-- The firewall of a script is active. -/
def FrontEnd.ActiveOn (f : FrontEnd) (tools : FirewallTools) : Prop :=
  match f with
  | .ufw => UfwActive tools
  | .firewalld => FirewalldRunning tools

/-- The policy that the script sets up on a machine without earlier rules, by a user; none if it
stops before its end. The stub stops, too. -/
def runOn (config : DngConfig) (tools : FirewallTools) (euid : ℕ) :
    Option (IpAddress → ℕ → Bool) :=
  (frontEnd (detectedKind config)).bind fun f =>
    if f.installedOn tools = true ∧ euid = 0 then
      f.policy (adminCidrs config) config.requiresExtraDnsContainer
    else none

/-- The script is for an active firewall of the machine, runs to its end, and admits exactly the
trusted proxies to the admin port. -/
def Protects (config : DngConfig) (tools : FirewallTools) (euid : ℕ) : Prop :=
  ∃ f admits, frontEnd (detectedKind config) = some f ∧ f.ActiveOn tools ∧
    runOn config tools euid = some admits ∧
    ∀ a, admits a adminPort = (adminNetworks config).any (·.contains a)

section Machine

variable {ops : Operations} {m : Machine} {capturedAt hostname : Str}
  {snapshot : EnvironmentSnapshot} {answers : InterviewAnswers} {overrides : Finset Str}

/-- **Which script a machine gets**: that of firewalld if `firewall-cmd` is installed, whether it is
running or not; else that of ufw if its status can be asked for; and else the stub. -/
lemma frontEnd_of_collectSync (tools : FirewallTools) :
    (tools.firewallCmd ≠ none ∧ frontEnd (collectSync tools).kind.value = some .firewalld) ∨
    (tools.firewallCmd = none ∧ UfwAnswers tools ∧
      frontEnd (collectSync tools).kind.value = some .ufw) ∨
    (tools.firewallCmd = none ∧ ¬ UfwAnswers tools ∧
      frontEnd (collectSync tools).kind.value = none) := by
  have hscripts : frontEnd FirewallKind.firewalld.value = some .firewalld ∧
      frontEnd FirewallKind.ufw.value = some .ufw ∧ frontEnd FirewallKind.iptables.value = none ∧
      frontEnd FirewallKind.none.value = none := by decide
  unfold collectSync
  rcases probeFirewalld_cases tools with ⟨hnone, hprobe, -⟩ | ⟨hsome, active, hprobe, -⟩
  · rcases probeUfw_cases tools with ⟨hufw, hprobeUfw, -⟩ | ⟨hufw, active, hprobeUfw, -⟩
    · refine .inr (.inr ⟨hnone, hufw, ?_⟩)
      rcases probeIptables_cases tools with ⟨hprobeIp, -⟩ | ⟨active, hprobeIp, -⟩
      · simp only [List.findSome?_cons, List.findSome?_nil, hprobe, hprobeUfw, hprobeIp]
        exact hscripts.2.2.2
      · simp only [List.findSome?_cons, hprobe, hprobeUfw, hprobeIp]
        exact hscripts.2.2.1
    · refine .inr (.inl ⟨hnone, hufw, ?_⟩)
      simp only [List.findSome?_cons, hprobe, hprobeUfw]
      exact hscripts.2.1
  · refine .inl ⟨hsome, ?_⟩
    simp only [List.findSome?_cons, hprobe]
    exact hscripts.1

/-- The kind in a plan is the one that the probe has found. -/
lemma detectedKind_of_reports
    (hcollect : (Aggregator.collect ops m capturedAt hostname).value = .ok snapshot)
    (answers : InterviewAnswers) :
    detectedKind (buildConfig snapshot answers) = (collectSync m.firewallTools).kind.value := by
  have hfirewall := (Aggregator.value_collect_iff.mp hcollect).1.firewall
  simp only [detectedKind, buildConfig, hfirewall]

/-- No rule about answers can be overridden. -/
lemma not_overridden_answerRules (overrides : Finset Str) :
    ∀ r ∈ Interview.answerRules, ¬ Overridden overrides r := by
  have hwaiver : ∀ r ∈ Interview.answerRules, r.waiver = none := by decide
  rintro r hr ⟨flag, -, hflag⟩
  rw [hwaiver r hr] at hflag
  cases hflag

/-- The gate has seen the firewall of a machine whose public address is its own. -/
lemma firewallSeen_of_gate
    (hcollect : (Aggregator.collect ops m capturedAt hostname).value = .ok snapshot)
    (hgate : validatePlan (buildConfig snapshot answers) overrides = .ok [])
    (hoverride : ¬ Overridden overrides .adminPortMustBePrivate) (hexposed : Exposed ops m) :
    FirewallSeen m.firewallTools := by
  have hviolates := (validatePlan_eq_nil_iff.mp hgate).2
  have hanswers : ∀ r ∈ Interview.answerRules, ¬ Violates (buildConfig snapshot answers) r :=
    fun r hr h => not_overridden_answerRules overrides r hr (hviolates r h)
  by_contra hseen
  exact hoverride (hviolates _ ((violates_iff_refuses hcollect hanswers _).mpr ⟨hexposed, hseen⟩))

/-- If an active firewall is seen, and not only that of `iptables`, the script is for it. -/
lemma exists_script_of_seen {tools : FirewallTools} (hseen : FirewallSeen tools)
    (hactive : FirewalldRunning tools ∨ UfwActive tools) :
    ∃ f : FrontEnd, frontEnd (collectSync tools).kind.value = some f ∧
      f.installedOn tools = true ∧ f.ActiveOn tools := by
  have hinstalled : ∀ {o : Option Discovery.Outcome}, o ≠ none → o.isSome = true :=
    Option.isSome_iff_ne_none.mpr
  have hanswers : UfwActive tools → UfwAnswers tools := fun ⟨stdout, h, _⟩ => ⟨stdout, h⟩
  have hcommand : FirewalldRunning tools → tools.firewallCmd ≠ none := by
    rintro ⟨stdout, h, -⟩ hnone
    rw [hnone] at h
    cases h
  rcases frontEnd_of_collectSync tools with ⟨hsome, hscript⟩ | ⟨hnone, hufw, hscript⟩ |
    ⟨hnone, hufw, -⟩
  · refine ⟨.firewalld, hscript, hinstalled hsome, ?_⟩
    rcases hseen with hrunning | ⟨hnone, -⟩
    · exact hrunning
    · exact absurd hnone hsome
  · refine ⟨.ufw, hscript, ?_, ?_⟩
    · obtain ⟨stdout, h⟩ := hufw
      exact hinstalled (by simp [h])
    · exact hactive.resolve_left fun hrunning => hcommand hrunning hnone
  · rcases hactive with hrunning | hactive
    · exact absurd hnone (hcommand hrunning)
    · exact absurd (hanswers hactive) hufw

/-- **When the script protects a machine** whose public address is its own, if the plan has passed
without the override for a public admin port: it is run as root, the active firewall is not
`iptables` alone, and no trusted proxy has a scope.

**Proof sketch.** The gate has seen an active firewall, with no other tool asked before it that
answers; so the script is for this one, or the stub. -/
theorem protects_iff
    (hcollect : (Aggregator.collect ops m capturedAt hostname).value = .ok snapshot)
    (hgate : validatePlan (buildConfig snapshot answers) overrides = .ok [])
    (hoverride : ¬ Overridden overrides .adminPortMustBePrivate) (hexposed : Exposed ops m)
    (euid : ℕ) :
    Protects (buildConfig snapshot answers) m.firewallTools euid ↔
      euid = 0 ∧ (FirewalldRunning m.firewallTools ∨ UfwActive m.firewallTools) ∧
        ∀ n ∈ adminNetworks (buildConfig snapshot answers), n.scope = none := by
  rw [Protects, runOn, detectedKind_of_reports hcollect]
  have hseen := firewallSeen_of_gate hcollect hgate hoverride hexposed
  constructor
  · rintro ⟨f, admits, hscript, hactive, hrun, -⟩
    rw [hscript, Option.bind_some] at hrun
    split_ifs at hrun with hchecks
    refine ⟨hchecks.2, ?_, ?_⟩
    · cases f with
      | ufw => exact .inr hactive
      | firewalld => exact .inl hactive
    · by_contra hscope
      rw [adminCidrs, policy_of_scoped f _ hscope] at hrun
      cases hrun
  · rintro ⟨hroot, hactive, hscope⟩
    obtain ⟨f, hscript, hinstalled, hf⟩ := exists_script_of_seen hseen hactive
    obtain ⟨admits, hpolicy, hadmits⟩ := policy_of_unscoped
      (buildConfig snapshot answers).requiresExtraDnsContainer f hscope
    refine ⟨f, admits, hscript, hf, ?_, hadmits⟩
    rw [hscript, Option.bind_some, if_pos ⟨hinstalled, hroot⟩]
    exact hpolicy

end Machine

/-- A machine with a public address, on which ufw is active. -/
def publicMachine : Machine :=
  { plainMachine with
    addresses := Codec.Dict.single "eth0" [(true, "203.0.113.10")]
    ufw := some (atOnce (by decide) (.exited 0 "Status: active\n")) }

/-- On the example machine ufw is active. -/
lemma ufwActive_publicMachine : UfwActive publicMachine.firewallTools := ⟨_, rfl, by decide⟩

/-- A snapshot of the machine can be taken as of the plain one. -/
lemma collects_publicMachine : Aggregator.Collects responsive publicMachine where
  osRelease := collects_plainMachine.osRelease
  selinuxEnforce := collects_plainMachine.selinuxEnforce
  routes := collects_plainMachine.routes
  resolvConf := collects_plainMachine.resolvConf
  tls := collects_plainMachine.tls
  marks := collects_plainMachine.marks
  network := collects_plainMachine.network
  duo := collects_plainMachine.duo

/-- The machine gives no reason: its firewall is seen. -/
lemma not_refuses_publicMachine (r : Rule) :
    ¬ Refuses responsive publicMachine "dng.example.com" r := by
  intro hr
  cases r with
  | adminPortMustBePrivate => exact hr.2 (.inr ⟨rfl, .inl ufwActive_publicMachine⟩)
  | hostMustNotBeDomainJoined => exact not_refuses_plainMachine .hostMustNotBeDomainJoined hr
  | timeOffsetWithin30s => exact not_refuses_plainMachine .timeOffsetWithin30s hr
  | publicHostnameMustResolve => exact not_refuses_plainMachine .publicHostnameMustResolve hr
  | wildcardRequiredForRdpSmb => exact hr
  | dngVersionMinimum => exact hr
  | lbRequiresTrustedProxies => exact hr

/-- The script protects the machine. -/
theorem protects_iff_publicMachine : ∃ snapshot answers,
    (Aggregator.collect responsive publicMachine "" "dng.example.com").value = .ok snapshot ∧
    Protects (buildConfig snapshot answers) publicMachine.firewallTools 0 := by
  obtain ⟨snapshot, hcollect⟩ : ∃ s,
      (Aggregator.collect responsive publicMachine "" "dng.example.com").value = .ok s :=
    Aggregator.exists_collect_iff_collects.mpr collects_publicMachine
  have hrun : ∃ answers, Interview.run .strict snapshot Interview.cannedProvider () = .ok answers ∧
      answers.loadBalancer = none := ⟨_, rfl, rfl⟩
  obtain ⟨answers, hrun, hbalancer⟩ := hrun
  have hgate : validatePlan (buildConfig snapshot answers) ∅ = .ok [] :=
    passes_of_not_refuses Interview.cannedProvider_readOnly hcollect hrun
      not_refuses_publicMachine ∅
  have hexposed : Exposed responsive publicMachine :=
    ⟨"203.0.113.10", rfl, ("eth0", [(true, "203.0.113.10")]), List.mem_singleton.mpr rfl,
      List.mem_singleton.mpr rfl⟩
  have hnets : adminNetworks (buildConfig snapshot answers) = [] := by
    simp only [adminNetworks, buildConfig, hbalancer]
  refine ⟨snapshot, answers, hcollect, ?_⟩
  refine (protects_iff hcollect hgate (not_overridden_empty _) hexposed 0).mpr
    ⟨rfl, .inr ufwActive_publicMachine, ?_⟩
  rw [hnets]
  exact fun n hn => (List.not_mem_nil hn).elim

end DngPreflight.FirewallRules
