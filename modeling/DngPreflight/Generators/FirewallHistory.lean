import DngPreflight.Generators.UfwPolicy

set_option relaxedAutoImplicit false
set_option autoImplicit false

/-!
# Firewall scripts, one after the other

A plan is changed, `firewall.sh` is generated again, and run on a host that has been set up before.
What the host admits after any number of such scripts: ufw keeps to the rules that came first, and
firewalld to all of them.

## Main definitions

* `DngPreflight.FirewallRules.scriptCommands` — the commands of the script of a plan.
* `DngPreflight.FirewallRules.ufwHistory`, `DngPreflight.FirewallRules.firewalldHistory` — the
  state of a host after the scripts of several plans.

## Main results

* `DngPreflight.FirewallRules.ufwHistory_exact` — the first script decides about the admin console.
* `DngPreflight.FirewallRules.firewalldHistory_exact` — every script opens more.
-/

namespace DngPreflight.FirewallRules

open Text Net Shell PacketFilter

/-! ## The commands of a script -/

/-- The commands of the script of a plan for a front end. -/
def scriptCommands (f : FrontEnd) (config : DngConfig) : Option (List (List Str)) :=
  if frontEnd (detectedKind config) = some f then
    simpleCommands (render (f.rules (adminCidrs config) config.requiresExtraDnsContainer))
  else none

/-- **The commands are those of the generated text** after its checks. -/
lemma scriptCommands_eq_rulesText {f : FrontEnd} {config : DngConfig}
    (hkind : detectedKind config = f.kind.value) :
    scriptCommands f config = simpleCommands (rulesText f config) := by
  rw [scriptCommands, if_pos (frontEnd_eq hkind), rulesText_eq hkind]

/-- The commands, if the networks of the plan have no scope. -/
lemma scriptCommands_of_unscoped {f : FrontEnd} {config : DngConfig}
    (hkind : detectedKind config = f.kind.value) (hscope : Unscoped config) :
    scriptCommands f config =
      some (commandsOf (adminNetworks config) config.requiresExtraDnsContainer f) := by
  rw [scriptCommands, if_pos (frontEnd_eq hkind)]
  exact simpleCommands_rules _ f (unscoped_iff.mp hscope)

/-- If a network of the plan has a scope, there are no commands or the front end rejects one:
nothing is run to its end that the front end does not run to its end. -/
lemma bind_scriptCommands_of_scoped {f : FrontEnd} {config : DngConfig}
    (hkind : detectedKind config = f.kind.value) (hscope : ¬ Unscoped config) {β : Type}
    {run : List (List Str) → Option β} (hrun : ∀ cmds, f.apply cmds = none → run cmds = none) :
    (scriptCommands f config).bind run = none := by
  have hnone : (scriptCommands f config).bind f.apply = none := by
    rw [scriptCommands, if_pos (frontEnd_eq hkind)]
    exact policy_of_scoped f _ fun h => hscope (unscoped_iff.mpr h)
  cases hcmds : scriptCommands f config with
  | none => rfl
  | some cmds =>
    rw [hcmds, Option.bind_some] at hnone
    exact hrun cmds hnone

/-! ## ufw -/

/-- The state of a host after the scripts of plans for ufw, one after the other; none if one of them
does not run to its end. -/
def ufwHistory (st : Ufw.State) (plans : List DngConfig) : Option Ufw.State :=
  plans.foldlM (fun st config => (scriptCommands .ufw config).bind (Ufw.runFrom st)) st

/-- The rules that the script of a plan adds. -/
def planRules (config : DngConfig) : List (PacketFilter.Rule IpNetwork) :=
  ufwRules (adminNetworks config) config.requiresExtraDnsContainer

/-- **One script** adds the rules that are not there yet, and enables the firewall. -/
lemma ufwHistory_cons_of_unscoped {config : DngConfig}
    (hkind : detectedKind config = FrontEnd.ufw.kind.value) (hscope : Unscoped config)
    (st : Ufw.State) (plans : List DngConfig) :
    ufwHistory st (config :: plans) =
      ufwHistory ⟨(planRules config).foldl addRule st.rules, true⟩ plans := by
  have hparse := mapM_parse_ufw config.requiresExtraDnsContainer (unscoped_iff.mp hscope)
  rw [ufwHistory, List.foldlM_cons, scriptCommands_of_unscoped hkind hscope]
  simp only [Option.bind_some, Ufw.runFrom_of_mapM hparse st, Option.bind_eq_bind]
  rfl

/-- A script with a scoped network is not run to its end. -/
lemma ufwHistory_cons_of_scoped {config : DngConfig}
    (hkind : detectedKind config = FrontEnd.ufw.kind.value) (hscope : ¬ Unscoped config)
    (st : Ufw.State) (plans : List DngConfig) : ufwHistory st (config :: plans) = none := by
  have hstep : (scriptCommands .ufw config).bind (Ufw.runFrom st) = none :=
    bind_scriptCommands_of_scoped hkind hscope fun cmds hnone =>
      Ufw.runFrom_eq_none_iff.mpr (Option.map_eq_none_iff.mp (Option.map_eq_none_iff.mp hnone))
  rw [ufwHistory, List.foldlM_cons, hstep]
  rfl

/-- **All scripts** run to their ends exactly if no network has a scope; then the rules of all plans
have been added, in their order. -/
lemma ufwHistory_eq_some_iff {plans : List DngConfig}
    (hkind : ∀ config ∈ plans, detectedKind config = FrontEnd.ufw.kind.value) (st st' : Ufw.State) :
    ufwHistory st plans = some st' ↔ (∀ config ∈ plans, Unscoped config) ∧
      st' =
        ⟨(plans.flatMap planRules).foldl addRule st.rules, decide (plans ≠ []) || st.enabled⟩ := by
  induction plans generalizing st with
  | nil => simp [ufwHistory, eq_comm]
  | cons config plans ih =>
    obtain ⟨hfirst, hlater⟩ := List.forall_mem_cons.mp hkind
    by_cases hscope : Unscoped config
    · rw [ufwHistory_cons_of_unscoped hfirst hscope, ih hlater, List.forall_mem_cons,
        and_iff_right hscope, List.flatMap_cons, List.foldl_append]
      simp
    · rw [ufwHistory_cons_of_scoped hfirst hscope]
      simp [hscope]

/-- The packets that the rules of a plan decide about. -/
lemma decides_planRules {config : DngConfig} {a : IpAddress} {port : ℕ} :
    decides IpNetwork.contains (planRules config) a port = true ↔
      port = publicPort ∨ port = adminPort ∨
        (port = relayPort ∧ config.requiresExtraDnsContainer = true) := by
  have hmem : ∀ r ∈ planRules config, r.port = publicPort ∨ r.port = adminPort ∨
      (r.port = relayPort ∧ config.requiresExtraDnsContainer = true) := by
    intro r hr
    simp only [planRules, ufwRules, List.cons_append, List.mem_cons, List.mem_append, List.mem_map,
      List.mem_ite_nil_right, List.not_mem_nil, or_false] at hr
    rcases hr with rfl | ⟨n, -, rfl⟩ | ⟨hrelays, rfl⟩ | rfl
    · exact Or.inl rfl
    · exact Or.inr (Or.inl rfl)
    · exact Or.inr (Or.inr ⟨rfl, hrelays⟩)
    · exact Or.inr (Or.inl rfl)
  rw [decides, List.any_eq_true]
  constructor
  · rintro ⟨r, hr, hmatches⟩
    simp only [PacketFilter.Rule.matches, Bool.and_eq_true, decide_eq_true_eq] at hmatches
    rw [← hmatches.1]
    exact hmem r hr
  · rintro (rfl | rfl | ⟨rfl, hrelays⟩)
    · exact ⟨⟨true, none, publicPort⟩, by simp [planRules, ufwRules, publicPort], rfl⟩
    · exact ⟨⟨false, none, adminPort⟩, by simp [planRules, ufwRules], rfl⟩
    · exact ⟨⟨true, none, relayPort⟩, by simp [planRules, ufwRules, relayPort, hrelays], rfl⟩

/-- **The rules of several plans**: the first plan decides about the admin console, and the port of
the relays is open if any plan has relays.

**Proof sketch.** Induction on the later plans. All rules about the public and the admin port come
after those of the first plan, which decide about these ports. -/
lemma firstMatch_flatMap_planRules (first : DngConfig) (later : List DngConfig) {a : IpAddress}
    {port : ℕ} : firstMatch IpNetwork.contains ((first :: later).flatMap planRules) a port = true ↔
      port = publicPort ∨ (port = adminPort ∧ (adminNetworks first).any (·.contains a) = true) ∨
        (port = relayPort ∧
          ∃ config ∈ first :: later, config.requiresExtraDnsContainer = true) := by
  have hports : publicPort ≠ adminPort ∧ publicPort ≠ relayPort ∧ adminPort ≠ relayPort := by
    decide
  have hfirst : firstMatch IpNetwork.contains (planRules first) a port = true ↔ port = publicPort ∨
      (port = adminPort ∧ (adminNetworks first).any (·.contains a) = true) ∨
        (port = relayPort ∧ first.requiresExtraDnsContainer = true) := by
    rw [planRules, firstMatch_ufwRules_eq]
    simp only [Bool.or_eq_true, Bool.and_eq_true, decide_eq_true_eq, or_assoc]
  rw [List.flatMap_cons, firstMatch_append, List.exists_mem_cons_iff]
  split_ifs with hdecides
  · rw [decides_planRules] at hdecides
    rw [hfirst]
    rcases hdecides with rfl | rfl | ⟨rfl, hrelays⟩
    · simp
    · simp [hports.1.symm, hports.2.2]
    · simp [hrelays]
  · rw [decides_planRules, not_or, not_or] at hdecides
    obtain ⟨hpublic, hadmin, hrelay⟩ := hdecides
    simp only [hpublic, hadmin, false_and, false_or]
    cases later with
    | nil =>
      simp only [List.flatMap_nil, firstMatch, Bool.false_eq_true, List.not_mem_nil, false_and,
        exists_false, or_false, false_iff]
      exact hrelay
    | cons second later =>
      rw [firstMatch_flatMap_planRules second later]
      simp only [hpublic, hadmin, false_and, false_or]
      tauto

/-- **A host after several ufw scripts**: all of them run to their ends exactly if no network of
their plans has a scope. Then a packet that the earlier rules of the host decide about is admitted
as before; any other one to the public port, from the networks of the first plan to the admin
console, and to the port of the relays if some plan has any. Running one of the scripts again
changes nothing. Assumed of ufw: a new rule is added at the end, be it that it differs from an
earlier one in its action only; one that is there is skipped; and the first rule that matches
decides.

**Proof sketch.** Rules are added at the end, and the first one that matches decides. -/
theorem ufwHistory_exact {first : DngConfig} {later : List DngConfig}
    (hkind : ∀ config ∈ first :: later, detectedKind config = FrontEnd.ufw.kind.value)
    (st : Ufw.State) :
    ((∃ st', ufwHistory st (first :: later) = some st') ↔
      ∀ config ∈ first :: later, Unscoped config) ∧
    ∀ st', ufwHistory st (first :: later) = some st' →
      (∀ a port, st'.admits a port = true ↔
        if decides IpNetwork.contains st.rules a port then
          firstMatch IpNetwork.contains st.rules a port = true
        else
          port = publicPort ∨
          (port = adminPort ∧ ∃ lb, first.answers.loadBalancer = some lb ∧
            ∃ n ∈ lb.trustedProxies, n.contains a = true) ∨
          (port = relayPort ∧
            ∃ config ∈ first :: later, config.requiresExtraDnsContainer = true)) ∧
      ∀ config ∈ first :: later, ufwHistory st' [config] = some st' := by
  refine ⟨?_, fun st' hst' => ?_⟩
  · constructor
    · rintro ⟨st', hst'⟩
      exact ((ufwHistory_eq_some_iff hkind st st').mp hst').1
    · intro hscope
      exact ⟨_, (ufwHistory_eq_some_iff hkind st _).mpr ⟨hscope, rfl⟩⟩
  obtain ⟨hscope, rfl⟩ := (ufwHistory_eq_some_iff hkind st st').mp hst'
  refine ⟨fun a port => ?_, fun config hconfig => ?_⟩
  · rw [Ufw.State.admits, if_pos (by simp), firstMatch_foldl_addRule, firstMatch_append]
    split_ifs
    · rfl
    · rw [firstMatch_flatMap_planRules, any_adminNetworks_iff]
  · have hone : ∀ c ∈ [config], detectedKind c = FrontEnd.ufw.kind.value := by
      intro c hc
      rw [List.mem_singleton.mp hc]
      exact hkind config hconfig
    refine (ufwHistory_eq_some_iff hone _ _).mpr ⟨?_, ?_⟩
    · intro c hc
      rw [List.mem_singleton.mp hc]
      exact hscope config hconfig
    · have hthere : planRules config ⊆
          ((first :: later).flatMap planRules).foldl addRule st.rules := by
        intro r hr
        exact mem_foldl_addRule.mpr (Or.inr (List.mem_flatMap.mpr ⟨config, hconfig, hr⟩))
      simp only [List.flatMap_cons, List.flatMap_nil, List.append_nil]
      rw [← List.flatMap_cons, foldl_addRule_of_subset hthere]
      simp

/-- A host that admits SSH, on which the script of a plan with a load balancer is run, and then that
of a plan without: SSH is still admitted, and the load balancer keeps its access. -/
theorem ufwHistory_exact_dropped :
    ∃ st', ufwHistory ⟨[⟨true, none, 22⟩], false⟩ [proxyPlan .ufw [.v4 tenNetwork],
        buildConfig (makeSnapshot {}) (makeAnswers {})] = some st' ∧
      st'.admits tenHost 22 = true ∧ st'.admits tenHost adminPort = true := by
  have hkind : ∀ config ∈ [proxyPlan .ufw [.v4 tenNetwork],
      buildConfig (makeSnapshot {}) (makeAnswers {})],
      detectedKind config = FrontEnd.ufw.kind.value := by decide
  have hscope : ∀ config ∈ [proxyPlan .ufw [.v4 tenNetwork],
      buildConfig (makeSnapshot {}) (makeAnswers {})], Unscoped config := by
    intro config hconfig
    rcases List.mem_pair.mp hconfig with rfl | rfl
    · exact unscoped_ten .ufw
    · exact unscoped_iff.mpr nofun
  obtain ⟨hruns, hpolicy⟩ := ufwHistory_exact hkind ⟨[⟨true, none, 22⟩], false⟩
  obtain ⟨st', hst'⟩ := hruns.mpr hscope
  obtain ⟨hadmits, -⟩ := hpolicy st' hst'
  refine ⟨st', hst', ?_, ?_⟩
  · exact (hadmits tenHost 22).mpr (by decide)
  · refine (hadmits tenHost adminPort).mpr ?_
    rw [if_neg (by decide)]
    exact Or.inr (Or.inl ⟨rfl, _, rfl, .v4 tenNetwork, List.mem_singleton_self _, by decide⟩)

/-! ## firewalld -/

/-- The state of a host after the scripts of plans for firewalld, one after the other; none if one
of them does not run to its end. -/
def firewalldHistory (st : Firewalld.State) (plans : List DngConfig) : Option Firewalld.State :=
  plans.foldlM (fun st config => (scriptCommands .firewalld config).bind (Firewalld.runFrom st)) st

/-- What the script of a plan opens: the networks of the plan are trusted, and two ports are
public. -/
def planZones (config : DngConfig) : Zones IpNetwork :=
  ⟨adminNetworks config,
    publicPort :: if config.requiresExtraDnsContainer then [relayPort] else []⟩

/-- The zones once the changes of a script have been made. -/
lemma foldl_firewalldChanges (ns : List IpNetwork) (relays : Bool) (z : Zones IpNetwork) :
    (firewalldChanges ns relays).foldl Firewalld.change z = ⟨z.trusted ++ ns,
      z.ports ++ publicPort :: if relays then [relayPort] else []⟩ := by
  by_cases hne : ns = []
  · subst hne
    cases relays <;> simp [firewalldChanges, Firewalld.change, publicPort, relayPort]
  · rw [firewalldChanges, if_neg hne, List.cons_append, List.foldl_cons, List.cons_append,
      List.foldl_cons, List.foldl_append, foldl_addSource]
    cases relays <;> simp [Firewalld.change, publicPort, relayPort]

/-- **One script** adds to the permanent zones, and puts them into effect. -/
lemma firewalldHistory_cons_of_unscoped {config : DngConfig}
    (hkind : detectedKind config = FrontEnd.firewalld.kind.value) (hscope : Unscoped config)
    (st : Firewalld.State) (plans : List DngConfig) :
    firewalldHistory st (config :: plans) =
      firewalldHistory
        ⟨⟨st.permanent.trusted ++ (planZones config).trusted,
            st.permanent.ports ++ (planZones config).ports⟩,
          ⟨st.permanent.trusted ++ (planZones config).trusted,
            st.permanent.ports ++ (planZones config).ports⟩⟩ plans := by
  have hparse := mapM_parse_firewalld config.requiresExtraDnsContainer (unscoped_iff.mp hscope)
  rw [firewalldHistory, List.foldlM_cons, scriptCommands_of_unscoped hkind hscope]
  simp only [Option.bind_some, Option.bind_eq_bind, foldl_firewalldChanges,
    Firewalld.runFrom_of_mapM (reload_notMem_firewalldChanges _) hparse st]
  rfl

/-- A script with a scoped network is not run to its end. -/
lemma firewalldHistory_cons_of_scoped {config : DngConfig}
    (hkind : detectedKind config = FrontEnd.firewalld.kind.value) (hscope : ¬ Unscoped config)
    (st : Firewalld.State) (plans : List DngConfig) :
    firewalldHistory st (config :: plans) = none := by
  have hstep : (scriptCommands .firewalld config).bind (Firewalld.runFrom st) = none :=
    bind_scriptCommands_of_scoped hkind hscope fun cmds hnone =>
      Firewalld.runFrom_eq_none_iff.mpr
        (Option.map_eq_none_iff.mp (Option.map_eq_none_iff.mp hnone))
  rw [firewalldHistory, List.foldlM_cons, hstep]
  rfl

/-- **All scripts** run to their ends exactly if no network has a scope. -/
lemma exists_firewalldHistory_iff {plans : List DngConfig}
    (hkind : ∀ config ∈ plans, detectedKind config = FrontEnd.firewalld.kind.value)
    (st : Firewalld.State) :
    (∃ st', firewalldHistory st plans = some st') ↔ ∀ config ∈ plans, Unscoped config := by
  induction plans generalizing st with
  | nil => simp [firewalldHistory]
  | cons config plans ih =>
    obtain ⟨hfirst, hlater⟩ := List.forall_mem_cons.mp hkind
    by_cases hscope : Unscoped config
    · rw [firewalldHistory_cons_of_unscoped hfirst hscope, ih hlater, List.forall_mem_cons,
        and_iff_right hscope]
    · rw [firewalldHistory_cons_of_scoped hfirst hscope]
      simp [hscope]

/-- **What a host admits after several scripts**: what its permanent zones admitted before, and what
any of the scripts opens.

**Proof sketch.** Induction on the plans. A script adds to the permanent zones, and leaves them in
effect. -/
lemma admits_of_firewalldHistory {plans : List DngConfig}
    (hkind : ∀ config ∈ plans, detectedKind config = FrontEnd.firewalld.kind.value)
    {st st' : Firewalld.State} (h : firewalldHistory st plans = some st')
    (heffect : plans = [] → st.runtime = st.permanent) (a : IpAddress) (port : ℕ) :
    st'.runtime = st'.permanent ∧
    (st'.admits a port = true ↔ st.permanent.admits IpNetwork.contains a port = true ∨
      ∃ config ∈ plans, (planZones config).admits IpNetwork.contains a port = true) := by
  induction plans generalizing st with
  | nil =>
    obtain rfl : st = st' := Option.some.inj h
    simp [Firewalld.State.admits, heffect rfl]
  | cons config plans ih =>
    obtain ⟨hfirst, hlater⟩ := List.forall_mem_cons.mp hkind
    have hscope : Unscoped config := by
      by_contra hscope
      rw [firewalldHistory_cons_of_scoped hfirst hscope] at h
      cases h
    rw [firewalldHistory_cons_of_unscoped hfirst hscope] at h
    obtain ⟨hruntime, hadmits⟩ := ih hlater h fun _ => rfl
    refine ⟨hruntime, ?_⟩
    rw [hadmits, Zones.admits_append, Bool.or_eq_true, List.exists_mem_cons_iff, or_assoc]

/-- **A host after several firewalld scripts**: all of them run to their ends exactly if no network
of their plans has a scope. Then a packet is admitted if the permanent zones of the host admitted it
before; if it goes to the public port; if it comes from a network of any of the plans, whatever its
port is; or if it goes to the port of the relays, some plan having any. Zones that were in effect
without being permanent do not matter. Of zones, the sources of the trusted one and the ports of the
default one are modelled. -/
theorem firewalldHistory_exact {first : DngConfig} {later : List DngConfig}
    (hkind : ∀ config ∈ first :: later, detectedKind config = FrontEnd.firewalld.kind.value)
    (st : Firewalld.State) :
    ((∃ st', firewalldHistory st (first :: later) = some st') ↔
      ∀ config ∈ first :: later, Unscoped config) ∧
    ∀ st', firewalldHistory st (first :: later) = some st' → ∀ a port,
      (st'.admits a port = true ↔
        st.permanent.admits IpNetwork.contains a port = true ∨
        port = publicPort ∨
        (∃ config ∈ first :: later, ∃ lb, config.answers.loadBalancer = some lb ∧
          ∃ n ∈ lb.trustedProxies, n.contains a = true) ∨
        (port = relayPort ∧
          ∃ config ∈ first :: later, config.requiresExtraDnsContainer = true)) := by
  refine ⟨exists_firewalldHistory_iff hkind st, fun st' hst' a port => ?_⟩
  obtain ⟨-, hadmits⟩ := admits_of_firewalldHistory hkind hst' nofun a port
  have hopens : ∀ config : DngConfig, (planZones config).admits IpNetwork.contains a port = true ↔
      port = publicPort ∨ (∃ lb, config.answers.loadBalancer = some lb ∧
        ∃ n ∈ lb.trustedProxies, n.contains a = true) ∨
      (port = relayPort ∧ config.requiresExtraDnsContainer = true) := by
    intro config
    rw [← any_adminNetworks_iff, planZones, Zones.admits]
    simp only [Bool.or_eq_true, decide_eq_true_eq, List.mem_cons, List.mem_ite_nil_right,
      List.not_mem_nil, or_false]
    tauto
  rw [hadmits]
  refine or_congr_right ?_
  simp only [hopens]
  constructor
  · rintro ⟨config, hconfig, hpublic | hnetwork | ⟨hport, hrelays⟩⟩
    · exact Or.inl hpublic
    · exact Or.inr (Or.inl ⟨config, hconfig, hnetwork⟩)
    · exact Or.inr (Or.inr ⟨hport, config, hconfig, hrelays⟩)
  · rintro (hpublic | ⟨config, hconfig, hnetwork⟩ | ⟨hport, config, hconfig, hrelays⟩)
    · exact ⟨first, List.mem_cons_self, Or.inl hpublic⟩
    · exact ⟨config, hconfig, Or.inr (Or.inl hnetwork)⟩
    · exact ⟨config, hconfig, Or.inr (Or.inr ⟨hport, hrelays⟩)⟩

/-- The hosts of a load balancer that is dropped from the plan are still admitted to every port,
such as that of SSH. -/
theorem firewalldHistory_exact_dropped :
    ∃ st', firewalldHistory .fresh [proxyPlan .firewalld [.v4 tenNetwork],
        buildConfig (makeSnapshot { firewall := .detected ⟨.firewalld, true⟩ }) (makeAnswers {})] =
          some st' ∧
      st'.admits tenHost 22 = true := by
  have hkind : ∀ config ∈ [proxyPlan .firewalld [.v4 tenNetwork],
      buildConfig (makeSnapshot { firewall := .detected ⟨.firewalld, true⟩ }) (makeAnswers {})],
      detectedKind config = FrontEnd.firewalld.kind.value := by decide
  have hscope : ∀ config ∈ [proxyPlan .firewalld [.v4 tenNetwork],
      buildConfig (makeSnapshot { firewall := .detected ⟨.firewalld, true⟩ }) (makeAnswers {})],
      Unscoped config := by
    intro config hconfig
    rcases List.mem_pair.mp hconfig with rfl | rfl
    · refine unscoped_iff.mpr fun n hn => ?_
      rw [List.mem_singleton.mp hn]
      rfl
    · exact unscoped_iff.mpr nofun
  obtain ⟨hruns, hpolicy⟩ := firewalldHistory_exact hkind .fresh
  obtain ⟨st', hst'⟩ := hruns.mpr hscope
  refine ⟨st', hst', (hpolicy st' hst' tenHost 22).mpr ?_⟩
  exact Or.inr (Or.inr (Or.inl ⟨_, List.mem_cons_self, _, rfl, .v4 tenNetwork,
    List.mem_singleton_self _, by decide⟩))

end DngPreflight.FirewallRules
