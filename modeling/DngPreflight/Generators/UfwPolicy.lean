import DngPreflight.Generators.FirewallEffect
import DngPreflight.Generators.FirewallEquivalence

set_option relaxedAutoImplicit false
set_option autoImplicit false

/-!
# The ufw script

The policy that the ufw script sets up on a host without earlier rules, and the policy after the
scripts of two plans were run one after the other, be it that one of them stops before its end.

## Main definitions

* `DngPreflight.FirewallRules.Admitted` — the packets that a plan means to admit.
* `DngPreflight.FirewallRules.ExactPolicy` — the script admits exactly these.
* `DngPreflight.FirewallRules.policyAfter` — the policy after two scripts.
* `DngPreflight.FirewallRules.RerunAgrees` — it agrees with the one after the second script alone.
* `DngPreflight.FirewallRules.Covered` — the addresses of some networks.

## Main results

* `DngPreflight.FirewallRules.firstMatch_ufwRules_eq` — what the rules of a script admit.
* `DngPreflight.FirewallRules.exactPolicy_iff` — when the policy is exact.
* `DngPreflight.FirewallRules.rerunAgrees_iff` — when running an earlier script makes no
  difference.
-/

namespace DngPreflight.FirewallRules

open Text Net Shell PacketFilter

/-! ## One script -/

/-- The port of clients. -/
def publicPort : ℕ := 443

/-- The port of RDP clients. -/
def relayPort : ℕ := 3389

/-- The packets that a plan means to admit: clients to the public port, trusted proxies to the admin
console, and RDP clients if the plan has relays for them. -/
def Admitted (config : DngConfig) (a : IpAddress) (port : ℕ) : Prop :=
  port = publicPort ∨
  (port = adminPort ∧ ∃ lb, config.answers.loadBalancer = some lb ∧
    ∃ n ∈ lb.trustedProxies, n.contains a = true) ∨
  (port = relayPort ∧ config.requiresExtraDnsContainer = true)

/-- The script runs to its end, and its policy admits exactly the packets that the plan means to
admit; without a load balancer, none to the admin console. -/
def ExactPolicy (config : DngConfig) : Prop :=
  ∃ admits, policy config = some admits ∧
    (∀ a port, admits a port = true ↔ Admitted config a port) ∧
    (config.answers.loadBalancer = none → ∀ a, admits a adminPort = false)

section Rules

variable {ns : List IpNetwork} {relays : Bool} {a : IpAddress} {port : ℕ}

/-- The rules for the networks are about the admin port only. -/
lemma firstMatch_admins_of_port_ne (h : port ≠ adminPort)
    (rs : List (PacketFilter.Rule IpNetwork)) :
    firstMatch IpNetwork.contains (ns.map (fun n => ⟨true, some n, adminPort⟩) ++ rs) a port =
      firstMatch IpNetwork.contains rs a port := by
  refine firstMatch_append_of_not_matches rs fun r hr => ?_
  obtain ⟨n, -, rfl⟩ := List.mem_map.mp hr
  simp [PacketFilter.Rule.matches, h.symm]

/-- **What the rules of a script admit**: the public port to everybody, the admin port to the
networks, and the port of the relays to everybody if there are any.

**Proof sketch.** One case for each port. The rules for the networks stand before the rule that
denies the admin port to the others. -/
lemma firstMatch_ufwRules_eq :
    firstMatch IpNetwork.contains (ufwRules ns relays) a port =
      (decide (port = publicPort) || (decide (port = adminPort) && ns.any (·.contains a)) ||
        (decide (port = relayPort) && relays)) := by
  by_cases hadmin : port = adminPort
  · rw [hadmin, firstMatch_ufwRules]
    simp [publicPort, relayPort, adminPort]
  by_cases hpublic : port = publicPort
  · subst hpublic
    rfl
  have hskip : firstMatch IpNetwork.contains (ufwRules ns relays) a port =
      firstMatch IpNetwork.contains
        ((if relays then [⟨true, none, relayPort⟩] else []) ++ [⟨false, none, adminPort⟩])
        a port := by
    have hfirst : (443 : ℕ) ≠ port := fun h => hpublic h.symm
    rw [ufwRules, List.cons_append, firstMatch_cons_of_port_ne _ hfirst,
      firstMatch_admins_of_port_ne hadmin]
    rfl
  rw [hskip]
  by_cases hrelay : port = relayPort
  · subst hrelay
    cases relays <;> rfl
  · have hne : relayPort ≠ port := fun h => hrelay h.symm
    have hne' : adminPort ≠ port := fun h => hadmin h.symm
    cases relays <;>
      simp [firstMatch, PacketFilter.Rule.matches, hpublic, hadmin, hrelay, hne, hne']

end Rules

variable {config : DngConfig}

/-- The policy of the ufw script. -/
lemma policy_ufw (hkind : detectedKind config = FrontEnd.ufw.kind.value) :
    policy config = FrontEnd.ufw.policy ((adminNetworks config).map IpNetwork.str)
      config.requiresExtraDnsContainer := by
  rw [policy, frontEnd_eq hkind]
  rfl

/-- The networks of a plan that contain an address. -/
lemma any_adminNetworks_iff {a : IpAddress} :
    (adminNetworks config).any (·.contains a) = true ↔
      ∃ lb, config.answers.loadBalancer = some lb ∧
        ∃ n ∈ lb.trustedProxies, n.contains a = true := by
  unfold adminNetworks
  cases config.answers.loadBalancer <;> simp

/-- **When the policy is exact**: exactly if no network of the load balancer has a scope.

**Proof sketch.** With a scope the script stops before its end. Without one its policy is that of
its rules. -/
theorem exactPolicy_iff (hkind : detectedKind config = FrontEnd.ufw.kind.value) :
    ExactPolicy config ↔ Unscoped config := by
  rw [ExactPolicy, policy_ufw hkind, unscoped_iff]
  constructor
  · rintro ⟨admits, hadmits, -⟩
    by_contra hscope
    rw [policy_of_scoped .ufw _ hscope] at hadmits
    cases hadmits
  · intro hscope
    refine ⟨_, policy_eq_denoted _ .ufw hscope, fun a port => ?_, fun hnone a => ?_⟩
    · rw [FrontEnd.denoted, firstMatch_ufwRules_eq]
      simp only [Bool.or_eq_true, Bool.and_eq_true, decide_eq_true_eq, any_adminNetworks_iff,
        Admitted, or_assoc]
    · rw [FrontEnd.denoted, firstMatch_ufwRules]
      simp [adminNetworks, hnone]

/-- The policy with a private network is exact. -/
theorem exactPolicy_iff_ten : ExactPolicy (proxyPlan .ufw [.v4 tenNetwork]) :=
  (exactPolicy_iff rfl).mpr (unscoped_ten .ufw)

/-- With the link-local network of an interface there is no policy. -/
theorem interfaceNetwork_not_exact :
    policy (proxyPlan .ufw [.v6 interfaceNetwork]) = none ∧
      ¬ ExactPolicy (proxyPlan .ufw [.v6 interfaceNetwork]) := by
  have hnone : policy (proxyPlan .ufw [.v6 interfaceNetwork]) = none := by
    rw [policy_ufw rfl]
    exact policy_of_scoped .ufw _ fun h => absurd (h _ (List.mem_singleton_self _)) (by decide)
  refine ⟨hnone, ?_⟩
  rintro ⟨admits, hadmits, -⟩
  rw [hnone] at hadmits
  cases hadmits

/-! ## Two scripts -/

/-- The policy after the scripts of two plans were run on a host without earlier rules, `active`
telling whether ufw was enabled there, be it that one of them stops before its end. None if what is
no simple command comes before that. -/
def policyAfter (active : Bool) (first second : DngConfig) : Option (IpAddress → ℕ → Bool) := do
  let earlier ← effective Ufw.parse (commandList (rulesText .ufw first))
  let later ← effective Ufw.parse (commandList (rulesText .ufw second))
  return (later.foldl Ufw.exec (earlier.foldl Ufw.exec ⟨[], active⟩)).admits

/-- After both scripts a packet to one of the three ports is admitted exactly if it is after the
second script on its own. -/
def RerunAgrees (active : Bool) (first second : DngConfig) : Prop :=
  ∃ p q, policyAfter active first second = some p ∧ leftPolicy active second = some q ∧
    ∀ a, ∀ port ∈ [publicPort, adminPort, relayPort], p a port = q a port

/-- An address is in one of the networks. -/
def Covered (ns : List IpNetwork) (a : IpAddress) : Prop := ∃ n ∈ ns, n.contains a = true

/-- The script opens the port of RDP clients, which it comes to only without scopes. -/
def OpensRelays (config : DngConfig) : Prop :=
  Unscoped config ∧ config.requiresExtraDnsContainer = true

/-- Whether the relays are opened is decided by the scope and the relays. -/
instance : Decidable (OpensRelays config) := inferInstanceAs (Decidable (_ ∧ _))

section Rules

variable {a : IpAddress} (rs : List (PacketFilter.Rule IpNetwork))

/-- The rules that are added decide about the public port. -/
lemma firstMatch_addedRules_publicPort :
    firstMatch IpNetwork.contains (addedRules config ++ rs) a publicPort = true := by
  unfold addedRules
  split_ifs <;> rfl

/-- Without scopes, the rules that are added decide about the admin port, which they allow or deny
to everybody. With a scope they leave it to the rules after them for other addresses. -/
lemma firstMatch_addedRules_adminPort :
    firstMatch IpNetwork.contains (addedRules config ++ rs) a adminPort =
      ((reachedNetworks config).any (·.contains a) ||
        (!decide (Unscoped config) && firstMatch IpNetwork.contains rs a adminPort)) := by
  unfold addedRules
  split_ifs with h
  · have hdeny : (⟨false, none, adminPort⟩ : PacketFilter.Rule IpNetwork) ∈
        ufwRules (adminNetworks config) config.requiresExtraDnsContainer := by
      simp [ufwRules]
    rw [firstMatch_append_of_matches rs ⟨_, hdeny, rfl⟩, firstMatch_ufwRules,
      reachedNetworks_of_unscoped h, decide_eq_true h, Bool.not_true, Bool.false_and, Bool.or_false]
  · rw [firstMatch_leadRules, decide_eq_false h, Bool.not_false, Bool.true_and]

/-- The rules for clients and networks leave the port of the relays to the rules after them. -/
lemma firstMatch_leadRules_relayPort (ns : List IpNetwork) :
    firstMatch IpNetwork.contains (leadRules ns ++ rs) a relayPort =
      firstMatch IpNetwork.contains rs a relayPort := by
  refine firstMatch_append_of_not_matches rs fun r hr => ?_
  simp only [leadRules, List.mem_cons, List.mem_map] at hr
  rcases hr with rfl | ⟨n, -, rfl⟩ <;> rfl

/-- The rules of a script open the port of the relays, or leave it to the rules after them. -/
lemma firstMatch_ufwRules_relayPort (ns : List IpNetwork) (relays : Bool) :
    firstMatch IpNetwork.contains (ufwRules ns relays ++ rs) a relayPort =
      (relays || firstMatch IpNetwork.contains rs a relayPort) := by
  have hsplit : ufwRules ns relays ++ rs = leadRules ns ++
      ((if relays then [⟨true, none, relayPort⟩] else []) ++ ⟨false, none, adminPort⟩ :: rs) := by
    simp [ufwRules, leadRules, relayPort]
  rw [hsplit, firstMatch_leadRules_relayPort]
  cases relays <;> rfl

/-- The rules that are added open the port of the relays, or leave it to the rules after them. -/
lemma firstMatch_addedRules_relayPort :
    firstMatch IpNetwork.contains (addedRules config ++ rs) a relayPort =
      (decide (OpensRelays config) || firstMatch IpNetwork.contains rs a relayPort) := by
  unfold addedRules
  by_cases h : Unscoped config
  · have hopens : decide (OpensRelays config) = config.requiresExtraDnsContainer := by
      simp [OpensRelays, h]
    rw [if_pos h, firstMatch_ufwRules_relayPort, hopens]
  · have hopens : decide (OpensRelays config) = false := decide_eq_false fun ho => h ho.1
    rw [if_neg h, firstMatch_leadRules_relayPort, hopens, Bool.false_or]

end Rules

variable {active : Bool} {first second : DngConfig}

/-- The policies after both scripts and after the second script on its own: those of the rules that
are added, once ufw is enabled. -/
lemma exists_policies (hkind : detectedKind first = FrontEnd.ufw.kind.value)
    (hkind' : detectedKind second = FrontEnd.ufw.kind.value)
    (hread : policyAfter active first second ≠ none) :
    ∃ p q, policyAfter active first second = some p ∧ leftPolicy active second = some q ∧
      (∀ a port, p a port = if (active || decide (Unscoped first)) || decide (Unscoped second) then
        firstMatch IpNetwork.contains (addedRules first ++ addedRules second) a port else true) ∧
      (∀ a port, q a port = if active || decide (Unscoped second) then
        firstMatch IpNetwork.contains (addedRules second ++ []) a port else true) := by
  have hfirst : effective Ufw.parse (commandList (rulesText .ufw first)) ≠ none := by
    intro hnone
    exact hread (by rw [policyAfter, hnone]; rfl)
  have hsecond : effective Ufw.parse (commandList (rulesText .ufw second)) ≠ none := by
    intro hnone
    refine hread ?_
    rw [policyAfter, hnone]
    cases effective Ufw.parse (commandList (rulesText .ufw first)) <;> rfl
  obtain ⟨cs, hcs, hexec⟩ := exists_ufwCommands hkind hfirst
  obtain ⟨ds, hds, hexec'⟩ := exists_ufwCommands hkind' hsecond
  refine ⟨_, (ds.foldl Ufw.exec ⟨[], active⟩).admits, by rw [policyAfter, hcs, hds]; rfl,
    ?_, ?_, ?_⟩
  · rw [leftPolicy, frontEnd_eq hkind', Option.bind_some, FrontEnd.leave, hds, Option.map_some]
  · intro a port
    rw [hexec, hexec', Ufw.State.admits, ← List.foldl_append, firstMatch_foldl_addRule,
      List.nil_append]
  · intro a port
    rw [hexec', Ufw.State.admits, firstMatch_foldl_addRule, List.nil_append, List.append_nil]

/-- **What is admitted to the three ports** after both scripts and after the second script on its
own. Everybody is as long as ufw is not enabled. -/
lemma exists_verdicts (hkind : detectedKind first = FrontEnd.ufw.kind.value)
    (hkind' : detectedKind second = FrontEnd.ufw.kind.value)
    (hread : policyAfter active first second ≠ none) :
    ∃ p q, policyAfter active first second = some p ∧ leftPolicy active second = some q ∧ ∀ a,
      (p a publicPort = true ∧ q a publicPort = true) ∧
      (p a adminPort = true ↔ ¬ ((active = true ∨ Unscoped second) ∨ Unscoped first) ∨
        Covered (reachedNetworks first) a ∨
          ¬ Unscoped first ∧ Covered (reachedNetworks second) a) ∧
      (q a adminPort = true ↔ ¬ (active = true ∨ Unscoped second) ∨
        Covered (reachedNetworks second) a) ∧
      (p a relayPort = true ↔ ¬ ((active = true ∨ Unscoped second) ∨ Unscoped first) ∨
        OpensRelays first ∨ OpensRelays second) ∧
      (q a relayPort = true ↔ ¬ (active = true ∨ Unscoped second) ∨ OpensRelays second) := by
  obtain ⟨p, q, hp, hq, hboth, hsecond⟩ := exists_policies hkind hkind' hread
  have hite : ∀ {b c : Bool}, (if b then c else true) = true ↔ ¬ b = true ∨ c = true := by
    intro b c
    cases b <;> simp
  have hdefault : ∀ a port, firstMatch IpNetwork.contains [] a port = false := fun _ _ => rfl
  refine ⟨p, q, hp, hq, fun a => ⟨⟨?_, ?_⟩, ?_, ?_, ?_, ?_⟩⟩
  · rw [hboth, hite, firstMatch_addedRules_publicPort]
    exact .inr rfl
  · rw [hsecond, hite, firstMatch_addedRules_publicPort]
    exact .inr rfl
  · rw [hboth, hite, firstMatch_addedRules_adminPort, ← List.append_nil (addedRules second),
      firstMatch_addedRules_adminPort, hdefault]
    simp [Covered, or_right_comm]
  · rw [hsecond, hite, firstMatch_addedRules_adminPort, hdefault]
    simp [Covered]
  · rw [hboth, hite, firstMatch_addedRules_relayPort, ← List.append_nil (addedRules second),
      firstMatch_addedRules_relayPort, hdefault]
    simp [or_right_comm]
  · rw [hsecond, hite, firstMatch_addedRules_relayPort, hdefault]
    simp

/-- If the public port is open after both, the policies agree if they do on the other two ports. -/
lemma rerunAgrees_iff_of_public {p q : IpAddress → ℕ → Bool}
    (hp : policyAfter active first second = some p) (hq : leftPolicy active second = some q)
    (hpublic : ∀ a, p a publicPort = true ∧ q a publicPort = true) :
    RerunAgrees active first second ↔
      ∀ a, p a adminPort = q a adminPort ∧ p a relayPort = q a relayPort := by
  rw [RerunAgrees, hp, hq]
  constructor
  · rintro ⟨_, _, ⟨⟩, ⟨⟩, h⟩ a
    exact ⟨h a adminPort (by simp), h a relayPort (by simp)⟩
  · intro h
    refine ⟨p, q, rfl, rfl, fun a port hport => ?_⟩
    simp only [List.mem_cons, List.not_mem_nil, or_false] at hport
    rcases hport with rfl | rfl | rfl
    · rw [(hpublic a).1, (hpublic a).2]
    · exact (h a).1
    · exact (h a).2

/-- **When running an earlier script makes no difference.** If the second script leaves ufw enabled:
exactly if the networks that the first script comes to contain no address that those of the second
do not contain, and without scopes the same addresses, and if the second script opens the port of
RDP clients if the first one does. If it leaves ufw disabled, so that everybody is admitted: exactly
if the first one has a scope, too, or admits everybody. The commands in which the first scopes stand
must be simple ones.

**Proof sketch.** Without scopes the rules of the first script decide about the admin port, since
they end with one that denies it to everybody. With a scope they leave it to the second script for
the addresses that they do not admit. The port of RDP clients stays open if either script opens
it. -/
theorem rerunAgrees_iff (hkind : detectedKind first = FrontEnd.ufw.kind.value)
    (hkind' : detectedKind second = FrontEnd.ufw.kind.value)
    (hread : policyAfter active first second ≠ none) :
    RerunAgrees active first second ↔
      if active = true ∨ Unscoped second then
        (∀ a, Covered (reachedNetworks first) a → Covered (reachedNetworks second) a) ∧
        (Unscoped first → ∀ a, Covered (reachedNetworks second) a →
          Covered (reachedNetworks first) a) ∧
        (OpensRelays first → OpensRelays second)
      else
        Unscoped first → (∀ a, Covered (reachedNetworks first) a) ∧ OpensRelays first := by
  obtain ⟨p, q, hp, hq, hports⟩ := exists_verdicts hkind hkind' hread
  have hagrees := rerunAgrees_iff_of_public hp hq fun a => (hports a).1
  have hverdicts := fun a =>
    and_congr (Bool.eq_iff_iff.trans (iff_congr (hports a).2.1 (hports a).2.2.1))
      (Bool.eq_iff_iff.trans (iff_congr (hports a).2.2.2.1 (hports a).2.2.2.2))
  rw [hagrees, forall_congr' hverdicts]
  have haddress : Nonempty IpAddress := ⟨.v4 0⟩
  have hclosed : ¬ Unscoped second → ¬ OpensRelays second := fun h hopens => h hopens.1
  by_cases henabled : active = true ∨ Unscoped second
  · simp only [henabled, true_or, not_true_eq_false, false_or, if_true, or_iff_right_iff_imp]
    rw [forall_and, forall_const]
    by_cases hscope : Unscoped first
    · simp only [hscope, not_true_eq_false, false_and, or_false, true_implies,
        iff_iff_implies_and_implies, forall_and, and_assoc]
    · simp only [hscope, not_false_eq_true, true_and, or_iff_right_iff_imp, false_implies]
  · simp only [henabled, false_or, not_false_eq_true, true_or, iff_true, if_false]
    rw [forall_and, forall_const]
    by_cases hscope : Unscoped first
    · simp [hscope, hclosed fun h => henabled (.inr h)]
    · simp [hscope]

/-- If the networks of both plans are written in plain characters, there is a policy after both
scripts. -/
lemma policyAfter_ne_none (hkind : detectedKind first = FrontEnd.ufw.kind.value)
    (hkind' : detectedKind second = FrontEnd.ufw.kind.value)
    (h : ∀ n ∈ adminNetworks first, ∀ c ∈ n.str, isPlainChar c)
    (h' : ∀ n ∈ adminNetworks second, ∀ c ∈ n.str, isPlainChar c) (active : Bool) :
    policyAfter active first second ≠ none := by
  have hfirst : effective Ufw.parse (commandList (rulesText .ufw first)) ≠ none :=
    effective_ne_none hkind h
  have hsecond : effective Ufw.parse (commandList (rulesText .ufw second)) ≠ none :=
    effective_ne_none hkind' h'
  obtain ⟨cs, hcs⟩ := Option.ne_none_iff_exists'.mp hfirst
  obtain ⟨ds, hds⟩ := Option.ne_none_iff_exists'.mp hsecond
  rw [policyAfter, hcs, hds]
  exact Option.some_ne_none _

/-- Running the script of a plan twice makes no difference: with a private network, and with the
link-local network of an interface, at which the script stops both times. -/
theorem rerunAgrees_iff_ten :
    RerunAgrees false (proxyPlan .ufw [.v4 tenNetwork]) (proxyPlan .ufw [.v4 tenNetwork]) ∧
    RerunAgrees true (proxyPlan .ufw [.v6 interfaceNetwork])
      (proxyPlan .ufw [.v6 interfaceNetwork]) := by
  have hplain : ∀ n ∈ adminNetworks (proxyPlan .ufw [.v4 tenNetwork]), ∀ c ∈ n.str,
      isPlainChar c := fun n hn => isPlainChar_of_mem_str (unscoped_iff.mp (unscoped_ten .ufw) n hn)
  have hplain' := isPlainChar_interfaceNetwork (f := .ufw)
  constructor
  · refine (rerunAgrees_iff rfl rfl (policyAfter_ne_none rfl rfl hplain hplain false)).mpr ?_
    rw [if_pos (.inr (unscoped_ten .ufw))]
    exact ⟨fun _ => id, fun _ _ => id, id⟩
  · refine (rerunAgrees_iff rfl rfl (policyAfter_ne_none rfl rfl hplain' hplain' true)).mpr ?_
    rw [if_pos (.inl rfl)]
    exact ⟨fun _ => id, fun _ _ => id, id⟩

/-- Without scopes in either plan, the admin port is decided by the first script after both, and by
the second one on its own. -/
lemma exists_adminVerdicts (hkind : detectedKind first = FrontEnd.ufw.kind.value)
    (hkind' : detectedKind second = FrontEnd.ufw.kind.value) (h : Unscoped first)
    (h' : Unscoped second) (active : Bool) :
    ∃ p q, policyAfter active first second = some p ∧ leftPolicy active second = some q ∧ ∀ a,
      (p a adminPort = true ↔ Covered (reachedNetworks first) a) ∧
      (q a adminPort = true ↔ Covered (reachedNetworks second) a) := by
  have hread := policyAfter_ne_none hkind hkind'
    (fun n hn => isPlainChar_of_mem_str (unscoped_iff.mp h n hn))
    (fun n hn => isPlainChar_of_mem_str (unscoped_iff.mp h' n hn)) active
  obtain ⟨p, q, hp, hq, hports⟩ := exists_verdicts hkind hkind' hread
  refine ⟨p, q, hp, hq, fun a => ?_⟩
  obtain ⟨-, hadmin, hadmin', -⟩ := hports a
  rw [hadmin, hadmin']
  simp [h, h']

/-- A load balancer in 10.0.0.0/8 is added to the sample plan: after both scripts its hosts are
still denied the admin console, to which the second script on its own admits them. The load balancer
is dropped again: its hosts keep their access. -/
theorem addedProxies_not_agree :
    (∃ p q, policyAfter true (buildConfig (makeSnapshot {}) (makeAnswers {}))
        (proxyPlan .ufw [.v4 tenNetwork]) = some p ∧
      leftPolicy true (proxyPlan .ufw [.v4 tenNetwork]) = some q ∧
      p tenHost adminPort = false ∧ q tenHost adminPort = true) ∧
    (∀ active, ¬ RerunAgrees active (buildConfig (makeSnapshot {}) (makeAnswers {}))
      (proxyPlan .ufw [.v4 tenNetwork])) ∧
    (∀ active, ¬ RerunAgrees active (proxyPlan .ufw [.v4 tenNetwork])
      (buildConfig (makeSnapshot {}) (makeAnswers {}))) := by
  have hnil : Unscoped (buildConfig (makeSnapshot {}) (makeAnswers {})) := unscoped_iff.mpr nofun
  have hten : Covered (reachedNetworks (proxyPlan .ufw [.v4 tenNetwork])) tenHost :=
    ⟨_, List.mem_singleton_self _, by decide +kernel⟩
  have hnone : ¬ Covered (reachedNetworks (buildConfig (makeSnapshot {}) (makeAnswers {})))
      tenHost := nofun
  have hadded := exists_adminVerdicts rfl rfl hnil (unscoped_ten .ufw)
  have hdropped := exists_adminVerdicts rfl rfl (unscoped_ten .ufw) hnil
  refine ⟨?_, fun active => ?_, fun active => ?_⟩
  · obtain ⟨p, q, hp, hq, hports⟩ := hadded true
    exact ⟨p, q, hp, hq, Bool.eq_false_iff.mpr fun h => hnone ((hports _).1.mp h),
      (hports _).2.mpr hten⟩
  · obtain ⟨p, q, hp, hq, hports⟩ := hadded active
    rintro ⟨_, _, hp', hq', h⟩
    cases Option.some.inj (hp.symm.trans hp')
    cases Option.some.inj (hq.symm.trans hq')
    have hadmin := h tenHost adminPort (by simp)
    exact hnone ((hports _).1.mp (hadmin.trans ((hports _).2.mpr hten)))
  · obtain ⟨p, q, hp, hq, hports⟩ := hdropped active
    rintro ⟨_, _, hp', hq', h⟩
    cases Option.some.inj (hp.symm.trans hp')
    cases Option.some.inj (hq.symm.trans hq')
    have hadmin := h tenHost adminPort (by simp)
    exact hnone ((hports _).2.mp (hadmin.symm.trans ((hports _).1.mpr hten)))

end DngPreflight.FirewallRules
