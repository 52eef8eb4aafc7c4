import DngPreflight.Generators.FirewallPolicy

set_option relaxedAutoImplicit false
set_option autoImplicit false

/-!
# The two firewall scripts

The policies that the scripts of a plan for ufw and for firewalld set up. The one restricts the
trusted proxies to the port of the admin console, the other binds them to a zone that admits
everything.

## Main definitions

* `DngPreflight.FirewallRules.SamePolicy` — both scripts set up the same policy.

## Main results

* `DngPreflight.FirewallRules.denoted_eq_iff` — when the rules denote the same policy.
* `DngPreflight.FirewallRules.samePolicy_iff` — when the scripts set up the same policy.
-/

namespace DngPreflight.FirewallRules

open Text Net PacketFilter

/-- The plan with another detected firewall. -/
def withFirewall (config : DngConfig) (f : FrontEnd) : DngConfig :=
  { config with snapshot := { config.snapshot with firewall := .detected ⟨f.kind, true⟩ } }

/-- The scripts of the plan for both firewalls run to their ends, and after the one a packet is
admitted exactly if it is after the other. -/
def SamePolicy (config : DngConfig) : Prop :=
  ∃ p q, policy (withFirewall config .ufw) = some p ∧
    policy (withFirewall config .firewalld) = some q ∧ ∀ a port, p a port = q a port

section Denoted

variable {ns : List IpNetwork} (relays : Bool)

/-- Without networks, ufw admits the public ports. -/
lemma denoted_ufw_nil (a : IpAddress) (port : ℕ) :
    FrontEnd.denoted [] relays .ufw a port =
      decide (port = 443 ∨ (relays = true ∧ port = 3389)) := by
  by_cases h443 : port = 443
  · subst h443
    rfl
  · have hpublic : (443 : ℕ) ≠ port := fun h => h443 h.symm
    have hfirst : FrontEnd.denoted [] relays .ufw a port = firstMatch IpNetwork.contains
        ((if relays then [⟨true, none, 3389⟩] else []) ++ [⟨false, none, adminPort⟩]) a port :=
      firstMatch_cons_of_port_ne _ hpublic
    rw [hfirst]
    by_cases hrelay : port = 3389
    · subst hrelay
      cases relays <;> rfl
    · have hne : (3389 : ℕ) ≠ port := fun h => hrelay h.symm
      cases relays <;> simp [firstMatch, PacketFilter.Rule.matches, h443, hrelay, hne]

/-- Without networks, firewalld admits the public ports. -/
lemma denoted_firewalld_nil (a : IpAddress) (port : ℕ) :
    FrontEnd.denoted [] relays .firewalld a port =
      decide (port = 443 ∨ (relays = true ∧ port = 3389)) := by
  cases relays <;> simp [FrontEnd.denoted, firewalldChanges, Firewalld.change, Zones.admits]

/-- The ufw rules are about three ports only. -/
lemma denoted_ufw_ssh (a : IpAddress) : FrontEnd.denoted ns relays .ufw a 22 = false := by
  refine firstMatch_of_forall_port_ne fun r hr => ?_
  have hports : r.port = 443 ∨ r.port = adminPort ∨ r.port = 3389 := by
    simp only [ufwRules, List.cons_append, List.mem_cons, List.mem_append, List.mem_map,
      List.not_mem_nil, or_false] at hr
    rcases hr with rfl | ⟨n, -, rfl⟩ | hr | rfl
    · exact Or.inl rfl
    · exact Or.inr (Or.inl rfl)
    · split_ifs at hr
      · rw [List.mem_singleton.mp hr]
        exact Or.inr (Or.inr rfl)
      · cases hr
    · exact Or.inr (Or.inl rfl)
  rcases hports with h | h | h <;> rw [h] <;> decide

/-- The firewalld changes bind every network to the trusted zone, so that its addresses are admitted
to every port. -/
lemma denoted_firewalld_of_mem {n : IpNetwork} (hn : n ∈ ns) {a : IpAddress}
    (ha : n.contains a = true) (port : ℕ) :
    FrontEnd.denoted ns relays .firewalld a port = true := by
  have hne : ns ≠ [] := List.ne_nil_of_mem hn
  refine Zones.admits_of_mem_trusted (s := n) ?_ ha
  rw [firewalldChanges, if_neg hne, List.cons_append, List.foldl_cons, List.cons_append,
    List.foldl_cons, List.foldl_append, foldl_addSource]
  cases relays <;> simp [Firewalld.change, hn]

/-- **When the rules denote the same policy**: exactly when there are no networks. -/
lemma denoted_eq_iff :
    (∀ a port, FrontEnd.denoted ns relays .ufw a port =
      FrontEnd.denoted ns relays .firewalld a port) ↔ ns = [] := by
  constructor
  · intro h
    by_contra hne
    obtain ⟨n, hn⟩ := List.exists_mem_of_ne_nil _ hne
    obtain ⟨a, ha⟩ := n.exists_contains
    have h22 := h a 22
    rw [denoted_ufw_ssh, denoted_firewalld_of_mem relays hn ha] at h22
    cases h22
  · rintro rfl a port
    rw [denoted_ufw_nil, denoted_firewalld_nil]

end Denoted

variable {config : DngConfig}

/-- The policy of the plan for a firewall. -/
lemma policy_withFirewall (config : DngConfig) (f : FrontEnd) :
    policy (withFirewall config f) =
      f.policy ((adminNetworks config).map IpNetwork.str) config.requiresExtraDnsContainer := by
  have hkind : detectedKind (withFirewall config f) = f.kind.value := rfl
  rw [policy, frontEnd_eq hkind]
  rfl

/-- **When the scripts set up the same policy**: exactly when there is no load balancer whose
networks they would admit.

**Proof sketch.** The policies differ at port 22 for the first address of any network, which only
firewalld admits. With a scope in a network neither script runs to its end. -/
theorem samePolicy_iff (config : DngConfig) :
    SamePolicy config ↔
      ∀ lb, config.answers.loadBalancer = some lb → lb.trustedProxies = [] := by
  have hnets : (∀ lb, config.answers.loadBalancer = some lb → lb.trustedProxies = []) ↔
      adminNetworks config = [] := by
    unfold adminNetworks
    cases config.answers.loadBalancer <;> simp
  rw [hnets, SamePolicy, policy_withFirewall, policy_withFirewall]
  by_cases hscope : ∀ n ∈ adminNetworks config, n.scope = none
  · rw [policy_eq_denoted _ _ hscope, policy_eq_denoted _ _ hscope,
      ← denoted_eq_iff config.requiresExtraDnsContainer]
    constructor
    · rintro ⟨_, _, ⟨⟩, ⟨⟩, h⟩
      exact h
    · exact fun h => ⟨_, _, rfl, rfl, h⟩
  · constructor
    · rintro ⟨p, q, hp, -, -⟩
      rw [policy_of_scoped .ufw _ hscope] at hp
      cases hp
    · intro hnil
      rw [hnil] at hscope
      exact absurd (fun n hn => absurd hn List.not_mem_nil) hscope

/-- The address 10.0.0.1. -/
def tenHost : IpAddress := .v4 0x0A000001

/-- The sample plan with 10.0.0.0/8 behind the load balancer passes; firewalld admits an address of
it to the SSH port, and ufw does not. -/
theorem tenNetwork_not_samePolicy :
    validatePlan (proxyPlan .ufw [.v4 tenNetwork]) ∅ = .ok [] ∧
      validatePlan (proxyPlan .firewalld [.v4 tenNetwork]) ∅ = .ok [] ∧
      ¬ SamePolicy (proxyPlan .ufw [.v4 tenNetwork]) ∧
      ∃ p q, policy (withFirewall (proxyPlan .ufw [.v4 tenNetwork]) .ufw) = some p ∧
        policy (withFirewall (proxyPlan .ufw [.v4 tenNetwork]) .firewalld) = some q ∧
        p tenHost 22 = false ∧ q tenHost 22 = true := by
  have hscope : ∀ n ∈ [IpNetwork.v4 tenNetwork], n.scope = none := by decide
  have hpolicy : ∀ f, policy (withFirewall (proxyPlan .ufw [.v4 tenNetwork]) f) =
      some (f.denoted [.v4 tenNetwork] false) := fun f =>
    (policy_withFirewall _ f).trans (policy_eq_denoted false f hscope)
  have hufw : FrontEnd.denoted [.v4 tenNetwork] false .ufw tenHost 22 = false :=
    denoted_ufw_ssh false tenHost
  have hfirewalld : FrontEnd.denoted [.v4 tenNetwork] false .firewalld tenHost 22 = true :=
    denoted_firewalld_of_mem false (List.mem_singleton_self _) (by decide +kernel) 22
  refine ⟨by decide +kernel, by decide +kernel, ?_, _, _, hpolicy .ufw, hpolicy .firewalld, hufw,
    hfirewalld⟩
  rintro ⟨p, q, hp, hq, h⟩
  have hp := Option.some.inj (hp.symm.trans (hpolicy .ufw))
  have hq := Option.some.inj (hq.symm.trans (hpolicy .firewalld))
  have h22 := h tenHost 22
  rw [hp, hq, hufw, hfirewalld] at h22
  cases h22

end DngPreflight.FirewallRules
