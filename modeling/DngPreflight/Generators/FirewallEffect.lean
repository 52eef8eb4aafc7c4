import DngPreflight.Shell.FailStop
import DngPreflight.Generators.FirewallPolicy

set_option relaxedAutoImplicit false
set_option autoImplicit false

/-!
# What a firewall script leaves

A script that comes to a network with a scope stops there, since its front end accepts no such
source. What its commands have changed until then stays: rules of ufw, which are in effect if ufw
was enabled before, and permanent changes of firewalld, which are not in effect before a reload.

## Main definitions

* `DngPreflight.FirewallRules.reachedNetworks` — the networks before the first one with a scope.
* `DngPreflight.FirewallRules.leftPolicy` — the policy that a script leaves.
* `DngPreflight.FirewallRules.AdminClosed` — it admits no globally reachable address to the admin
  console.

## Main results

* `DngPreflight.FirewallRules.exists_ufwCommands`,
  `DngPreflight.FirewallRules.exists_firewalldCommands` — the commands that take effect.
* `DngPreflight.FirewallRules.adminClosed_iff` — when the admin console is closed.
-/

namespace DngPreflight.FirewallRules

open Text Net Shell PacketFilter

variable {config : DngConfig}

/-! ## The networks that a script comes to -/

/-- No network of the load balancer has a scope. -/
def Unscoped (config : DngConfig) : Prop :=
  ∀ lb, config.answers.loadBalancer = some lb → ∀ n ∈ lb.trustedProxies, n.scope = none

/-- The networks of a plan, be there a load balancer or not. -/
lemma unscoped_iff : Unscoped config ↔ ∀ n ∈ adminNetworks config, n.scope = none := by
  unfold Unscoped adminNetworks
  cases config.answers.loadBalancer <;> simp

/-- Whether no proxy has a scope is decided proxy by proxy. -/
instance : Decidable (Unscoped config) := decidable_of_iff _ unscoped_iff.symm

/-- The networks before the first one with a scope. -/
def reachedNetworks (config : DngConfig) : List IpNetwork :=
  (adminNetworks config).takeWhile fun n => n.scope.isNone

/-- The networks before the first one with a scope have none. -/
lemma scope_of_mem_reachedNetworks {n : IpNetwork} (hn : n ∈ reachedNetworks config) :
    n.scope = none := by
  have hscope : n.scope.isNone = true :=
    List.mem_takeWhile_imp (p := fun n : IpNetwork => n.scope.isNone) hn
  exact Option.isNone_iff_eq_none.mp hscope

/-- Without scopes, these are all networks. -/
lemma reachedNetworks_of_unscoped (h : Unscoped config) :
    reachedNetworks config = adminNetworks config :=
  List.takeWhile_eq_self_iff.mpr fun n hn =>
    Option.isNone_iff_eq_none.mpr (unscoped_iff.mp h n hn)

/-- After them there is a network with a scope, if any has one. -/
lemma exists_scoped (h : ¬ Unscoped config) : ∃ n after,
    adminNetworks config = reachedNetworks config ++ n :: after ∧ n.scope ≠ none := by
  obtain ⟨before, n, after, hsplit, hbefore, hn⟩ :=
    exists_first_scoped fun hall => h (unscoped_iff.mpr hall)
  have hreached : reachedNetworks config = before := by
    rw [reachedNetworks, hsplit, List.takeWhile_append_of_pos, List.takeWhile_cons_of_neg,
      List.append_nil]
    · simpa [Option.isNone_iff_eq_none] using hn
    · exact fun m hm => Option.isNone_iff_eq_none.mpr (hbefore m hm)
  exact ⟨n, after, by rw [hreached, hsplit], hn⟩

/-! ## The commands that take effect -/

/-- The commands before the rule of the first network with a scope. -/
def leadCommands (f : FrontEnd) (ns : List IpNetwork) : List (List Str) :=
  (f.publicCommands ++ f.headingCommands).filter (· ≠ []) ++ ns.map fun n => f.adminCommand n.str

/-- **Rules with a scoped network**: the commands before it, and then one that has the percent sign
of its scope in its source, or that is no simple command. -/
lemma commandList_rules_scoped (f : FrontEnd) (hkind : detectedKind config = f.kind.value)
    (h : ¬ Unscoped config) : ∃ c cs,
      commandList (rulesText f config) =
        (leadCommands f (reachedNetworks config)).map some ++ c :: cs ∧
      (c = none ∨ ∃ addr u vs,
        c = some (f.adminWords ++ (f.sourceOption ++ (addr ++ '%' :: u)) :: vs)) := by
  obtain ⟨n, after, hsplit, hn⟩ := exists_scoped h
  obtain ⟨addr, rest, hstr, haddr⟩ := str_of_scope hn
  have hbefore : ∀ m ∈ reachedNetworks config, m.scope = none := fun m hm =>
    scope_of_mem_reachedNetworks hm
  obtain ⟨tail, htext⟩ := f.exists_rules_scoped ((reachedNetworks config).map IpNetwork.str)
    (after.map IpNetwork.str) addr rest config.requiresExtraDnsContainer
  have hlead := f.reads_lead ((reachedNetworks config).map IpNetwork.str)
    (by simpa using fun m hm => isWordChar_of_mem_str (hbefore m hm))
  have hplain : ∀ c ∈ f.publicCommands ++ f.headingCommands ++
      ((reachedNetworks config).map IpNetwork.str).map f.adminCommand,
        ∀ s ∈ c, ∀ d ∈ s, isPlainChar d := fun c hc s hs d hd =>
    isPlainChar_of_mem_commands config.requiresExtraDnsContainer f
      (fun m hm => isPlainChar_of_mem_str (hbefore m hm)) (List.mem_append_left _ hc) hs hd
  obtain ⟨m, hm, hhead⟩ := f.run_adminHead
  obtain ⟨c, cs, hcs, hc⟩ := exists_commandList_cons hhead hm (by simp)
    (FrontEnd.isWordChar_of_mem_scopedAddress fun c hc =>
      isWordChar_of_isPlainChar (isPlainChar_of_isCidrChar (haddr c hc))) tail
  refine ⟨c, cs, ?_, ?_⟩
  · rw [rulesText_eq hkind, adminCidrs, hsplit, List.map_append, List.map_cons, hstr, htext,
      commandList_append hlead hplain, hcs, List.filter_append, filter_adminCommands, leadCommands]
  · refine hc.imp_right ?_
    rintro ⟨u, vs, rfl⟩
    exact ⟨addr, u, vs, by simp⟩

section Effective

variable {κ : Type} {parse : List Str → Option κ} {f : FrontEnd} {cs : List κ}
  (hkind : detectedKind config = f.kind.value)

include hkind

/-- Without scopes, all commands take effect. -/
lemma effective_of_unscoped (h : Unscoped config)
    (hparse : (commandsOf (adminNetworks config) config.requiresExtraDnsContainer f).mapM parse =
      some cs) : effective parse (commandList (rulesText f config)) = some cs := by
  obtain ⟨hreads, hplain⟩ := reads_plain config.requiresExtraDnsContainer f
    fun n hn => isPlainChar_of_mem_str (unscoped_iff.mp h n hn)
  rw [rulesText_eq hkind, adminCidrs, commandList_of_reads hreads hplain]
  exact effective_map_some hparse

omit cs in
/-- If the networks are written in plain characters, a shell can read the script. -/
lemma effective_ne_none (h : ∀ n ∈ adminNetworks config, ∀ c ∈ n.str, isPlainChar c) :
    effective parse (commandList (rulesText f config)) ≠ none := by
  obtain ⟨hreads, hplain⟩ := reads_plain config.requiresExtraDnsContainer f h
  rw [rulesText_eq hkind, adminCidrs, commandList_of_reads hreads hplain]
  exact effective_map_some_ne_none _

/-- With a scope, the commands before it take effect, if a shell can read the one it is in. -/
lemma effective_of_scoped (h : ¬ Unscoped config)
    (hreject : ∀ source, parseNetwork source = none →
      ∀ vs, parse (f.adminWords ++ (f.sourceOption ++ source) :: vs) = none)
    (hparse : (leadCommands f (reachedNetworks config)).mapM parse = some cs)
    (hread : effective parse (commandList (rulesText f config)) ≠ none) :
    effective parse (commandList (rulesText f config)) = some cs := by
  obtain ⟨c, rest, hlist, hc⟩ := commandList_rules_scoped f hkind h
  rw [hlist] at hread ⊢
  refine effective_append_rejected hparse (fun cmd hcmd => ?_) hread
  rcases hc with rfl | ⟨addr, u, vs, rfl⟩
  · cases hcmd
  · cases hcmd
    exact hreject _ (parseNetwork_eq_none (c := '%') (by simp) (by decide)) vs

end Effective

/-- The rules of the ufw script that its commands add: those for the networks before the first one
with a scope, and the others only if there is none. -/
def addedRules (config : DngConfig) : List (PacketFilter.Rule IpNetwork) :=
  if Unscoped config then ufwRules (adminNetworks config) config.requiresExtraDnsContainer
  else leadRules (reachedNetworks config)

/-- **The ufw commands that take effect** add rules, and without scopes enable the firewall. -/
lemma exists_ufwCommands (hkind : detectedKind config = FrontEnd.ufw.kind.value)
    (hread : effective Ufw.parse (commandList (rulesText .ufw config)) ≠ none) :
    ∃ cs, effective Ufw.parse (commandList (rulesText .ufw config)) = some cs ∧ ∀ st,
      cs.foldl Ufw.exec st = ⟨(addedRules config).foldl addRule st.rules,
        st.enabled || decide (Unscoped config)⟩ := by
  by_cases h : Unscoped config
  · refine ⟨_, effective_of_unscoped hkind h (mapM_parse_ufw _ (unscoped_iff.mp h)), fun st => ?_⟩
    rw [List.foldl_append, Ufw.foldl_exec_rules, addedRules, if_pos h, decide_eq_true h,
      Bool.or_true]
    rfl
  · refine ⟨_, effective_of_scoped hkind h (fun source hsource vs =>
      Ufw.parse_allowFrom_eq_none hsource vs) (mapM_parse_lead_ufw fun n hn =>
        scope_of_mem_reachedNetworks hn) hread, fun st => ?_⟩
    rw [Ufw.foldl_exec_rules, addedRules, if_neg h, decide_eq_false h, Bool.or_false]

/-- **The firewalld commands that take effect** are in effect on the host without scopes; else there
is no reload among them. -/
lemma exists_firewalldCommands (hkind : detectedKind config = FrontEnd.firewalld.kind.value)
    (hread : effective Firewalld.parse (commandList (rulesText .firewalld config)) ≠ none) :
    ∃ cs, effective Firewalld.parse (commandList (rulesText .firewalld config)) = some cs ∧
      (Unscoped config → cs =
        firewalldChanges (adminNetworks config) config.requiresExtraDnsContainer ++
          [.reload, .listAll]) ∧
      (¬ Unscoped config → .reload ∉ cs) := by
  by_cases h : Unscoped config
  · exact ⟨_, effective_of_unscoped hkind h (mapM_parse_firewalld _ (unscoped_iff.mp h)),
      fun _ => rfl, fun hscope => absurd h hscope⟩
  · refine ⟨_, effective_of_scoped hkind h (fun source hsource vs =>
      Firewalld.parse_addSource_eq_none hsource _ vs) (mapM_parse_lead_firewalld fun n hn =>
        scope_of_mem_reachedNetworks hn) hread, fun hscope => absurd hscope h, fun _ => ?_⟩
    simp

/-! ## The policy that a script leaves -/

/-- The policy that the commands of a text leave on a host without earlier rules, `active` telling
whether ufw is enabled there; the front end rejects the one that the script stops at, if any. None
if what is no simple command comes before that, which may do anything. -/
def FrontEnd.leave (f : FrontEnd) (active : Bool) (text : Str) :
    Option (IpAddress → ℕ → Bool) :=
  match f with
  | .ufw => (effective Ufw.parse (commandList text)).map fun cs =>
      (cs.foldl Ufw.exec ⟨[], active⟩).admits
  | .firewalld => (effective Firewalld.parse (commandList text)).map fun cs =>
      (cs.foldl Firewalld.exec .fresh).admits

/-- The policy that the script of a plan leaves on a host without earlier rules, on which its checks
pass. -/
def leftPolicy (active : Bool) (config : DngConfig) : Option (IpAddress → ℕ → Bool) :=
  (frontEnd (detectedKind config)).bind fun f => f.leave active (rulesText f config)

/-- If the networks are written in plain characters, the script leaves a policy. -/
lemma leftPolicy_ne_none {f : FrontEnd} (hkind : detectedKind config = f.kind.value)
    (h : ∀ n ∈ adminNetworks config, ∀ c ∈ n.str, isPlainChar c) (active : Bool) :
    leftPolicy active config ≠ none := by
  rw [leftPolicy, frontEnd_eq hkind, Option.bind_some]
  cases f with
  | ufw => exact fun hnone => effective_ne_none hkind h (Option.map_eq_none_iff.mp hnone)
  | firewalld => exact fun hnone => effective_ne_none hkind h (Option.map_eq_none_iff.mp hnone)

/-- The policy that the script leaves, be it that it stops before its end, admits no globally
reachable address to the admin console. -/
def AdminClosed (active : Bool) (config : DngConfig) : Prop :=
  ∃ admits, leftPolicy active config = some admits ∧
    ∀ a : IpAddress, a.isGlobal → admits a adminPort = false

/-- The rules for the networks admit them to the admin port. -/
lemma firstMatch_leadRules (ns : List IpNetwork) (rs : List (PacketFilter.Rule IpNetwork))
    (a : IpAddress) : firstMatch IpNetwork.contains (leadRules ns ++ rs) a adminPort =
      (ns.any (·.contains a) || firstMatch IpNetwork.contains rs a adminPort) := by
  rw [leadRules, List.cons_append, firstMatch_cons_of_port_ne _ (by decide), firstMatch_allowFrom]

/-- The rules that are added admit the networks before the first one with a scope. -/
lemma firstMatch_addedRules (a : IpAddress) :
    firstMatch IpNetwork.contains (addedRules config) a adminPort =
      (reachedNetworks config).any (·.contains a) := by
  unfold addedRules
  split_ifs with h
  · rw [firstMatch_ufwRules, reachedNetworks_of_unscoped h]
  · rw [← List.append_nil (leadRules _), firstMatch_leadRules, firstMatch, Bool.or_false]

/-- What the ufw script leaves: without scopes or with ufw enabled before, the networks before the
first one with a scope are admitted; otherwise everybody is. -/
lemma exists_leftPolicy_ufw {active : Bool}
    (hkind : detectedKind config = FrontEnd.ufw.kind.value)
    (hread : leftPolicy active config ≠ none) :
    ∃ admits, leftPolicy active config = some admits ∧ ∀ a, admits a adminPort =
      if active || decide (Unscoped config) then (reachedNetworks config).any (·.contains a)
      else true := by
  have hleft : leftPolicy active config =
      (effective Ufw.parse (commandList (rulesText .ufw config))).map fun cs =>
        (cs.foldl Ufw.exec ⟨[], active⟩).admits := by
    rw [leftPolicy, frontEnd_eq hkind]
    rfl
  rw [hleft] at hread ⊢
  obtain ⟨cs, hcs, hexec⟩ :=
    exists_ufwCommands hkind fun hnone => hread (Option.map_eq_none_iff.mpr hnone)
  refine ⟨_, by rw [hcs, Option.map_some], fun a => ?_⟩
  rw [hexec, Ufw.State.admits, firstMatch_foldl_addRule, List.nil_append, firstMatch_addedRules]

/-- What the firewalld script leaves: without scopes the networks are admitted; otherwise nothing is
in effect. -/
lemma exists_leftPolicy_firewalld {active : Bool}
    (hkind : detectedKind config = FrontEnd.firewalld.kind.value)
    (hread : leftPolicy active config ≠ none) :
    ∃ admits, leftPolicy active config = some admits ∧ ∀ a, admits a adminPort =
      (decide (Unscoped config) && (reachedNetworks config).any (·.contains a)) := by
  have hleft : leftPolicy active config =
      (effective Firewalld.parse (commandList (rulesText .firewalld config))).map fun cs =>
        (cs.foldl Firewalld.exec .fresh).admits := by
    rw [leftPolicy, frontEnd_eq hkind]
    rfl
  rw [hleft] at hread ⊢
  obtain ⟨cs, hcs, hunscoped, hscoped⟩ :=
    exists_firewalldCommands hkind fun hnone => hread (Option.map_eq_none_iff.mpr hnone)
  refine ⟨_, by rw [hcs, Option.map_some], fun a => ?_⟩
  rw [Firewalld.State.admits]
  by_cases h : Unscoped config
  · rw [hunscoped h, Firewalld.foldl_exec_reload (reload_notMem_firewalldChanges _),
      decide_eq_true h, Bool.true_and, reachedNetworks_of_unscoped h, Firewalld.State.fresh]
    exact admits_firewalldChanges _ a
  · rw [Firewalld.runtime_foldl_exec (hscoped h), decide_eq_false h, Bool.false_and]
    rfl

/-- The script of a plan without scopes leaves a policy. -/
lemma leftPolicy_of_unscoped {f : FrontEnd} (hkind : detectedKind config = f.kind.value)
    (h : Unscoped config) (active : Bool) : leftPolicy active config ≠ none :=
  leftPolicy_ne_none hkind (fun n hn => isPlainChar_of_mem_str (unscoped_iff.mp h n hn)) active

/-- Without scopes, the script leaves a policy that admits the networks to the admin port. -/
lemma exists_leftPolicy_of_unscoped {f : FrontEnd} (hkind : detectedKind config = f.kind.value)
    (h : Unscoped config) (active : Bool) : ∃ admits, leftPolicy active config = some admits ∧
      ∀ a, admits a adminPort = (adminNetworks config).any (·.contains a) := by
  have hread := leftPolicy_of_unscoped hkind h active
  cases f with
  | ufw => simpa [h, reachedNetworks_of_unscoped h] using exists_leftPolicy_ufw hkind hread
  | firewalld =>
    simpa [h, reachedNetworks_of_unscoped h] using exists_leftPolicy_firewalld hkind hread

/-- A policy admits no globally reachable address of some networks exactly if they contain none. -/
lemma any_contains_eq_false_iff {ns : List IpNetwork} :
    (∀ a : IpAddress, a.isGlobal → ns.any (·.contains a) = false) ↔
      ∀ n ∈ ns, ∀ a, n.contains a → a.isGlobal = false := by
  simp only [List.any_eq_false]
  constructor
  · intro h n hn a ha
    by_contra hglobal
    exact h a (by simpa using hglobal) n hn ha
  · intro h a hglobal n hn ha
    rw [h n hn a ha] at hglobal
    cases hglobal

/-- **When the admin console is closed**: without scopes, exactly if no trusted proxy contains a
globally reachable address. With a scope the script stops; then it is closed on firewalld, and on
ufw exactly if ufw was enabled before and no trusted proxy before the first one with a scope
contains a globally reachable address. The command in which the first scope stands must be a simple
one, so that nothing else is run there.

**Proof sketch.** Without scopes, and on an enabled ufw, the script admits the networks that it
comes to. Without a reload, firewalld keeps to what was in effect before; and ufw admits everybody
until it is enabled, 8.8.8.8 among them. -/
theorem adminClosed_iff {f : FrontEnd} (hkind : detectedKind config = f.kind.value) {active : Bool}
    (hread : leftPolicy active config ≠ none) :
    AdminClosed active config ↔
      (Unscoped config ∧ ∀ n ∈ adminNetworks config, ∀ a, n.contains a → a.isGlobal = false) ∨
      (¬ Unscoped config ∧ (f = .firewalld ∨ (active = true ∧
        ∀ n ∈ reachedNetworks config, ∀ a, n.contains a → a.isGlobal = false))) := by
  have hclosed : ∀ {admits}, leftPolicy active config = some admits →
      (AdminClosed active config ↔ ∀ a : IpAddress, a.isGlobal → admits a adminPort = false) := by
    intro admits hadmits
    rw [AdminClosed, hadmits]
    exact ⟨by rintro ⟨_, ⟨⟩, h⟩; exact h, fun h => ⟨_, rfl, h⟩⟩
  cases f with
  | ufw =>
    obtain ⟨admits, hadmits, hports⟩ := exists_leftPolicy_ufw hkind hread
    simp only [hclosed hadmits, hports]
    by_cases h : Unscoped config
    · simp only [h, decide_true, Bool.or_true, if_true, any_contains_eq_false_iff,
        reachedNetworks_of_unscoped h]
      simp
    · cases active with
      | true => simpa [h] using any_contains_eq_false_iff
      | false =>
        have hglobal : (IpAddress.v4 0x08080808).isGlobal := by decide
        simpa [h] using ⟨_, hglobal⟩
  | firewalld =>
    obtain ⟨admits, hadmits, hports⟩ := exists_leftPolicy_firewalld hkind hread
    simp only [hclosed hadmits, hports]
    by_cases h : Unscoped config
    · simp only [h, decide_true, Bool.true_and, any_contains_eq_false_iff,
        reachedNetworks_of_unscoped h]
      simp
    · simp [h]

/-- The private network contains no globally reachable address. -/
lemma isGlobal_of_tenNetwork (a : IpAddress) (h : (IpNetwork.v4 tenNetwork).contains a) :
    a.isGlobal = false := by
  cases a with
  | v4 a =>
    have hten : a.val / 2 ^ 24 = 10 := of_decide_eq_true h
    have hprivate : isPrivate4 a = true := by
      simp [isPrivate4, privateNetworks4, privateExceptions4, Block.contains]
      omega
    rw [IpAddress.isGlobal, hprivate, Bool.not_true, Bool.and_false]
  | v6 a => cases h

/-- The scope of an interface. -/
def interfaceScope : Scope := ⟨"eth0", by decide, by decide, by decide⟩

/-- `fe80::%eth0/64`. -/
def interfaceNetwork : IPv6Network := ⟨linkLocal, some interfaceScope⟩

/-- The link-local network of an interface is written in plain characters. -/
lemma isPlainChar_interfaceNetwork {f : FrontEnd} :
    ∀ n ∈ adminNetworks (proxyPlan f.kind [.v6 interfaceNetwork]), ∀ c ∈ n.str, isPlainChar c := by
  intro n hn
  obtain rfl := List.mem_singleton.mp hn
  have hall : (IpNetwork.str (.v6 interfaceNetwork)).all isPlainChar = true := by decide +kernel
  exact List.all_eq_true.mp hall

/-- The networks of the plan with a private network have no scope. -/
lemma unscoped_ten (f : FrontEnd) : Unscoped (proxyPlan f.kind [.v4 tenNetwork]) := by
  refine unscoped_iff.mpr fun n hn => ?_
  rw [List.mem_singleton.mp hn]
  rfl

/-- The admin console is closed with a private network; and on firewalld, and on an enabled ufw,
with the link-local network of an interface, at which the script stops. -/
theorem adminClosed_iff_ten :
    AdminClosed false (proxyPlan .ufw [.v4 tenNetwork]) ∧
    AdminClosed false (proxyPlan .firewalld [.v4 tenNetwork]) ∧
    AdminClosed true (proxyPlan .ufw [.v6 interfaceNetwork]) ∧
    AdminClosed false (proxyPlan .firewalld [.v6 interfaceNetwork]) := by
  have hten : ∀ n ∈ [IpNetwork.v4 tenNetwork], ∀ a, n.contains a → a.isGlobal = false := by
    intro n hn
    obtain rfl := List.mem_singleton.mp hn
    exact isGlobal_of_tenNetwork
  have hscoped : ∀ kind, ¬ Unscoped (proxyPlan kind [.v6 interfaceNetwork]) := fun kind h =>
    absurd (unscoped_iff.mp h _ (List.mem_singleton_self _)) (by decide)
  have hread : ∀ (f : FrontEnd) active,
      leftPolicy active (proxyPlan f.kind [.v4 tenNetwork]) ≠ none :=
    fun f => leftPolicy_of_unscoped (f := f) rfl (unscoped_ten f)
  have hread' : ∀ (f : FrontEnd) active,
      leftPolicy active (proxyPlan f.kind [.v6 interfaceNetwork]) ≠ none :=
    fun f => leftPolicy_ne_none (f := f) rfl (isPlainChar_interfaceNetwork (f := f))
  refine ⟨?_, ?_, ?_, ?_⟩
  · exact (adminClosed_iff (f := .ufw) rfl (hread .ufw false)).mpr
      (.inl ⟨unscoped_ten .ufw, hten⟩)
  · exact (adminClosed_iff (f := .firewalld) rfl (hread .firewalld false)).mpr
      (.inl ⟨unscoped_ten .firewalld, hten⟩)
  · refine (adminClosed_iff (f := .ufw) rfl (hread' .ufw true)).mpr
      (.inr ⟨hscoped _, .inr ⟨rfl, fun n hn => ?_⟩⟩)
    exact absurd hn List.not_mem_nil
  · exact (adminClosed_iff (f := .firewalld) rfl (hread' .firewalld false)).mpr
      (.inr ⟨hscoped _, .inl rfl⟩)

/-- The admin console is open if every address is a trusted proxy. -/
lemma not_adminClosed_everywhere (f : FrontEnd) (active : Bool) :
    ¬ AdminClosed active (proxyPlan f.kind [.v4 everywhere]) := by
  have hunscoped : Unscoped (proxyPlan f.kind [.v4 everywhere]) := by
    refine unscoped_iff.mpr fun n hn => ?_
    obtain rfl := List.mem_singleton.mp hn
    rfl
  obtain ⟨admits, hleft, hports⟩ := exists_leftPolicy_of_unscoped (f := f) rfl hunscoped active
  rintro ⟨_, hadmits, hclosed⟩
  cases Option.some.inj (hadmits.symm.trans hleft)
  have hopen : admits (.v4 0x08080808) adminPort = true := by
    rw [hports, List.any_eq_true]
    exact ⟨.v4 everywhere, List.mem_singleton_self _, by decide⟩
  rw [hclosed _ (by decide)] at hopen
  cases hopen

/-- Plans whose load balancer trusts every address pass, and their admin console is open. -/
theorem everywhere_not_closed :
    (validatePlan (proxyPlan .ufw [.v4 everywhere]) ∅ = .ok [] ∧
      ∀ active, ¬ AdminClosed active (proxyPlan .ufw [.v4 everywhere])) ∧
    (validatePlan (proxyPlan .firewalld [.v4 everywhere]) ∅ = .ok [] ∧
      ∀ active, ¬ AdminClosed active (proxyPlan .firewalld [.v4 everywhere])) :=
  ⟨⟨by decide +kernel, not_adminClosed_everywhere .ufw⟩,
    ⟨by decide +kernel, not_adminClosed_everywhere .firewalld⟩⟩

end DngPreflight.FirewallRules
