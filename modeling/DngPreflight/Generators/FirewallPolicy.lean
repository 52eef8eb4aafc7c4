import DngPreflight.PacketFilter.Firewalld
import DngPreflight.Generators.FirewallRules

set_option relaxedAutoImplicit false
set_option autoImplicit false

/-!
# The policy of the firewall rules

The packet-filter policy that `firewall.sh` sets up on a host without earlier rules. The script
stops at the first command that its front end rejects, so that it has a policy only if all of
its rules are commands of the front end.

## Main definitions

* `DngPreflight.FirewallRules.policy` — the policy of the script.
* `DngPreflight.FirewallRules.rulesText` — the text of the script after its checks.
* `DngPreflight.FirewallRules.FrontEnd.denoted` — the policy that the rules denote.

## Main results

* `DngPreflight.FirewallRules.policy_eq_rulesText` — the policy is that of the generated text.
* `DngPreflight.FirewallRules.policy_eq_denoted`, `DngPreflight.FirewallRules.policy_of_scoped` —
  the policy for networks without scope; with a scope there is none.
-/

namespace DngPreflight.FirewallRules

open Text Net Shell PacketFilter

variable {config : DngConfig}

/-! ## The policy of a script -/

/-- The policy that a sequence of commands sets up on a host without earlier rules; none if the
front end rejects one of them. -/
def FrontEnd.apply (f : FrontEnd) (cmds : List (List Str)) : Option (IpAddress → ℕ → Bool) :=
  match f with
  | .ufw => (Ufw.run cmds).map Ufw.State.admits
  | .firewalld => (Firewalld.run cmds).map Firewalld.State.admits

/-- The policy that the rules of a script set up on a host without earlier rules; none if they are
not a sequence of commands of the front end. -/
def FrontEnd.policy (f : FrontEnd) (cidrs : List Str) (relays : Bool) :
    Option (IpAddress → ℕ → Bool) :=
  (simpleCommands (render (f.rules cidrs relays))).bind f.apply

/-- The policy that the script sets up on a host without earlier rules, on which its checks pass. -/
def policy (config : DngConfig) : Option (IpAddress → ℕ → Bool) :=
  (frontEnd (detectedKind config)).bind fun f =>
    f.policy (adminCidrs config) config.requiresExtraDnsContainer

/-- The text of the script after its checks. -/
def rulesText (f : FrontEnd) (config : DngConfig) : Str :=
  (generate config).drop (render (f.checks config.answers.deploymentScope.text)).length

/-- The text of the script after its checks is that of its rules. -/
lemma rulesText_eq {f : FrontEnd} (hkind : detectedKind config = f.kind.value) :
    rulesText f config =
      render (f.rules (adminCidrs config) config.requiresExtraDnsContainer) := by
  rw [rulesText, generate, template_eq hkind, render_append, List.drop_left]

/-- **The policy is that of the generated text**: of its commands after the checks. -/
lemma policy_eq_rulesText {f : FrontEnd} (hkind : detectedKind config = f.kind.value) :
    policy config = (simpleCommands (rulesText f config)).bind f.apply := by
  rw [policy, frontEnd_eq hkind, rulesText_eq hkind]
  rfl

/-- The port of the admin console. -/
def adminPort : ℕ := 8443

section Unscoped

variable (ns : List IpNetwork) (relays : Bool)

/-- The rules that the ufw script adds first, those for clients and for the networks. -/
def leadRules : List (PacketFilter.Rule IpNetwork) :=
  ⟨true, none, 443⟩ :: ns.map fun n => ⟨true, some n, adminPort⟩

/-- The rules that the ufw script adds. -/
def ufwRules : List (PacketFilter.Rule IpNetwork) :=
  ⟨true, none, 443⟩ :: ns.map (fun n => ⟨true, some n, adminPort⟩) ++
    ((if relays then [⟨true, none, 3389⟩] else []) ++ [⟨false, none, adminPort⟩])

/-- The changes that the firewalld script makes before it reloads. -/
def firewalldChanges : List Firewalld.Command :=
  .addPort .publicZone 443 ::
    (if ns = [] then [] else .addPort .trustedZone adminPort :: ns.map (.addSource .trustedZone)) ++
      if relays then [.addPort .publicZone 3389] else []

/-- The commands of the rules, comments and blank lines left out. -/
def commandsOf (f : FrontEnd) : List (List Str) :=
  (f.publicCommands ++ f.adminCommands (ns.map IpNetwork.str) ++ f.afterCommands relays).filter
    (· ≠ [])

variable {ns}

/-- No admin command is empty. -/
lemma filter_adminCommands (f : FrontEnd) (ns : List IpNetwork) :
    ((ns.map IpNetwork.str).map f.adminCommand).filter (· ≠ []) =
      ns.map fun n => f.adminCommand n.str := by
  rw [List.map_map]
  refine List.filter_eq_self.mpr fun c hc => ?_
  obtain ⟨n, -, rfl⟩ := List.mem_map.mp hc
  rw [Function.comp_apply, f.adminCommand_eq]
  simp

/-- The commands, if there are networks. -/
lemma commandsOf_of_ne_nil (f : FrontEnd) (hne : ns ≠ []) : commandsOf ns relays f =
    (f.publicCommands ++ f.headingCommands).filter (· ≠ []) ++
      ns.map (fun n => f.adminCommand n.str) ++ (f.afterCommands relays).filter (· ≠ []) := by
  rw [commandsOf, FrontEnd.adminCommands, if_neg (by simpa using hne), List.filter_append,
    List.filter_append, List.filter_append, filter_adminCommands, List.filter_append]
  simp only [List.append_assoc]

/-- A list of two parts is read part by part. -/
lemma mapM_append_eq_some {α β : Type} {g : α → Option β} {k l : List α} {as bs : List β}
    (hk : k.mapM g = some as) (hl : l.mapM g = some bs) :
    (k ++ l).mapM g = some (as ++ bs) := by
  rw [List.mapM_append, hk, hl]
  rfl

/-- The admin command of a network without scope, read by ufw. -/
lemma parse_ufw_adminCommand {n : IpNetwork} (h : n.scope = none) :
    Ufw.parse (FrontEnd.adminCommand .ufw n.str) = some (.rule ⟨true, some n, adminPort⟩) := by
  have hport : parsePrefix 65535 "8443".toList = some adminPort := by rfl
  simp only [FrontEnd.adminCommand, Ufw.parse, parseNetwork_str h, hport]
  rfl

/-- The admin command of a network without scope, read by firewalld. -/
lemma parse_firewalld_adminCommand {n : IpNetwork} (h : n.scope = none) :
    Firewalld.parse (FrontEnd.adminCommand .firewalld n.str) =
      some (.addSource .trustedZone n) := by
  have hzone : Firewalld.zoneOption "--zone=trusted" = some .trustedZone := by rfl
  have hport : Firewalld.optionValue "--add-port=" ("--add-source=".toList ++ n.str) = none := rfl
  have hsource : Firewalld.optionValue "--add-source=" ("--add-source=".toList ++ n.str) =
      some n.str := by
    simp [Firewalld.optionValue]
  simp only [FrontEnd.adminCommand, Firewalld.parse, and_self, if_true, hzone, Option.bind_some,
    hport, hsource, parseNetwork_str h, Option.map_some]

/-- The ufw commands up to the last network add the rules for clients and networks. -/
lemma mapM_parse_lead_ufw (h : ∀ n ∈ ns, n.scope = none) :
    ((FrontEnd.publicCommands .ufw ++ FrontEnd.headingCommands .ufw).filter (· ≠ []) ++
      ns.map fun n => FrontEnd.adminCommand .ufw n.str).mapM Ufw.parse =
        some ((leadRules ns).map .rule) := by
  have hfirst : ((FrontEnd.publicCommands .ufw ++ FrontEnd.headingCommands .ufw).filter
      (· ≠ [])).mapM Ufw.parse = some [.rule ⟨true, none, 443⟩] := by
    rfl
  have hadmin : (ns.map fun n => FrontEnd.adminCommand .ufw n.str).mapM Ufw.parse =
      some (ns.map fun n => .rule ⟨true, some n, adminPort⟩) :=
    mapM_map_eq_some_map fun n hn => parse_ufw_adminCommand (h n hn)
  rw [mapM_append_eq_some hfirst hadmin]
  simp [leadRules, Function.comp_def]

/-- The firewalld commands up to the last network open the public port and bind the networks to the
trusted zone. -/
lemma mapM_parse_lead_firewalld (h : ∀ n ∈ ns, n.scope = none) :
    ((FrontEnd.publicCommands .firewalld ++ FrontEnd.headingCommands .firewalld).filter (· ≠ []) ++
      ns.map fun n => FrontEnd.adminCommand .firewalld n.str).mapM Firewalld.parse =
        some (.addPort .publicZone 443 :: .addPort .trustedZone adminPort ::
          ns.map (.addSource .trustedZone)) := by
  have hfirst : ((FrontEnd.publicCommands .firewalld ++
      FrontEnd.headingCommands .firewalld).filter (· ≠ [])).mapM Firewalld.parse =
        some [.addPort .publicZone 443, .addPort .trustedZone adminPort] := by
    rfl
  have hadmin : (ns.map fun n => FrontEnd.adminCommand .firewalld n.str).mapM Firewalld.parse =
      some (ns.map (.addSource .trustedZone)) :=
    mapM_map_eq_some_map fun n hn => parse_firewalld_adminCommand (h n hn)
  rw [mapM_append_eq_some hfirst hadmin]
  rfl

/-- The ufw script adds its rules, enables the firewall and asks for its status. -/
lemma mapM_parse_ufw (h : ∀ n ∈ ns, n.scope = none) :
    (commandsOf ns relays .ufw).mapM Ufw.parse =
      some ((ufwRules ns relays).map .rule ++ [.enable, .status]) := by
  by_cases hne : ns = []
  · subst hne
    cases relays <;> rfl
  · have hlast : ((FrontEnd.afterCommands .ufw relays).filter (· ≠ [])).mapM Ufw.parse =
        some ((if relays then [.rule ⟨true, none, 3389⟩] else []) ++
          [.rule ⟨false, none, adminPort⟩, .enable, .status]) := by
      cases relays <;> rfl
    rw [commandsOf_of_ne_nil relays .ufw hne, mapM_append_eq_some (mapM_parse_lead_ufw h) hlast]
    cases relays <;> simp [ufwRules, leadRules]

/-- The firewalld script makes its changes, reloads and lists its rules. -/
lemma mapM_parse_firewalld (h : ∀ n ∈ ns, n.scope = none) :
    (commandsOf ns relays .firewalld).mapM Firewalld.parse =
      some (firewalldChanges ns relays ++ [.reload, .listAll]) := by
  by_cases hne : ns = []
  · subst hne
    cases relays <;> rfl
  · have hlast : ((FrontEnd.afterCommands .firewalld relays).filter (· ≠ [])).mapM
        Firewalld.parse = some ((if relays then [.addPort .publicZone 3389] else []) ++
          [.reload, .listAll]) := by
      cases relays <;> rfl
    rw [commandsOf_of_ne_nil relays .firewalld hne,
      mapM_append_eq_some (mapM_parse_lead_firewalld h) hlast]
    simp [firewalldChanges, hne]

/-- The ufw rules admit the networks to the admin port. -/
lemma firstMatch_ufwRules (a : IpAddress) :
    firstMatch IpNetwork.contains (ufwRules ns relays) a adminPort = ns.any (·.contains a) := by
  rw [ufwRules, List.cons_append, firstMatch_cons_of_port_ne _ (by decide), firstMatch_allowFrom]
  cases relays <;> simp [firstMatch, PacketFilter.Rule.matches, adminPort]

/-- Adding sources to the trusted zone. -/
lemma foldl_addSource (z : Zones IpNetwork) :
    (ns.map (Firewalld.Command.addSource .trustedZone)).foldl Firewalld.change z =
      { z with trusted := z.trusted ++ ns } := by
  induction ns generalizing z with
  | nil => simp
  | cons n ns ih =>
    rw [List.map_cons, List.foldl_cons, ih]
    simp [Firewalld.change]

/-- A script makes no changes in effect before all of them. -/
lemma reload_notMem_firewalldChanges :
    Firewalld.Command.reload ∉ firewalldChanges ns relays := by
  cases relays <;> by_cases hne : ns = [] <;> simp [firewalldChanges, hne]

/-- The firewalld changes admit the networks to the admin port. -/
lemma admits_firewalldChanges (a : IpAddress) :
    ((firewalldChanges ns relays).foldl Firewalld.change ⟨[], []⟩).admits IpNetwork.contains a
      adminPort = ns.any (·.contains a) := by
  by_cases hne : ns = []
  · subst hne
    cases relays <;> rfl
  · rw [firewalldChanges, if_neg hne, List.cons_append, List.foldl_cons, List.cons_append,
      List.foldl_cons, List.foldl_append, foldl_addSource]
    cases relays <;> simp [Firewalld.change, Zones.admits, adminPort]

/-- The words of the commands for networks of plain characters are plain. -/
lemma isPlainChar_of_mem_commands (f : FrontEnd) (h : ∀ n ∈ ns, ∀ c ∈ n.str, isPlainChar c)
    {c : List Str} (hc : c ∈ f.publicCommands ++ f.headingCommands ++
      (ns.map IpNetwork.str).map f.adminCommand ++ f.afterCommands relays) {s : Str} (hs : s ∈ c)
    {d : Char} (hd : d ∈ s) : isPlainChar d := by
  rcases isPlainChar_or_mem_source f hc hs hd with ⟨hplain, -⟩ | ⟨source, hsource, hd⟩
  · exact hplain
  · obtain ⟨n, hn, rfl⟩ := List.mem_map.mp hsource
    exact h n hn d hd

/-- The rules for networks of plain characters are lines of plain words. -/
lemma reads_plain (f : FrontEnd) (h : ∀ n ∈ ns, ∀ c ∈ n.str, isPlainChar c) :
    Reads (f.rules (ns.map IpNetwork.str) relays) (lineTokens (f.publicCommands ++
      f.adminCommands (ns.map IpNetwork.str) ++ f.afterCommands relays)) ∧
    ∀ c ∈ f.publicCommands ++ f.adminCommands (ns.map IpNetwork.str) ++ f.afterCommands relays,
      ∀ s ∈ c, ∀ d ∈ s, isPlainChar d := by
  constructor
  · refine f.reads_rules (fun s hs => ?_) relays
    obtain ⟨n, hn, rfl⟩ := List.mem_map.mp hs
    exact ⟨str_ne_nil n, fun c hc => isWordChar_of_isPlainChar (h n hn c hc)⟩
  · intro c hc s hs d hd
    refine isPlainChar_of_mem_commands relays f h ?_ hs hd
    have hcomment : c ≠ [] := fun hnil => by simp [hnil] at hs
    unfold FrontEnd.adminCommands at hc
    split_ifs at hc with hnil
    · simp only [List.mem_append, List.mem_cons, List.not_mem_nil, or_false, or_self] at hc ⊢
      tauto
    · simpa only [List.mem_append, List.append_assoc] using hc

/-- The commands that a shell reads in the rules. -/
lemma simpleCommands_rules (f : FrontEnd) (h : ∀ n ∈ ns, n.scope = none) :
    simpleCommands (render (f.rules (ns.map IpNetwork.str) relays)) =
      some (commandsOf ns relays f) := by
  obtain ⟨hreads, hplain⟩ := reads_plain relays f fun n hn => isPlainChar_of_mem_str (h n hn)
  exact simpleCommands_of_reads hreads hplain

variable (ns) in
/-- The policy that the rules denote: those of ufw in their order, those of firewalld by zones. -/
def FrontEnd.denoted (f : FrontEnd) (a : IpAddress) (port : ℕ) : Bool :=
  match f with
  | .ufw => firstMatch IpNetwork.contains (ufwRules ns relays) a port
  | .firewalld =>
    ((firewalldChanges ns relays).foldl Firewalld.change ⟨[], []⟩).admits IpNetwork.contains a port

/-- For networks without scope, the script sets up the policy that its rules denote. -/
lemma policy_eq_denoted (f : FrontEnd) (h : ∀ n ∈ ns, n.scope = none) :
    f.policy (ns.map IpNetwork.str) relays = some (f.denoted ns relays) := by
  rw [FrontEnd.policy, simpleCommands_rules relays f h, Option.bind_some]
  cases f with
  | ufw =>
    obtain ⟨st, hst, hadmits⟩ := Ufw.admits_run (mapM_parse_ufw relays h)
    rw [FrontEnd.apply, hst, Option.map_some]
    exact congrArg some (funext fun a => funext fun port => hadmits a port)
  | firewalld =>
    obtain ⟨st, hst, hadmits⟩ := Firewalld.admits_run (reload_notMem_firewalldChanges relays)
      (mapM_parse_firewalld relays h)
    rw [FrontEnd.apply, hst, Option.map_some]
    exact congrArg some (funext fun a => funext fun port => hadmits a port)

/-- **The policy for networks without scope** admits exactly these networks to the admin port. -/
lemma policy_of_unscoped (f : FrontEnd) (h : ∀ n ∈ ns, n.scope = none) :
    ∃ admits, f.policy (ns.map IpNetwork.str) relays = some admits ∧
      ∀ a, admits a adminPort = ns.any (·.contains a) := by
  refine ⟨_, policy_eq_denoted relays f h, fun a => ?_⟩
  cases f with
  | ufw => exact firstMatch_ufwRules relays a
  | firewalld => exact admits_firewalldChanges relays a

end Unscoped

/-- **There is no policy with a scoped network**: whatever its scope is, the command that has it
as its source is no command of the front end. -/
lemma policy_of_scoped (f : FrontEnd) {ns : List IpNetwork} (relays : Bool)
    (h : ¬ ∀ n ∈ ns, n.scope = none) : f.policy (ns.map IpNetwork.str) relays = none := by
  obtain ⟨before, n, after, rfl, hbefore, hn⟩ := exists_first_scoped h
  obtain ⟨addr, rest, hstr, haddr⟩ := str_of_scope hn
  rw [FrontEnd.policy, List.map_append, List.map_cons, hstr]
  cases hcmds : simpleCommands (render (f.rules (before.map IpNetwork.str ++
      (addr ++ '%' :: rest) :: after.map IpNetwork.str) relays)) with
  | none => rfl
  | some cmds =>
    obtain ⟨u, vs, hmem⟩ := exists_mem_simpleCommands
      (fun ts hts => f.tokens_rules_scoped relays
        (by simpa using fun m hm => isWordChar_of_mem_str (hbefore m hm))
        (fun c hc => isWordChar_of_isPlainChar (isPlainChar_of_isCidrChar (haddr c hc))) hts)
      hcmds
    have hsource : parseNetwork ((addr ++ ['%']) ++ u) = none :=
      parseNetwork_eq_none (c := '%') (by simp) (by decide)
    rw [List.append_assoc] at hmem
    rw [Option.bind_some]
    cases f with
    | ufw =>
      rw [FrontEnd.apply, Ufw.run_eq_none hmem (Ufw.parse_allowFrom_eq_none hsource vs),
        Option.map_none]
    | firewalld =>
      rw [FrontEnd.apply,
        Firewalld.run_eq_none hmem (Firewalld.parse_addSource_eq_none hsource _ vs),
        Option.map_none]

end DngPreflight.FirewallRules
