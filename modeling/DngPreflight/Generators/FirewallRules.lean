import DngPreflight.Net.Notation
import DngPreflight.Shell.Commands
import DngPreflight.Validation.HardStops
import DngPreflight.Models.Factories

set_option relaxedAutoImplicit false
set_option autoImplicit false

/-!
# The firewall rules

The text of `firewall.sh`, and what a shell reads in it. The networks of the load balancer are
substituted in the commands of the script, without quotes.

## Main definitions

* `DngPreflight.FirewallRules.generate` — the text of the script.
* `DngPreflight.FirewallRules.AdminCommandsSimple` — every admin CIDR is the source of one simple
  command.

## Main results

* `DngPreflight.FirewallRules.adminCommandsSimple_iff` — when the admin commands are simple.
-/

namespace DngPreflight.FirewallRules

open Text Net Shell

/-! ## The scripts -/

/-- The firewalls that have a script of their own. -/
inductive FrontEnd where
  | ufw
  | firewalld
  deriving DecidableEq

namespace FrontEnd

/-- The detected kind that selects the script. -/
def kind : FrontEnd → FirewallKind
  | .ufw => .ufw
  | .firewalld => .firewalld

/-- The head of a script, with the checks that stop it where it cannot run. -/
def checks (f : FrontEnd) (scope : Str) : Template :=
  match f with
  | .ufw =>
    lines [
      "#!/usr/bin/env bash",
      "# Auto-generated by dng-preflight. ufw firewall rules for DNG."] ++
    line ["# Scope: ", .value scope] ++
    lines [
      "",
      "set -euo pipefail",
      "",
      "if ! command -v ufw >/dev/null 2>&1; then",
      "    printf 'ufw is not installed; aborting\\n' >&2",
      "    exit 1",
      "fi",
      "",
      "if [[ \"${EUID}\" -ne 0 ]]; then",
      "    printf 'must run as root (use sudo)\\n' >&2",
      "    exit 1",
      "fi",
      ""]
  | .firewalld =>
    lines [
      "#!/usr/bin/env bash",
      "# Auto-generated by dng-preflight. firewalld rules for DNG."] ++
    line ["# Scope: ", .value scope] ++
    lines [
      "",
      "set -euo pipefail",
      "",
      "if ! command -v firewall-cmd >/dev/null 2>&1; then",
      "    printf 'firewalld is not installed; aborting\\n' >&2",
      "    exit 1",
      "fi",
      "",
      "if [[ \"${EUID}\" -ne 0 ]]; then",
      "    printf 'must run as root (use sudo)\\n' >&2",
      "    exit 1",
      "fi",
      ""]

/-- The rule for client traffic. -/
def publicRules : FrontEnd → Template
  | .ufw => lines [
      "# Public traffic: 443 from anywhere (clients reach DNG via HTTPS)",
      "ufw allow 443/tcp",
      ""]
  | .firewalld => lines [
      "# Public zone: 443 reachable from anywhere",
      "firewall-cmd --permanent --zone=public --add-port=443/tcp",
      ""]

/-- What stands before the rules for admin CIDRs. -/
def adminHeading : FrontEnd → Template
  | .ufw => lines [
      "# Admin console (8443): restricted to admin CIDRs only"]
  | .firewalld => lines [
      "# Admin console (8443): restricted via the trusted zone",
      "firewall-cmd --permanent --zone=trusted --add-port=8443/tcp"]

/-- The admin command before its CIDR. -/
def adminHead : FrontEnd → Str
  | .ufw => "ufw allow from "
  | .firewalld => "firewall-cmd --permanent --zone=trusted --add-source="

/-- The admin command after its CIDR. -/
def adminTail : FrontEnd → Str
  | .ufw => " to any port 8443 proto tcp"
  | .firewalld => ""

/-- The rule for one admin CIDR. -/
def adminLine (f : FrontEnd) (cidr : Str) : Template :=
  line [.fixed f.adminHead, .value cidr, .fixed f.adminTail]

/-- What stands in place of the rules for admin CIDRs if there are none. -/
def adminNone : FrontEnd → Template
  | .ufw => lines [
      "# Admin console (8443): NO public access.",
      "# Add a rule like 'ufw allow from <admin_cidr> to any port 8443 proto tcp'",
      "# before bringing DNG up, otherwise the admin console will be unreachable."]
  | .firewalld => lines [
      "# Admin console (8443): NO trusted CIDRs configured.",
      "# Add CIDRs to the trusted zone before bringing DNG up, e.g.:",
      "#   firewall-cmd --permanent --zone=trusted --add-source=10.0.0.0/8"]

/-- The rules for admin CIDRs. -/
def adminRules (f : FrontEnd) (cidrs : List Str) : Template :=
  if cidrs = [] then f.adminNone else f.adminHeading ++ cidrs.flatMap f.adminLine

/-- The rules for relays. -/
def relayRules : FrontEnd → Template
  | .ufw => lines [
      "# RDP relay (3389): publicly reachable for RDP clients",
      "ufw allow 3389/tcp",
      "# SMB relay (445): restricted to known client CIDRs only (no public exposure)",
      "# Add per-CIDR rules below for any internal SMB clients that should reach DNG."]
  | .firewalld => lines [
      "# RDP relay (3389)",
      "firewall-cmd --permanent --zone=public --add-port=3389/tcp"]

/-- The end of a script. -/
def closing : FrontEnd → Template
  | .ufw => lines [
      "",
      "# Explicitly deny 8443 from anywhere else",
      "ufw deny 8443/tcp",
      "",
      "ufw --force enable",
      "ufw status verbose"]
  | .firewalld => lines [
      "",
      "firewall-cmd --reload",
      "firewall-cmd --list-all"]

/-- What follows the rules for admin CIDRs. -/
def afterAdmin (f : FrontEnd) (relays : Bool) : Template :=
  lines [""] ++ (if relays then f.relayRules else []) ++ f.closing

/-- The rules of a script, which follow its checks. -/
def rules (f : FrontEnd) (cidrs : List Str) (relays : Bool) : Template :=
  f.publicRules ++ f.adminRules cidrs ++ f.afterAdmin relays

end FrontEnd

/-- The detected firewall. -/
def detectedKind (config : DngConfig) : Str :=
  match config.snapshot.firewall with
  | .missing _ => "not_detected"
  | .detected fw => fw.kind.value

/-- The front end of a detected firewall, if it has a script of its own. -/
def frontEnd (detected : Str) : Option FrontEnd :=
  if detected = FirewallKind.ufw.value then some .ufw
  else if detected = FirewallKind.firewalld.value then some .firewalld
  else none

/-- The script for any other firewall: it explains what to do by hand. -/
def unsupported (detected : Str) (relays : Bool) : Template :=
  lines [
    "#!/usr/bin/env bash",
    "# Auto-generated by dng-preflight."] ++
  line ["# Detected firewall: ", .value detected] ++
  lines [
    "# MVP only emits ufw and firewalld rules; this stub explains what to do",
    "# manually for the detected firewall.",
    "",
    "set -euo pipefail",
    "",
    "cat <<'EOM'",
    "Firewall rules for DNG could not be generated for this host's firewall.",
    "",
    "Configure the following manually:",
    "",
    "  - Public:  TCP 443 from anywhere (DNG client traffic)",
    "  - Admin:   TCP 8443 reachable ONLY from a private admin CIDR",
    "             (must not be Internet-reachable)"] ++
  (if relays then
    lines [
      "  - RDP:     TCP 3389 from anywhere (RDP client traffic)",
      "  - SMB:     TCP 445 from internal CIDRs only"]
    else []) ++
  lines [
    "  - Deny:    TCP 8443 from any other source",
    "",
    "See RUNBOOK.md Step 2 for context.",
    "EOM",
    "",
    "exit 1"]

/-- The networks of the load balancer are the admin CIDRs. -/
def adminNetworks (config : DngConfig) : List IpNetwork :=
  match config.answers.loadBalancer with
  | some lb => lb.trustedProxies
  | none => []

/-- The admin CIDRs, as texts. -/
def adminCidrs (config : DngConfig) : List Str := (adminNetworks config).map IpNetwork.str

/-- The template of the script. -/
def template (config : DngConfig) : Template :=
  match frontEnd (detectedKind config) with
  | some f =>
    f.checks config.answers.deploymentScope.text ++
      f.rules (adminCidrs config) config.requiresExtraDnsContainer
  | none => unsupported (detectedKind config) config.requiresExtraDnsContainer

/-- The text of the script. -/
def generate (config : DngConfig) : Str := render (template config)

/-! ## What a shell reads -/

namespace FrontEnd

/-- The admin command of a source. -/
def adminCommand (f : FrontEnd) (source : Str) : List Str :=
  match f with
  | .ufw => ["ufw", "allow", "from", source, "to", "any", "port", "8443", "proto", "tcp"]
  | .firewalld =>
    ["firewall-cmd", "--permanent", "--zone=trusted", "--add-source=".toList ++ source]

/-- The commands of `publicRules`; an empty command is a comment or a blank line. -/
def publicCommands : FrontEnd → List (List Str)
  | .ufw => [[], ["ufw", "allow", "443/tcp"], []]
  | .firewalld => [[], ["firewall-cmd", "--permanent", "--zone=public", "--add-port=443/tcp"], []]

/-- The commands of `adminHeading`. -/
def headingCommands : FrontEnd → List (List Str)
  | .ufw => [[]]
  | .firewalld =>
    [[], ["firewall-cmd", "--permanent", "--zone=trusted", "--add-port=8443/tcp"]]

/-- The commands of `adminRules`. -/
def adminCommands (f : FrontEnd) (cidrs : List Str) : List (List Str) :=
  if cidrs = [] then [[], [], []] else f.headingCommands ++ cidrs.map f.adminCommand

/-- The commands of `relayRules`. -/
def relayCommands : FrontEnd → List (List Str)
  | .ufw => [[], ["ufw", "allow", "3389/tcp"], [], []]
  | .firewalld => [[], ["firewall-cmd", "--permanent", "--zone=public", "--add-port=3389/tcp"]]

/-- The commands of `closing`. -/
def closingCommands : FrontEnd → List (List Str)
  | .ufw =>
    [[], [], ["ufw", "deny", "8443/tcp"], [], ["ufw", "--force", "enable"],
      ["ufw", "status", "verbose"]]
  | .firewalld => [[], ["firewall-cmd", "--reload"], ["firewall-cmd", "--list-all"]]

/-- The commands of `afterAdmin`. -/
def afterCommands (f : FrontEnd) (relays : Bool) : List (List Str) :=
  [[]] ++ (if relays then f.relayCommands else []) ++ f.closingCommands

variable (f : FrontEnd)

section Lines

set_option maxRecDepth 4000

/-- The rules for the public port are read as their commands. -/
lemma reads_publicRules : Reads f.publicRules (lineTokens f.publicCommands) := by
  cases f <;>
  · simp only [publicRules, publicCommands, lines_cons, lines_nil]
    repeat rw [toList_eq rfl]
    rfl

/-- The heading of the rules for the admin port is read as its commands. -/
lemma reads_adminHeading : Reads f.adminHeading (lineTokens f.headingCommands) := by
  cases f <;>
  · simp only [adminHeading, headingCommands, lines_cons, lines_nil]
    repeat rw [toList_eq rfl]
    rfl

/-- The comment in the place of rules for trusted proxies is read as three line feeds. -/
lemma reads_adminNone : Reads f.adminNone (lineTokens [[], [], []]) := by
  cases f <;>
  · simp only [adminNone, lines_cons, lines_nil]
    repeat rw [toList_eq rfl]
    rfl

/-- The rules for RDP relays are read as their commands. -/
lemma reads_relayRules : Reads f.relayRules (lineTokens f.relayCommands) := by
  cases f <;>
  · simp only [relayRules, relayCommands, lines_cons, lines_nil]
    repeat rw [toList_eq rfl]
    rfl

/-- The last commands of a script are read as they are. -/
lemma reads_closing : Reads f.closing (lineTokens f.closingCommands) := by
  cases f <;>
  · simp only [closing, closingCommands, lines_cons, lines_nil]
    repeat rw [toList_eq rfl]
    rfl

/-- **What follows the admin port** is read as its commands, with RDP relays or without. -/
lemma reads_afterAdmin (relays : Bool) :
    Reads (f.afterAdmin relays) (lineTokens (f.afterCommands relays)) := by
  have hblank : Reads (lines [""]) (lineTokens [[]]) := by decide
  have hrelays : Reads (if relays then f.relayRules else [])
      (lineTokens (if relays then f.relayCommands else [])) := by
    cases relays with
    | false => rfl
    | true => exact f.reads_relayRules
  rw [afterCommands, lineTokens_append, lineTokens_append]
  exact (hblank.append hrelays).append f.reads_closing

/-- The checks are whole commands. -/
lemma reads_checks (scope : DeploymentScope) :
    Reads (f.checks scope.text) (Shell.run .init (render (f.checks scope.text))).2 := by
  have hlabel : Shell.run .init "# Scope: ".toList = (⟨.comment, []⟩, []) := by decide
  have hscope : '\n' ∉ scope.text := by cases scope <;> decide
  have hline := (reads_commentLine hlabel hscope).whole
  cases f <;>
  · refine Whole.reads (((Whole.append ?_ hline).append ?_))
    all_goals
      simp only [lines_cons, lines_nil]
      repeat rw [toList_eq rfl]
      rfl

end Lines

/-- The words of an admin command before the one that the source is in. -/
def adminWords : FrontEnd → List Str
  | .ufw => ["ufw", "allow", "from"]
  | .firewalld => ["firewall-cmd", "--permanent", "--zone=trusted"]

/-- The beginning of the word that the source is in. -/
def sourceOption : FrontEnd → Str
  | .ufw => ""
  | .firewalld => "--add-source="

/-- The words of an admin command after the one that the source is in. -/
def adminRest : FrontEnd → List Str
  | .ufw => ["to", "any", "port", "8443", "proto", "tcp"]
  | .firewalld => []

/-- The word of an admin command that the source is in. -/
lemma adminCommand_eq (source : Str) :
    f.adminCommand source = f.adminWords ++ (f.sourceOption ++ source) :: f.adminRest := by
  cases f <;> rfl

set_option maxRecDepth 4000 in
/-- The state in which a shell begins to read the source. -/
lemma run_adminHead : ∃ m, (m = Mode.bare ∨ m = Mode.blank ∧ f.sourceOption = []) ∧
    Shell.run .init f.adminHead =
      (⟨m, bareWord f.sourceOption⟩, f.adminWords.map fun s => .word (bareWord s)) := by
  cases f with
  | ufw => exact ⟨.blank, Or.inr ⟨rfl, rfl⟩, rfl⟩
  | firewalld =>
    have hhead : adminHead .firewalld = _ :=
      toList_eq (s := "firewall-cmd --permanent --zone=trusted --add-source=") rfl
    refine ⟨.bare, Or.inl rfl, ?_⟩
    rw [hhead]
    rfl

/-- The rule for a source of ordinary characters is its admin command. -/
lemma reads_adminLine {source : Str} (hne : source ≠ []) (h : ∀ c ∈ source, isWordChar c) :
    Reads (f.adminLine source) (lineTokens [f.adminCommand source]) := by
  obtain ⟨m, hm, hhead⟩ := f.run_adminHead
  cases f with
  | ufw => exact reads_valueLine hhead hm (fun _ => rfl) hne h
  | firewalld => exact reads_valueLine hhead hm (fun _ => rfl) hne h

/-- The rules for sources of ordinary characters are their admin commands. -/
lemma reads_adminLines {sources : List Str}
    (h : ∀ s ∈ sources, s ≠ [] ∧ ∀ c ∈ s, isWordChar c) :
    Reads (sources.flatMap f.adminLine) (lineTokens (sources.map f.adminCommand)) := by
  induction sources with
  | nil => rfl
  | cons s ss ih =>
    have hs := h s (by simp)
    have hss := ih fun t ht => h t (List.mem_cons_of_mem s ht)
    rw [List.flatMap_cons, List.map_cons, ← List.singleton_append, lineTokens_append]
    exact (f.reads_adminLine hs.1 hs.2).append hss

/-- The rules with sources of ordinary characters are simple commands. -/
lemma reads_rules {cidrs : List Str} (h : ∀ s ∈ cidrs, s ≠ [] ∧ ∀ c ∈ s, isWordChar c)
    (relays : Bool) : Reads (f.rules cidrs relays)
      (lineTokens (f.publicCommands ++ f.adminCommands cidrs ++ f.afterCommands relays)) := by
  have hadmin : Reads (f.adminRules cidrs) (lineTokens (f.adminCommands cidrs)) := by
    unfold adminRules adminCommands
    split_ifs
    · exact f.reads_adminNone
    · rw [lineTokens_append]
      exact f.reads_adminHeading.append (f.reads_adminLines h)
  rw [lineTokens_append, lineTokens_append]
  exact (f.reads_publicRules.append hadmin).append (f.reads_afterAdmin relays)

/-- What stands before the rule of a network are whole commands. -/
lemma reads_lead (before : List Str) (hbefore : ∀ s ∈ before, s ≠ [] ∧ ∀ c ∈ s, isWordChar c) :
    Reads (f.publicRules ++ f.adminHeading ++ before.flatMap f.adminLine)
      (lineTokens (f.publicCommands ++ f.headingCommands ++ before.map f.adminCommand)) := by
  rw [lineTokens_append, lineTokens_append]
  exact (f.reads_publicRules.append f.reads_adminHeading).append (f.reads_adminLines hbefore)

/-- The rules with a scoped network begin with those before it, and with its address. -/
lemma exists_rules_scoped (before after : List Str) (addr rest : Str) (relays : Bool) :
    ∃ tail, render (f.rules (before ++ (addr ++ '%' :: rest) :: after) relays) =
      render (f.publicRules ++ f.adminHeading ++ before.flatMap f.adminLine) ++
        (f.adminHead ++ ((addr ++ ['%']) ++ tail)) := by
  refine ⟨rest ++ (f.adminTail ++ '\n' ::
    render (after.flatMap f.adminLine ++ f.afterAdmin relays)), ?_⟩
  rw [rules, adminRules, if_neg (by simp)]
  simp [adminLine, line, Piece.text]

/-- The percent sign of a scope is an ordinary character. -/
lemma isWordChar_of_mem_scopedAddress {addr : Str} (haddr : ∀ c ∈ addr, isWordChar c) :
    ∀ c ∈ addr ++ ['%'], isWordChar c := by
  intro c hc
  rcases List.mem_append.mp hc with hc | hc
  · exact haddr c hc
  · rw [List.mem_singleton.mp hc]
    decide

/-- **Rules with a scoped network**: a shell reads the commands before it, and then a word that
has the percent sign of the scope, whatever the scope is.

**Proof sketch.** The lines before are whole commands. The text of the network begins with
ordinary characters, the percent sign being one of them, so that they are in the word that the
admin command begins. -/
lemma tokens_rules_scoped {before after : List Str} {addr rest : Str} (relays : Bool)
    (hbefore : ∀ s ∈ before, s ≠ [] ∧ ∀ c ∈ s, isWordChar c) (haddr : ∀ c ∈ addr, isWordChar c)
    {ts : List Token}
    (h : tokens (render (f.rules (before ++ (addr ++ '%' :: rest) :: after) relays)) = some ts) :
    ∃ w us, ts = lineTokens (f.publicCommands ++ f.headingCommands ++ before.map f.adminCommand) ++
      (f.adminWords.map (fun s => .word (bareWord s)) ++
        .word (bareWord (f.sourceOption ++ (addr ++ ['%'])) ++ w) :: us) := by
  obtain ⟨tail, hsplit⟩ := f.exists_rules_scoped before after addr rest relays
  rw [hsplit, tokens_append_of_init (f.reads_lead before hbefore)] at h
  obtain ⟨us, hus, rfl⟩ := Option.map_eq_some_iff.mp h
  obtain ⟨m, hm, hhead⟩ := f.run_adminHead
  obtain ⟨w, us', rfl⟩ :=
    tokens_valueLine hhead hm (by simp) (isWordChar_of_mem_scopedAddress haddr) hus
  exact ⟨w, us', rfl⟩

end FrontEnd

/-- The characters of a CIDR are plain. -/
lemma isPlainChar_of_isCidrChar {c : Char} (h : isCidrChar c) : isPlainChar c := by
  simp only [isCidrChar, decide_eq_true_eq] at h
  rcases h with ⟨h0, h9⟩ | ⟨ha, hf⟩ | rfl | rfl | rfl
  · have hdigit : (decide (c.val ≥ 48) && decide (c.val ≤ 57)) = true := by
      rw [Bool.and_eq_true, decide_eq_true_eq, decide_eq_true_eq]
      exact ⟨h0, h9⟩
    have halnum : c.isAlphanum = true := by
      change ((c.isUpper || c.isLower) || (decide (c.val ≥ 48) && decide (c.val ≤ 57))) = true
      rw [hdigit, Bool.or_true]
    rw [isPlainChar, halnum, Bool.true_or]
  · have hz : c.val ≤ 122 := UInt32.le_trans (show c.val ≤ 'f'.val from hf) (by decide)
    have hlower : (decide (c.val ≥ 97) && decide (c.val ≤ 122)) = true := by
      rw [Bool.and_eq_true, decide_eq_true_eq, decide_eq_true_eq]
      exact ⟨ha, hz⟩
    have halnum : c.isAlphanum = true := by
      change ((c.isUpper || (decide (c.val ≥ 97) && decide (c.val ≤ 122))) || c.isDigit) = true
      rw [hlower, Bool.or_true, Bool.true_or]
    rw [isPlainChar, halnum, Bool.true_or]
  · decide
  · decide
  · decide

variable {config : DngConfig}

/-- A network without scope is written in plain characters. -/
lemma isPlainChar_of_mem_str {n : IpNetwork} (h : n.scope = none) : ∀ c ∈ n.str, isPlainChar c :=
  fun _ hc => isPlainChar_of_isCidrChar (isCidrChar_of_mem_str h hc)

/-- A network without scope is written in ordinary characters. -/
lemma isWordChar_of_mem_str {n : IpNetwork} (h : n.scope = none) :
    n.str ≠ [] ∧ ∀ c ∈ n.str, isWordChar c :=
  ⟨str_ne_nil n, fun c hc => isWordChar_of_isPlainChar (isPlainChar_of_mem_str h c hc)⟩

/-- The first scoped network of a list, if there is one. -/
lemma exists_first_scoped {ns : List IpNetwork} (h : ¬ ∀ n ∈ ns, n.scope = none) :
    ∃ before n after, ns = before ++ n :: after ∧ (∀ m ∈ before, m.scope = none) ∧
      n.scope ≠ none := by
  induction ns with
  | nil => exact absurd (by simp) h
  | cons n ns ih =>
    by_cases hn : n.scope = none
    · have hns : ¬ ∀ m ∈ ns, m.scope = none := fun hall => h (by simpa [hn] using hall)
      obtain ⟨before, m, after, rfl, hbefore, hm⟩ := ih hns
      exact ⟨n :: before, m, after, rfl, by simpa [hn] using hbefore, hm⟩
    · exact ⟨[], n, ns, rfl, by simp, hn⟩

/-- Every admin CIDR is the source of one simple command, in which it is one word of the
characters of CIDRs, and the rest of the script is not touched by it. -/
def AdminCommandsSimple (f : FrontEnd) (config : DngConfig) : Prop :=
  ∃ sources : List Str, sources.length = (adminCidrs config).length ∧
    (∀ s ∈ sources, ∀ c ∈ s, isCidrChar c) ∧
    tokens (generate config) =
      some ((Shell.run .init (render (f.checks config.answers.deploymentScope.text))).2 ++
        lineTokens (f.publicCommands ++ f.headingCommands ++ sources.map f.adminCommand ++
          f.afterCommands config.requiresExtraDnsContainer))

section Script

variable {f : FrontEnd} (hkind : detectedKind config = f.kind.value)

include hkind

/-- The front end of the detected firewall. -/
lemma frontEnd_eq : frontEnd (detectedKind config) = some f := by
  rw [hkind]
  cases f <;> decide

/-- The script of a firewall that has one. -/
lemma template_eq : template config = f.checks config.answers.deploymentScope.text ++
    f.rules (adminCidrs config) config.requiresExtraDnsContainer := by
  rw [template, frontEnd_eq hkind]

/-- The tokens of the script are those of its checks and of its rules. -/
lemma tokens_generate : tokens (generate config) =
    (tokens (render (f.rules (adminCidrs config) config.requiresExtraDnsContainer))).map
      ((Shell.run .init (render (f.checks config.answers.deploymentScope.text))).2 ++ ·) := by
  rw [generate, template_eq hkind, render_append,
    tokens_append_of_init (f.reads_checks config.answers.deploymentScope)]

end Script

/-- The characters of the words that do not depend on the sources: plain ones, and no percent
sign. -/
lemma isPlainChar_of_mem_fixed (f : FrontEnd) (relays : Bool) :
    ∀ c ∈ f.publicCommands ++ f.headingCommands ++
        [f.adminWords ++ f.sourceOption :: f.adminRest] ++ f.afterCommands relays,
      ∀ s ∈ c, ∀ d ∈ s, isPlainChar d ∧ d ≠ '%' := by
  have hall : (f.publicCommands ++ f.headingCommands ++
      [f.adminWords ++ f.sourceOption :: f.adminRest] ++ f.afterCommands relays).all
        (fun c => c.all fun s => s.all fun d => isPlainChar d && d != '%') = true := by
    cases f <;> cases relays <;> decide
  simpa only [List.all_eq_true, Bool.and_eq_true, bne_iff_ne] using hall

/-- The characters of the words of the commands: plain ones and no percent sign, or those of the
sources. -/
lemma isPlainChar_or_mem_source (f : FrontEnd) {relays : Bool} {sources : List Str} {c : List Str}
    (hc : c ∈ f.publicCommands ++ f.headingCommands ++ sources.map f.adminCommand ++
      f.afterCommands relays) {s : Str} (hs : s ∈ c) {d : Char} (hd : d ∈ s) :
    (isPlainChar d ∧ d ≠ '%') ∨ ∃ source ∈ sources, d ∈ source := by
  have hfixed := isPlainChar_of_mem_fixed f relays
  simp only [List.mem_append, List.mem_map, List.mem_singleton] at hc hfixed
  rcases hc with (hc | ⟨source, hsource, rfl⟩) | hc
  · exact Or.inl (hfixed c (Or.inl (Or.inl hc)) s hs d hd)
  · rw [f.adminCommand_eq] at hs
    have hadmin := hfixed _ (Or.inl (Or.inr rfl))
    rcases List.mem_append.mp hs with hs | hs
    · exact Or.inl (hadmin s (by simp [hs]) d hd)
    · rcases List.mem_cons.mp hs with rfl | hs
      · rcases List.mem_append.mp hd with hd | hd
        · exact Or.inl (hadmin f.sourceOption (by simp) d hd)
        · exact Or.inr ⟨source, hsource, hd⟩
      · exact Or.inl (hadmin s (by simp [hs]) d hd)
  · exact Or.inl (hfixed c (Or.inr hc) s hs d hd)

/-- The sources of simple admin commands have no scope.

**Proof sketch.** With a scope, there is a word with a percent sign, which neither the fixed words
nor the sources of simple commands have. -/
lemma scope_eq_none_of_adminCommandsSimple {f : FrontEnd}
    (hkind : detectedKind config = f.kind.value) (h : AdminCommandsSimple f config) :
    ∀ n ∈ adminNetworks config, n.scope = none := by
  obtain ⟨sources, -, hchars, htokens⟩ := h
  by_contra hscoped
  obtain ⟨before, n, after, hnets, hbefore, hn⟩ := exists_first_scoped hscoped
  obtain ⟨addr, rest, hstr, haddr⟩ := str_of_scope hn
  have hcidrs : adminCidrs config = before.map IpNetwork.str ++ (addr ++ '%' :: rest) ::
      after.map IpNetwork.str := by
    rw [adminCidrs, hnets, List.map_append, List.map_cons, hstr]
  rw [tokens_generate hkind] at htokens
  obtain ⟨ts, hts, heq⟩ := Option.map_eq_some_iff.mp htokens
  rw [hcidrs] at hts
  obtain ⟨w, us, rfl⟩ := f.tokens_rules_scoped _
    (by simpa using fun m hm => isWordChar_of_mem_str (hbefore m hm))
    (fun c hc => isWordChar_of_isPlainChar (isPlainChar_of_isCidrChar (haddr c hc))) hts
  -- the word with the percent sign is a word of the simple commands
  have hmem : Token.word (bareWord (f.sourceOption ++ (addr ++ ['%'])) ++ w) ∈
      lineTokens (f.publicCommands ++ f.headingCommands ++ sources.map f.adminCommand ++
        f.afterCommands config.requiresExtraDnsContainer) := by
    rw [← List.append_cancel_left heq]
    simp
  obtain ⟨c, hc, s, hs, hword⟩ := exists_of_word_mem_lineTokens hmem
  have hpercent : '%' ∈ s := by
    have hfst : s = (bareWord (f.sourceOption ++ (addr ++ ['%'])) ++ w).map Prod.fst := by
      rw [hword, bareWord, List.map_map]
      simp [Function.comp_def]
    rw [hfst]
    simp [bareWord]
  rcases isPlainChar_or_mem_source f hc hs hpercent with ⟨-, h⟩ | ⟨source, hsource, h⟩
  · exact h rfl
  · exact absurd (hchars source hsource '%' h) (by decide)

/-- **When the admin commands are simple**: for a load balancer and a supported firewall, exactly
when no trusted proxy has a scope. -/
theorem adminCommandsSimple_iff {f : FrontEnd} (hkind : detectedKind config = f.kind.value)
    {lb : LoadBalancerConfig} (hlb : config.answers.loadBalancer = some lb) (hval : lb.Validated) :
    AdminCommandsSimple f config ↔ ∀ n ∈ lb.trustedProxies, n.scope = none := by
  have hnets : adminNetworks config = lb.trustedProxies := by rw [adminNetworks, hlb]
  constructor
  · intro h
    rw [← hnets]
    exact scope_eq_none_of_adminCommandsSimple hkind h
  · intro hscope
    have hne : adminCidrs config ≠ [] := by
      rw [adminCidrs, hnets]
      simpa using show lb.trustedProxies ≠ [] from hval
    have hmem : ∀ s ∈ adminCidrs config, ∃ n : IpNetwork, n.scope = none ∧ n.str = s := by
      intro s hs
      obtain ⟨n, hn, rfl⟩ := List.mem_map.mp hs
      exact ⟨n, hscope n (hnets ▸ hn), rfl⟩
    refine ⟨adminCidrs config, rfl, ?_, ?_⟩
    · intro s hs c hc
      obtain ⟨n, hn, rfl⟩ := hmem s hs
      exact isCidrChar_of_mem_str hn hc
    · have hreads : Reads (f.rules (adminCidrs config) config.requiresExtraDnsContainer) _ :=
        f.reads_rules
          (fun s hs => by
            obtain ⟨n, hn, rfl⟩ := hmem s hs
            exact isWordChar_of_mem_str hn)
          config.requiresExtraDnsContainer
      rw [tokens_generate hkind, hreads.tokens, FrontEnd.adminCommands, if_neg hne,
        Option.map_some]
      simp only [List.append_assoc]

/-- A plan with a load balancer, and the given firewall. -/
def proxyPlan (kind : FirewallKind) (proxies : List IpNetwork) : DngConfig :=
  buildConfig (makeSnapshot { firewall := .detected ⟨kind, true⟩ })
    (makeAnswers { loadBalancer := some (lbOf proxies) })

/-- The load balancer of such a plan. -/
lemma loadBalancer_proxyPlan (kind : FirewallKind) (proxies : List IpNetwork) :
    (proxyPlan kind proxies).answers.loadBalancer = some (lbOf proxies) := rfl

/-- The admin commands for a private network are simple. -/
theorem adminCommandsSimple_iff_ten :
    AdminCommandsSimple .ufw (proxyPlan .ufw [.v4 tenNetwork]) ∧
      AdminCommandsSimple .firewalld (proxyPlan .firewalld [.v4 tenNetwork]) := by
  have hlb := fun kind => loadBalancer_proxyPlan kind [.v4 tenNetwork]
  exact ⟨(adminCommandsSimple_iff (f := .ufw) rfl (hlb _) (by decide)).mpr (by decide),
    (adminCommandsSimple_iff (f := .firewalld) rfl (hlb _) (by decide)).mpr (by decide)⟩

/-- A scope that is a command. -/
def rebootScope : Scope := ⟨";reboot", by decide, by decide, by decide⟩

/-- `fe80::%;reboot/64`. -/
def rebootNetwork : IPv6Network := ⟨linkLocal, some rebootScope⟩

/-- The text of the network and the load balancer are accepted, and the admin commands are not
simple. -/
theorem rebootNetwork_not_simple :
    IPv6Network.ofText "fe80::%;reboot/64" = some rebootNetwork ∧
      (lbOf [.v6 rebootNetwork]).Validated ∧
      ∀ f : FrontEnd, ¬ AdminCommandsSimple f (proxyPlan f.kind [.v6 rebootNetwork]) := by
  refine ⟨by decide +kernel, by decide, fun f h => ?_⟩
  have hscope := scope_eq_none_of_adminCommandsSimple rfl h (.v6 rebootNetwork)
    (List.mem_singleton_self _)
  cases hscope

end DngPreflight.FirewallRules
