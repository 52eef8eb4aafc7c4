import DngPreflight.Discovery.Firewall

set_option relaxedAutoImplicit false
set_option autoImplicit false

/-!
# The chain of firewall probes

The probe asks `firewall-cmd`, `ufw` and `iptables` in this order, and takes the first answer. A
tool that is missing or whose command fails may give no answer or an inactive firewall, depending on
the tool.

## Main definitions

* `DngPreflight.Discovery.ReportsActive` — the probe of one tool reports an active firewall.
* `DngPreflight.Discovery.FindsActive` — the chain finds one if there is one.

## Main results

* `DngPreflight.Discovery.reportsActive_iff` — what each tool must print.
* `DngPreflight.Discovery.findsActive_iff` — when the chain finds an active firewall.
-/

namespace DngPreflight.Discovery

open Text

variable {tools : FirewallTools}

/-! ## Each tool on its own -/

/-- The answer of the tool of a kind, queried on its own. -/
def ownProbe (tools : FirewallTools) : FirewallKind → Option FirewallState
  | .firewalld => probeFirewalld tools
  | .ufw => probeUfw tools
  | .iptables => probeIptables tools
  | .none => none

/-- The tool of a kind reports an active firewall. -/
def ReportsActive (tools : FirewallTools) (kind : FirewallKind) : Prop :=
  ∃ state, ownProbe tools kind = some state ∧ state.active = true

/-- `firewall-cmd --state` exits with 0 and prints that the daemon is running. -/
def FirewalldRunning (tools : FirewallTools) : Prop :=
  ∃ stdout, tools.firewallCmd = some (.exited 0 stdout) ∧
    startsWith (lower (strip stdout)) "running" = true

/-- `ufw status` exits with 0. -/
def UfwAnswers (tools : FirewallTools) : Prop := ∃ stdout, tools.ufw = some (.exited 0 stdout)

/-- `ufw status` exits with 0 and prints that the firewall is active. -/
def UfwActive (tools : FirewallTools) : Prop :=
  ∃ stdout, tools.ufw = some (.exited 0 stdout) ∧ contains (strip stdout) "Status: active" = true

/-- `iptables -S` exits with 0 and lists other rules than default policies. -/
def IptablesActive (tools : FirewallTools) : Prop :=
  ∃ stdout, tools.iptables = some (.exited 0 stdout) ∧ ¬ OnlyDefaults stdout

/-- `firewall-cmd` answers whenever it is installed, even if it fails. -/
lemma probeFirewalld_cases (tools : FirewallTools) :
    (tools.firewallCmd = none ∧ probeFirewalld tools = none ∧ ¬ FirewalldRunning tools) ∨
      (tools.firewallCmd ≠ none ∧ ∃ active, probeFirewalld tools = some ⟨.firewalld, active⟩ ∧
        (active = true ↔ FirewalldRunning tools)) := by
  obtain ⟨firewallCmd, ufw, iptables⟩ := tools
  cases firewallCmd with
  | none => exact Or.inl ⟨rfl, rfl, by simp [FirewalldRunning]⟩
  | some outcome =>
    refine Or.inr ⟨nofun, _, rfl, ?_⟩
    cases outcome with
    | failed => simp [FirewalldRunning]
    | exited returncode stdout =>
      simp only [FirewalldRunning, Bool.and_eq_true, decide_eq_true_eq, Option.some.injEq,
        Outcome.exited.injEq]
      constructor
      · rintro ⟨rfl, hstarts⟩
        exact ⟨stdout, ⟨rfl, rfl⟩, hstarts⟩
      · rintro ⟨_, ⟨rfl, rfl⟩, hstarts⟩
        exact ⟨rfl, hstarts⟩

/-- `ufw` answers if it exits with 0. -/
lemma probeUfw_cases (tools : FirewallTools) :
    (¬ UfwAnswers tools ∧ probeUfw tools = none ∧ ¬ UfwActive tools) ∨
      (UfwAnswers tools ∧ ∃ active, probeUfw tools = some ⟨.ufw, active⟩ ∧
        (active = true ↔ UfwActive tools)) := by
  obtain ⟨firewallCmd, ufw, iptables⟩ := tools
  cases ufw with
  | none => exact Or.inl ⟨by simp [UfwAnswers], rfl, by simp [UfwActive]⟩
  | some outcome =>
    cases outcome with
    | failed => exact Or.inl ⟨by simp [UfwAnswers], rfl, by simp [UfwActive]⟩
    | exited returncode stdout =>
      by_cases hcode : returncode = 0
      · subst hcode
        exact Or.inr ⟨⟨stdout, rfl⟩, _, rfl, by simp [UfwActive]⟩
      · exact Or.inl ⟨by simp [UfwAnswers, hcode], if_pos hcode, by simp [UfwActive, hcode]⟩

/-- `iptables` answers if it exits with 0. -/
lemma probeIptables_cases (tools : FirewallTools) :
    (probeIptables tools = none ∧ ¬ IptablesActive tools) ∨
      ∃ active, probeIptables tools = some ⟨.iptables, active⟩ ∧
        (active = true ↔ IptablesActive tools) := by
  obtain ⟨firewallCmd, ufw, iptables⟩ := tools
  cases iptables with
  | none => exact Or.inl ⟨rfl, by simp [IptablesActive]⟩
  | some outcome =>
    cases outcome with
    | failed => exact Or.inl ⟨rfl, by simp [IptablesActive]⟩
    | exited returncode stdout =>
      by_cases hcode : returncode = 0
      · subst hcode
        refine Or.inr ⟨_, rfl, ?_⟩
        rw [decide_eq_true_eq, Ne, iptablesRules_eq_nil_iff]
        simp [IptablesActive]
      · exact Or.inl ⟨if_pos hcode, by simp [IptablesActive, hcode]⟩

/-- **What each tool must print** to report an active firewall. -/
lemma reportsActive_iff {kind : FirewallKind} :
    ReportsActive tools kind ↔ (kind = .firewalld ∧ FirewalldRunning tools) ∨
      (kind = .ufw ∧ UfwActive tools) ∨ (kind = .iptables ∧ IptablesActive tools) := by
  cases kind with
  | firewalld =>
    rcases probeFirewalld_cases tools with ⟨-, hprobe, hstate⟩ | ⟨-, active, hprobe, hstate⟩ <;>
      simp [ReportsActive, ownProbe, hprobe, hstate]
  | ufw =>
    rcases probeUfw_cases tools with ⟨-, hprobe, hstate⟩ | ⟨-, active, hprobe, hstate⟩ <;>
      simp [ReportsActive, ownProbe, hprobe, hstate]
  | iptables =>
    rcases probeIptables_cases tools with ⟨hprobe, hstate⟩ | ⟨active, hprobe, hstate⟩ <;>
      simp [ReportsActive, ownProbe, hprobe, hstate]
  | none => simp [ReportsActive, ownProbe]

/-! ## The chain -/

/-- If some tool reports an active firewall, the chain finds an active firewall, whose own tool
reports it. -/
def FindsActive (tools : FirewallTools) : Prop :=
  (∃ kind, ReportsActive tools kind) →
    (collectSync tools).active = true ∧ ReportsActive tools (collectSync tools).kind

/-- Some tool reports an active firewall. -/
lemma exists_reportsActive_iff : (∃ kind, ReportsActive tools kind) ↔
    FirewalldRunning tools ∨ UfwActive tools ∨ IptablesActive tools := by
  simp only [reportsActive_iff, exists_or, exists_eq_left]

/-- **When the chain finds an active firewall**: exactly if an installed `firewall-cmd` whose daemon
is not running is not followed by an active firewall, and neither is, where `firewall-cmd` is
missing, an inactive `ufw`.

**Proof sketch.** The first tool that answers decides: its answer must be active, or no tool after
it may report an active firewall. -/
theorem findsActive_iff (tools : FirewallTools) :
    FindsActive tools ↔
      (tools.firewallCmd ≠ none → ¬ FirewalldRunning tools →
        ¬ UfwActive tools ∧ ¬ IptablesActive tools) ∧
      (tools.firewallCmd = none → UfwAnswers tools → ¬ UfwActive tools →
        ¬ IptablesActive tools) := by
  rw [FindsActive, exists_reportsActive_iff, reportsActive_iff]
  rcases probeFirewalld_cases tools
    with ⟨hmissing, hnone, hidle⟩ | ⟨hinstalled, active, hsome, hiff⟩
  swap
  · have hcollect : collectSync tools = ⟨.firewalld, active⟩ := by simp [collectSync, hsome]
    simp only [hcollect, hiff, hinstalled]
    tauto
  rcases probeUfw_cases tools with ⟨hsilent, hnone', hidle'⟩ | ⟨hanswers, active, hsome, hiff⟩
  swap
  · have hcollect : collectSync tools = ⟨.ufw, active⟩ := by simp [collectSync, hnone, hsome]
    simp only [hcollect, hiff, hmissing]
    tauto
  rcases probeIptables_cases tools with ⟨-, hidle''⟩ | ⟨active, hsome, hiff⟩
  · simp only [hmissing, hidle, hidle', hidle'']
    tauto
  · have hcollect : collectSync tools = ⟨.iptables, active⟩ := by
      simp [collectSync, hnone, hnone', hsome]
    simp only [hcollect, hiff, hmissing]
    tauto

/-- A host with an installed but stopped firewalld, and an active ufw. -/
def stoppedDaemonHost : FirewallTools where
  firewallCmd := some (.exited 252 "not running\n")
  ufw := some (.exited 0 "Status: active\n")

/-- A host with an inactive ufw, and rules of iptables that drop what they do not expect. -/
def inactiveUfwHost : FirewallTools where
  ufw := some (.exited 0 "Status: inactive\n")
  iptables := some (.exited 0 droppingListing)

/-- On both hosts a firewall is active, and the chain finds an inactive one. -/
theorem stoppedDaemonHost_not_findsActive :
    (ReportsActive stoppedDaemonHost .ufw ∧ collectSync stoppedDaemonHost = ⟨.firewalld, false⟩ ∧
      ¬ FindsActive stoppedDaemonHost) ∧
    (ReportsActive inactiveUfwHost .iptables ∧ collectSync inactiveUfwHost = ⟨.ufw, false⟩ ∧
      ¬ FindsActive inactiveUfwHost) := by
  have hstopped : collectSync stoppedDaemonHost = ⟨.firewalld, false⟩ := by decide
  have hinactive : collectSync inactiveUfwHost = ⟨.ufw, false⟩ := by decide
  have hufw : ReportsActive stoppedDaemonHost .ufw :=
    reportsActive_iff.mpr (Or.inr (Or.inl ⟨rfl, "Status: active\n", rfl, by decide⟩))
  have hfilters : Iptables.FiltersInbound (Iptables.entries droppingListing) := by
    refine Or.inl ?_
    unfold droppingListing
    rw [toList_eq rfl]
    decide
  have hiptables : ReportsActive inactiveUfwHost .iptables :=
    reportsActive_iff.mpr (Or.inr (Or.inr ⟨rfl, droppingListing, rfl, not_onlyDefaults hfilters⟩))
  refine ⟨⟨hufw, hstopped, fun h => ?_⟩, hiptables, hinactive, fun h => ?_⟩
  · have hactive := (h ⟨_, hufw⟩).1
    rw [hstopped] at hactive
    cases hactive
  · have hactive := (h ⟨_, hiptables⟩).1
    rw [hinactive] at hactive
    cases hactive

end DngPreflight.Discovery
