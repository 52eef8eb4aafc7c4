import DngPreflight.Discovery.Command
import DngPreflight.PacketFilter.Iptables
import DngPreflight.Validation.HardStops
import DngPreflight.Models.Factories

set_option relaxedAutoImplicit false
set_option autoImplicit false

/-!
# The firewall probe

How the probe finds the active firewall of a host, and what the rule about the admin port makes of a
host that has `iptables` only. The probe counts every line of the listing, other than the three
default policies, as an active firewall.

## Main definitions

* `DngPreflight.Discovery.collectSync` — the firewall that the probe finds.
* `DngPreflight.Discovery.OnlyDefaults` — the listing has no line but the default policies.

## Main results

* `DngPreflight.Discovery.checkAdminPort_passes_iff` — when the rule passes for such a host; it does
  if the listing filters packets for the host.
-/

namespace DngPreflight.Discovery

open Text Codec

/-! ## The probe -/

/-- The tools on a host: for each tool that is in the path the outcome of the command that the probe
runs, which is `firewall-cmd --state`, `ufw status` or `iptables -S`. -/
structure FirewallTools where
  firewallCmd : Option Outcome := none
  ufw : Option Outcome := none
  iptables : Option Outcome := none
  deriving DecidableEq

/-- The return code and the stripped output of a command. -/
def run : Outcome → ℤ × Str
  | .exited returncode stdout => (returncode, strip stdout)
  | .failed => (-1, [])

/-- The firewall of `firewall-cmd`, whose daemon need not be running. -/
def probeFirewalld (tools : FirewallTools) : Option FirewallState :=
  tools.firewallCmd.map fun outcome =>
    let (code, out) := run outcome
    ⟨.firewalld, decide (code = 0) && startsWith (lower out) "running"⟩

/-- The firewall of `ufw`, if it tells its status. -/
def probeUfw (tools : FirewallTools) : Option FirewallState :=
  tools.ufw.bind fun outcome =>
    let (code, out) := run outcome
    if code ≠ 0 then none else some ⟨.ufw, contains out "Status: active"⟩

/-- The chains of the default policies. -/
def defaultChains : List Str := ["INPUT", "OUTPUT", "FORWARD"]

/-- The lines of the default policies. -/
def iptablesDefaultAccept : List Str :=
  defaultChains.map fun chain => "-P ".toList ++ chain ++ " ACCEPT".toList

/-- The lines of a listing that are not blank and do not start with a default policy. -/
def iptablesRules (out : Str) : List Str :=
  (splitlines out).filter fun line =>
    decide (strip line ≠ []) && ! iptablesDefaultAccept.any (startsWith line)

/-- The firewall of `iptables`, if it lists its rules. -/
def probeIptables (tools : FirewallTools) : Option FirewallState :=
  tools.iptables.bind fun outcome =>
    let (code, out) := run outcome
    if code ≠ 0 then none else some ⟨.iptables, decide (iptablesRules out ≠ [])⟩

/-- The first firewall that is found. -/
def collectSync (tools : FirewallTools) : FirewallState :=
  (([probeFirewalld, probeUfw, probeIptables].findSome? fun probe => probe tools)).getD
    ⟨.none, false⟩

/-! ## Hosts with iptables only -/

/-- The listing has no line but blank ones and those that start with a default policy. -/
def OnlyDefaults (stdout : Str) : Prop :=
  ∀ line ∈ splitlines (strip stdout), strip line = [] ∨
    ∃ p ∈ iptablesDefaultAccept, startsWith line p = true

/-- No rule is counted exactly if the listing has only default policies. -/
lemma iptablesRules_eq_nil_iff {stdout : Str} :
    iptablesRules (strip stdout) = [] ↔ OnlyDefaults stdout := by
  simp only [iptablesRules, OnlyDefaults, List.filter_eq_nil_iff, Bool.and_eq_true,
    decide_eq_true_eq, Bool.not_eq_true', List.any_eq_false, not_and_or, not_not, not_forall,
    exists_prop]

/-- A line that is an entry begins with whitespace and then another character. -/
lemma exists_of_parseLine {l : Str} {e : Iptables.Entry} (h : Iptables.parseLine l = some e) :
    ∃ ws c r, l = ws ++ c :: r ∧ (∀ d ∈ ws, isSpace d = true) ∧ isSpace c = false := by
  have hspace : ∀ d ∈ l.takeWhile isSpace, isSpace d = true := fun d hd => List.mem_takeWhile_imp hd
  cases hrest : l.dropWhile isSpace with
  | nil =>
    have hall : ∀ d ∈ l, isSpace d = true := List.dropWhile_eq_nil_iff.mp hrest
    have hwords : Iptables.words l = [] := by
      rw [← List.append_nil l, Iptables.words_append_of_isSpace hall]
      rfl
    rw [Iptables.parseLine, hwords] at h
    cases h
  | cons c r =>
    refine ⟨_, c, r, ?_, hspace, ?_⟩
    · rw [← hrest, List.takeWhile_append_dropWhile]
    · have hhead := List.head?_dropWhile_not isSpace l
      rw [hrest] at hhead
      simpa using hhead

/-- A default policy that a line begins with begins where the whitespace of the line ends. -/
lemma exists_of_startsWith {x y p : Str} {c : Char} (hp : p ∈ iptablesDefaultAccept)
    (hx : ∀ d ∈ x, isSpace d = true) (h : startsWith (x ++ c :: y) p = true) :
    x = [] ∧ ∃ z, c :: y = p ++ z := by
  obtain ⟨z, hz⟩ := List.isPrefixOf_iff_prefix.mp h
  obtain ⟨chain, -, rfl⟩ := List.mem_map.mp hp
  cases x with
  | nil => exact ⟨rfl, z, hz.symm⟩
  | cons d x =>
    obtain rfl : '-' = d := (List.cons.inj hz).1
    exact absurd (hx '-' (by simp)) (by decide)

/-- **A listing that filters packets for the host** has a line that is counted. -/
lemma not_onlyDefaults {stdout : Str}
    (h : Iptables.FiltersInbound (Iptables.entries stdout)) : ¬ OnlyDefaults stdout := by
  intro honly
  obtain ⟨e, he, hblocks⟩ := Iptables.exists_blocks_of_filtersInbound h
  obtain ⟨l, hl, hparse⟩ := List.mem_filterMap.mp he
  obtain ⟨ws, c, r, rfl, hws, hc⟩ := exists_of_parseLine hparse
  obtain ⟨x, y, hmem, hx, hy⟩ := exists_mem_splitlines_strip hl hc
  rcases honly _ hmem with hblank | ⟨p, hp, hstarts⟩
  · have hspace := (trim_eq_nil_iff isSpace _).mp hblank c (by simp)
    rw [hc] at hspace
    cases hspace
  · obtain ⟨-, z, hz⟩ := exists_of_startsWith hp (fun d hd => hws d (hx.subset hd)) hstarts
    obtain ⟨chain, hchain, rfl⟩ := List.mem_map.mp hp
    obtain ⟨z', rfl⟩ := hy
    rw [← List.cons_append, hz, List.append_assoc] at hparse
    rw [Iptables.parseLine_accept hws hchain hparse] at hblocks
    simp [Iptables.Entry.blocks] at hblocks

/-- On a host that has `iptables` only, the firewall filters something for the rule exactly if the
rules are listed and there are others than the default policies. -/
lemma firewallBlocks_iptables (outcome : Outcome) :
    firewallBlocks (.detected (collectSync { iptables := some outcome })) = true ↔
      ∃ stdout, outcome = .exited 0 stdout ∧ ¬ OnlyDefaults stdout := by
  have hnone : ∀ {o}, probeIptables { iptables := some o } = none →
      firewallBlocks (.detected (collectSync { iptables := some o })) = false := by
    intro o ho
    simp only [collectSync, List.findSome?_cons, List.findSome?_nil, ho]
    rfl
  cases outcome with
  | failed =>
    rw [hnone rfl]
    simp
  | exited returncode stdout =>
    by_cases hcode : returncode = 0
    · subst hcode
      have hblocks : firewallBlocks (.detected (collectSync
          { iptables := some (.exited 0 stdout) })) =
            (decide (iptablesRules (strip stdout) ≠ []) && true) := rfl
      rw [hblocks, Bool.and_true, decide_eq_true_eq, Ne, iptablesRules_eq_nil_iff]
      simp
    · have hfailed : probeIptables { iptables := some (.exited returncode stdout) } = none :=
        if_pos hcode
      rw [hnone hfailed]
      simp [hcode]

/-- The rule about the admin port, for a host whose egress address is bound to an interface. -/
lemma checkAdminPort_eq_none_iff {config : DngConfig} {egress : Str}
    (hegress : config.snapshot.network.egressPublicIp = some egress)
    (hbound : egress ∈ config.snapshot.network.interfaces.values.flatten) :
    checkAdminPort config = .ok none ↔ firewallBlocks config.snapshot.firewall = true := by
  simp only [checkAdminPort, hegress, not_not.mpr hbound, if_false]
  cases firewallBlocks config.snapshot.firewall with
  | true => exact iff_of_true rfl rfl
  | false =>
    exact iff_of_false (fun hok => Option.some_ne_none _ (Except.ok.inj hok)) Bool.false_ne_true

/-- **What the rule about the admin port makes of `iptables`**: on a host whose egress address is
bound to an interface, and that has `iptables` but no other front end, the rule passes exactly if
the rules are listed and the listing has a line other than the default policies. It does pass if
the listing filters packets for the host.

**Proof sketch.** The probe counts every line that does not start with a default policy. An entry
that filters begins with another word than these, and so does the line in which it begins. -/
theorem checkAdminPort_passes_iff {config : DngConfig} {egress : Str} {outcome : Outcome}
    (hegress : config.snapshot.network.egressPublicIp = some egress)
    (hbound : egress ∈ config.snapshot.network.interfaces.values.flatten)
    (htools : config.snapshot.firewall = .detected (collectSync { iptables := some outcome })) :
    (checkAdminPort config = .ok none ↔
      ∃ stdout, outcome = .exited 0 stdout ∧ ¬ OnlyDefaults stdout) ∧
    ∀ stdout, outcome = .exited 0 stdout → Iptables.FiltersInbound (Iptables.entries stdout) →
      checkAdminPort config = .ok none := by
  have hiff : checkAdminPort config = .ok none ↔
      ∃ stdout, outcome = .exited 0 stdout ∧ ¬ OnlyDefaults stdout := by
    rw [checkAdminPort_eq_none_iff hegress hbound, htools, firewallBlocks_iptables]
  exact ⟨hiff, fun stdout hout hfilters => hiff.mpr ⟨stdout, hout, not_onlyDefaults hfilters⟩⟩

/-- The sample plan for a host whose egress address is bound to an interface, and that has
`iptables` with the given listing. -/
def iptablesPlan (stdout : Str) : DngConfig :=
  buildConfig
    (makeSnapshot {
      interfaces := Dict.single "eth0" ["203.0.113.10"]
      firewall := .detected (collectSync { iptables := some (.exited 0 stdout) }) })
    (makeAnswers {})

/-- The listing of a host that drops what it does not expect. -/
def droppingListing : Str :=
  "-P INPUT DROP\n-P FORWARD ACCEPT\n-P OUTPUT ACCEPT\n-A INPUT -p tcp --dport 22 -j ACCEPT\n"

/-- The rule passes on the host that drops what it does not expect. -/
theorem checkAdminPort_passes_dropping :
    checkAdminPort (iptablesPlan droppingListing) = .ok none := by
  refine (@checkAdminPort_passes_iff (iptablesPlan droppingListing) "203.0.113.10"
    (.exited 0 droppingListing) rfl (by decide) rfl).2 droppingListing rfl (Or.inl ?_)
  unfold droppingListing
  rw [toList_eq rfl]
  decide

/-- The listing of a host on which only Docker has set up rules, for packets that are forwarded. -/
def dockerListing : Str :=
  join "\n" [
    "-P INPUT ACCEPT", "-P FORWARD DROP", "-P OUTPUT ACCEPT", "-N DOCKER",
    "-A FORWARD -o docker0 -j DOCKER",
    "-A DOCKER -d 172.17.0.2/32 -p tcp --dport 80 -j ACCEPT", ""]

/-- The rule passes on the host with Docker, although its listing filters nothing for the host. -/
theorem dockerListing_passes :
    checkAdminPort (iptablesPlan dockerListing) = .ok none ∧
      ¬ Iptables.FiltersInbound (Iptables.entries dockerListing) := by
  refine ⟨(checkAdminPort_eq_none_iff rfl (by decide)).mpr ?_, fun h => ?_⟩
  · simp only [iptablesPlan, dockerListing]
    repeat rw [toList_eq rfl]
    decide
  obtain ⟨e, he, hblocks⟩ := Iptables.exists_blocks_of_filtersInbound h
  have hnone : ∀ e ∈ Iptables.entries dockerListing, e.blocks = false := by
    simp only [dockerListing]
    repeat rw [toList_eq rfl]
    decide
  rw [hnone e he] at hblocks
  cases hblocks

end DngPreflight.Discovery
