import DngPreflight.Gate.Basic
import DngPreflight.Text.Message
import DngPreflight.Models.Config

set_option relaxedAutoImplicit false
set_option autoImplicit false

/-!
# Hard stops

The seven rules that a plan must satisfy before anything is generated, and the validator that
runs them. A rule inspects the plan and returns nothing or a violation; the version rule may
raise, since it converts the parts of the version to integers.

## Main definitions

* `DngPreflight.Rule`, `DngPreflight.HardStop` — the rules and their violations.
* `DngPreflight.checkAdminPort` … `DngPreflight.checkPublicHostnameResolves` — the checks.
* `DngPreflight.validatePlan` — run every check and drop what the overrides waive.
* `DngPreflight.Violates` — what each rule forbids, stated without the checks.

## Main results

* `DngPreflight.Rule.outcome_check` — what each check does: it reports its rule exactly when the
  plan violates it, unless it raises.
-/

namespace DngPreflight

open Text Codec Net

/-! ## Violations -/

/-- Whether a violation can be skipped by an override flag. -/
inductive Severity where
  | block
  | overridable
  deriving DecidableEq

/-- The rules, in the order in which they are checked. -/
inductive Rule where
  | adminPortMustBePrivate
  | hostMustNotBeDomainJoined
  | wildcardRequiredForRdpSmb
  | timeOffsetWithin30s
  | dngVersionMinimum
  | lbRequiresTrustedProxies
  | publicHostnameMustResolve
  deriving DecidableEq

/-- The id of a rule. -/
def Rule.id : Rule → Str
  | .adminPortMustBePrivate => "admin_port_must_be_private"
  | .hostMustNotBeDomainJoined => "host_must_not_be_domain_joined"
  | .wildcardRequiredForRdpSmb => "wildcard_required_for_rdp_smb"
  | .timeOffsetWithin30s => "time_offset_within_30s"
  | .dngVersionMinimum => "dng_version_minimum"
  | .lbRequiresTrustedProxies => "lb_requires_trusted_proxies"
  | .publicHostnameMustResolve => "public_hostname_must_resolve"

/-- The flag for admin ports that are public. -/
def allowPublicAdmin : Str := "--allow-public-admin"

/-- The flag for hosts that have joined a domain. -/
def allowDomainJoined : Str := "--allow-domain-joined"

/-- The flag for clocks that are off. -/
def skipTimeCheck : Str := "--skip-time-check"

/-- One violation. -/
structure HardStop where
  rule : Rule
  message : Message (Option Str)
  severity : Severity
  overrideFlag : Option Str := none
  deriving DecidableEq

/-- The flag that drops a violation from the result. -/
def HardStop.waiver (v : HardStop) : Option Str :=
  match v.severity with
  | .overridable => v.overrideFlag
  | .block => none

/-- `int()` rejects a literal. -/
structure ValueError where
  literal : Str
  deriving DecidableEq

/-! ## The checks -/

/-- The host firewall filters something. -/
def firewallBlocks (firewall : OrMissing FirewallState) : Bool :=
  match firewall with
  | .missing _ => false
  | .detected fw => fw.active && decide (fw.kind ≠ .none)

/-- Rule 1: 8443 must not be reachable from the public Internet. -/
def checkAdminPort (config : DngConfig) : Except ValueError (Option HardStop) :=
  match config.snapshot.network.egressPublicIp with
  | none => .ok none
  | some egress =>
    if egress ∉ config.snapshot.network.interfaces.values.flatten then .ok none
    else if firewallBlocks config.snapshot.firewall then .ok none
    else .ok (some {
      rule := .adminPortMustBePrivate
      message := .ofText ("Host has a publicly-routable interface and no active firewall; " ++
        "DNG admin console on 8443 would be Internet-facing.")
      severity := .overridable
      overrideFlag := some allowPublicAdmin })

/-- Rule 2: the host must not be domain-joined. -/
def checkDomainJoined (config : DngConfig) : Except ValueError (Option HardStop) :=
  if config.snapshot.system.domainJoined then
    .ok (some {
      rule := .hostMustNotBeDomainJoined
      message := .ofText ("Host appears to be domain-joined (realm list or /etc/krb5.conf " ++
        "indicates a Kerberos realm). DNG must run on a non-domain-joined host.")
      severity := .overridable
      overrideFlag := some allowDomainJoined })
  else .ok none

/-- Rule 3: a scope including RDP/SMB requires a wildcard cert. -/
def checkWildcardForRdpSmb (config : DngConfig) : Except ValueError (Option HardStop) :=
  if config.answers.deploymentScope ≠ .webSshRdpSmb then .ok none
  else if config.answers.wildcardCert then .ok none
  else .ok (some {
    rule := .wildcardRequiredForRdpSmb
    message := .ofText ("Deployment scope includes RDP/SMB but wildcard_cert is False. " ++
      "Resolve by enabling wildcard_cert or narrowing the scope.")
    severity := .block })

/-- Rule 4: the time offset must be at most 30 seconds. -/
def checkTimeOffset (config : DngConfig) : Except ValueError (Option HardStop) :=
  match config.snapshot.timeSync with
  | .missing _ => .ok none
  | .detected ts =>
    match ts.offsetSeconds with
    | none => .ok none
    | some o =>
      if o.absLe 30 then .ok none
      else .ok (some {
        rule := .timeOffsetWithin30s
        message := [.text "Host clock is ", .text o.signedFixed1, .text "s off from ",
          .repr ts.syncSource, .text "; SAML signatures will fail outside ±30s."]
        severity := .overridable
        overrideFlag := some skipTimeCheck })

/-- The numbers of a dotted version; the first part that is no integer literal is an error. -/
def versionTuple (version : Str) : Except ValueError (List ℤ) :=
  (version.splitOn '.').mapM fun p =>
    match Text.int p with
    | some n => .ok n
    | none => .error ⟨p⟩

/-- The characters of a version that can be read: literal characters and dots. -/
lemma mem_of_versionTuple {version : Str} {t : List ℤ} (h : versionTuple version = .ok t) {c : Char}
    (hc : c ∈ version) : isIntChar c ∨ c = '.' := by
  have hjoin : join ['.'] (version.splitOn '.') = version := List.intercalate_splitOn '.'
  rw [← hjoin] at hc
  rcases mem_join hc with hc | ⟨p, hp, hc⟩
  · exact Or.inr (by simpa using hc)
  · obtain ⟨n, hn⟩ := exists_ok_of_mapM h hp
    split at hn
    · rename_i hint
      exact Or.inl (isIntChar_of_int hint c hc)
    · cases hn

/-- Rule 5: the version floor. Tuples are compared lexicographically, a proper prefix being
smaller. -/
def checkDngVersion (config : DngConfig) : Except ValueError (Option HardStop) :=
  match versionTuple config.dngVersionMinimum with
  | .error e => .error e
  | .ok floor =>
    if floor < [3, 3, 0] then
      .ok (some {
        rule := .dngVersionMinimum
        message := [.text "dng_version_minimum ", .repr (some config.dngVersionMinimum),
          .text (" is below the " ++
            "3.3.0 floor required for the April 15, 2026 CA bundle cutoff.")]
        severity := .block })
    else .ok none

/-- Rule 6: a load balancer needs trusted proxies. -/
def checkLbTrustedProxies (config : DngConfig) : Except ValueError (Option HardStop) :=
  match config.answers.loadBalancer with
  | none => .ok none
  | some lb =>
    if lb.trustedProxies ≠ [] then .ok none
    else .ok (some {
      rule := .lbRequiresTrustedProxies
      message := .ofText "load_balancer is configured but trusted_proxies is empty."
      severity := .block })

/-- Some resolver returned A or AAAA records. -/
def DnsResolution.resolves (dns : DnsResolution) : Bool :=
  dns.aRecords.values.any (· ≠ []) || dns.aaaaRecords.values.any (· ≠ [])

/-- Rule 7: at least one resolver must return A or AAAA records. -/
def checkPublicHostnameResolves (config : DngConfig) : Except ValueError (Option HardStop) :=
  if config.snapshot.dns.resolves then .ok none
  else .ok (some {
    rule := .publicHostnameMustResolve
    message := [.text "No authoritative resolver returned A or AAAA records for ",
      .repr (some config.answers.publicHostname),
      .text ". Runbook must include DNS setup as Step 0."]
    severity := .block })

/-- The checks, in order. -/
def allChecks : List (Gate.Check DngConfig ValueError HardStop) :=
  [checkAdminPort, checkDomainJoined, checkWildcardForRdpSmb, checkTimeOffset, checkDngVersion,
    checkLbTrustedProxies, checkPublicHostnameResolves]

/-- Run every check and return the violations that the overrides do not drop. -/
def validatePlan (config : DngConfig) (overrides : Finset Str) :
    Except ValueError (List HardStop) :=
  Gate.run (Gate.Waived HardStop.waiver overrides) config allChecks

/-! ## What the rules forbid -/

/-- What each rule forbids. -/
def Violates (c : DngConfig) : Rule → Prop
  | .adminPortMustBePrivate =>
    (∃ egress, c.snapshot.network.egressPublicIp = some egress ∧
      ∃ ips ∈ c.snapshot.network.interfaces.values, egress ∈ ips) ∧
    ¬ ∃ fw, c.snapshot.firewall = .detected fw ∧ fw.active = true ∧ fw.kind ≠ .none
  | .hostMustNotBeDomainJoined => c.snapshot.system.domainJoined = true
  | .wildcardRequiredForRdpSmb =>
    c.answers.deploymentScope = .webSshRdpSmb ∧ c.answers.wildcardCert = false
  | .timeOffsetWithin30s =>
    ∃ ts o, c.snapshot.timeSync = .detected ts ∧ ts.offsetSeconds = some o ∧
      ¬ o.absLe 30
  | .dngVersionMinimum => ∃ v, versionTuple c.dngVersionMinimum = .ok v ∧ v < [3, 3, 0]
  | .lbRequiresTrustedProxies => ∃ lb, c.answers.loadBalancer = some lb ∧ lb.trustedProxies = []
  | .publicHostnameMustResolve =>
    ∀ ips ∈ c.snapshot.dns.aRecords.values ++ c.snapshot.dns.aaaaRecords.values, ips = []

/-- The check of a rule. -/
def Rule.check : Rule → Gate.Check DngConfig ValueError HardStop
  | .adminPortMustBePrivate => checkAdminPort
  | .hostMustNotBeDomainJoined => checkDomainJoined
  | .wildcardRequiredForRdpSmb => checkWildcardForRdpSmb
  | .timeOffsetWithin30s => checkTimeOffset
  | .dngVersionMinimum => checkDngVersion
  | .lbRequiresTrustedProxies => checkLbTrustedProxies
  | .publicHostnameMustResolve => checkPublicHostnameResolves

/-- The flag that overrides a rule. -/
def Rule.waiver : Rule → Option Str
  | .adminPortMustBePrivate => some allowPublicAdmin
  | .hostMustNotBeDomainJoined => some allowDomainJoined
  | .timeOffsetWithin30s => some skipTimeCheck
  | _ => none

/-- The rules, in the order of their checks. -/
def Rule.all : List Rule :=
  [.adminPortMustBePrivate, .hostMustNotBeDomainJoined, .wildcardRequiredForRdpSmb,
    .timeOffsetWithin30s, .dngVersionMinimum, .lbRequiresTrustedProxies,
    .publicHostnameMustResolve]

/-- Every rule is among all rules. -/
lemma Rule.mem_all (r : Rule) : r ∈ Rule.all := by cases r <;> decide

/-- No rule is listed twice. -/
lemma Rule.nodup_all : Rule.all.Nodup := by decide

/-- The checks are the checks of the rules, in the same order. -/
lemma allChecks_eq : allChecks = Rule.all.map Rule.check := rfl

/-- The firewall does not block exactly when there is no active firewall of a real kind. -/
lemma firewallBlocks_iff (firewall : OrMissing FirewallState) :
    firewallBlocks firewall = true ↔
      ∃ fw, firewall = .detected fw ∧ fw.active = true ∧ fw.kind ≠ .none := by
  cases firewall with
  | missing n => simp [firewallBlocks]
  | detected fw => simp [firewallBlocks]

/-- Nothing resolves exactly when every list of records is empty. -/
lemma DnsResolution.resolves_eq_false_iff (dns : DnsResolution) :
    dns.resolves = false ↔ ∀ ips ∈ dns.aRecords.values ++ dns.aaaaRecords.values, ips = [] := by
  simp [resolves, or_imp, forall_and]

/-! ## What a check does -/

/-- What the check of a rule can do: raise, if the version cannot be read; pass, if the plan does
not violate the rule; report a violation of the rule, with the flag of the rule. -/
inductive Rule.Outcome (c : DngConfig) (r : Rule) : Except ValueError (Option HardStop) → Prop where
  | raises {e : ValueError} (hrule : r = .dngVersionMinimum)
      (h : versionTuple c.dngVersionMinimum = .error e) : Outcome c r (.error e)
  | passes (h : ¬ Violates c r) : Outcome c r (.ok none)
  | reports {v : HardStop} (h : Violates c r) (hrule : v.rule = r) (hwaiver : v.waiver = r.waiver) :
      Outcome c r (.ok (some v))

section Outcomes

variable (c : DngConfig)

/-- What the check of the admin port does. -/
lemma outcome_checkAdminPort :
    Rule.Outcome c .adminPortMustBePrivate (checkAdminPort c) := by
  have hviol := firewallBlocks_iff c.snapshot.firewall
  simp only [checkAdminPort, ite_not]
  cases hegress : c.snapshot.network.egressPublicIp with
  | none =>
    refine .passes fun ⟨⟨e, he, _⟩, _⟩ => ?_
    rw [hegress] at he
    cases he
  | some egress =>
    dsimp only
    split_ifs with hbound hblocks
    · exact .passes fun h => h.2 (hviol.mp hblocks)
    · rw [List.mem_flatten] at hbound
      exact .reports ⟨⟨egress, hegress, hbound⟩, fun h => hblocks (hviol.mpr h)⟩ rfl rfl
    · refine .passes fun ⟨⟨e, he, hmem⟩, _⟩ => hbound (List.mem_flatten.mpr ?_)
      rw [hegress] at he
      cases he
      exact hmem

/-- What the check of the domain does. -/
lemma outcome_checkDomainJoined :
    Rule.Outcome c .hostMustNotBeDomainJoined (checkDomainJoined c) := by
  simp only [checkDomainJoined]
  split_ifs with h
  · exact .reports h rfl rfl
  · exact .passes h

/-- What the check of the wildcard certificate does. -/
lemma outcome_checkWildcardForRdpSmb :
    Rule.Outcome c .wildcardRequiredForRdpSmb (checkWildcardForRdpSmb c) := by
  simp only [checkWildcardForRdpSmb, ite_not]
  split_ifs with hscope hcert
  · exact .passes fun h => Bool.false_ne_true (h.2.symm.trans hcert)
  · exact .reports ⟨hscope, Bool.eq_false_of_not_eq_true hcert⟩ rfl rfl
  · exact .passes fun h => hscope h.1

/-- What the check of the time offset does. -/
lemma outcome_checkTimeOffset : Rule.Outcome c .timeOffsetWithin30s (checkTimeOffset c) := by
  simp only [checkTimeOffset]
  cases hsync : c.snapshot.timeSync with
  | missing n =>
    refine .passes fun ⟨ts, o, hts, _⟩ => ?_
    rw [hsync] at hts
    cases hts
  | detected ts =>
    dsimp only
    cases hoffset : ts.offsetSeconds with
    | none =>
      refine .passes fun ⟨ts', o, hts, ho, _⟩ => ?_
      rw [hsync] at hts
      cases hts
      rw [hoffset] at ho
      cases ho
    | some o =>
      dsimp only
      split_ifs with hle
      · refine .passes fun ⟨ts', o', hts, ho, hgt⟩ => hgt ?_
        rw [hsync] at hts
        cases hts
        rw [hoffset] at ho
        cases ho
        exact hle
      · exact .reports ⟨ts, o, hsync, hoffset, hle⟩ rfl rfl

/-- What the check of the version does. -/
lemma outcome_checkDngVersion : Rule.Outcome c .dngVersionMinimum (checkDngVersion c) := by
  simp only [checkDngVersion]
  cases hversion : versionTuple c.dngVersionMinimum with
  | error e => exact .raises rfl hversion
  | ok v =>
    dsimp only
    split_ifs with hlt
    · exact .reports ⟨v, hversion, hlt⟩ rfl rfl
    · refine .passes fun ⟨v', hv, hlt'⟩ => hlt ?_
      rw [hversion] at hv
      cases hv
      exact hlt'

/-- What the check of the trusted proxies does. -/
lemma outcome_checkLbTrustedProxies :
    Rule.Outcome c .lbRequiresTrustedProxies (checkLbTrustedProxies c) := by
  simp only [checkLbTrustedProxies, ite_not]
  cases hlb : c.answers.loadBalancer with
  | none =>
    refine .passes fun ⟨lb, h, _⟩ => ?_
    rw [hlb] at h
    cases h
  | some lb =>
    dsimp only
    split_ifs with hnil
    · exact .reports ⟨lb, hlb, hnil⟩ rfl rfl
    · refine .passes fun ⟨lb', h, hnil'⟩ => hnil ?_
      rw [hlb] at h
      cases h
      exact hnil'

/-- What the check of the hostname does. -/
lemma outcome_checkPublicHostnameResolves :
    Rule.Outcome c .publicHostnameMustResolve (checkPublicHostnameResolves c) := by
  have hviol := DnsResolution.resolves_eq_false_iff c.snapshot.dns
  simp only [checkPublicHostnameResolves]
  split_ifs with h
  · exact .passes fun hall => Bool.false_ne_true ((hviol.mpr hall).symm.trans h)
  · exact .reports (hviol.mp (Bool.eq_false_of_not_eq_true h)) rfl rfl

/-- **What a check does**: it reports its rule exactly when the plan violates it, unless it
raises. -/
lemma Rule.outcome_check (r : Rule) : r.Outcome c (r.check c) := by
  cases r
  case adminPortMustBePrivate => exact outcome_checkAdminPort c
  case hostMustNotBeDomainJoined => exact outcome_checkDomainJoined c
  case wildcardRequiredForRdpSmb => exact outcome_checkWildcardForRdpSmb c
  case timeOffsetWithin30s => exact outcome_checkTimeOffset c
  case dngVersionMinimum => exact outcome_checkDngVersion c
  case lbRequiresTrustedProxies => exact outcome_checkLbTrustedProxies c
  case publicHostnameMustResolve => exact outcome_checkPublicHostnameResolves c

end Outcomes

/-- A violation reported by a check is one of its rule, with the flag of the rule. -/
lemma Rule.check_spec {r : Rule} {c : DngConfig} {v : HardStop}
    (h : r.check c = .ok (some v)) : v.rule = r ∧ v.waiver = r.waiver := by
  have ho := r.outcome_check c
  rw [h] at ho
  cases ho with
  | reports _ hrule hwaiver => exact ⟨hrule, hwaiver⟩

/-- A check reports a violation exactly when the plan violates the rule. -/
lemma Rule.check_eq_ok_some_iff {r : Rule} {c : DngConfig} :
    (∃ v, r.check c = .ok (some v)) ↔ Violates c r := by
  have ho := r.outcome_check c
  generalize r.check c = out at ho ⊢
  cases ho with
  | raises hrule h =>
    subst hrule
    simp [Violates, h]
  | passes h => simp [h]
  | reports h => simp [h]

end DngPreflight
