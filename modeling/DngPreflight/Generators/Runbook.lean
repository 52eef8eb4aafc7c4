import DngPreflight.Text.Template
import DngPreflight.Validation.Overrides

set_option relaxedAutoImplicit false
set_option autoImplicit false

/-!
# The runbook

The text of `RUNBOOK.md`, section by section, and the truth of its hard-stop summary. The
template sees the plan and not the overrides: all but one of the marks in the summary are fixed
text.

## Main definitions

* `DngPreflight.Runbook.generate` — the text of the runbook.
* `DngPreflight.Runbook.hardStopSummary` — the lines of the summary, each with the rule that it
  reports on.
* `DngPreflight.Runbook.SummaryTruthful` — a line has a check mark exactly when the check of its
  rule passes.

## Main results

* `DngPreflight.Runbook.summaryTruthful_iff` — when the summary of an accepted plan is truthful.
-/

namespace DngPreflight.Runbook

open Text Codec Net

/-! ## The sections before the summary -/

/-- The version of the tool. -/
def toolVersion : Str := "0.1.0"

/-- The networks of a load balancer, as one text. -/
def lbCidrs (lb : LoadBalancerConfig) : Str := join ", " (lb.trustedProxies.map IpNetwork.str)

/-- The head of the runbook. -/
def opening (config : DngConfig) : Template :=
  lines [
    "# DNG Deployment Runbook",
    "",
    "> Auto-generated by dng-preflight. Review before executing.",
    ">"] ++
  line ["> **Scope:** ", .value config.answers.deploymentScope.text] ++
  line ["> **IdP:** ", .value config.answers.idp.text] ++
  line ["> **Public hostname:** `", .value config.answers.publicHostname, "`"] ++
  line ["> **DNG minimum version:** ", .value config.dngVersionMinimum] ++
  lines [
    "",
    "This runbook is ordered to resolve the SAML circular dependency: DNG needs the",
    "IdP's metadata to validate signatures, but the IdP needs DNG's SP metadata to",
    "know who is asking. We bring DNG up with a placeholder primary_auth, export",
    "SP metadata, configure the IdP, then return and complete primary_auth.",
    "",
    "---",
    ""]

/-- Step 0, with a warning if discovery found no records. -/
def dnsStep (config : DngConfig) : Template :=
  lines [
    "## Step 0 — DNS records",
    "",
    "Publish the records listed in `dns-records.md` **before** running the"] ++
  line ["installer. The installer refuses to proceed unless `",
    .value config.answers.publicHostname, "`"] ++
  lines [
    "resolves.",
    ""] ++
  (if config.snapshot.dns.resolves then []
    else
      line ["> ⚠️  Discovery did not find any A/AAAA records for `",
        .value config.answers.publicHostname, "`"] ++
      lines [
        "> on authoritative resolvers (1.1.1.1, 8.8.8.8). The records in",
        "> `dns-records.md` are mandatory at this step."])

/-- Step 1. -/
def installerStep (config : DngConfig) : Template :=
  lines [
    "",
    "## Step 1 — Run the installer",
    "",
    "```bash",
    "sudo ./install.sh",
    "```",
    "",
    "The installer is idempotent. It will:",
    "",
    "1. Verify the host is not domain-joined."] ++
  line ["2. Verify `", .value config.answers.publicHostname, "` resolves."] ++
  lines [
    "3. Install Docker Engine + Compose plugin if missing.",
    "4. Place `scripted-config.yaml` at `/etc/dng/scripted-config.yaml`."] ++
  line ["5. Pull `duosecurity/network-gateway:", .value config.dngVersionMinimum, "`."] ++
  lines [
    ""]

/-- Step 2. -/
def firewallStep (config : DngConfig) : Template :=
  lines [
    "## Step 2 — Apply firewall rules",
    "",
    "```bash",
    "sudo ./firewall.sh",
    "```",
    "",
    "This opens public port 443 and restricts admin port 8443 to internal CIDRs."] ++
  (match config.answers.loadBalancer with
    | none => []
    | some lb =>
      line ["The load-balancer CIDRs you specified (", .value (lbCidrs lb), ") are added to"] ++
      lines [
        "`load_balancer_cidrs_ips` in the scripted config so the DNG honours",
        "`X-Forwarded-*` headers."])

/-- The paste instructions of the file-based TLS strategies. -/
def pasteTls (certPath keyPath : Str) (chain : Template) : Template :=
  lines [
    "Open `/etc/dng/scripted-config.yaml` and replace the `<<paste contents of …>>`",
    "markers with the actual file bodies:",
    ""] ++
  line ["- `network_gateway.ssl_cert.cert` ← contents of `", .value certPath, "`"] ++
  line ["- `network_gateway.ssl_cert.key`  ← contents of `", .value keyPath, "`"] ++
  chain ++
  lines [
    "",
    "Set file perms to `0600` after editing."]

/-- Step 3. -/
def tlsStep (config : DngConfig) : Template :=
  lines [
    "",
    "## Step 3 — Paste TLS material into scripted-config.yaml",
    ""] ++
  (match config.answers.tlsStrategy with
    | .letsEncryptDns01 l =>
      lines [
        "TLS strategy is **Let's Encrypt (DNS-01)**. DNG will request the cert itself",
        "on first run; no paste step is required. Ensure your DNS provider"] ++
      line ["(", .value l.dnsProvider, ") has the"] ++
      line ["`_acme-challenge.", .value config.answers.publicHostname, "` TXT records listed in"] ++
      lines [
        "`dns-records.md` published."]
    | .existingBundle b => pasteTls b.certPath b.keyPath []
    | .internalCa c => pasteTls c.certPath c.keyPath
      (line ["- `network_gateway.ssl_cert.chain` ← contents of `", .value c.chainPath, "`"] ++
      lines [
        "  (un-comment the `chain:` key)"]))

/-- Steps 4 and 5. -/
def bringUpSteps (config : DngConfig) : Template :=
  lines [
    "",
    "## Step 4 — First-time DNG bring-up (placeholder primary_auth)",
    "",
    "The committed `scripted-config.yaml` ships with placeholder values for",
    "`primary_auth`. That is intentional — we need DNG running to export its SP",
    "metadata before the IdP can be configured.",
    "",
    "```bash",
    "sudo docker run --rm \\",
    "    -v /etc/dng/scripted-config.yaml:/config/scripted-config.yaml:ro \\"] ++
  line ["    duosecurity/network-gateway:", .value config.dngVersionMinimum, " \\"] ++
  lines [
    "    init",
    "sudo docker compose -f /etc/dng/docker-compose.yml up -d",
    "```",
    "",
    "> Wait ~30 seconds for the container to become healthy.",
    "",
    "## Step 5 — Export DNG SP metadata",
    "",
    "```bash"] ++
  line ["curl -fsSL https://", .value config.answers.publicHostname, "/metadata/ \\"] ++
  lines [
    "    -o dng-sp-metadata.xml",
    "```",
    "",
    "Hand `dng-sp-metadata.xml` to your IdP administrator.",
    ""]

/-- Step 6. -/
def idpStep (config : DngConfig) : Template :=
  lines [
    "## Step 6 — Configure the IdP",
    ""] ++
  (match config.answers.idp with
    | .duoSso =>
      lines [
        "In **Duo SSO**, create a Generic SAML Service Provider with:"] ++
      line ["- ACS URL: `https://", .value config.answers.publicHostname, "/acs/`"] ++
      line ["- Entity ID: `https://", .value config.answers.publicHostname, "/metadata/`"] ++
      line ["- SLO URL: `https://", .value config.answers.publicHostname, "/sls/`"]
    | .okta =>
      lines [
        "In **Okta**, add a new SAML 2.0 application with:"] ++
      line ["- Single sign-on URL: `https://", .value config.answers.publicHostname, "/acs/`"] ++
      line ["- Audience URI (SP Entity ID): `https://",
        .value config.answers.publicHostname, "/metadata/`"] ++
      lines [
        "- Application username: Email"]
    | .entraId =>
      lines [
        "In **Microsoft Entra ID**, add an Enterprise Application using SAML:"] ++
      line ["- Identifier (Entity ID): `https://",
        .value config.answers.publicHostname, "/metadata/`"] ++
      line ["- Reply URL: `https://", .value config.answers.publicHostname, "/acs/`"] ++
      line ["- Logout URL: `https://", .value config.answers.publicHostname, "/sls/`"]
    | .adfs =>
      lines [
        "In **AD FS**, add a Relying Party Trust:",
        "- Federation metadata: paste the contents of `dng-sp-metadata.xml`"] ++
      line ["- Or, manually: Entity ID `https://",
        .value config.answers.publicHostname, "/metadata/`,"] ++
      line ["  ACS `https://", .value config.answers.publicHostname, "/acs/`."]
    | .genericSaml =>
      lines [
        "For a generic SAML 2.0 IdP, configure the SP using:"] ++
      line ["- Entity ID: `https://", .value config.answers.publicHostname, "/metadata/`"] ++
      line ["- ACS URL: `https://", .value config.answers.publicHostname, "/acs/`"] ++
      line ["- SLO URL: `https://", .value config.answers.publicHostname, "/sls/`"])

/-- The rest of step 6, and step 7. -/
def importStep : Template :=
  lines [
    "",
    "After the IdP is configured, export its metadata (an XML file) and note:",
    "",
    "- IdP entity ID",
    "- IdP SSO URL",
    "- IdP signing certificate (PEM block from `<ds:X509Certificate>`)",
    "",
    "## Step 7 — Import IdP metadata into DNG",
    "",
    "Open `/etc/dng/scripted-config.yaml` and fill in `primary_auth`:",
    "",
    "```yaml",
    "primary_auth:",
    "    entity_id: '<IdP entity ID from Step 6>'",
    "    single_signon_url: '<IdP SSO URL from Step 6>'",
    "    signing_cert: |",
    "        -----BEGIN CERTIFICATE-----",
    "        ...",
    "        -----END CERTIFICATE-----",
    "```",
    "",
    "Restart DNG:",
    "",
    "```bash",
    "sudo docker compose -f /etc/dng/docker-compose.yml restart",
    "```",
    ""]

/-- Step 8. -/
def passwordStep (config : DngConfig) : Template :=
  lines [
    "## Step 8 — First-login password reset",
    "",
    "The placeholder `network_gateway.password` in `scripted-config.yaml` is for",
    "config-time use only. On first admin login at"] ++
  line ["`https://", .value config.answers.publicHostname, ":8443/`, DNG requires you to set a"] ++
  lines [
    "new password via shell access to the container:",
    "",
    "```bash",
    "sudo docker exec -it dng /opt/dng/reset_admin_password",
    "```",
    ""]

/-- The text before the first line of the hard-stop summary. -/
def beforeSummary (config : DngConfig) : Template :=
  opening config ++ dnsStep config ++ installerStep config ++ firewallStep config ++
  tlsStep config ++ bringUpSteps config ++ idpStep config ++ importStep ++
  passwordStep config ++
  lines [
    "## Hard-stop summary",
    "",
    "The following rules were enforced before generating this runbook",
    "(`dng-preflight validate --plan plan.yaml`):",
    ""]

/-- The text after the hard-stop summary. -/
def afterSummary : Template :=
  lines [
    "",
    "---",
    ""] ++
  line ["_Generated by dng-preflight ", .value toolVersion, "._"]

/-! ## The hard-stop summary -/

/-- The mark of a rule that passed. -/
def checkMark : Str := "✓"

/-- A line of the summary: the rule it reports on, its label, and its mark. -/
structure SummaryLine where
  rule : Rule
  label : String
  status : Str

/-- The text of a line of the summary. -/
def SummaryLine.template (l : SummaryLine) : Template :=
  line ["- ", l.label, ": ", .value l.status]

/-- The mark of the hostname rule, the only one that is computed. -/
def hostnameResolvesStatus (config : DngConfig) : Str :=
  if config.snapshot.dns.resolves then checkMark else "override applied"

/-- The lines of the summary. -/
def hardStopSummary (config : DngConfig) : List SummaryLine :=
  [⟨.hostMustNotBeDomainJoined, "Host not domain-joined", checkMark⟩,
    ⟨.timeOffsetWithin30s, "Time offset within ±30s of NTP", checkMark⟩,
    ⟨.publicHostnameMustResolve,
      "Public hostname resolves on at least one authoritative resolver",
      hostnameResolvesStatus config⟩,
    ⟨.dngVersionMinimum, "DNG version ≥ 3.3.0", checkMark⟩] ++
  (if config.answers.deploymentScope = .webSshRdpSmb then
    [⟨.wildcardRequiredForRdpSmb, "Wildcard cert required for RDP/SMB scope", checkMark⟩]
    else []) ++
  (if config.answers.loadBalancer.isSome then
    [⟨.lbRequiresTrustedProxies, "Load balancer has trusted_proxies", checkMark⟩]
    else [])

/-- The template of the runbook. -/
def template (config : DngConfig) : Template :=
  beforeSummary config ++ (hardStopSummary config).flatMap SummaryLine.template ++ afterSummary

/-- The text of the runbook. -/
def generate (config : DngConfig) : Str := render (template config)

/-! ## Truth of the summary -/

/-- Every line of the summary has a check mark exactly when the check of its rule returns no
violation on the plan. -/
def SummaryTruthful (config : DngConfig) : Prop :=
  ∀ l ∈ hardStopSummary config, l.status = checkMark ↔ l.rule.check config = .ok none

/-- The lines of the summary of a plan that resolves: each has a check mark, and its rule is one of
the two that can be overridden or cannot be overridden. -/
lemma mem_hardStopSummary {config : DngConfig} (hresolves : config.snapshot.dns.resolves = true)
    {l : SummaryLine} (hl : l ∈ hardStopSummary config) : l.status = checkMark ∧
      (l.rule = .hostMustNotBeDomainJoined ∨ l.rule = .timeOffsetWithin30s ∨
        l.rule.waiver = none) := by
  simp only [hardStopSummary, hostnameResolvesStatus, hresolves, if_true, List.mem_append,
    List.mem_cons, List.not_mem_nil, or_false] at hl
  rcases hl with ((rfl | rfl | rfl | rfl) | hl) | hl
  · exact ⟨rfl, Or.inl rfl⟩
  · exact ⟨rfl, Or.inr (Or.inl rfl)⟩
  · exact ⟨rfl, Or.inr (Or.inr rfl)⟩
  · exact ⟨rfl, Or.inr (Or.inr rfl)⟩
  · split_ifs at hl
    · obtain rfl := List.mem_singleton.mp hl
      exact ⟨rfl, Or.inr (Or.inr rfl)⟩
    · simp at hl
  · split_ifs at hl
    · obtain rfl := List.mem_singleton.mp hl
      exact ⟨rfl, Or.inr (Or.inr rfl)⟩
    · simp at hl

/-- A check of an accepted plan passes exactly when the plan does not violate its rule. -/
lemma check_eq_ok_none_iff {config : DngConfig} (h : Gate.Returns config allChecks) (r : Rule) :
    r.check config = .ok none ↔ ¬ Violates config r := by
  rw [← Rule.check_eq_ok_some_iff]
  obtain ⟨o, ho⟩ := h r.check (by rw [allChecks_eq]; exact List.mem_map_of_mem r.mem_all)
  rw [ho]
  cases o <;> simp

/-- **When the summary is truthful**: for a plan that is accepted under some overrides, exactly
when the host is not domain-joined and its time offset, if known, is within 30 seconds; that
is, when the plan violates none of the two rules that have a fixed check mark and can be
overridden.

**Proof sketch.** The blocking rules are satisfied by every accepted plan, so that their marks
are true, the hostname mark included; the two other marks are printed whether the rule was
satisfied or overridden. -/
theorem summaryTruthful_iff {config : DngConfig} {overrides : Finset Str}
    (hplan : validatePlan config overrides = .ok []) :
    SummaryTruthful config ↔
      config.snapshot.system.domainJoined = false ∧
        ∀ ts o, config.snapshot.timeSync = .detected ts → ts.offsetSeconds = some o →
          o.absLe 30 := by
  have hret := Gate.returns_of_run hplan
  have hnone := check_eq_ok_none_iff hret
  have hblock : ∀ r : Rule, r.waiver = none → ¬ Violates config r :=
    fun r hr => not_violates_of_validatePlan hplan hr
  have hresolves : config.snapshot.dns.resolves = true := by
    have h := hblock .publicHostnameMustResolve rfl
    rwa [violates_publicHostname_iff, Bool.not_eq_false] at h
  have hdomain : ¬ Violates config .hostMustNotBeDomainJoined ↔
      config.snapshot.system.domainJoined = false := Bool.not_eq_true _ ▸ Iff.rfl
  have htime : ¬ Violates config .timeOffsetWithin30s ↔
      ∀ ts o, config.snapshot.timeSync = .detected ts → ts.offsetSeconds = some o →
        o.absLe 30 := by
    simp only [Violates, not_exists, not_and, not_not]
  rw [← hdomain, ← htime]
  constructor
  · intro h
    refine ⟨(hnone _).mp ((h
        ⟨.hostMustNotBeDomainJoined, "Host not domain-joined", checkMark⟩ ?_).mp rfl),
      (hnone _).mp ((h
        ⟨.timeOffsetWithin30s, "Time offset within ±30s of NTP", checkMark⟩ ?_).mp rfl)⟩
    · simp only [hardStopSummary, List.cons_append, List.mem_cons, true_or]
    · simp only [hardStopSummary, List.cons_append, List.mem_cons, true_or, or_true]
  · rintro ⟨hd, ht⟩ l hl
    obtain ⟨hmark, hrule⟩ := mem_hardStopSummary hresolves hl
    refine iff_of_true hmark ((hnone _).mpr ?_)
    rcases hrule with hrule | hrule | hrule
    · rwa [hrule]
    · rwa [hrule]
    · exact hblock _ hrule

/-- The summary of the sample plan is truthful. -/
theorem summaryTruthful_iff_sample :
    SummaryTruthful (buildConfig (makeSnapshot {}) (makeAnswers {})) := by
  refine (@summaryTruthful_iff _ ∅ validatePlan_sample).mpr ⟨rfl, fun ts o hts ho => ?_⟩
  cases hts
  cases ho
  decide +kernel

/-- A plan of a domain-joined host. -/
def domainJoinedPlan : DngConfig :=
  buildConfig (makeSnapshot { domainJoined := true }) (makeAnswers {})

/-- The plan of a domain-joined host is accepted under the override of the rule, the summary
reports that the host is not domain-joined, and the check of the rule returns a violation. -/
theorem domainJoined_reported_as_passed :
    validatePlan domainJoinedPlan {allowDomainJoined} = .ok [] ∧
      ¬ SummaryTruthful domainJoinedPlan := by
  refine ⟨by decide +kernel, fun h => ?_⟩
  have hline := (h ⟨.hostMustNotBeDomainJoined, "Host not domain-joined", checkMark⟩
    (by simp [hardStopSummary])).mp rfl
  exact absurd hline (by decide)

end DngPreflight.Runbook
