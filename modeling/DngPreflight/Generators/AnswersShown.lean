import DngPreflight.Cli

set_option relaxedAutoImplicit false
set_option autoImplicit false

/-!
# The answers that the artifacts show

Two plans that differ in one answer only, and whether any of their artifacts differ. The artifacts
of a plan show the paths and the provider of its TLS strategy; they do not show the chain of an
existing bundle, the contact of Let's Encrypt or the topology of the internal DNS.

## Main definitions

* `DngPreflight.DngConfig.withTlsStrategy`, `DngPreflight.DngConfig.withInternalDns` — the plan with
  another answer.
* `DngPreflight.TlsStrategy.SameShown` — two strategies agree in what the artifacts show.

## Main results

* `DngPreflight.payloads_ne_iff` — when the artifacts of two such plans differ.
-/

namespace DngPreflight

open Text

/-- The plan with another TLS strategy. -/
def DngConfig.withTlsStrategy (c : DngConfig) (tls : TlsStrategy) : DngConfig :=
  { c with answers := { c.answers with tlsStrategy := tls } }

/-- The plan with another topology of the internal DNS. -/
def DngConfig.withInternalDns (c : DngConfig) (dns : InternalDnsTopology) : DngConfig :=
  { c with answers := { c.answers with internalDns := dns } }

/-- The strategies are equal, up to the chain of an existing bundle or the contact of Let's
Encrypt. -/
def TlsStrategy.SameShown : TlsStrategy → TlsStrategy → Prop
  | .existingBundle b, .existingBundle b' => b.certPath = b'.certPath ∧ b.keyPath = b'.keyPath
  | .letsEncryptDns01 l, .letsEncryptDns01 l' => l.dnsProvider = l'.dnsProvider
  | .internalCa c, .internalCa c' => c = c'
  | _, _ => False

/-! ## The certificate and its key -/

/-- The pasted contents of two files differ, if the path of the one goes on where that of the other
ends, with a character that is no line break and not the closing bracket. -/
lemma pasteContents_append_ne (path r : Str) {c : Char} (hc : isLineBreak c = false) (hne : '>' ≠ c)
    (u u' : Str) :
    ScriptedConfig.pasteContents "" path ++ u ≠
      ScriptedConfig.pasteContents "" (path ++ c :: r) ++ u' := by
  have h := pemBlock_append_ne 6 ("<<paste contents of ".toList ++ path) (c := '>') (by decide) hc
    hne ">".toList (r ++ ">>".toList) u u'
  simpa [ScriptedConfig.pasteContents] using h

/-- A path is told by the runbook, where it ends at a backtick, together with the configuration,
where it ends at a bracket. -/
lemma path_eq {path path' t t' u u' : Str} (hrunbook : path ++ '`' :: t = path' ++ '`' :: t')
    (hconfig : ScriptedConfig.pasteContents "" path ++ u =
      ScriptedConfig.pasteContents "" path' ++ u') :
    path = path' ∧ t = t' := by
  rcases append_cons_eq_cases hrunbook with h | ⟨r, rfl⟩ | ⟨r, rfl⟩
  · exact h
  · exact absurd hconfig (pasteContents_append_ne path r (by decide) (by decide) u u')
  · exact absurd hconfig.symm (pasteContents_append_ne path' r (by decide) (by decide) u' u)

/-- The paths of two file-based strategies are told by the runbook together with the
configuration. -/
lemma paths_eq {certPath keyPath certPath' keyPath' : Str} {chain chain' : Template} {u u' : Str}
    (hrunbook : render (Runbook.pasteTls certPath keyPath chain) =
      render (Runbook.pasteTls certPath' keyPath' chain'))
    (hconfig : render (ScriptedConfig.ownCert certPath keyPath) ++ u =
      render (ScriptedConfig.ownCert certPath' keyPath') ++ u') :
    certPath = certPath' ∧ keyPath = keyPath' ∧ render chain = render chain' := by
  have htick : "`".toList = ['`'] := toList_eq rfl
  simp only [Runbook.pasteTls, line, render_append, render_cons, Piece.text, List.append_assoc,
    List.append_cancel_left_eq, htick, List.cons_append, List.nil_append] at hrunbook
  simp only [ScriptedConfig.ownCert, line, render_append, render_cons, render_nil, Piece.text,
    List.append_assoc, List.append_cancel_left_eq, List.nil_append] at hconfig
  obtain ⟨rfl, hrunbook⟩ := path_eq hrunbook hconfig
  simp only [List.cons.injEq, true_and, List.append_cancel_left_eq] at hrunbook hconfig
  obtain ⟨rfl, hrunbook⟩ := path_eq hrunbook hconfig
  simp only [List.cons.injEq, true_and, List.append_cancel_left_eq,
    List.append_cancel_right_eq] at hrunbook
  exact ⟨rfl, rfl, hrunbook⟩

/-! ## The artifacts of two strategies -/

variable {c : DngConfig} {tls tls' : TlsStrategy}

/-- If the configurations are the same, then so are their certificate sections, with what follows
them. -/
lemma exists_sslCert_append_eq (h : ScriptedConfig.generate (c.withTlsStrategy tls) =
      ScriptedConfig.generate (c.withTlsStrategy tls')) :
    ∃ post, render (ScriptedConfig.sslCert (c.withTlsStrategy tls)) ++ post =
      render (ScriptedConfig.sslCert (c.withTlsStrategy tls')) ++ post := by
  simp only [ScriptedConfig.generate, ScriptedConfig.template, render_append,
    List.append_assoc] at h
  exact ⟨_, (List.append_right_inj (render (ScriptedConfig.gateway c))).mp h⟩

/-- If the runbooks are the same, then so are their steps about TLS, with what follows them. -/
lemma exists_tlsStep_append_eq (h : Runbook.generate (c.withTlsStrategy tls) =
      Runbook.generate (c.withTlsStrategy tls')) :
    ∃ post, render (Runbook.tlsStep (c.withTlsStrategy tls)) ++ post =
      render (Runbook.tlsStep (c.withTlsStrategy tls')) ++ post := by
  simp only [Runbook.generate, Runbook.template, Runbook.beforeSummary, render_append,
    List.append_assoc] at h
  have hdns := (List.append_right_inj (render (Runbook.opening c))).mp h
  have hinstaller := (List.append_right_inj (render (Runbook.dnsStep c))).mp hdns
  have hfirewall := (List.append_right_inj (render (Runbook.installerStep c))).mp hinstaller
  exact ⟨_, (List.append_right_inj (render (Runbook.firewallStep c))).mp hfirewall⟩

/-- The heading of the step. -/
def stepHeading : List String :=
  ["", "## Step 3 — Paste TLS material into scripted-config.yaml", ""]

/-- The instructions to paste a certificate begin with this letter. -/
lemma exists_render_pasteTls (certPath keyPath : Str) (chain : Template) :
    ∃ t, render (Runbook.pasteTls certPath keyPath chain) = 'O' :: t := by
  rw [Runbook.pasteTls]
  simp only [List.append_assoc]
  exact exists_render_lines_append rfl _ _

/-- The step of Let's Encrypt goes on with another letter. -/
lemma exists_render_tlsStep_letsEncrypt (c : DngConfig) (l : LetsEncryptDns01) :
    ∃ t, render (Runbook.tlsStep (c.withTlsStrategy (.letsEncryptDns01 l))) =
      render (lines stepHeading) ++ 'T' :: t := by
  obtain ⟨rest, hrest⟩ : ∃ rest, Runbook.tlsStep (c.withTlsStrategy (.letsEncryptDns01 l)) =
      lines stepHeading ++ rest ∧ ∃ t, render rest = 'T' :: t := by
    refine ⟨_, rfl, ?_⟩
    simp only [DngConfig.withTlsStrategy, List.append_assoc]
    exact exists_render_lines_append rfl _ _
  obtain ⟨hstep, t, ht⟩ := hrest
  exact ⟨t, by rw [hstep, render_append, ht]⟩

/-- The step of Let's Encrypt begins differently from that of a file-based strategy. -/
lemma tlsStep_letsEncrypt_ne {l : LetsEncryptDns01} {certPath keyPath : Str} {chain : Template}
    (hstep : Runbook.tlsStep (c.withTlsStrategy tls') = lines stepHeading ++
      Runbook.pasteTls certPath keyPath chain) :
    render (Runbook.tlsStep (c.withTlsStrategy (.letsEncryptDns01 l))) ≠
      render (Runbook.tlsStep (c.withTlsStrategy tls')) := by
  obtain ⟨t, ht⟩ := exists_render_tlsStep_letsEncrypt c l
  obtain ⟨t', ht'⟩ := exists_render_pasteTls certPath keyPath chain
  rw [ht, hstep, render_append, ht']
  intro h
  exact absurd (List.cons.inj (List.append_cancel_left h)).1 (by decide)

/-- The lines of the runbook about the chain of an internal CA. -/
def chainLines (path : Str) : Template :=
  line ["- `network_gateway.ssl_cert.chain` ← contents of `", .value path, "`"] ++
  lines ["  (un-comment the `chain:` key)"]

/-- The chain of an internal CA is told by the runbook. -/
lemma chainPath_eq {path path' : Str} (h : render (chainLines path) = render (chainLines path')) :
    path = path' := by
  simpa only [chainLines, line, render_append, render_cons, Piece.text, List.append_assoc,
    List.append_cancel_left_eq, List.append_cancel_right_eq] using h

/-- The chain of an internal CA is not left out. -/
lemma render_chainLines_ne_nil (path : Str) : render (chainLines path) ≠ [] := by
  intro h
  have hhead := congrArg List.head? h
  have hdash : some '-' = none := hhead
  cases hdash

/-- The provider of Let's Encrypt is told by the runbook. -/
lemma dnsProvider_eq {l l' : LetsEncryptDns01}
    (h : render (Runbook.tlsStep (c.withTlsStrategy (.letsEncryptDns01 l))) =
      render (Runbook.tlsStep (c.withTlsStrategy (.letsEncryptDns01 l')))) :
    l.dnsProvider = l'.dnsProvider := by
  simpa only [Runbook.tlsStep, DngConfig.withTlsStrategy, line, render_append, render_cons,
    Piece.text, List.append_assoc, List.append_cancel_left_eq, List.append_cancel_right_eq] using h

/-- The paths of two file-based strategies, and the lines about their chains, are told by the steps
of the runbooks together with the certificate sections. -/
lemma paths_eq_of_sslCert (chain chain' : Template) {certPath keyPath certPath' keyPath' : Str}
    {rest rest' : Template} {post : Str}
    (hconfig : render (ScriptedConfig.sslCert (c.withTlsStrategy tls)) ++ post =
      render (ScriptedConfig.sslCert (c.withTlsStrategy tls')) ++ post)
    (hrunbook : render (Runbook.tlsStep (c.withTlsStrategy tls)) =
      render (Runbook.tlsStep (c.withTlsStrategy tls')))
    (hssl : ScriptedConfig.sslCert (c.withTlsStrategy tls) =
      lines ["  ssl_cert:"] ++ ScriptedConfig.ownCert certPath keyPath ++ rest)
    (hssl' : ScriptedConfig.sslCert (c.withTlsStrategy tls') =
      lines ["  ssl_cert:"] ++ ScriptedConfig.ownCert certPath' keyPath' ++ rest')
    (hstep : Runbook.tlsStep (c.withTlsStrategy tls) = lines stepHeading ++
      Runbook.pasteTls certPath keyPath chain)
    (hstep' : Runbook.tlsStep (c.withTlsStrategy tls') = lines stepHeading ++
      Runbook.pasteTls certPath' keyPath' chain') :
    certPath = certPath' ∧ keyPath = keyPath' ∧ render chain = render chain' := by
  rw [hssl, hssl', render_append, render_append, render_append, render_append,
    List.append_assoc, List.append_assoc, List.append_assoc, List.append_assoc] at hconfig
  rw [hstep, hstep', render_append, render_append] at hrunbook
  exact paths_eq (List.append_cancel_left hrunbook) (List.append_cancel_left hconfig)

/-- **Plans with the same artifacts** have strategies that agree in what the artifacts show. -/
lemma sameShown_of_payloads_eq
    (h : Cli.payloads (c.withTlsStrategy tls) = Cli.payloads (c.withTlsStrategy tls')) :
    tls.SameShown tls' := by
  simp only [Cli.payloads, List.cons.injEq, Prod.mk.injEq, true_and] at h
  obtain ⟨hconfig, -, hrunbook, -⟩ := h
  obtain ⟨post, hconfig⟩ := exists_sslCert_append_eq hconfig
  obtain ⟨post', hrunbook⟩ := exists_tlsStep_append_eq hrunbook
  have hrunbook := List.append_cancel_right hrunbook
  cases tls with
  | letsEncryptDns01 l =>
    cases tls' with
    | letsEncryptDns01 l' => exact dnsProvider_eq hrunbook
    | existingBundle b' => exact absurd hrunbook (tlsStep_letsEncrypt_ne rfl)
    | internalCa ca' => exact absurd hrunbook (tlsStep_letsEncrypt_ne rfl)
  | existingBundle b =>
    cases tls' with
    | letsEncryptDns01 l' => exact absurd hrunbook.symm (tlsStep_letsEncrypt_ne rfl)
    | existingBundle b' =>
      obtain ⟨hcert, hkey, -⟩ := paths_eq_of_sslCert [] [] hconfig hrunbook
        (List.append_nil _).symm (List.append_nil _).symm rfl rfl
      exact ⟨hcert, hkey⟩
    | internalCa ca' =>
      obtain ⟨-, -, hchain⟩ := paths_eq_of_sslCert [] (chainLines ca'.chainPath) hconfig
        hrunbook (List.append_nil _).symm (List.append_assoc _ _ _).symm rfl rfl
      exact absurd hchain.symm (render_chainLines_ne_nil _)
  | internalCa ca =>
    cases tls' with
    | letsEncryptDns01 l' => exact absurd hrunbook.symm (tlsStep_letsEncrypt_ne rfl)
    | existingBundle b' =>
      obtain ⟨-, -, hchain⟩ := paths_eq_of_sslCert (chainLines ca.chainPath) [] hconfig
        hrunbook (List.append_assoc _ _ _).symm (List.append_nil _).symm rfl rfl
      exact absurd hchain (render_chainLines_ne_nil _)
    | internalCa ca' =>
      obtain ⟨hcert, hkey, hchain⟩ := paths_eq_of_sslCert (chainLines ca.chainPath)
        (chainLines ca'.chainPath) hconfig hrunbook (List.append_assoc _ _ _).symm
        (List.append_assoc _ _ _).symm rfl rfl
      obtain ⟨certPath, keyPath, chainPath⟩ := ca
      obtain ⟨certPath', keyPath', chainPath'⟩ := ca'
      obtain rfl : certPath = certPath' := hcert
      obtain rfl : keyPath = keyPath' := hkey
      obtain rfl : chainPath = chainPath' := chainPath_eq hchain
      rfl

/-- Plans whose strategies agree in what the artifacts show have the same artifacts. -/
lemma payloads_eq_of_sameShown (h : tls.SameShown tls') :
    Cli.payloads (c.withTlsStrategy tls) = Cli.payloads (c.withTlsStrategy tls') := by
  cases tls with
  | letsEncryptDns01 l =>
    cases tls' with
    | letsEncryptDns01 l' =>
      obtain ⟨email, provider⟩ := l
      obtain ⟨email', provider'⟩ := l'
      obtain rfl : provider = provider' := h
      rfl
    | existingBundle b' => exact h.elim
    | internalCa ca' => exact h.elim
  | existingBundle b =>
    cases tls' with
    | letsEncryptDns01 l' => exact h.elim
    | existingBundle b' =>
      obtain ⟨certPath, keyPath, chain⟩ := b
      obtain ⟨certPath', keyPath', chain'⟩ := b'
      obtain ⟨rfl, rfl⟩ : certPath = certPath' ∧ keyPath = keyPath' := h
      rfl
    | internalCa ca' => exact h.elim
  | internalCa ca =>
    cases tls' with
    | letsEncryptDns01 l' => exact h.elim
    | existingBundle b' => exact h.elim
    | internalCa ca' =>
      obtain rfl : ca = ca' := h
      rfl

/-- **The answers that the artifacts show**: plans that differ in the TLS strategy only have
different artifacts exactly when they differ in more than the chain of an existing bundle or the
contact of Let's Encrypt; plans that differ in the topology of the internal DNS only have the same
artifacts.

**Proof sketch.** The runbook and the configuration together tell the paths: in the runbook a path
ends at a backtick, and in the configuration at a bracket, so that of two paths neither goes on
where the other ends. -/
theorem payloads_ne_iff (c : DngConfig) :
    (∀ tls tls', Cli.payloads (c.withTlsStrategy tls) ≠ Cli.payloads (c.withTlsStrategy tls') ↔
      ¬ tls.SameShown tls') ∧
    ∀ dns dns', Cli.payloads (c.withInternalDns dns) = Cli.payloads (c.withInternalDns dns') :=
  ⟨fun _ _ => not_congr ⟨sameShown_of_payloads_eq, payloads_eq_of_sameShown⟩, fun _ _ => rfl⟩

/-- No hard stop looks at the TLS strategy. -/
lemma validatePlan_withTlsStrategy (c : DngConfig) (tls : TlsStrategy) (flags : Finset Str) :
    validatePlan (c.withTlsStrategy tls) flags = validatePlan c flags := rfl

/-- No hard stop looks at the topology of the internal DNS. -/
lemma validatePlan_withInternalDns (c : DngConfig) (dns : InternalDnsTopology)
    (flags : Finset Str) : validatePlan (c.withInternalDns dns) flags = validatePlan c flags := rfl

/-- The sample plan with another TLS strategy passes. -/
lemma validatePlan_samplePlan_withTlsStrategy (tls : TlsStrategy) :
    validatePlan (Cli.samplePlan.withTlsStrategy tls) ∅ = .ok [] := by
  rw [validatePlan_withTlsStrategy]
  exact validatePlan_sample

/-- So does the sample plan with another topology of the internal DNS. -/
lemma validatePlan_samplePlan_withInternalDns (dns : InternalDnsTopology) :
    validatePlan (Cli.samplePlan.withInternalDns dns) ∅ = .ok [] := by
  rw [validatePlan_withInternalDns]
  exact validatePlan_sample

/-- The sample plan with an existing bundle. -/
def bundlePlan (chainPath : Option Str) : DngConfig :=
  Cli.samplePlan.withTlsStrategy
    (.existingBundle ⟨"/etc/dng/cert.pem", "/etc/dng/key.pem", chainPath⟩)

/-- The sample plan with Let's Encrypt. -/
def letsEncryptPlan (contactEmail : Str) : DngConfig :=
  Cli.samplePlan.withTlsStrategy (.letsEncryptDns01 ⟨contactEmail, "route53"⟩)

/-- Plans that differ in the chain of their bundle only, in the contact of Let's Encrypt only, or in
the topology of the internal DNS only: they pass, and have the same artifacts. -/
theorem bundlePlan_payloads_eq :
    (validatePlan (bundlePlan none) ∅ = .ok [] ∧
      validatePlan (bundlePlan (some "/etc/dng/chain.pem")) ∅ = .ok [] ∧
      bundlePlan none ≠ bundlePlan (some "/etc/dng/chain.pem") ∧
      Cli.payloads (bundlePlan none) = Cli.payloads (bundlePlan (some "/etc/dng/chain.pem"))) ∧
    (validatePlan (letsEncryptPlan "a@example.com") ∅ = .ok [] ∧
      validatePlan (letsEncryptPlan "b@example.com") ∅ = .ok [] ∧
      letsEncryptPlan "a@example.com" ≠ letsEncryptPlan "b@example.com" ∧
      Cli.payloads (letsEncryptPlan "a@example.com") =
        Cli.payloads (letsEncryptPlan "b@example.com")) ∧
    (validatePlan (Cli.samplePlan.withInternalDns .splitHorizon) ∅ = .ok [] ∧
      validatePlan (Cli.samplePlan.withInternalDns .none) ∅ = .ok [] ∧
      Cli.samplePlan.withInternalDns .splitHorizon ≠ Cli.samplePlan.withInternalDns .none ∧
      Cli.payloads (Cli.samplePlan.withInternalDns .splitHorizon) =
        Cli.payloads (Cli.samplePlan.withInternalDns .none)) := by
  refine ⟨⟨validatePlan_samplePlan_withTlsStrategy _, validatePlan_samplePlan_withTlsStrategy _,
      fun h => ?_, payloads_eq_of_sameShown ⟨rfl, rfl⟩⟩,
    ⟨validatePlan_samplePlan_withTlsStrategy _, validatePlan_samplePlan_withTlsStrategy _,
      fun h => ?_, payloads_eq_of_sameShown rfl⟩,
    validatePlan_samplePlan_withInternalDns _, validatePlan_samplePlan_withInternalDns _,
    fun h => ?_, rfl⟩
  · exact absurd (congrArg (fun c => c.answers.tlsStrategy) h) (by decide)
  · exact absurd (congrArg (fun c => c.answers.tlsStrategy) h) (by decide)
  · exact absurd (congrArg (fun c => c.answers.internalDns) h) (by decide)

end DngPreflight
