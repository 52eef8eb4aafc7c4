import DngPreflight.Net.Notation

set_option relaxedAutoImplicit false
set_option autoImplicit false

/-!
# The interview answers

The decisions that the interview collects.

`LoadBalancerConfig` is the bare record, as it is built when validation is bypassed:
`LoadBalancerConfig.Validated` is what its validating constructor establishes.

## Main definitions

* `DngPreflight.InterviewAnswers` and its sub-models.
* `DngPreflight.TlsStrategy` — the three TLS strategies, told apart by `TlsStrategy.kind`.
* `DngPreflight.InterviewAnswers.Validated` — a load balancer has trusted proxies.
-/

namespace DngPreflight

open Text Net

/-- Which compose variant the user wants to deploy. -/
inductive DeploymentScope where
  | webSsh
  | webSshRdpSmb
  deriving DecidableEq

/-- The literal of a deployment scope. -/
def DeploymentScope.text : DeploymentScope → Str
  | .webSsh => "web_ssh"
  | .webSshRdpSmb => "web_ssh_rdp_smb"

/-- The deployment scopes. -/
def DeploymentScope.members : List DeploymentScope := [.webSsh, .webSshRdpSmb]

/-- The SAML 2.0 identity providers. -/
inductive IdpKind where
  | duoSso
  | okta
  | entraId
  | adfs
  | genericSaml
  deriving DecidableEq

/-- The literal of an identity provider. -/
def IdpKind.text : IdpKind → Str
  | .duoSso => "duo_sso"
  | .okta => "okta"
  | .entraId => "entra_id"
  | .adfs => "adfs"
  | .genericSaml => "generic_saml"

/-- The identity providers. -/
def IdpKind.members : List IdpKind := [.duoSso, .okta, .entraId, .adfs, .genericSaml]

/-- How the host's internal DNS view relates to public DNS. -/
inductive InternalDnsTopology where
  | splitHorizon
  | internalOnly
  | none
  deriving DecidableEq

/-- The literal of a DNS topology. -/
def InternalDnsTopology.text : InternalDnsTopology → Str
  | .splitHorizon => "split_horizon"
  | .internalOnly => "internal_only"
  | .none => "none"

/-- The DNS topologies. -/
def InternalDnsTopology.members : List InternalDnsTopology := [.splitHorizon, .internalOnly, .none]

/-- A pre-issued cert/key bundle on the local filesystem. -/
structure ExistingBundle where
  certPath : Str
  keyPath : Str
  chainPath : Option Str := none
  deriving DecidableEq

/-- Let's Encrypt with the DNS-01 challenge. -/
structure LetsEncryptDns01 where
  contactEmail : Str
  dnsProvider : Str
  deriving DecidableEq

/-- Cert signed by the organisation's internal CA. -/
structure InternalCa where
  certPath : Str
  keyPath : Str
  chainPath : Str
  deriving DecidableEq

/-- How TLS certificates are sourced. -/
inductive TlsStrategy where
  | existingBundle (b : ExistingBundle)
  | letsEncryptDns01 (l : LetsEncryptDns01)
  | internalCa (c : InternalCa)
  deriving DecidableEq

/-- The discriminator of a TLS strategy. -/
def TlsStrategy.kind : TlsStrategy → Str
  | .existingBundle _ => "existing_bundle"
  | .letsEncryptDns01 _ => "lets_encrypt_dns01"
  | .internalCa _ => "internal_ca"

/-- A load balancer in front of the gateway. -/
structure LoadBalancerConfig where
  name : Str
  trustedProxies : List IpNetwork
  deriving DecidableEq

/-- What the validating constructor checks: `min_length=1`. -/
def LoadBalancerConfig.Validated (lb : LoadBalancerConfig) : Prop := lb.trustedProxies ≠ []

/-- The rule is decided by whether there is a trusted proxy. -/
instance (lb : LoadBalancerConfig) : Decidable lb.Validated :=
  inferInstanceAs (Decidable (_ ≠ _))

/-- Placeholder for one seed application entry. -/
structure AppStub where
  name : Str
  deriving DecidableEq

/-- Stubs of the three seed-app categories. -/
structure SeedApps where
  webApps : List AppStub := []
  sshRelays : List AppStub := []
  rdpRelays : List AppStub := []
  deriving DecidableEq

/-- All decisions captured by the interview phase. -/
structure InterviewAnswers where
  deploymentScope : DeploymentScope
  idp : IdpKind
  publicHostname : Str
  tlsStrategy : TlsStrategy
  wildcardCert : Bool
  loadBalancer : Option LoadBalancerConfig := none
  internalDns : InternalDnsTopology
  seedApps : SeedApps
  deriving DecidableEq

/-- The sub-models were built through their validating constructors. -/
def InterviewAnswers.Validated (a : InterviewAnswers) : Prop :=
  ∀ lb, a.loadBalancer = some lb → lb.Validated

end DngPreflight
