import DngPreflight.Dialogue.Run
import DngPreflight.Text.Message
import DngPreflight.Models.Serialization

set_option relaxedAutoImplicit false
set_option autoImplicit false

/-!
# The interview questions

The eight questions in canonical order. A question is given by its policy functions; prompts
and choices are presentation and are left out.

## Main definitions

* `DngPreflight.orderedQuestions` — the questions, in order.
* `DngPreflight.hostnameAccepted` — the hostnames that the third question accepts.

## Main results

* `DngPreflight.validateAnswer_publicHostname` and the lemmas beside it — what an accepted
  answer is known to be.
-/

namespace DngPreflight

open Text Codec

/-- Accumulated answers from earlier questions, by question id. -/
abbrev Prior := Dict String PyValue

/-- A question about a snapshot; an invalid answer raises `ValueError` with a message. -/
abbrev Question := Dialogue.Question String EnvironmentSnapshot PyValue (Message PyValue)

/-- `None`. -/
def PyValue.none : PyValue := .data (.scalar .null)

/-- `prior.get("deployment_scope") == "web_ssh_rdp_smb"`. -/
def scopeIsRdpSmb (prior : Prior) : Bool :=
  match prior.get? "deployment_scope" with
  | some v => v.eqStr "web_ssh_rdp_smb"
  | none => false

/-- The value does not compare equal to both scopes. A string does not, but an object may. -/
def PyValue.OneScope (v : PyValue) : Prop :=
  v.eqStr "web_ssh" = true → v.eqStr "web_ssh_rdp_smb" = false

/-- Being one scope at most is decided by comparing with both choices. -/
instance (v : PyValue) : Decidable v.OneScope := inferInstanceAs (Decidable (_ → _))

/-- `repr` of a tuple of plain identifiers. -/
def reprTuple (l : List Str) : Str :=
  '(' :: join ", " (l.map fun s => '\'' :: s ++ ['\'']) ++ [')']

/-- The answer is one of the allowed strings. -/
def requireOneOf (answer : PyValue) (allowed : List Str) (field : String) :
    Except (Message PyValue) Unit :=
  if allowed.any fun s => answer.eqStr s then .ok ()
  else .error [.text field, .text " must be one of ", .text (reprTuple allowed),
    .text ", got ", .repr answer]

/-! ## The questions -/

/-- Q1 — the deployment scope. -/
def deploymentScopeQuestion : Question where
  id := "deployment_scope"
  defaultFrom _ _ := .none
  appliesWhen _ _ := true
  validateAnswer answer _ _ :=
    requireOneOf answer ["web_ssh", "web_ssh_rdp_smb"] "deployment_scope"

/-- Q2 — the identity provider. -/
def idpQuestion : Question where
  id := "idp"
  defaultFrom _ _ := .none
  appliesWhen _ _ := true
  validateAnswer answer _ _ :=
    requireOneOf answer ["duo_sso", "okta", "entra_id", "adfs", "generic_saml"] "idp"

/-- Q3 — the public hostname. The default echoes the inspected hostname. -/
def publicHostnameQuestion : Question where
  id := "public_hostname"
  defaultFrom snapshot _ := .data (dumpStr snapshot.hostnamePlanned)
  appliesWhen _ _ := true
  validateAnswer answer _ _ :=
    match answer with
    | .data (.scalar (.str s)) =>
      if strip s = [] then .error (.ofText "public_hostname must be a non-empty string")
      else if '.' ∉ s then
        .error (.ofText "public_hostname must be a fully-qualified domain name")
      else .ok ()
    | _ => .error (.ofText "public_hostname must be a non-empty string")

/-- Q4 — the TLS strategy, as an instance of its model. -/
def tlsStrategyQuestion : Question where
  id := "tls_strategy"
  defaultFrom _ _ := .none
  appliesWhen _ _ := true
  validateAnswer answer _ _ :=
    match answer with
    | .tlsStrategy _ => .ok ()
    | _ => .error (.ofText
        "tls_strategy must be an ExistingBundle, LetsEncryptDns01, or InternalCa")

/-- Q5 — the wildcard certificate: skipped, and forced, when the scope includes RDP/SMB. -/
def wildcardCertQuestion : Question where
  id := "wildcard_cert"
  defaultFrom _ prior := .data (dumpBool (scopeIsRdpSmb prior))
  appliesWhen _ prior := ! scopeIsRdpSmb prior
  validateAnswer answer _ prior :=
    match answer with
    | .data (.scalar (.bool b)) =>
      if scopeIsRdpSmb prior && !b then .error (.ofText
        "wildcard_cert must be True when deployment_scope includes RDP/SMB")
      else .ok ()
    | _ => .error (.ofText "wildcard_cert must be a bool")

/-- Q6 — the load balancer, as an instance of its model, or nothing. -/
def loadBalancerQuestion : Question where
  id := "load_balancer"
  defaultFrom _ _ := .none
  appliesWhen _ _ := true
  validateAnswer answer _ _ :=
    match answer with
    | .data (.scalar .null) => .ok ()
    | .loadBalancer _ _ => .ok ()
    | _ => .error (.ofText "load_balancer must be a LoadBalancerConfig or None")

/-- Q7 — the internal DNS topology. -/
def internalDnsQuestion : Question where
  id := "internal_dns"
  defaultFrom _ _ := .none
  appliesWhen _ _ := true
  validateAnswer answer _ _ :=
    requireOneOf answer ["split_horizon", "internal_only", "none"] "internal_dns"

/-- Q8 — the seed apps; RDP relays only when the scope includes RDP/SMB. -/
def seedAppsQuestion : Question where
  id := "seed_apps"
  defaultFrom _ _ := .none
  appliesWhen _ _ := true
  validateAnswer answer _ prior :=
    match answer with
    | .seedApps x =>
      if x.rdpRelays ≠ [] ∧ scopeIsRdpSmb prior = false then .error (.ofText
        "rdp_relays may only be set when deployment_scope is web_ssh_rdp_smb")
      else .ok ()
    | _ => .error (.ofText "seed_apps must be a SeedApps instance")

/-- The questions in canonical order. -/
def orderedQuestions : List Question :=
  [deploymentScopeQuestion, idpQuestion, publicHostnameQuestion, tlsStrategyQuestion,
    wildcardCertQuestion, loadBalancerQuestion, internalDnsQuestion, seedAppsQuestion]

/-- The ids of the questions are the fields of the answers. -/
lemma map_id_orderedQuestions :
    orderedQuestions.map Dialogue.Question.id = InterviewAnswers.fieldNames := rfl

/-- No question is asked twice. -/
lemma nodup_orderedQuestions : (orderedQuestions.map Dialogue.Question.id).Nodup := by
  rw [map_id_orderedQuestions]
  decide

/-! ## What accepted answers are -/

/-- The hostnames that the question accepts: not blank, with a dot. -/
def hostnameAccepted (s : Str) : Prop := strip s ≠ [] ∧ '.' ∈ s

/-- Whether a text is accepted is decided by its characters. -/
instance (s : Str) : Decidable (hostnameAccepted s) := inferInstanceAs (Decidable (_ ∧ _))

/-- An accepted hostname is a string that is not blank and has a dot. -/
lemma validateAnswer_publicHostname {answer : PyValue} {x : EnvironmentSnapshot} {prior : Prior} :
    publicHostnameQuestion.validateAnswer answer x prior = .ok () ↔
      ∃ s, answer = .data (.scalar (.str s)) ∧ hostnameAccepted s := by
  simp only [publicHostnameQuestion]
  split
  · rename_i s
    by_cases hblank : strip s = []
    · simp [hostnameAccepted, hblank]
    · by_cases hdot : '.' ∈ s <;> simp [hostnameAccepted, hblank, hdot]
  · rename_i hne
    constructor
    · intro h; cases h
    · rintro ⟨s, rfl, -⟩
      exact absurd rfl (hne s)

/-- An accepted wildcard answer is a Boolean, and true in the RDP/SMB scope. -/
lemma validateAnswer_wildcardCert {answer : PyValue} {x : EnvironmentSnapshot} {prior : Prior}
    (h : wildcardCertQuestion.validateAnswer answer x prior = .ok ()) :
    ∃ b, answer = .data (.scalar (.bool b)) ∧ (scopeIsRdpSmb prior = true → b = true) := by
  simp only [wildcardCertQuestion] at h
  split at h
  · rename_i b
    refine ⟨b, rfl, fun hscope => ?_⟩
    cases b with
    | true => rfl
    | false =>
      rw [if_pos (by simp [hscope])] at h
      cases h
  · cases h

/-- Accepted seed apps are an instance, with RDP relays in the RDP/SMB scope only. -/
lemma validateAnswer_seedApps {answer : PyValue} {x : EnvironmentSnapshot} {prior : Prior}
    (h : seedAppsQuestion.validateAnswer answer x prior = .ok ()) :
    ∃ apps, answer = .seedApps apps ∧ (apps.rdpRelays ≠ [] → scopeIsRdpSmb prior = true) := by
  simp only [seedAppsQuestion] at h
  split at h
  · rename_i apps
    refine ⟨apps, rfl, fun hne => ?_⟩
    by_contra hscope
    rw [if_pos ⟨hne, Bool.not_eq_true _ ▸ hscope⟩] at h
    cases h
  · cases h

end DngPreflight
