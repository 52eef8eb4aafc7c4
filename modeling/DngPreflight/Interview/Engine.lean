import DngPreflight.Interview.Questions
import DngPreflight.Validation.Overrides

set_option relaxedAutoImplicit false
set_option autoImplicit false

/-!
# The interview engine

The interview is the dialogue over the eight questions, followed by the validation of the
collected answers. Its provider is an arbitrary stateful function.

## Main definitions

* `DngPreflight.Interview.run` — the interview.

## Main results

* `DngPreflight.Interview.recorded` — what the record of a successful interview holds.
* `DngPreflight.Interview.run_guarantees` — what every successful interview guarantees about
  the answers, and about the validation of the plan derived from them.
-/

namespace DngPreflight.Interview

open Text Codec

variable {σ δ : Type}

/-- An answers provider. -/
abbrev AnswersProvider (σ δ : Type) :=
  Dialogue.Provider σ String EnvironmentSnapshot PyValue δ

/-- Validate the collected answers; unknown fields are errors. -/
def validatePrior (L : Leaves) (prior : Prior) : Option InterviewAnswers :=
  if prior.entries.all fun e => decide (e.1 ∈ InterviewAnswers.fieldNames) then
    InterviewAnswers.ofFields L prior.entries
  else none

/-- Why an interview fails: a question rejects an answer or the provider raises, or the
collected answers do not validate. -/
inductive Error (δ : Type) where
  | question (e : Dialogue.Failure (Message PyValue) δ)
  | validationError

/-- The dialogue of an interview. -/
def dialogue (provider : AnswersProvider σ δ) (snapshot : EnvironmentSnapshot) (st : σ) :
    Dialogue.Run σ String PyValue (Message PyValue) δ :=
  Dialogue.askAll provider snapshot orderedQuestions st Dict.empty

/-- Run the interview against a snapshot. -/
def run (L : Leaves) (snapshot : EnvironmentSnapshot) (provider : AnswersProvider σ δ) (st : σ) :
    Except (Error δ) InterviewAnswers :=
  match (dialogue provider snapshot st).result with
  | .error e => .error (.question e)
  | .ok prior =>
    match validatePrior L prior with
    | none => .error .validationError
    | some answers => .ok answers

variable {L : Leaves} {snapshot : EnvironmentSnapshot} {provider : AnswersProvider σ δ} {st : σ}
  {answers : InterviewAnswers}

/-- An interview that succeeds has a record of answers, which validates. -/
lemma exists_of_run (h : run L snapshot provider st = .ok answers) :
    ∃ prior, (dialogue provider snapshot st).result = .ok prior ∧
      InterviewAnswers.ofFields L prior.entries = some answers := by
  unfold run at h
  split at h
  · cases h
  · rename_i prior hprior
    refine ⟨prior, hprior, ?_⟩
    split at h
    · cases h
    · rename_i answers' hval
      cases h
      unfold validatePrior at hval
      split at hval
      · exact hval
      · cases hval

/-- The fields of validated answers, as they were read. -/
structure ReadFrom (L : Leaves) (prior : Prior) (a : InterviewAnswers) : Prop where
  deploymentScope : ∃ v, prior.get? "deployment_scope" = some v ∧
    PyValue.readMember DeploymentScope.members DeploymentScope.text v = some a.deploymentScope
  publicHostname : ∃ v, prior.get? "public_hostname" = some v ∧
    PyValue.ofData (leaf L.str) v = some a.publicHostname
  wildcardCert : ∃ v, prior.get? "wildcard_cert" = some v ∧
    PyValue.ofData (leaf L.bool) v = some a.wildcardCert
  seedApps : ∃ v, prior.get? "seed_apps" = some v ∧ PyValue.readSeedApps L v = some a.seedApps

/-- Validated answers are read from the record. -/
lemma readFrom_of_ofFields {prior : Prior} {a : InterviewAnswers}
    (h : InterviewAnswers.ofFields L prior.entries = some a) : ReadFrom L prior a := by
  simp only [InterviewAnswers.ofFields, Option.bind_eq_bind, Option.bind_eq_some_iff] at h
  obtain ⟨scope, hscope, idp, -, host, hhost, tls, -, wild, hwild, lb, -, dns, -, seed, hseed, h⟩ :=
    h
  cases h
  exact ⟨Option.bind_eq_some_iff.mp hscope, Option.bind_eq_some_iff.mp hhost,
    Option.bind_eq_some_iff.mp hwild, Option.bind_eq_some_iff.mp hseed⟩

/-- Later questions see the scope that is read as RDP/SMB. -/
lemma scopeIsRdpSmb_of_readFrom {prior before : Prior} {a : InterviewAnswers}
    (h : ReadFrom L prior a)
    (hsame : before.get? "deployment_scope" = prior.get? "deployment_scope")
    (hscope : a.deploymentScope = .webSshRdpSmb) : scopeIsRdpSmb before = true := by
  obtain ⟨v, hv, hread⟩ := h.deploymentScope
  have heq := PyValue.eqStr_of_readMember hread
  rw [hscope] at heq
  rw [scopeIsRdpSmb, hsame, hv]
  exact heq

/-- A scope that later questions see as RDP/SMB is read so, if it does not compare equal to both
scopes. -/
lemma deploymentScope_of_scopeIsRdpSmb {prior before : Prior} {a : InterviewAnswers}
    (h : ReadFrom L prior a)
    (hsame : before.get? "deployment_scope" = prior.get? "deployment_scope")
    (hone : ∀ v, prior.get? "deployment_scope" = some v → v.OneScope)
    (hseen : scopeIsRdpSmb before = true) : a.deploymentScope = .webSshRdpSmb := by
  obtain ⟨v, hv, hread⟩ := h.deploymentScope
  have heq := PyValue.eqStr_of_readMember hread
  rw [scopeIsRdpSmb, hsame, hv] at hseen
  cases hscope : a.deploymentScope with
  | webSsh =>
    rw [hscope] at heq
    exact absurd hseen (Bool.eq_false_iff.mp (hone v hv heq))
  | webSshRdpSmb => rfl

/-- A recorded wildcard answer is the one that was read. -/
lemma ReadFrom.wildcardCert_eq {prior : Prior} {a : InterviewAnswers} (h : ReadFrom L prior a)
    {b : Bool} (hget : prior.get? "wildcard_cert" = some (.data (.scalar (.bool b)))) :
    a.wildcardCert = b := by
  obtain ⟨v, hv, hbool⟩ := h.wildcardCert
  obtain rfl : PyValue.data (.scalar (.bool b)) = v := Option.some.inj (hget.symm.trans hv)
  simp only [PyValue.ofData, leaf_scalar, L.bool_bool, Option.some.injEq] at hbool
  exact hbool.symm

/-- Recorded seed applications are those that were read. -/
lemma ReadFrom.seedApps_eq {prior : Prior} {a : InterviewAnswers} (h : ReadFrom L prior a)
    {apps : SeedApps} (hget : prior.get? "seed_apps" = some (.seedApps apps)) :
    a.seedApps = apps := by
  obtain ⟨v, hv, hseed⟩ := h.seedApps
  obtain rfl : PyValue.seedApps apps = v := Option.some.inj (hget.symm.trans hv)
  exact (Option.some.inj hseed).symm

/-- **What the record of an interview holds**: for each question an answer that was valid in
the context of the final answers to the questions before it. -/
lemma recorded (hro : provider.ReadOnly) {prior : Prior}
    (h : (dialogue provider snapshot st).result = .ok prior) (earlier : List Question)
    (q : Question) (later : List Question) (hq : orderedQuestions = earlier ++ q :: later) :
    Dialogue.Recorded snapshot (dialogue provider snapshot st).calls prior q later :=
  (Dialogue.askAll_ok hro nodup_orderedQuestions h).2 earlier q later hq

/-- The wildcard certificate of a successful interview: true in the RDP/SMB scope, without the
provider having been asked. -/
lemma wildcardCert_of_run (hro : provider.ReadOnly) {prior : Prior}
    (hprior : (dialogue provider snapshot st).result = .ok prior)
    (hread : ReadFrom L prior answers) (hscope : answers.deploymentScope = .webSshRdpSmb) :
    answers.wildcardCert = true ∧
      ∀ call ∈ (dialogue provider snapshot st).calls, call.question ≠ "wildcard_cert" := by
  obtain ⟨before, ans, hagree, hget, hvalid, hskip⟩ :=
    recorded hro hprior (orderedQuestions.take 4) wildcardCertQuestion
      (orderedQuestions.drop 5) rfl
  have hseen : scopeIsRdpSmb before = true :=
    scopeIsRdpSmb_of_readFrom hread (hagree "deployment_scope" (by decide)) hscope
  obtain ⟨b, rfl, hb⟩ := validateAnswer_wildcardCert hvalid
  have hskipped : wildcardCertQuestion.appliesWhen snapshot before = false :=
    congrArg Bool.not hseen
  exact ⟨by rw [hread.wildcardCert_eq hget, hb hseen], (hskip hskipped).2⟩

/-- The answer to the question about the scope, if the interview has a record, does not compare
equal to both scopes. -/
def TellsOneScope (provider : AnswersProvider σ δ) (snapshot : EnvironmentSnapshot) (st : σ) :
    Prop :=
  ∀ prior v, (dialogue provider snapshot st).result = .ok prior →
    prior.get? "deployment_scope" = some v → v.OneScope

/-- The RDP relays of a successful interview are in scope, if it tells one scope. -/
lemma relaysInScope_of_run (hro : provider.ReadOnly) (hone : TellsOneScope provider snapshot st)
    {prior : Prior} (hprior : (dialogue provider snapshot st).result = .ok prior)
    (hread : ReadFrom L prior answers) : answers.RelaysInScope := by
  obtain ⟨before, ans, hagree, hget, hvalid, -⟩ :=
    recorded hro hprior (orderedQuestions.take 7) seedAppsQuestion [] rfl
  obtain ⟨apps, rfl, hrelays⟩ := validateAnswer_seedApps hvalid
  obtain rfl := hread.seedApps_eq hget
  intro hne
  exact deploymentScope_of_scopeIsRdpSmb hread (hagree "deployment_scope" (by decide))
    (fun v hv => hone prior v hprior hv) (hrelays hne)

/-- The hostname of a successful interview is one that its question accepts. -/
lemma hostnameAccepted_of_run (hro : provider.ReadOnly) {prior : Prior}
    (hprior : (dialogue provider snapshot st).result = .ok prior)
    (hread : ReadFrom L prior answers) : hostnameAccepted answers.publicHostname := by
  obtain ⟨before, ans, -, hget, hvalid, -⟩ :=
    recorded hro hprior (orderedQuestions.take 2) publicHostnameQuestion
      (orderedQuestions.drop 3) rfl
  obtain ⟨s, rfl, hs⟩ := validateAnswer_publicHostname.mp hvalid
  obtain ⟨v, hv, hstr⟩ := hread.publicHostname
  obtain rfl : PyValue.data (.scalar (.str s)) = v := Option.some.inj (hget.symm.trans hv)
  simp only [PyValue.ofData, leaf_scalar, L.str_str, Option.some.injEq] at hstr
  rwa [← hstr]

/-- The rules that the answers of an interview alone can violate. -/
def answerRules : List Rule :=
  [.wildcardRequiredForRdpSmb, .dngVersionMinimum, .lbRequiresTrustedProxies]

/-- A derived plan violates no rule about answers, if the answers are as an interview leaves
them. -/
lemma not_violates_answerRules (snapshot : EnvironmentSnapshot)
    (hwild : answers.deploymentScope = .webSshRdpSmb → answers.wildcardCert = true)
    (hlb : answers.Validated) :
    ∀ r ∈ answerRules, ¬ Violates (buildConfig snapshot answers) r := by
  intro r hr hviol
  simp only [answerRules, List.mem_cons, List.not_mem_nil, or_false] at hr
  rcases hr with rfl | rfl | rfl
  · obtain ⟨hscope, hcert⟩ := hviol
    have htrue : answers.wildcardCert = true := hwild hscope
    rw [show answers.wildcardCert = false from hcert] at htrue
    cases htrue
  · obtain ⟨v, hv, hlt⟩ := hviol
    rw [show versionTuple (buildConfig snapshot answers).dngVersionMinimum = .ok [3, 3, 0] from
      by simp only [buildConfig]; decide] at hv
    cases hv
    exact absurd hlt (by decide)
  · obtain ⟨lb, hsome, hnil⟩ := hviol
    exact hlb lb hsome hnil

/-- **What a successful interview guarantees**, whatever the provider, provided that it does
not write to the record: in the RDP/SMB scope the wildcard certificate is forced without asking
for it, RDP relays are in scope unless the answer about the scope compares equal to both scopes, a
load balancer has trusted proxies, and the hostname has a dot and is not blank; so the plan derived
from the answers violates no rule about answers, under any overrides.

**Proof sketch.** The record holds, for each question, an answer that was valid in the context
of the scope that was finally recorded, since the record is never changed; validation reads
the recorded values unchanged, but for a scope that is no string. -/
theorem run_guarantees (hro : provider.ReadOnly)
    (h : run L snapshot provider st = .ok answers) :
    (answers.deploymentScope = .webSshRdpSmb → answers.wildcardCert = true ∧
      ∀ call ∈ (dialogue provider snapshot st).calls, call.question ≠ "wildcard_cert") ∧
    (TellsOneScope provider snapshot st → answers.seedApps.rdpRelays ≠ [] →
      answers.deploymentScope = .webSshRdpSmb) ∧
    (∀ lb, answers.loadBalancer = some lb → lb.trustedProxies ≠ []) ∧
    ('.' ∈ answers.publicHostname ∧ strip answers.publicHostname ≠ []) ∧
    ∀ overrides, ∃ out, validatePlan (buildConfig snapshot answers) overrides = .ok out ∧
      Rule.wildcardRequiredForRdpSmb ∉ rulesOf out ∧ Rule.dngVersionMinimum ∉ rulesOf out ∧
      Rule.lbRequiresTrustedProxies ∉ rulesOf out := by
  obtain ⟨prior, hprior, hfields⟩ := exists_of_run h
  have hread := readFrom_of_ofFields hfields
  have hlb : answers.Validated := InterviewAnswers.validated_of_ofFields L hfields
  have hwild := fun hscope => wildcardCert_of_run hro hprior hread hscope
  have hhost := hostnameAccepted_of_run hro hprior hread
  refine ⟨hwild, fun hone => relaysInScope_of_run hro hone hprior hread, hlb, ⟨hhost.2, hhost.1⟩,
    fun overrides => ?_⟩
  obtain ⟨out, hout⟩ := exists_validatePlan (returns_buildConfig snapshot answers) overrides
  have hnot : ∀ r ∈ answerRules, r ∉ rulesOf out := fun r hr hm =>
    not_violates_answerRules snapshot (fun hs => (hwild hs).1) hlb r hr
      ((mem_rulesOf_validatePlan hout r).mp hm).1
  exact ⟨out, hout, hnot _ (by decide), hnot _ (by decide), hnot _ (by decide)⟩

/-! ## A canned provider -/

/-- Fixed answers in the RDP/SMB scope; the wildcard answer is never asked for. -/
def cannedAnswer (question : String) : PyValue :=
  if question = "deployment_scope" then .data (dumpStr "web_ssh_rdp_smb")
  else if question = "idp" then .data (dumpStr "okta")
  else if question = "public_hostname" then .data (dumpStr "dng.example.com")
  else if question = "tls_strategy" then
    .tlsStrategy (.internalCa ⟨"/c", "/k", "/chain"⟩)
  else if question = "wildcard_cert" then .data (dumpBool false)
  else if question = "internal_dns" then .data (dumpStr "split_horizon")
  else if question = "seed_apps" then .seedApps (stubApps 0 1 1)
  else .none

/-- The provider of the canned answers. -/
def cannedProvider : AnswersProvider Unit Empty :=
  fun _ _ call => (.ok ⟨cannedAnswer call.question, call.prior⟩, ())

/-- An object that compares equal to every string, and has the hash of the first scope. -/
def ambiguousScope : PyValue := .object (fun _ => true) fun s => decide (s = "web_ssh".toList)

/-- The provider of the canned answers, but for the scope. -/
def ambiguousProvider : AnswersProvider Unit Empty := fun _ _ call =>
  (.ok ⟨if call.question = "deployment_scope" then ambiguousScope else cannedAnswer call.question,
    call.prior⟩, ())

/-- The canned provider does not write to the record. -/
lemma cannedProvider_readOnly : cannedProvider.ReadOnly := by
  intro st x call reply h
  cases h
  rfl

/-- Neither does the other one. -/
lemma ambiguousProvider_readOnly : ambiguousProvider.ReadOnly := by
  intro st x call reply h
  cases h
  rfl

/-- The canned interview tells one scope. -/
lemma tellsOneScope_canned : TellsOneScope cannedProvider (makeSnapshot {}) () := by
  intro prior v hprior hv
  cases hprior
  cases hv
  decide

/-- The canned interview forces the wildcard certificate, although the provider would refuse
it, and its relays are in scope. -/
theorem run_guarantees_canned :
    ∃ answers, run .strict (makeSnapshot {}) cannedProvider () = .ok answers ∧
      answers.seedApps.rdpRelays ≠ [] ∧ answers.deploymentScope = .webSshRdpSmb ∧
      answers.wildcardCert = true := by
  have h : ∃ answers, run .strict (makeSnapshot {}) cannedProvider () = .ok answers ∧
      answers.seedApps.rdpRelays ≠ [] := ⟨_, rfl, List.cons_ne_nil _ _⟩
  obtain ⟨answers, hrun, hrelays⟩ := h
  obtain ⟨hwild, hscope, -⟩ := run_guarantees cannedProvider_readOnly hrun
  have hrdp := hscope tellsOneScope_canned hrelays
  exact ⟨answers, hrun, hrelays, hrdp, (hwild hrdp).1⟩

/-- With a scope that compares equal to both, the interview succeeds in the scope without RDP/SMB,
and there is an RDP relay. -/
theorem ambiguousScope_not_guaranteed :
    ambiguousProvider.ReadOnly ∧
      ∃ answers, run .strict (makeSnapshot {}) ambiguousProvider () = .ok answers ∧
        answers.seedApps.rdpRelays ≠ [] ∧ answers.deploymentScope ≠ .webSshRdpSmb := by
  exact ⟨ambiguousProvider_readOnly, _, rfl, List.cons_ne_nil _ _, by decide⟩

end DngPreflight.Interview
