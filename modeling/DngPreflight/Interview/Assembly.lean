import DngPreflight.Dialogue.Trace
import DngPreflight.Interview.Engine

set_option relaxedAutoImplicit false
set_option autoImplicit false

/-!
# Assembling the answers

The accepted answers of an interview, and what the final validation makes of them: all that it
can still refuse is a choice that is not a string, but an object that compares equal to one. If it
takes such an object, the result has the string instead.

## Main definitions

* `DngPreflight.InterviewAnswers.values` — the values of the fields of validated answers.
* `DngPreflight.PyValue.HeldAs` — the value in the result that an accepted answer becomes.
* `DngPreflight.Interview.Shape` — eight answers that their questions accept.

## Main results

* `DngPreflight.Interview.ofFields_zip` — the final validation reads the three choices only.
* `DngPreflight.Interview.forall₂_heldAs`, `DngPreflight.Interview.exists_ofFields` — what it
  accepts, and when it does.
-/

namespace DngPreflight

open Text Codec

/-! ## Values of fields -/

/-- A load balancer that was built through its validating constructor, or `None`. -/
def PyValue.ofLoadBalancer :
    (x : Option LoadBalancerConfig) → (∀ lb, x = some lb → lb.Validated) → PyValue
  | .none, _ => .none
  | .some lb, h => .loadBalancer lb (h lb rfl)

/-- The values of the fields of validated answers, in the order of the fields. -/
def InterviewAnswers.values (a : InterviewAnswers) (h : a.Validated) : List PyValue :=
  [.data (dumpEnum DeploymentScope.text a.deploymentScope),
    .data (dumpEnum IdpKind.text a.idp), .data (dumpStr a.publicHostname),
    .tlsStrategy a.tlsStrategy, .data (dumpBool a.wildcardCert),
    .ofLoadBalancer a.loadBalancer h,
    .data (dumpEnum InternalDnsTopology.text a.internalDns), .seedApps a.seedApps]

/-- An accepted answer is held as a value: as itself, or as the string that it compares equal to if
it is an object that is no string. -/
def PyValue.HeldAs (v w : PyValue) : Prop :=
  v = w ∨ ∃ eqStr sameHash s, v = .object eqStr sameHash ∧ eqStr s = true ∧ w = .data (dumpStr s)

/-- A member of an enumeration is held as its text. -/
lemma PyValue.heldAs_of_readMember {α : Type} {members : List α} {text : α → Str} {v : PyValue}
    {a : α} (h : PyValue.readMember members text v = some a) :
    v.HeldAs (.data (dumpEnum text a)) := by
  rcases PyValue.eq_of_readMember h with rfl | ⟨eqStr, sameHash, rfl, heq⟩
  · exact .inl rfl
  · exact .inr ⟨eqStr, sameHash, text a, rfl, heq, rfl⟩

/-- A string that is a member of an enumeration is held as itself. -/
lemma PyValue.eq_of_readMember_str {α : Type} {members : List α} {text : α → Str} {v : PyValue}
    {s : Str} {a : α} (hstr : v = .data (.scalar (.str s)))
    (h : PyValue.readMember members text v = some a) : v = .data (dumpEnum text a) := by
  subst hstr
  exact congrArg PyValue.data (eq_dumpEnum_of_readEnum h)

/-- What is read as a load balancer from a validated one. -/
lemma PyValue.readLoadBalancer_ofLoadBalancer (L : Leaves) (x : Option LoadBalancerConfig)
    (h : ∀ lb, x = some lb → lb.Validated) :
    PyValue.readLoadBalancer L (.ofLoadBalancer x h) = some x := by
  cases x <;> rfl

/-- A string that is among the texts of an enumeration is read. -/
lemma exists_readMember {α : Type} {members : List α} {text : α → Str} {s : Str} {field : String}
    (h : requireOneOf (.data (.scalar (.str s))) (members.map text) field = .ok ()) :
    ∃ a, PyValue.readMember members text (.data (.scalar (.str s))) = some a := by
  unfold requireOneOf at h
  split at h
  · rename_i hany
    obtain ⟨t, ht, heq⟩ := List.any_eq_true.mp hany
    obtain ⟨a, ha, rfl⟩ := List.mem_map.mp ht
    have hs : s = text a := of_decide_eq_true heq
    refine Option.isSome_iff_exists.mp (List.find?_isSome.mpr ⟨a, ha, ?_⟩)
    exact decide_eq_true hs.symm
  · cases h

/-! ## What accepted answers are -/

/-- An accepted TLS strategy is an instance. -/
lemma validateAnswer_tlsStrategy {answer : PyValue} {x : EnvironmentSnapshot} {prior : Prior}
    (h : tlsStrategyQuestion.validateAnswer answer x prior = .ok ()) :
    ∃ s, answer = .tlsStrategy s := by
  simp only [tlsStrategyQuestion] at h
  split at h
  · rename_i s
    exact ⟨s, rfl⟩
  · cases h

/-- An accepted load balancer is an instance, or `None`. -/
lemma validateAnswer_loadBalancer {answer : PyValue} {x : EnvironmentSnapshot} {prior : Prior}
    (h : loadBalancerQuestion.validateAnswer answer x prior = .ok ()) :
    ∃ lb hlb, answer = .ofLoadBalancer lb hlb := by
  simp only [loadBalancerQuestion] at h
  split at h
  · exact ⟨.none, by simp, rfl⟩
  · rename_i lb hlb
    exact ⟨.some lb, fun _ heq => Option.some.inj heq ▸ hlb, rfl⟩
  · cases h

namespace Interview

variable {σ δ : Type} {L : Leaves} {snapshot : EnvironmentSnapshot}
  {provider : AnswersProvider σ δ} {st : σ} {answers : List PyValue}

/-- Each answer is one that its question accepts, in some context. -/
def Acceptable (snapshot : EnvironmentSnapshot) (answers : List PyValue) : Prop :=
  ∀ (i : ℕ) (q : Question) (v : PyValue), orderedQuestions[i]? = some q →
    answers[i]? = some v → ∃ prior, q.validateAnswer v snapshot prior = .ok ()

/-- The answers to the three choices are strings. -/
def StringChoices (answers : List PyValue) : Prop :=
  ∀ i ∈ [0, 1, 6], ∃ s, answers[i]? = some (.data (.scalar (.str s)))

/-- The answers to all eight questions, as far as the questions determine what they are. -/
structure Shape where
  scope : PyValue
  idp : PyValue
  publicHostname : Str
  tlsStrategy : TlsStrategy
  wildcardCert : Bool
  loadBalancer : Option LoadBalancerConfig
  validated : ∀ lb, loadBalancer = some lb → lb.Validated
  internalDns : PyValue
  seedApps : SeedApps
  scope_ok : requireOneOf scope (DeploymentScope.members.map DeploymentScope.text)
    "deployment_scope" = .ok ()
  idp_ok : requireOneOf idp (IdpKind.members.map IdpKind.text) "idp" = .ok ()
  internalDns_ok : requireOneOf internalDns
    (InternalDnsTopology.members.map InternalDnsTopology.text) "internal_dns" = .ok ()

/-- The answers themselves. -/
def Shape.toList (s : Shape) : List PyValue :=
  [s.scope, s.idp, .data (dumpStr s.publicHostname), .tlsStrategy s.tlsStrategy,
    .data (dumpBool s.wildcardCert), .ofLoadBalancer s.loadBalancer s.validated, s.internalDns,
    .seedApps s.seedApps]

/-- Eight acceptable answers have the shape that their questions require. -/
lemma exists_shape (hacc : Acceptable snapshot answers)
    (hlen : answers.length = orderedQuestions.length) : ∃ s : Shape, s.toList = answers := by
  rcases answers with _ | ⟨v₀, _ | ⟨v₁, _ | ⟨v₂, _ | ⟨v₃, _ | ⟨v₄, _ | ⟨v₅, _ | ⟨v₆, _ | ⟨v₇, _ |
    ⟨v₈, rest⟩⟩⟩⟩⟩⟩⟩⟩⟩
  all_goals try simp [orderedQuestions] at hlen
  obtain ⟨_, h₀⟩ := hacc 0 deploymentScopeQuestion v₀ rfl rfl
  obtain ⟨_, h₁⟩ := hacc 1 idpQuestion v₁ rfl rfl
  obtain ⟨_, h₂⟩ := hacc 2 publicHostnameQuestion v₂ rfl rfl
  obtain ⟨_, h₃⟩ := hacc 3 tlsStrategyQuestion v₃ rfl rfl
  obtain ⟨_, h₄⟩ := hacc 4 wildcardCertQuestion v₄ rfl rfl
  obtain ⟨_, h₅⟩ := hacc 5 loadBalancerQuestion v₅ rfl rfl
  obtain ⟨_, h₆⟩ := hacc 6 internalDnsQuestion v₆ rfl rfl
  obtain ⟨_, h₇⟩ := hacc 7 seedAppsQuestion v₇ rfl rfl
  obtain ⟨host, rfl, -⟩ := validateAnswer_publicHostname.mp h₂
  obtain ⟨tls, rfl⟩ := validateAnswer_tlsStrategy h₃
  obtain ⟨wild, rfl, -⟩ := validateAnswer_wildcardCert h₄
  obtain ⟨lb, hlb, rfl⟩ := validateAnswer_loadBalancer h₅
  obtain ⟨apps, rfl, -⟩ := validateAnswer_seedApps h₇
  exact ⟨⟨v₀, v₁, host, tls, wild, lb, hlb, v₆, apps, h₀, h₁, h₆⟩, rfl⟩

/-- **The final validation reads the three choices only**: all other answers are taken as they
are. -/
lemma ofFields_zip (s : Shape) :
    InterviewAnswers.ofFields L (InterviewAnswers.fieldNames.zip s.toList) = (do
      let deploymentScope ←
        PyValue.readMember DeploymentScope.members DeploymentScope.text s.scope
      let idp ← PyValue.readMember IdpKind.members IdpKind.text s.idp
      let internalDns ←
        PyValue.readMember InternalDnsTopology.members InternalDnsTopology.text
          s.internalDns
      pure { deploymentScope, idp, publicHostname := s.publicHostname,
             tlsStrategy := s.tlsStrategy, wildcardCert := s.wildcardCert,
             loadBalancer := s.loadBalancer, internalDns, seedApps := s.seedApps }) := by
  simp [Shape.toList, InterviewAnswers.ofFields, InterviewAnswers.fieldNames,
    PyValue.readTlsStrategy, PyValue.readLoadBalancer_ofLoadBalancer, PyValue.readSeedApps]

/-- **Answers that the final validation accepts** hold the accepted values. -/
lemma forall₂_heldAs {a : InterviewAnswers} (s : Shape)
    (h : InterviewAnswers.ofFields L (InterviewAnswers.fieldNames.zip s.toList) = some a)
    (hval : a.Validated) : List.Forall₂ PyValue.HeldAs s.toList (a.values hval) := by
  rw [ofFields_zip] at h
  simp only [Option.bind_eq_bind, Option.bind_eq_some_iff] at h
  obtain ⟨scope, hscope, idp, hidp, dns, hdns, ha⟩ := h
  cases ha
  have hself : ∀ v : PyValue, v.HeldAs v := fun v => .inl rfl
  exact .cons (PyValue.heldAs_of_readMember hscope) (.cons (PyValue.heldAs_of_readMember hidp)
    (.cons (hself _) (.cons (hself _) (.cons (hself _) (.cons (hself _)
      (.cons (PyValue.heldAs_of_readMember hdns) (.cons (hself _) .nil)))))))

/-- The answers to the choices, if they are strings. -/
lemma StringChoices.choices {s : Shape} (h : StringChoices s.toList) : ∃ t₀ t₁ t₆ : Str,
    s.scope = .data (.scalar (.str t₀)) ∧ s.idp = .data (.scalar (.str t₁)) ∧
      s.internalDns = .data (.scalar (.str t₆)) := by
  obtain ⟨t₀, h₀⟩ := h 0 (by simp)
  obtain ⟨t₁, h₁⟩ := h 1 (by simp)
  obtain ⟨t₆, h₆⟩ := h 6 (by simp)
  exact ⟨t₀, t₁, t₆, Option.some.inj h₀, Option.some.inj h₁, Option.some.inj h₆⟩

/-- They are the accepted values if the choices are strings. -/
lemma toList_eq_values {a : InterviewAnswers} (s : Shape) (hstr : StringChoices s.toList)
    (h : InterviewAnswers.ofFields L (InterviewAnswers.fieldNames.zip s.toList) = some a)
    (hval : a.Validated) : s.toList = a.values hval := by
  obtain ⟨t₀, t₁, t₆, h₀, h₁, h₆⟩ := hstr.choices
  rw [ofFields_zip] at h
  simp only [Option.bind_eq_bind, Option.bind_eq_some_iff] at h
  obtain ⟨scope, hscope, idp, hidp, dns, hdns, ha⟩ := h
  cases ha
  rw [Shape.toList, PyValue.eq_of_readMember_str h₀ hscope, PyValue.eq_of_readMember_str h₁ hidp,
    PyValue.eq_of_readMember_str h₆ hdns]
  rfl

/-- **String choices are never refused** by the final validation. -/
lemma exists_ofFields {s : Shape} (hstr : StringChoices s.toList) :
    ∃ a, InterviewAnswers.ofFields L (InterviewAnswers.fieldNames.zip s.toList) = some a := by
  obtain ⟨t₀, t₁, t₆, hscope, hidp, hdns⟩ := hstr.choices
  obtain ⟨scope, hscope'⟩ := exists_readMember (hscope ▸ s.scope_ok)
  obtain ⟨idp, hidp'⟩ := exists_readMember (hidp ▸ s.idp_ok)
  obtain ⟨dns, hdns'⟩ := exists_readMember (hdns ▸ s.internalDns_ok)
  rw [ofFields_zip, hscope, hidp, hdns, hscope', hidp', hdns']
  exact ⟨_, rfl⟩

end Interview

end DngPreflight
