import DngPreflight.Dialogue.Prompt
import DngPreflight.Interview.Prompt
import DngPreflight.Net.Masked
import DngPreflight.Text.Count

set_option relaxedAutoImplicit false
set_option autoImplicit false

/-!
# Interviews at a terminal

The provider that prompts for every answer, and which answers can be given to it.

## Main definitions

* `DngPreflight.Interview.Typed` — what is typed at a prompt.
* `DngPreflight.Interview.questionaryProvider` — the provider.
* `DngPreflight.Interview.trustedProxies` — the networks in a line of text.
* `DngPreflight.Interview.Typable` — the answers that can be given.

## Main results

* `DngPreflight.Interview.trustedProxies_exact` — what is read from a line of networks.
* `DngPreflight.Interview.typable_iff` — an interview at a terminal can have exactly these results.
-/

namespace DngPreflight.Interview

open Text Codec Net Dialogue

/-! ## Prompts -/

/-- How a prompt is left: the default is taken, something else is entered or chosen, it is
interrupted, or the input ends (at an empty line, or since the terminal is closed). -/
inductive Typed where
  | enter
  | text (s : Str)
  | choice (value : Str)
  | yesNo (b : Bool)
  | interrupt
  | endOfFile
  deriving DecidableEq

/-- What a prompt raises. -/
inductive Raised where
  | keyboardInterrupt
  | eofError
  | valueError
  | validationError
  | runtimeError
  deriving DecidableEq

/-- A prompt at a terminal. -/
abbrev TerminalPrompt := Prompt Typed Raised

/-- What is raised by what is no answer. What does not fit a prompt is taken for an interrupt. -/
def Typed.raised : Typed → Raised
  | .endOfFile => .eofError
  | _ => .keyboardInterrupt

/-- `unsafe_ask`; if nothing is typed any more, the prompt is interrupted. -/
def unsafeAsk {α : Type} (read : Typed → Option α) : TerminalPrompt α :=
  .take .keyboardInterrupt Typed.raised read

/-- `questionary.text`, and `questionary.path`. -/
def text (default : Str) : TerminalPrompt Str :=
  unsafeAsk fun
    | .enter => some default
    | .text s => some s
    | _ => none

/-- `questionary.confirm`. -/
def confirm (default : Bool) : TerminalPrompt Bool :=
  unsafeAsk fun
    | .enter => some default
    | .yesNo b => some b
    | _ => none

/-- `questionary.select`: one of the choices, the first one being the default. -/
def select (choices : List Str) : TerminalPrompt Str :=
  unsafeAsk fun
    | .enter => choices.head?
    | .choice value => if choices.contains value then some value else none
    | _ => none

/-! ## The questions -/

/-- `_ask_tls_strategy`. -/
def askTlsStrategy : TerminalPrompt TlsStrategy := do
  let kind ← select ["existing_bundle", "lets_encrypt_dns01", "internal_ca"]
  if kind = "existing_bundle" then do
    let cert ← text []
    let key ← text []
    let chain ← text []
    pure (.existingBundle ⟨cert, key, if chain = [] then none else some chain⟩)
  else if kind = "lets_encrypt_dns01" then do
    let email ← text []
    let provider ← text []
    pure (.letsEncryptDns01 ⟨email, provider⟩)
  else do
    let cert ← text []
    let key ← text []
    let chain ← text []
    pure (.internalCa ⟨cert, key, chain⟩)

/-- The items of a line that are not blank. -/
def listItems (raw : Str) : List Str := ((raw.splitOn ',').map strip).filter (· ≠ [])

/-- `[ip_network(s.strip(), strict=False) for s in raw.split(",") if s.strip()]`. -/
def trustedProxies (raw : Str) : Option (List IpNetwork) := (listItems raw).mapM ipNetwork

/-- `_ask_load_balancer`: an instance, or `None`. -/
def askLoadBalancer : TerminalPrompt PyValue := do
  let hasLb ← confirm false
  if hasLb then do
    let name ← text []
    let raw ← text []
    let cidrs ← .orRaise .valueError (trustedProxies raw)
    if h : (LoadBalancerConfig.mk name cidrs).Validated then pure (.loadBalancer ⟨name, cidrs⟩ h)
    else .raise .validationError
  else pure .none

/-- `int(questionary.text(..., default="0").unsafe_ask())`. -/
def count : TerminalPrompt ℤ := do
  let answer ← text "0"
  .orRaise .valueError (int answer)

/-- `_ask_seed_apps`. -/
def promptSeedApps (scopeIsRdpSmb : Bool) : TerminalPrompt SeedApps := do
  let web ← count
  let ssh ← count
  let rdp ← (if scopeIsRdpSmb then count else pure 0)
  pure { webApps := stubs "web-app" web.toNat, sshRelays := stubs "ssh-relay" ssh.toNat,
         rdpRelays := stubs "rdp-relay" rdp.toNat }

/-- The default of a text. -/
def defaultText : PyValue → Str
  | .data (.scalar (.str s)) => s
  | _ => []

/-- The default of a confirmation. -/
def defaultYesNo : PyValue → Bool
  | .data (.scalar (.bool b)) => b
  | _ => false

/-- The answer to a call of the provider. -/
def questionaryAnswer (call : Call String PyValue) : TerminalPrompt PyValue :=
  if call.question = "deployment_scope" then
    (.data ∘ dumpStr) <$> select ["web_ssh", "web_ssh_rdp_smb"]
  else if call.question = "idp" then
    (.data ∘ dumpStr) <$> select ["duo_sso", "okta", "entra_id", "adfs", "generic_saml"]
  else if call.question = "internal_dns" then
    (.data ∘ dumpStr) <$> select ["split_horizon", "internal_only", "none"]
  else if call.question = "public_hostname" then
    (.data ∘ dumpStr) <$> text (defaultText call.default)
  else if call.question = "tls_strategy" then .tlsStrategy <$> askTlsStrategy
  else if call.question = "wildcard_cert" then
    (.data ∘ dumpBool) <$> confirm (defaultYesNo call.default)
  else if call.question = "load_balancer" then askLoadBalancer
  else if call.question = "seed_apps" then
    .seedApps <$> promptSeedApps (scopeIsRdpSmb call.prior)
  else .raise .runtimeError

/-- `questionary_provider`. -/
def questionaryProvider : AnswersProvider (List Typed) Raised := fun typed _ call =>
  match questionaryAnswer call typed with
  | (.ok answer, typed') => (.ok ⟨answer, call.prior⟩, typed')
  | (.error e, typed') => (.error e, typed')

/-- The provider does not write to the record. -/
lemma questionaryProvider_readOnly : questionaryProvider.ReadOnly := by
  intro st x call reply h
  unfold questionaryProvider at h
  split at h
  · cases h
    rfl
  · cases h

/-! ## Choices -/

/-- What is selected is one of the choices. -/
lemma ensures_select (choices : List Str) : (select choices).Ensures fun s => s ∈ choices := by
  refine Prompt.Ensures.take fun t s ht => ?_
  cases t with
  | enter => exact List.mem_of_mem_head? ht
  | choice value =>
    have hchosen : (if choices.contains value then some value else none) = some s := ht
    obtain ⟨hmem, heq⟩ := Option.ite_none_right_eq_some.mp hchosen
    rw [← Option.some.inj heq]
    exact List.contains_iff_mem.mp hmem
  | text s' => cases ht
  | yesNo b => cases ht
  | interrupt => cases ht
  | endOfFile => cases ht

/-- A selected string is one of the choices. -/
lemma ensures_selected (choices : List Str) :
    ((PyValue.data ∘ dumpStr) <$> select choices : TerminalPrompt PyValue).Ensures fun v =>
      ∃ s ∈ choices, v = .data (.scalar (.str s)) :=
  Prompt.Ensures.map fun ts s ts' h => ⟨s, ensures_select choices ts s ts' h, rfl⟩

/-- The questions about choices. -/
def choiceIds : List String := ["deployment_scope", "idp", "internal_dns"]

/-- The answers to the questions about choices are strings. -/
def RepliesStrings {σ δ : Type} (provider : AnswersProvider σ δ) : Prop :=
  ∀ st x call reply, call.question ∈ choiceIds → (provider st x call).1 = .ok reply →
    ∃ s, reply.answer = .data (.scalar (.str s))

/-- At a terminal they are. -/
lemma questionaryProvider_repliesStrings : RepliesStrings questionaryProvider := by
  intro typed x call reply hid h
  have hstring : (questionaryAnswer call).Ensures fun v => ∃ s, v = .data (.scalar (.str s)) := by
    have hselected : ∀ choices, ((PyValue.data ∘ dumpStr) <$> select choices :
        TerminalPrompt PyValue).Ensures fun v => ∃ s, v = .data (.scalar (.str s)) :=
      fun choices ts v ts' hv => by
        obtain ⟨s, -, hs⟩ := ensures_selected choices ts v ts' hv
        exact ⟨s, hs⟩
    unfold questionaryAnswer
    simp only [choiceIds, List.mem_cons, List.not_mem_nil, or_false] at hid
    split_ifs with hscope hidp hdns
    · exact hselected _
    · exact hselected _
    · exact hselected _
    all_goals exact absurd hid (by simp only [hscope, hidp, hdns, or_self, not_false_eq_true])
  unfold questionaryProvider at h
  split at h
  · rename_i answer typed' hanswer
    cases h
    exact hstring _ _ _ hanswer
  · cases h

/-! ## Interviews that succeed -/

section Replies

variable {σ δ : Type} {L : Leaves} {snapshot : EnvironmentSnapshot}
  {provider : AnswersProvider σ δ} {st : σ} {a : InterviewAnswers}

/-- The values of validated answers are read back. -/
lemma ofFields_values (L : Leaves) (a : InterviewAnswers) (h : a.Validated) :
    InterviewAnswers.ofFields L (InterviewAnswers.fieldNames.zip (a.values h)) = some a := by
  have hscope : ∀ s, readEnum DeploymentScope.members DeploymentScope.text
      (dumpEnum DeploymentScope.text s) = some s := by intro s; cases s <;> rfl
  have hidp : ∀ k, readEnum IdpKind.members IdpKind.text (dumpEnum IdpKind.text k) = some k := by
    intro k; cases k <;> rfl
  have hdns : ∀ t, readEnum InternalDnsTopology.members InternalDnsTopology.text
      (dumpEnum InternalDnsTopology.text t) = some t := by intro t; cases t <;> rfl
  have hlb : PyValue.readLoadBalancer L (.ofLoadBalancer a.loadBalancer h) = some a.loadBalancer :=
    PyValue.readLoadBalancer_ofLoadBalancer L _ h
  simp [InterviewAnswers.values, InterviewAnswers.ofFields, InterviewAnswers.fieldNames,
    PyValue.readTlsStrategy, PyValue.readSeedApps, hscope, hidp, hdns, hlb]

/-- The questions about choices are always asked. -/
lemma choice_applies (snapshot : EnvironmentSnapshot) {i : ℕ} (hi : i ∈ [0, 1, 6]) :
    ∃ q : Question, orderedQuestions[i]? = some q ∧ q.id ∈ choiceIds ∧
      ∀ prior, q.appliesWhen snapshot prior = true := by
  simp only [List.mem_cons, List.not_mem_nil, or_false] at hi
  rcases hi with rfl | rfl | rfl
  · exact ⟨deploymentScopeQuestion, rfl, by simp [choiceIds, deploymentScopeQuestion], fun _ => rfl⟩
  · exact ⟨idpQuestion, rfl, by simp [choiceIds, idpQuestion], fun _ => rfl⟩
  · exact ⟨internalDnsQuestion, rfl, by simp [choiceIds, internalDnsQuestion], fun _ => rfl⟩

/-- Answers that are the replies of a provider of strings have strings as their choices. -/
lemma stringChoices_of_replies (hstrings : RepliesStrings provider) {answers : List PyValue}
    (hlen : answers.length = orderedQuestions.length)
    (hreply : ∀ (i : ℕ) (q : Question) (v : PyValue), orderedQuestions[i]? = some q →
      answers[i]? = some v → ∃ st prior prior',
        (Dialogue.reply provider snapshot q st prior).1 = .ok ⟨v, prior'⟩) :
    StringChoices answers := by
  intro i hi
  obtain ⟨q, hq, hid, happ⟩ := choice_applies snapshot hi
  have hlt : i < answers.length := hlen ▸ (List.getElem?_eq_some_iff.mp hq).1
  have hget := List.getElem?_eq_getElem hlt
  obtain ⟨st, prior, prior', h⟩ := hreply i q _ hq hget
  rw [Dialogue.reply, if_pos (happ _)] at h
  obtain ⟨s, hs⟩ := hstrings _ _ _ _ hid h
  exact ⟨s, hget.trans (congrArg some hs)⟩

/-- **An interview succeeds** under a read-only provider of strings exactly if the provider replies
to all questions with the values of the answers. -/
lemma run_eq_ok_iff (hro : provider.ReadOnly) (hstrings : RepliesStrings provider) :
    run L snapshot provider st = .ok a ↔
      ∃ h st', Replies provider snapshot orderedQuestions st Dict.empty (a.values h) st' := by
  constructor
  · intro h
    obtain ⟨prior, hprior, hfields⟩ := exists_of_run h
    obtain ⟨answers, st', hreplies, rfl⟩ := (replies_iff hro).mp hprior
    have hvalidated := InterviewAnswers.validated_of_ofFields L hfields
    obtain ⟨s, rfl⟩ := exists_shape
      (fun i q v hq hv => ⟨_, (hreplies.reply_get hq hv).2⟩) hreplies.length_eq
    have hentries : (recordFrom Dict.empty orderedQuestions s.toList).entries =
        InterviewAnswers.fieldNames.zip s.toList := entries_recordOf s.toList
    rw [hentries] at hfields
    refine ⟨hvalidated, st', ?_⟩
    have hstr := stringChoices_of_replies hstrings hreplies.length_eq fun i q v hq hv => by
      obtain ⟨⟨st₁, st₂, h⟩, -⟩ := hreplies.reply_get hq hv
      exact ⟨st₁, _, _, congrArg Prod.fst h⟩
    rw [← toList_eq_values s hstr hfields hvalidated]
    exact hreplies
  · rintro ⟨h, st', hreplies⟩
    have hresult : (dialogue provider snapshot st).result = .ok (recordOf (a.values h)) :=
      (replies_iff hro).mpr ⟨_, st', hreplies, rfl⟩
    rw [run, hresult]
    simp only [validatePrior_recordOf, ofFields_values]

end Replies

/-! ## Which answers can be given -/

/-- The seed applications that can be asked for: numbered stubs, up to what `int` can read, and RDP
relays in the RDP/SMB scope only. -/
def SeedsTypable (scopeIsRdpSmb : Bool) (apps : SeedApps) : Prop :=
  ∃ web ssh rdp, (∀ n ∈ [web, ssh, rdp], n < 10 ^ maxIntDigits) ∧
    (scopeIsRdpSmb = false → rdp = 0) ∧
    apps = ⟨stubs "web-app" web, stubs "ssh-relay" ssh, stubs "rdp-relay" rdp⟩

/-- The answers that can be given at a terminal. -/
structure Typable (a : InterviewAnswers) : Prop where
  publicHostname : hostnameAccepted a.publicHostname
  chainPath : ∀ b, a.tlsStrategy = .existingBundle b → b.chainPath ≠ some []
  wildcardCert : a.deploymentScope = .webSshRdpSmb → a.wildcardCert = true
  validated : a.Validated
  scopes : ∀ lb, a.loadBalancer = some lb → ∀ n ∈ lb.trustedProxies, ∀ t, n.scope = some t →
    ',' ∉ t.text
  seedApps : SeedsTypable (decide (a.deploymentScope = .webSshRdpSmb)) a.seedApps

/-! ### The networks of a line -/

/-- The items of a line of items. -/
lemma listItems_join {items : List Str}
    (h : ∀ s ∈ items, ',' ∉ s ∧ strip s = s ∧ s ≠ []) : listItems (join [','] items) = items := by
  by_cases hne : items = []
  · subst hne
    decide
  · have hstrip : items.map strip = items :=
      (List.map_congr_left fun s hs => (h s hs).2.1).trans (List.map_id _)
    rw [listItems, splitOn_join (fun s hs => (h s hs).1) hne, hstrip, List.filter_eq_self]
    exact fun s hs => decide_eq_true (h s hs).2.2

/-- There are no commas in the items of a line. -/
lemma comma_not_mem_of_mem_listItems {raw s : Str} (hs : s ∈ listItems raw) : ',' ∉ s := by
  obtain ⟨part, hpart, rfl⟩ := List.mem_map.mp (List.mem_of_mem_filter hs)
  intro hmem
  have hsublist : (strip part).Sublist part :=
    (List.rdropWhile_prefix _ _).sublist.trans (List.dropWhile_sublist _)
  exact not_mem_of_mem_splitOn hpart (hsublist.subset hmem)

/-- **Printed networks are read back from a line**, if their scopes have no commas. -/
lemma trustedProxies_join {nets : List IpNetwork}
    (hcomma : ∀ n ∈ nets, ∀ t, n.scope = some t → ',' ∉ t.text) :
    trustedProxies (join [','] (nets.map IpNetwork.str)) = some nets := by
  have hitems : ∀ s ∈ nets.map IpNetwork.str, ',' ∉ s ∧ strip s = s ∧ s ≠ [] := by
    intro s hs
    obtain ⟨n, hn, rfl⟩ := List.mem_map.mp hs
    refine ⟨fun hmem => ?_, strip_str n, str_ne_nil n⟩
    rcases mem_str_cases hmem with h | h | ⟨t, ht, h⟩
    · exact absurd h (by decide)
    · exact absurd h (by decide)
    · exact hcomma n hn t ht h
  rw [trustedProxies, listItems_join hitems]
  exact mapM_map_eq_some fun n _ => ipNetwork_str n

/-- The scopes that are read from a line have no commas. -/
lemma comma_not_mem_of_trustedProxies {raw : Str} {nets : List IpNetwork}
    (h : trustedProxies raw = some nets) :
    ∀ n ∈ nets, ∀ t, n.scope = some t → ',' ∉ t.text := by
  intro n hn t ht hmem
  obtain ⟨s, hs, hread⟩ := exists_of_mem_mapM h hn
  exact comma_not_mem_of_mem_listItems hs (mem_of_scope hread ht hmem)

/-- What is read from a list, item by item. -/
lemma forall₂_of_mapM {α β : Type} {g : α → Option β} {l : List α} {bs : List β}
    (h : l.mapM g = some bs) : List.Forall₂ (fun a b => g a = some b) l bs := by
  induction l generalizing bs with
  | nil =>
    cases h
    exact .nil
  | cons a l ih =>
    obtain ⟨b, tail, hread, htail, rfl⟩ := exists_of_mapM_cons h
    exact .cons hread (ih htail)

/-- **Networks that are typed in a line** contain the addresses that are typed, one by one, whatever
mask follows them; typed as they are printed, they are the same networks.

**Proof sketch.** Masking an address keeps it in its network. The scope of a network is part of what
was typed, so it has no comma, and the printed line is split where it was joined. -/
theorem trustedProxies_exact {raw : Str} {nets : List IpNetwork}
    (h : trustedProxies raw = some nets) :
    List.Forall₂ (fun s n => ∃ a, typedAddress s = some a ∧ n.contains a = true)
      (listItems raw) nets ∧
    trustedProxies (join [','] (nets.map IpNetwork.str)) = some nets := by
  constructor
  · exact (forall₂_of_mapM h).imp fun s n hread => contains_of_ipNetwork hread
  · exact trustedProxies_join (comma_not_mem_of_trustedProxies h)

/-- Host bits are masked out, and a netmask is as good as a prefix length. -/
theorem trustedProxies_exact_masked :
    ∃ nets, trustedProxies "10.1.2.3/8, ,192.168.7.1/255.255.0.0" = some nets ∧
      nets.length = 2 ∧ trustedProxies (join [','] (nets.map IpNetwork.str)) = some nets := by
  have h : ∃ nets, trustedProxies "10.1.2.3/8, ,192.168.7.1/255.255.0.0" = some nets ∧
      nets.length = 2 := ⟨_, rfl, rfl⟩
  obtain ⟨nets, hnets, hlength⟩ := h
  exact ⟨nets, hnets, hlength, (trustedProxies_exact hnets).2⟩

/-! ### What the prompts return -/

/-- What the prompts for the TLS strategy return. -/
lemma ensures_askTlsStrategy : askTlsStrategy.Ensures fun s =>
    ∀ b, s = .existingBundle b → b.chainPath ≠ some [] := by
  refine Prompt.Ensures.bind (Prompt.Ensures.trivial _) fun kind _ => ?_
  split_ifs
  · refine Prompt.Ensures.bind (Prompt.Ensures.trivial _) fun cert _ => ?_
    refine Prompt.Ensures.bind (Prompt.Ensures.trivial _) fun key _ => ?_
    refine Prompt.Ensures.bind (Prompt.Ensures.trivial _) fun chain _ => ?_
    refine Prompt.Ensures.pure fun b hb => ?_
    cases hb
    show (if chain = [] then none else some chain) ≠ some []
    split_ifs with hchain
    · exact fun h => (Option.some_ne_none _ h.symm).elim
    · exact fun h => hchain (Option.some.inj h)
  · refine Prompt.Ensures.bind (Prompt.Ensures.trivial _) fun email _ => ?_
    refine Prompt.Ensures.bind (Prompt.Ensures.trivial _) fun provider _ => ?_
    exact Prompt.Ensures.pure fun b hb => by cases hb
  · refine Prompt.Ensures.bind (Prompt.Ensures.trivial _) fun cert _ => ?_
    refine Prompt.Ensures.bind (Prompt.Ensures.trivial _) fun key _ => ?_
    refine Prompt.Ensures.bind (Prompt.Ensures.trivial _) fun chain _ => ?_
    exact Prompt.Ensures.pure fun b hb => by cases hb

/-- What the prompts for the load balancer return. -/
lemma ensures_askLoadBalancer : askLoadBalancer.Ensures fun v => ∀ lb h, v = .loadBalancer lb h →
    ∀ n ∈ lb.trustedProxies, ∀ t, n.scope = some t → ',' ∉ t.text := by
  refine Prompt.Ensures.bind (Prompt.Ensures.trivial _) fun hasLb _ => ?_
  split_ifs
  · refine Prompt.Ensures.bind (Prompt.Ensures.trivial _) fun name _ => ?_
    refine Prompt.Ensures.bind (Prompt.Ensures.trivial _) fun raw _ => ?_
    refine Prompt.Ensures.bind (Prompt.Ensures.orRaise fun nets hnets =>
      comma_not_mem_of_trustedProxies hnets) fun nets hcomma => ?_
    split_ifs with hvalidated
    · refine Prompt.Ensures.pure fun lb h hlb => ?_
      cases hlb
      exact hcomma
    · exact Prompt.Ensures.raise _
  · exact Prompt.Ensures.pure fun lb h hlb => by cases hlb

/-- A count is below the bound. -/
lemma ensures_count : count.Ensures fun n => n.toNat < 10 ^ maxIntDigits :=
  Prompt.Ensures.bind (Prompt.Ensures.trivial _) fun _ _ =>
    Prompt.Ensures.orRaise fun _ h => toNat_lt_of_int h

/-- What the prompts for the seed applications return. -/
lemma ensures_promptSeedApps (scopeIsRdpSmb : Bool) :
    (promptSeedApps scopeIsRdpSmb).Ensures (SeedsTypable scopeIsRdpSmb) := by
  refine Prompt.Ensures.bind ensures_count fun web hweb => ?_
  refine Prompt.Ensures.bind ensures_count fun ssh hssh => ?_
  have hrdp : Prompt.Ensures (if scopeIsRdpSmb then count else pure 0) fun n =>
      n.toNat < 10 ^ maxIntDigits ∧ (scopeIsRdpSmb = false → n.toNat = 0) := by
    cases scopeIsRdpSmb with
    | true => exact fun ts n ts' h => ⟨ensures_count ts n ts' h, Bool.noConfusion⟩
    | false => exact Prompt.Ensures.pure ⟨Nat.pow_pos (by decide), fun _ => rfl⟩
  refine Prompt.Ensures.bind hrdp fun rdp hrdp => Prompt.Ensures.pure ?_
  refine ⟨web.toNat, ssh.toNat, rdp.toNat, ?_, hrdp.2, rfl⟩
  simp only [List.forall_mem_cons, List.not_mem_nil, false_implies, implies_true, and_true]
  exact ⟨hweb, hssh, hrdp.1⟩

/-! ### What is typed -/

/-- A text prompt takes a line. -/
lemma consumes_text (default s : Str) : (text default).Consumes [.text s] s :=
  Prompt.Consumes.take rfl

/-- A confirmation takes a key for yes or no. -/
lemma consumes_confirm (default b : Bool) : (confirm default).Consumes [.yesNo b] b :=
  Prompt.Consumes.take rfl

/-- A menu takes one of its choices. -/
lemma consumes_select {choices : List Str} {value : Str} (h : value ∈ choices) :
    (select choices).Consumes [.choice value] value :=
  Prompt.Consumes.take (if_pos (List.contains_iff_mem.mpr h))

/-- What is typed for a TLS strategy. -/
def typeTlsStrategy : TlsStrategy → List Typed
  | .existingBundle b =>
    [.choice "existing_bundle", .text b.certPath, .text b.keyPath, .text (b.chainPath.getD [])]
  | .letsEncryptDns01 l =>
    [.choice "lets_encrypt_dns01", .text l.contactEmail, .text l.dnsProvider]
  | .internalCa c =>
    [.choice "internal_ca", .text c.certPath, .text c.keyPath, .text c.chainPath]

/-- A TLS strategy is the answer to what is typed for it. -/
lemma consumes_askTlsStrategy {s : TlsStrategy}
    (h : ∀ b, s = .existingBundle b → b.chainPath ≠ some []) :
    askTlsStrategy.Consumes (typeTlsStrategy s) s := by
  unfold askTlsStrategy
  cases s with
  | existingBundle b =>
    refine (consumes_select (by decide)).cons ?_
    rw [if_pos rfl]
    refine (consumes_text _ _).cons ((consumes_text _ _).cons ((consumes_text _ _).cons ?_))
    have hchain : (if b.chainPath.getD [] = [] then none else some (b.chainPath.getD [])) =
        b.chainPath := by
      cases hpath : b.chainPath with
      | none => rfl
      | some path =>
        refine if_neg fun hnil => h b rfl ?_
        rw [hpath]
        exact congrArg some hnil
    rw [hchain]
    exact Prompt.Consumes.pure _
  | letsEncryptDns01 l =>
    refine (consumes_select (by decide)).cons ?_
    rw [if_neg (by decide), if_pos rfl]
    exact (consumes_text _ _).cons ((consumes_text _ _).cons (Prompt.Consumes.pure _))
  | internalCa c =>
    refine (consumes_select (by decide)).cons ?_
    rw [if_neg (by decide), if_neg (by decide)]
    exact (consumes_text _ _).cons ((consumes_text _ _).cons ((consumes_text _ _).cons
      (Prompt.Consumes.pure _)))

/-- What is typed for a load balancer. -/
def typeLoadBalancer : Option LoadBalancerConfig → List Typed
  | none => [.yesNo false]
  | some lb =>
    [.yesNo true, .text lb.name, .text (join [','] (lb.trustedProxies.map IpNetwork.str))]

/-- The value of a load balancer that is there. -/
lemma ofLoadBalancer_of_eq_some {x : Option LoadBalancerConfig} {lb : LoadBalancerConfig}
    (h : x = some lb) (hvalidated : ∀ lb, x = some lb → lb.Validated) :
    PyValue.ofLoadBalancer x hvalidated = .loadBalancer lb (hvalidated lb h) := by
  subst h
  rfl

/-- A load balancer is the answer to what is typed for it. -/
lemma consumes_askLoadBalancer {x : Option LoadBalancerConfig}
    (hvalidated : ∀ lb, x = some lb → lb.Validated)
    (hscopes : ∀ lb, x = some lb → ∀ n ∈ lb.trustedProxies, ∀ t, n.scope = some t →
      ',' ∉ t.text) :
    askLoadBalancer.Consumes (typeLoadBalancer x) (.ofLoadBalancer x hvalidated) := by
  unfold askLoadBalancer
  cases x with
  | none =>
    refine (consumes_confirm false false).cons ?_
    exact Prompt.Consumes.pure _
  | some lb =>
    refine (consumes_confirm false true).cons ?_
    rw [if_pos rfl]
    refine (consumes_text _ _).cons ((consumes_text _ _).cons ?_)
    refine Prompt.Consumes.silent
      (Prompt.Consumes.orRaise (trustedProxies_join (hscopes lb rfl))) ?_
    rw [dif_pos (hvalidated lb rfl)]
    exact Prompt.Consumes.pure _

/-- A count is the answer to its numeral. -/
lemma consumes_count {n : ℕ} (h : n < 10 ^ maxIntDigits) :
    count.Consumes [.text (numeral 10 n)] (n : ℤ) :=
  (consumes_text _ _).cons (Prompt.Consumes.orRaise (int_numeral h))

/-- What is typed for seed applications. -/
def typeSeedApps (scopeIsRdpSmb : Bool) (apps : SeedApps) : List Typed :=
  [.text (numeral 10 apps.webApps.length), .text (numeral 10 apps.sshRelays.length)] ++
    if scopeIsRdpSmb then [.text (numeral 10 apps.rdpRelays.length)] else []

/-- Seed applications are the answer to what is typed for them. -/
lemma consumes_promptSeedApps {scopeIsRdpSmb : Bool} {apps : SeedApps}
    (h : SeedsTypable scopeIsRdpSmb apps) :
    (promptSeedApps scopeIsRdpSmb).Consumes (typeSeedApps scopeIsRdpSmb apps) apps := by
  obtain ⟨web, ssh, rdp, hbounds, hrdp, rfl⟩ := h
  have hlength : ∀ label n, (stubs label n).length = n := by simp [stubs]
  simp only [List.forall_mem_cons] at hbounds
  unfold promptSeedApps typeSeedApps
  simp only [hlength]
  refine (consumes_count hbounds.1).cons ((consumes_count hbounds.2.1).cons ?_)
  cases scopeIsRdpSmb with
  | true =>
    rw [if_pos rfl, if_pos rfl]
    exact (consumes_count hbounds.2.2.1).cons (Prompt.Consumes.pure _)
  | false =>
    obtain rfl := hrdp rfl
    rw [if_neg Bool.false_ne_true, if_neg Bool.false_ne_true]
    exact (Prompt.Consumes.pure (0 : ℤ)).silent (Prompt.Consumes.pure _)

/-- What is typed for all answers. -/
def typeAnswers (a : InterviewAnswers) : List Typed :=
  [.choice a.deploymentScope.text, .choice a.idp.text, .text a.publicHostname] ++
    (typeTlsStrategy a.tlsStrategy ++
      ((if a.deploymentScope = .webSshRdpSmb then [] else [.yesNo a.wildcardCert]) ++
        (typeLoadBalancer a.loadBalancer ++
          ([.choice a.internalDns.text] ++
            typeSeedApps (decide (a.deploymentScope = .webSshRdpSmb)) a.seedApps))))

/-! ### Whole interviews -/

variable {snapshot : EnvironmentSnapshot}

/-- A question that applies is answered by its prompt. -/
lemma reply_of_consumes {q : Question} {prior : Prior} {ts rest : List Typed} {v : PyValue}
    (happ : q.appliesWhen snapshot prior = true)
    (h : (questionaryAnswer (q.call snapshot prior)).Consumes ts v) :
    Dialogue.reply questionaryProvider snapshot q (ts ++ rest) prior = (.ok ⟨v, prior⟩, rest) := by
  rw [Dialogue.reply, if_pos happ, questionaryProvider, h]
  rfl

/-- The prompt of a question that applies returned its answer. -/
lemma answer_of_reply {q : Question} {prior : Prior} {ts ts' : List Typed} {v : PyValue}
    (happ : q.appliesWhen snapshot prior = true)
    (h : Dialogue.reply questionaryProvider snapshot q ts prior = (.ok ⟨v, prior⟩, ts')) :
    questionaryAnswer (q.call snapshot prior) ts = (.ok v, ts') := by
  rw [Dialogue.reply, if_pos happ] at h
  unfold questionaryProvider at h
  split at h
  · rename_i answer us hanswer
    cases h
    exact hanswer
  · cases h

/-- A question that applies is answered by what is typed first. -/
lemma reply_of_consumes_cons {q : Question} {prior : Prior} {t : Typed} {ts : List Typed}
    {v : PyValue} (happ : q.appliesWhen snapshot prior = true)
    (h : (questionaryAnswer (q.call snapshot prior)).Consumes [t] v) :
    Dialogue.reply questionaryProvider snapshot q (t :: ts) prior = (.ok ⟨v, prior⟩, ts) :=
  reply_of_consumes happ h

/-- Later questions see the scope of the answers. -/
lemma firstIsRdpSmb_values (a : InterviewAnswers) (h : a.Validated) (i : ℕ) :
    firstIsRdpSmb ((a.values h).take (i + 1)) = decide (a.deploymentScope = .webSshRdpSmb) := by
  rw [firstIsRdpSmb, InterviewAnswers.values, List.take_succ_cons, List.head?_cons]
  cases a.deploymentScope <;> rfl

/-- Each answer of an interview at a terminal was returned by its prompt, and is valid. -/
lemma answer_get {L : Leaves} {a : InterviewAnswers} {typed : List Typed}
    (h : run L snapshot questionaryProvider typed = .ok a) : ∃ hvalidated : a.Validated,
      ∀ {i : ℕ} {q : Question} {v : PyValue}, orderedQuestions[i]? = some q →
        (a.values hvalidated)[i]? = some v →
        q.validateAnswer v snapshot (recordOf ((a.values hvalidated).take i)) = .ok () ∧
        (q.appliesWhen snapshot (recordOf ((a.values hvalidated).take i)) = true →
          ∃ ts ts', questionaryAnswer
            (q.call snapshot (recordOf ((a.values hvalidated).take i))) ts = (.ok v, ts')) := by
  obtain ⟨hvalidated, rest, hreplies⟩ := (run_eq_ok_iff questionaryProvider_readOnly
    questionaryProvider_repliesStrings).mp h
  refine ⟨hvalidated, fun hq hv => ?_⟩
  obtain ⟨⟨ts, ts', hreply⟩, hvalid⟩ := hreplies.reply_get hq hv
  exact ⟨hvalid, fun happ => ⟨ts, ts', answer_of_reply happ hreply⟩⟩

/-- The answers of an interview at a terminal. -/
lemma typable_of_run {L : Leaves} {a : InterviewAnswers} {typed : List Typed}
    (h : run L snapshot questionaryProvider typed = .ok a) : Typable a := by
  obtain ⟨hvalidated, hget⟩ := answer_get h
  have hscope : ∀ i, scopeIsRdpSmb (recordOf ((a.values hvalidated).take (i + 1))) =
      decide (a.deploymentScope = .webSshRdpSmb) := fun i => by
    rw [scopeIsRdpSmb_recordOf, firstIsRdpSmb_values]
  have hhost := (hget (i := 2) (q := publicHostnameQuestion) rfl rfl).1
  obtain ⟨_, _, htls⟩ := (hget (i := 3) (q := tlsStrategyQuestion) rfl rfl).2 rfl
  have hwild := (hget (i := 4) (q := wildcardCertQuestion) rfl rfl).1
  obtain ⟨_, _, hlb⟩ := (hget (i := 5) (q := loadBalancerQuestion) rfl rfl).2 rfl
  obtain ⟨_, _, hseeds⟩ := (hget (i := 7) (q := seedAppsQuestion) rfl rfl).2 rfl
  exact
    { publicHostname := by
        obtain ⟨s, hs, haccepted⟩ := validateAnswer_publicHostname.mp hhost
        cases hs
        exact haccepted
      chainPath := by
        have hensures : Prompt.Ensures (PyValue.tlsStrategy <$> askTlsStrategy) fun v =>
            ∀ s, v = .tlsStrategy s → ∀ b, s = .existingBundle b → b.chainPath ≠ some [] := by
          refine Prompt.Ensures.map fun ts s ts' hs s' heq => ?_
          cases heq
          exact ensures_askTlsStrategy ts s ts' hs
        exact hensures _ _ _ htls _ rfl
      wildcardCert := by
        intro hrdp
        obtain ⟨b, hb, hforced⟩ := validateAnswer_wildcardCert hwild
        cases hb
        exact hforced ((hscope 3).trans (decide_eq_true hrdp))
      validated := hvalidated
      scopes := by
        intro lb hsome
        exact ensures_askLoadBalancer _ _ _ hlb lb _ (ofLoadBalancer_of_eq_some hsome hvalidated)
      seedApps := by
        have hensures : Prompt.Ensures (PyValue.seedApps <$> promptSeedApps
            (scopeIsRdpSmb (recordOf ((a.values hvalidated).take 7)))) fun v =>
            ∀ apps, v = .seedApps apps →
              SeedsTypable (decide (a.deploymentScope = .webSshRdpSmb)) apps := by
          refine Prompt.Ensures.map fun ts apps ts' happs apps' heq => ?_
          cases heq
          rw [← hscope 6]
          exact ensures_promptSeedApps _ ts apps ts' happs
        exact hensures _ _ _ hseeds _ rfl }

/-- The text of a scope is one of the choices, and so on. -/
lemma text_mem_choices (a : InterviewAnswers) :
    a.deploymentScope.text ∈ (["web_ssh", "web_ssh_rdp_smb"] : List Str) ∧
    a.idp.text ∈ (["duo_sso", "okta", "entra_id", "adfs", "generic_saml"] : List Str) ∧
    a.internalDns.text ∈ (["split_horizon", "internal_only", "none"] : List Str) := by
  refine ⟨?_, ?_, ?_⟩
  · cases a.deploymentScope <;> decide
  · cases a.idp <;> decide
  · cases a.internalDns <;> decide

/-- One of the allowed strings is accepted. -/
lemma requireOneOf_of_mem {s : Str} {allowed : List Str} {field : String} (h : s ∈ allowed) :
    requireOneOf (.data (dumpStr s)) allowed field = .ok () :=
  if_pos (List.any_eq_true.mpr ⟨s, h, decide_eq_true rfl⟩)

/-- The wildcard question is answered, or skipped in the RDP/SMB scope. -/
lemma reply_wildcardCert (snapshot : EnvironmentSnapshot) {a : InterviewAnswers} {prior : Prior}
    (rest : List Typed)
    (hseen : scopeIsRdpSmb prior = decide (a.deploymentScope = .webSshRdpSmb))
    (hforced : a.deploymentScope = .webSshRdpSmb → a.wildcardCert = true) :
    Dialogue.reply questionaryProvider snapshot wildcardCertQuestion
        ((if a.deploymentScope = .webSshRdpSmb then [] else [.yesNo a.wildcardCert]) ++ rest)
        prior = (.ok ⟨.data (dumpBool a.wildcardCert), prior⟩, rest) ∧
      wildcardCertQuestion.validateAnswer (.data (dumpBool a.wildcardCert)) snapshot prior =
        .ok () := by
  by_cases hrdp : a.deploymentScope = .webSshRdpSmb
  · have htrue : scopeIsRdpSmb prior = true := hseen.trans (decide_eq_true hrdp)
    have hskip : wildcardCertQuestion.appliesWhen snapshot prior = false := congrArg not htrue
    have hdefault : wildcardCertQuestion.defaultFrom snapshot prior =
        .data (dumpBool a.wildcardCert) := by
      rw [hforced hrdp, ← htrue]
      rfl
    rw [if_pos hrdp, Dialogue.reply, hskip, if_neg Bool.false_ne_true, hdefault]
    refine ⟨rfl, ?_⟩
    rw [hforced hrdp]
    exact if_neg (by rw [htrue]; decide)
  · have hfalse : scopeIsRdpSmb prior = false := hseen.trans (decide_eq_false hrdp)
    have happ : wildcardCertQuestion.appliesWhen snapshot prior = true := congrArg not hfalse
    rw [if_neg hrdp]
    refine ⟨reply_of_consumes happ ((consumes_confirm _ _).map _), ?_⟩
    exact if_neg (by rw [hfalse]; exact Bool.false_ne_true)

/-- A load balancer, or none, is accepted. -/
lemma validateAnswer_ofLoadBalancer {prior : Prior} (x : Option LoadBalancerConfig)
    (h : ∀ lb, x = some lb → lb.Validated) :
    loadBalancerQuestion.validateAnswer (.ofLoadBalancer x h) snapshot prior = .ok () := by
  cases x <;> rfl

/-- Seed applications that can be typed are accepted. -/
lemma validateAnswer_typableSeeds {apps : SeedApps} {prior : Prior}
    (h : SeedsTypable (scopeIsRdpSmb prior) apps) :
    seedAppsQuestion.validateAnswer (.seedApps apps) snapshot prior = .ok () := by
  obtain ⟨web, ssh, rdp, hbounds, hrdp, rfl⟩ := h
  refine if_neg ?_
  rintro ⟨hne, hscope⟩
  refine hne ?_
  show stubs "rdp-relay" rdp = []
  rw [hrdp hscope]
  rfl

/-- What is typed for the answers leads to them. -/
lemma run_typeAnswers (L : Leaves) (snapshot : EnvironmentSnapshot) {a : InterviewAnswers}
    (h : Typable a) : run L snapshot questionaryProvider (typeAnswers a) = .ok a := by
  obtain ⟨hscope, hidp, hdns⟩ := text_mem_choices a
  have hseen : ∀ i, scopeIsRdpSmb (recordOf ((a.values h.validated).take (i + 1))) =
      decide (a.deploymentScope = .webSshRdpSmb) := fun i => by
    rw [scopeIsRdpSmb_recordOf, firstIsRdpSmb_values]
  have hwild := fun rest => reply_wildcardCert snapshot rest (hseen 3) h.wildcardCert
  have hseeds : SeedsTypable (scopeIsRdpSmb (recordOf ((a.values h.validated).take 7)))
      a.seedApps := by
    rw [hseen 6]
    exact h.seedApps
  have htyped : typeSeedApps (decide (a.deploymentScope = .webSshRdpSmb)) a.seedApps =
      typeSeedApps (scopeIsRdpSmb (recordOf ((a.values h.validated).take 7))) a.seedApps ++ [] := by
    rw [List.append_nil, hseen 6]
  refine (run_eq_ok_iff questionaryProvider_readOnly
    questionaryProvider_repliesStrings).mpr ⟨h.validated, [], ?_⟩
  rw [typeAnswers, htyped]
  simp only [List.cons_append, List.nil_append]
  refine .cons (reply_of_consumes_cons rfl ((consumes_select hscope).map _))
    (requireOneOf_of_mem hscope) ?_
  refine .cons (reply_of_consumes_cons rfl ((consumes_select hidp).map _))
    (requireOneOf_of_mem hidp) ?_
  refine .cons (reply_of_consumes_cons rfl ((consumes_text _ _).map _))
    (validateAnswer_publicHostname.mpr ⟨_, rfl, h.publicHostname⟩) ?_
  refine .cons (reply_of_consumes rfl ((consumes_askTlsStrategy h.chainPath).map _)) rfl ?_
  refine .cons (hwild _).1 (hwild []).2 ?_
  refine .cons (reply_of_consumes rfl (consumes_askLoadBalancer h.validated h.scopes))
    (validateAnswer_ofLoadBalancer _ _) ?_
  refine .cons (reply_of_consumes_cons rfl ((consumes_select hdns).map _))
    (requireOneOf_of_mem hdns) ?_
  exact .cons (reply_of_consumes rfl ((consumes_promptSeedApps hseeds).map _))
    (validateAnswer_typableSeeds hseeds) .nil

/-- **The answers that an interview at a terminal can have.** -/
theorem typable_iff (L : Leaves) (snapshot : EnvironmentSnapshot) (a : InterviewAnswers) :
    (∃ typed, run L snapshot questionaryProvider typed = .ok a) ↔ Typable a := by
  constructor
  · rintro ⟨typed, h⟩
    exact typable_of_run h
  · intro h
    exact ⟨typeAnswers a, run_typeAnswers L snapshot h⟩

end DngPreflight.Interview
