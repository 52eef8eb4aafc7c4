import DngPreflight.Interview.Terminal

set_option relaxedAutoImplicit false
set_option autoImplicit false

/-!
# Failures of interviews at a terminal

A prompt can be interrupted, or its input can end, or what is typed is no number or no network, or
no hostname. Nothing else makes an interview fail: the other answers are always valid, and so are
all answers together.

## Main definitions

* `DngPreflight.Interview.CanRaise` — what the prompt of a question can raise.

## Main results

* `DngPreflight.Interview.failure_cases` — how an interview at a terminal fails.
-/

namespace DngPreflight.Interview

open Text Codec Net Dialogue

/-! ## What the prompts raise -/

/-- What the prompt of a question can raise. -/
def CanRaise (id : String) : Raised → Prop
  | .keyboardInterrupt => True
  | .eofError => True
  | .valueError => id = "load_balancer" ∨ id = "seed_apps"
  | .validationError => id = "load_balancer"
  | .runtimeError => False

/-- Every prompt can be interrupted, and its input can end. -/
lemma canRaise_raised (id : String) (t : Typed) : CanRaise id t.raised := by
  cases t <;> exact True.intro

section Prompts

variable {R : Raised → Prop} (h : ∀ t : Typed, R t.raised)

include h

/-- A prompt raises what is typed in place of an answer. -/
lemma raises_unsafeAsk {α : Type} (read : Typed → Option α) : (unsafeAsk read).Raises R :=
  Prompt.Raises.take (h .interrupt) h

/-- A prompt for a text is one. -/
lemma raises_text (default : Str) : (text default).Raises R := raises_unsafeAsk h _

/-- A prompt for a confirmation is one. -/
lemma raises_confirm (default : Bool) : (confirm default).Raises R := raises_unsafeAsk h _

/-- A prompt for a choice is one. -/
lemma raises_select (choices : List Str) : (select choices).Raises R := raises_unsafeAsk h _

/-- So are the prompts for the TLS strategy. -/
lemma raises_askTlsStrategy : askTlsStrategy.Raises R := by
  refine (raises_select h _).bind fun kind => ?_
  split_ifs
  · exact (raises_text h _).bind fun _ => (raises_text h _).bind fun _ =>
      (raises_text h _).bind fun _ => Prompt.Raises.pure _
  · exact (raises_text h _).bind fun _ => (raises_text h _).bind fun _ => Prompt.Raises.pure _
  · exact (raises_text h _).bind fun _ => (raises_text h _).bind fun _ =>
      (raises_text h _).bind fun _ => Prompt.Raises.pure _

end Prompts

/-- The networks need not be any, and there may be none. -/
lemma raises_askLoadBalancer : askLoadBalancer.Raises (CanRaise "load_balancer") := by
  have hkey := canRaise_raised "load_balancer"
  refine (raises_confirm hkey _).bind fun hasLb => ?_
  split_ifs
  · refine (raises_text hkey _).bind fun name => (raises_text hkey _).bind fun raw => ?_
    have hvalue : CanRaise "load_balancer" .valueError := Or.inl rfl
    refine (Prompt.Raises.orRaise _ hvalue).bind fun cidrs => ?_
    split_ifs
    · exact Prompt.Raises.pure _
    · exact Prompt.Raises.raise rfl
  · exact Prompt.Raises.pure _

/-- A count need not be a number. -/
lemma raises_count : count.Raises (CanRaise "seed_apps") :=
  (raises_text (canRaise_raised _) _).bind fun _ => Prompt.Raises.orRaise _ (Or.inr rfl)

/-- Nor need the counts of the seed applications. -/
lemma raises_promptSeedApps (scopeIsRdpSmb : Bool) :
    (promptSeedApps scopeIsRdpSmb).Raises (CanRaise "seed_apps") := by
  refine raises_count.bind fun web => raises_count.bind fun ssh => Prompt.Raises.bind ?_ fun rdp =>
    Prompt.Raises.pure _
  cases scopeIsRdpSmb with
  | true => exact raises_count
  | false => exact Prompt.Raises.pure _

/-- What the prompt of a question of the interview raises. -/
lemma raises_questionaryAnswer {q : Question} (hq : q ∈ orderedQuestions)
    (snapshot : EnvironmentSnapshot) (prior : Prior) :
    (questionaryAnswer (q.call snapshot prior)).Raises (CanRaise q.id) := by
  simp only [orderedQuestions, List.mem_cons, List.not_mem_nil, or_false] at hq
  rcases hq with rfl | rfl | rfl | rfl | rfl | rfl | rfl | rfl
  · exact (raises_select (canRaise_raised _) _).map
  · exact (raises_select (canRaise_raised _) _).map
  · exact (raises_text (canRaise_raised _) _).map
  · exact (raises_askTlsStrategy (canRaise_raised _)).map
  · exact (raises_confirm (canRaise_raised _) _).map
  · exact raises_askLoadBalancer
  · exact (raises_select (canRaise_raised _) _).map
  · exact (raises_promptSeedApps _).map

/-! ## What is returned is valid -/

/-- Load balancers that are asked for are accepted. -/
lemma ensures_loadBalancerAccepted (snapshot : EnvironmentSnapshot) (prior : Prior) :
    askLoadBalancer.Ensures fun v =>
      loadBalancerQuestion.validateAnswer v snapshot prior = .ok () := by
  refine Prompt.Ensures.bind (Prompt.Ensures.trivial _) fun hasLb _ => ?_
  split_ifs
  · refine Prompt.Ensures.bind (Prompt.Ensures.trivial _) fun name _ => ?_
    refine Prompt.Ensures.bind (Prompt.Ensures.trivial _) fun raw _ => ?_
    refine Prompt.Ensures.bind (Prompt.Ensures.trivial _) fun nets _ => ?_
    split_ifs
    · exact Prompt.Ensures.pure rfl
    · exact Prompt.Ensures.raise _
  · exact Prompt.Ensures.pure rfl

/-- The prompt of a question other than that for the hostname returns valid answers only, if the
question applies. -/
lemma ensures_valid {q : Question} (hq : q ∈ orderedQuestions) (hne : q ≠ publicHostnameQuestion)
    {snapshot : EnvironmentSnapshot} {prior : Prior} (happ : q.appliesWhen snapshot prior = true) :
    (questionaryAnswer (q.call snapshot prior)).Ensures fun v =>
      q.validateAnswer v snapshot prior = .ok () := by
  have hselected : ∀ {choices : List Str} {field : String},
      ((PyValue.data ∘ dumpStr) <$> select choices : TerminalPrompt PyValue).Ensures fun v =>
        requireOneOf v choices field = .ok () := by
    intro choices field ts v ts' hv
    obtain ⟨s, hs, rfl⟩ := ensures_selected choices ts v ts' hv
    exact requireOneOf_of_mem hs
  simp only [orderedQuestions, List.mem_cons, List.not_mem_nil, or_false] at hq
  rcases hq with rfl | rfl | rfl | rfl | rfl | rfl | rfl | rfl
  · exact hselected
  · exact hselected
  · exact absurd rfl hne
  · exact Prompt.Ensures.map fun _ _ _ _ => rfl
  · refine Prompt.Ensures.map fun _ b _ _ => if_neg ?_
    rw [show scopeIsRdpSmb prior = false from Bool.not_eq_true _ ▸ (Bool.not_eq_true' _).mp happ]
    exact Bool.false_ne_true
  · exact ensures_loadBalancerAccepted snapshot prior
  · exact hselected
  · exact Prompt.Ensures.map fun ts apps ts' h =>
      validateAnswer_typableSeeds (ensures_promptSeedApps _ ts apps ts' h)

/-! ## Whole interviews -/

variable {L : Leaves} {snapshot : EnvironmentSnapshot} {typed : List Typed}

/-- A provider that asks by prompts replies with what they return or raise. -/
lemma answer_of_provider {call : Call String PyValue} {answer : PyValue} {prior : Prior}
    {ts : List Typed} (h : (questionaryProvider ts snapshot call).1 = .ok ⟨answer, prior⟩) :
    prior = call.prior ∧ ∃ ts', questionaryAnswer call ts = (.ok answer, ts') := by
  unfold questionaryProvider at h
  split at h
  · rename_i answer' ts' hanswer
    cases h
    exact ⟨rfl, ts', hanswer⟩
  · cases h

/-- What it raises was raised by a prompt. -/
lemma raised_of_provider {call : Call String PyValue} {d : Raised} {ts : List Typed}
    (h : (questionaryProvider ts snapshot call).1 = .error d) :
    ∃ ts', questionaryAnswer call ts = (.error d, ts') := by
  unfold questionaryProvider at h
  split at h
  · cases h
  · rename_i d' ts' hraised
    cases h
    exact ⟨ts', hraised⟩

/-- The only question that is not always asked has a valid default when it is skipped. -/
lemma valid_of_skipped {q : Question} (hq : q ∈ orderedQuestions) {prior : Prior}
    (happ : q.appliesWhen snapshot prior = false) :
    q.validateAnswer (q.defaultFrom snapshot prior) snapshot prior = .ok () := by
  simp only [orderedQuestions, List.mem_cons, List.not_mem_nil, or_false] at hq
  rcases hq with rfl | rfl | rfl | rfl | rfl | rfl | rfl | rfl
  case inr.inr.inr.inr.inl =>
    refine if_neg ?_
    cases scopeIsRdpSmb prior <;> decide
  all_goals cases happ

/-- Why an interview at a terminal ends at a question. -/
lemma cases_of_stopsAt {q : Question} (hq : q ∈ orderedQuestions) {prior : Prior}
    {f : Failure (Message PyValue) Raised} (h : StopsAt questionaryProvider snapshot q prior f) :
    (∃ d, f = .raised d ∧ CanRaise q.id d) ∨
      ∃ m s, f = .invalid m ∧ q = publicHostnameQuestion ∧ ¬ hostnameAccepted s ∧
        q.validateAnswer (.data (dumpStr s)) snapshot prior = .error m := by
  by_cases happ : q.appliesWhen snapshot prior = true
  · cases f with
    | raised d =>
      obtain ⟨ts, hreply⟩ := h
      rw [Dialogue.reply, if_pos happ] at hreply
      obtain ⟨ts', hraised⟩ := raised_of_provider hreply
      exact .inl ⟨d, rfl, raises_questionaryAnswer hq snapshot prior ts d ts' hraised⟩
    | invalid m =>
      obtain ⟨ts, ⟨answer, prior'⟩, hreply, hinvalid⟩ := h
      rw [Dialogue.reply, if_pos happ] at hreply
      obtain ⟨hprior, ts', hanswer⟩ := answer_of_provider hreply
      obtain rfl : prior' = prior := hprior
      by_cases hne : q = publicHostnameQuestion
      · subst hne
        have hstr : ((PyValue.data ∘ dumpStr) <$> text (defaultText
            (publicHostnameQuestion.defaultFrom snapshot prior'))).Ensures fun v =>
              ∃ s, v = .data (dumpStr s) := Prompt.Ensures.map fun _ s _ _ => ⟨s, rfl⟩
        obtain ⟨s, rfl⟩ := hstr ts answer ts' hanswer
        refine .inr ⟨m, s, rfl, rfl, fun haccepted => ?_, hinvalid⟩
        have hvalid : publicHostnameQuestion.validateAnswer (.data (dumpStr s)) snapshot prior' =
            .ok () := validateAnswer_publicHostname.mpr ⟨s, rfl, haccepted⟩
        cases hinvalid.symm.trans hvalid
      · have hvalid := ensures_valid hq hne happ ts answer ts' hanswer
        cases hinvalid.symm.trans hvalid
  · have hskip : q.appliesWhen snapshot prior = false := Bool.not_eq_true _ ▸ happ
    cases f with
    | raised d =>
      obtain ⟨ts, hreply⟩ := h
      rw [Dialogue.reply, if_neg happ] at hreply
      cases hreply
    | invalid m =>
      obtain ⟨ts, r, hreply, hinvalid⟩ := h
      rw [Dialogue.reply, if_neg happ] at hreply
      cases hreply
      cases hinvalid.symm.trans (valid_of_skipped hq hskip)

/-- The choices of an interview at a terminal are strings. -/
lemma stringChoices_of_accepted
    (hlen : (accepted questionaryProvider snapshot typed).length = orderedQuestions.length) :
    StringChoices (accepted questionaryProvider snapshot typed) :=
  stringChoices_of_replies questionaryProvider_repliesStrings hlen fun i q v hq hv => by
    obtain ⟨⟨ts, h⟩, -⟩ := reply_accepted questionaryProvider_readOnly hq hv
    exact ⟨ts, _, _, h⟩

/-- **How an interview at a terminal fails**: at the first question without an accepted answer,
since its prompt raises what it can raise, or since what was typed is no hostname. The answers
together never fail to validate.

**Proof sketch.** The prompts return valid answers, and strings for the three choices, so that all
questions being answered gives a result; otherwise the dialogue stops at a question. -/
theorem failure_cases {e : Error Raised}
    (h : run L snapshot questionaryProvider typed = .error e) :
    ∃ q f, orderedQuestions[(accepted questionaryProvider snapshot typed).length]? = some q ∧
      e = .question f ∧
      ((∃ d, f = .raised d ∧ CanRaise q.id d) ∨
        ∃ m s, f = .invalid m ∧ q = publicHostnameQuestion ∧ ¬ hostnameAccepted s ∧
          q.validateAnswer (.data (dumpStr s)) snapshot
            (recordOf (accepted questionaryProvider snapshot typed)) = .error m) := by
  have hro := questionaryProvider_readOnly
  rcases Nat.lt_or_ge (accepted questionaryProvider snapshot typed).length
    orderedQuestions.length with hlt | hge
  · obtain ⟨q, f, hq, hresult, hstop⟩ := stopsAt_of_lt hro hlt
    have hrun : run L snapshot questionaryProvider typed = .error (.question f) := by
      rw [run, dialogue, hresult]
    refine ⟨q, f, hq, Except.error.inj (h.symm.trans hrun), ?_⟩
    exact cases_of_stopsAt (List.mem_of_getElem? hq) hstop
  · have hlen := Nat.le_antisymm length_accepted_le hge
    obtain ⟨a, hvalidated, hrun, -⟩ :=
      exists_run_of_length_eq hro hlen (stringChoices_of_accepted hlen)
    cases h.symm.trans hrun

/-- The first two questions are answered, and then a hostname without a dot. -/
def undotted : List Typed := [.choice "web_ssh", .enter, .text "dng"]

/-- A hostname without a dot is rejected; nothing is raised. -/
theorem failure_cases_undotted : ∃ m, run .strict (makeSnapshot {}) questionaryProvider undotted =
      .error (.question (.invalid m)) ∧
    ∃ s, ¬ hostnameAccepted s ∧ publicHostnameQuestion.validateAnswer (.data (dumpStr s))
      (makeSnapshot {}) (recordOf (accepted questionaryProvider (makeSnapshot {}) undotted)) =
        .error m := by
  have h : ∃ m, run .strict (makeSnapshot {}) questionaryProvider undotted =
      .error (.question (.invalid m)) := ⟨_, rfl⟩
  obtain ⟨m, hrun⟩ := h
  refine ⟨m, hrun, ?_⟩
  obtain ⟨q, f, -, hf, ⟨d, rfl, -⟩ | ⟨m', s, rfl, rfl, hs, hvalid⟩⟩ := failure_cases hrun
  · cases hf
  · cases hf
    exact ⟨s, hs, hvalid⟩

end DngPreflight.Interview
