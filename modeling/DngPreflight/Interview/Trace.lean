import DngPreflight.Interview.Assembly

set_option relaxedAutoImplicit false
set_option autoImplicit false

/-!
# Traces of interviews

Which questions an interview puts to its provider, what it hands over with them, and how it ends,
for any provider that does not write to the record. The accepted answers determine all of it.

## Main definitions

* `DngPreflight.Interview.accepted` — the accepted answers of an interview.
* `DngPreflight.Interview.asked` — the questions that are put to the provider.
* `DngPreflight.Interview.ExactTrace` — the calls and the outcome, in terms of the accepted
  answers.

## Main results

* `DngPreflight.Interview.exactTrace` — every interview has an exact trace.
-/

namespace DngPreflight.Interview

open Text Codec

variable {σ δ : Type} {L : Leaves} {snapshot : EnvironmentSnapshot}
  {provider : AnswersProvider σ δ} {st : σ} {answers : List PyValue}

/-- The accepted answers of an interview, forced ones included. -/
def accepted (provider : AnswersProvider σ δ) (snapshot : EnvironmentSnapshot) (st : σ) :
    List PyValue :=
  Dialogue.accepted provider snapshot orderedQuestions st Dict.empty

/-- The record of the first answers. -/
def recordOf (answers : List PyValue) : Prior :=
  Dialogue.recordFrom Dict.empty orderedQuestions answers

/-- The first answer is the RDP/SMB scope. -/
def firstIsRdpSmb (answers : List PyValue) : Bool :=
  match answers.head? with
  | some v => v.eqStr "web_ssh_rdp_smb"
  | none => false

/-- The questions that are put to the provider: all but the wildcard question in the RDP/SMB
scope. -/
def asked (answers : List PyValue) (id : String) : Bool :=
  ! (decide (id = "wildcard_cert") && firstIsRdpSmb answers)

/-- The calls and the outcome of an interview, in terms of its accepted answers. -/
structure ExactTrace (L : Leaves) (provider : AnswersProvider σ δ)
    (snapshot : EnvironmentSnapshot) (st : σ) : Prop where
  /-- The calls are about a prefix of the canonical order without the questions that are not
  asked: up to the first question without an accepted answer. -/
  order : (dialogue provider snapshot st).calls.map Dialogue.Call.question <+:
    InterviewAnswers.fieldNames.filter (asked (accepted provider snapshot st))
  order_eq : (dialogue provider snapshot st).calls.map Dialogue.Call.question =
    (InterviewAnswers.fieldNames.take ((accepted provider snapshot st).length + 1)).filter
      (asked (accepted provider snapshot st))
  /-- Each call hands over the record of the accepted answers before its question, and the
  default computed from it. -/
  call : ∀ c ∈ (dialogue provider snapshot st).calls,
    ∃ i q, i ≤ (accepted provider snapshot st).length ∧ orderedQuestions[i]? = some q ∧
      q.appliesWhen snapshot c.prior = true ∧ c.question = q.id ∧
      c.default = q.defaultFrom snapshot c.prior ∧
      c.prior.entries =
        InterviewAnswers.fieldNames.zip ((accepted provider snapshot st).take i)
  /-- Accepted answers are the replies to their questions, or the defaults of those that are not
  asked, and valid in the context of the answers before them. -/
  valid : ∀ (i : ℕ) (q : Question) (v : PyValue), orderedQuestions[i]? = some q →
    (accepted provider snapshot st)[i]? = some v →
      (∃ st', (Dialogue.reply provider snapshot q st'
          (recordOf ((accepted provider snapshot st).take i))).1 =
        .ok ⟨v, recordOf ((accepted provider snapshot st).take i)⟩) ∧
      q.validateAnswer v snapshot (recordOf ((accepted provider snapshot st).take i)) = .ok ()
  /-- There are no more accepted answers than questions. -/
  length_le : (accepted provider snapshot st).length ≤ orderedQuestions.length
  /-- The interview fails at the first question whose answer is not accepted. -/
  stops : (accepted provider snapshot st).length < orderedQuestions.length →
    ∃ q e, orderedQuestions[(accepted provider snapshot st).length]? = some q ∧
      Dialogue.StopsAt provider snapshot q (recordOf (accepted provider snapshot st)) e ∧
      run L snapshot provider st = .error (.question e)
  /-- If all answers are accepted and the choices among them are strings, they are the
  result. -/
  completes : (accepted provider snapshot st).length = orderedQuestions.length →
    StringChoices (accepted provider snapshot st) →
      ∃ a h, run L snapshot provider st = .ok a ∧ accepted provider snapshot st = a.values h

/-! ## The record -/

/-- The entries of the record of the first answers. -/
lemma entries_recordOf (answers : List PyValue) :
    (recordOf answers).entries = InterviewAnswers.fieldNames.zip answers := by
  have h : (recordOf answers).entries =
      [] ++ (orderedQuestions.map Dialogue.Question.id).zip answers :=
    Dialogue.entries_recordFrom nodup_orderedQuestions
  rw [h, map_id_orderedQuestions, List.nil_append]

/-- The scope that later questions see is the first answer. -/
lemma scopeIsRdpSmb_recordOf (answers : List PyValue) :
    scopeIsRdpSmb (recordOf answers) = firstIsRdpSmb answers := by
  have hget : (recordOf answers).get? "deployment_scope" = answers.head? := by
    rw [Dict.get?, entries_recordOf]
    cases answers <;> rfl
  rw [scopeIsRdpSmb, hget]
  rfl

/-- A question other than the wildcard question always applies. -/
lemma wildcard_or_applies {i : ℕ} {q : Question} (h : orderedQuestions[i]? = some q) :
    i = 4 ∧ q = wildcardCertQuestion ∨
      q.id ≠ "wildcard_cert" ∧ ∀ snapshot prior, q.appliesWhen snapshot prior = true := by
  rcases i with _ | _ | _ | _ | _ | _ | _ | _ | i
  all_goals cases h
  case succ.succ.succ.succ.zero => exact Or.inl ⟨rfl, rfl⟩
  all_goals exact Or.inr ⟨by decide, fun _ _ => rfl⟩

/-- Which questions apply. -/
lemma appliesWhen_recordOf (snapshot : EnvironmentSnapshot) {i : ℕ} {q : Question}
    (h : orderedQuestions[i]? = some q) (hi : i ≤ answers.length) :
    q.appliesWhen snapshot (recordOf (answers.take i)) = asked answers q.id := by
  rcases wildcard_or_applies h with ⟨rfl, rfl⟩ | ⟨hid, happ⟩
  · have hfirst : firstIsRdpSmb (answers.take 4) = firstIsRdpSmb answers := by
      cases answers <;> rfl
    rw [asked, ← hfirst, ← scopeIsRdpSmb_recordOf]
    rfl
  · rw [happ, asked, decide_eq_false hid]
    rfl

/-! ## The order of the calls -/

/-- Picking the kept elements by their index. -/
lemma filterMap_range_getElem? {α : Type} (p : α → Bool) (l : List α) (n : ℕ) :
    (List.range n).filterMap (fun i => l[i]?.filter p) = (l.take n).filter p := by
  induction n with
  | zero => rfl
  | succ n ih =>
    rw [List.range_succ, List.filterMap_append, ih, List.take_add_one, List.filter_append]
    refine congrArg _ ?_
    cases h : l[n]? with
    | none => simp [h]
    | some a => by_cases hp : p a <;> simp [Option.filter, h, hp]

/-- The questions that the calls are about. -/
lemma map_question_callsOf (answers : List PyValue) :
    (Dialogue.callsOf snapshot Dict.empty orderedQuestions answers).map Dialogue.Call.question =
      (InterviewAnswers.fieldNames.take (answers.length + 1)).filter (asked answers) := by
  rw [← filterMap_range_getElem?, Dialogue.callsOf, List.map_filterMap]
  refine List.filterMap_congr fun i hi => ?_
  have hi : i ≤ answers.length := Nat.lt_succ_iff.mp (List.mem_range.mp hi)
  rw [← map_id_orderedQuestions, List.getElem?_map, Dialogue.callAt]
  cases hq : orderedQuestions[i]? with
  | none => rfl
  | some q =>
    have happ := appliesWhen_recordOf snapshot hq hi
    rw [recordOf] at happ
    simp only [Option.bind_some, happ, Option.map_some, Option.filter_some]
    split <;> rfl

/-! ## The outcome -/

/-- The final validation of a record of answers to the questions. -/
lemma validatePrior_recordOf (answers : List PyValue) : validatePrior L (recordOf answers) =
    InterviewAnswers.ofFields L (InterviewAnswers.fieldNames.zip answers) := by
  have hknown : (recordOf answers).entries.all
      (fun e => decide (e.1 ∈ InterviewAnswers.fieldNames)) = true := by
    rw [entries_recordOf, List.all_eq_true]
    exact fun e he => decide_eq_true (List.of_mem_zip he).1
  rw [validatePrior, if_pos hknown, entries_recordOf]

/-- Accepted answers are acceptable. -/
lemma acceptable_accepted (hro : provider.ReadOnly) :
    Acceptable snapshot (accepted provider snapshot st) :=
  fun _ _ _ hq ha => ⟨_, (Dialogue.reply_accepted hro hq ha).2⟩

/-- The calls of an interview are those that belong to its accepted answers. -/
lemma calls_dialogue (hro : provider.ReadOnly) : (dialogue provider snapshot st).calls =
    Dialogue.callsOf snapshot Dict.empty orderedQuestions (accepted provider snapshot st) :=
  Dialogue.calls_askAll hro

/-- Each call is about a question that applies, with the record of the answers before it. -/
lemma exists_of_mem_calls (hro : provider.ReadOnly) {c : Dialogue.Call String PyValue}
    (hc : c ∈ (dialogue provider snapshot st).calls) :
    ∃ i q, i ≤ (accepted provider snapshot st).length ∧ orderedQuestions[i]? = some q ∧
      q.appliesWhen snapshot c.prior = true ∧
      c = q.call snapshot (recordOf ((accepted provider snapshot st).take i)) := by
  rw [calls_dialogue hro] at hc
  obtain ⟨i, hi, hcall⟩ := List.mem_filterMap.mp hc
  obtain ⟨q, hq, hcall⟩ := Option.bind_eq_some_iff.mp hcall
  split at hcall
  · rename_i happ
    cases hcall
    exact ⟨i, q, Nat.lt_succ_iff.mp (List.mem_range.mp hi), hq, happ, rfl⟩
  · cases hcall

/-- **Accepted answers are assembled** if the choices among them are strings. -/
lemma exists_run_of_length_eq (hro : provider.ReadOnly)
    (hlen : (accepted provider snapshot st).length = orderedQuestions.length)
    (hstr : StringChoices (accepted provider snapshot st)) :
    ∃ a h, run L snapshot provider st = .ok a ∧
      accepted provider snapshot st = InterviewAnswers.values a h := by
  have hdialogue : (dialogue provider snapshot st).result =
      .ok (recordOf (accepted provider snapshot st)) := Dialogue.result_of_length_eq hro hlen
  obtain ⟨s, hs⟩ := exists_shape (acceptable_accepted hro) hlen
  rw [← hs] at hstr
  obtain ⟨a, ha⟩ := exists_ofFields (L := L) hstr
  have hval := InterviewAnswers.validated_of_ofFields L ha
  refine ⟨a, hval, ?_, hs ▸ toList_eq_values s hstr ha hval⟩
  rw [run, hdialogue]
  simp only [validatePrior_recordOf, ← hs, ha]

/-- **Every interview has an exact trace**, whatever the provider, provided that it does not write
to the record.

**Proof sketch.** The calls are those that belong to the accepted answers. Only the wildcard
question looks at the record to decide whether it applies, and what it finds there is the first
answer. The final validation takes all answers but the choices as they are. -/
theorem exactTrace (L : Leaves) (hro : provider.ReadOnly) (snapshot : EnvironmentSnapshot)
    (st : σ) : ExactTrace L provider snapshot st where
  order := by
    rw [calls_dialogue hro, map_question_callsOf]
    exact (List.take_prefix _ _).filter _
  order_eq := by rw [calls_dialogue hro, map_question_callsOf]
  call := by
    intro c hc
    obtain ⟨i, q, hi, hq, happ, rfl⟩ := exists_of_mem_calls hro hc
    exact ⟨i, q, hi, hq, happ, rfl, rfl, entries_recordOf _⟩
  valid := fun _ _ _ hq ha => Dialogue.reply_accepted hro hq ha
  length_le := Dialogue.length_accepted_le
  stops := by
    intro hlt
    obtain ⟨q, e, hq, hres, hstop⟩ := Dialogue.stopsAt_of_lt hro hlt
    have hdialogue : (dialogue provider snapshot st).result = .error e := hres
    exact ⟨q, e, hq, hstop, by rw [run, hdialogue]⟩
  completes := fun hlen hstr => exists_run_of_length_eq hro hlen hstr

/-- The canned interview asks all questions but the wildcard one. -/
theorem exactTrace_canned :
    (dialogue cannedProvider (makeSnapshot {}) ()).calls.map Dialogue.Call.question =
      (InterviewAnswers.fieldNames.take 9).filter fun k => decide (k ≠ "wildcard_cert") :=
  (exactTrace .strict cannedProvider_readOnly (makeSnapshot {}) ()).order_eq

/-- The canned answers, with an identity provider that is an object equal to every string and has no
hash. -/
def anyIdpProvider : AnswersProvider Unit Empty :=
  fun _ _ call =>
    (.ok ⟨if call.question = "idp" then .object (fun _ => true) fun _ => false
      else cannedAnswer call.question, call.prior⟩, ())

/-- The questions accept all eight answers, and the final validation fails. -/
theorem anyIdp_not_assembled : anyIdpProvider.ReadOnly ∧
    (accepted anyIdpProvider (makeSnapshot {}) ()).length = orderedQuestions.length ∧
    run .strict (makeSnapshot {}) anyIdpProvider () = .error .validationError := by
  refine ⟨?_, rfl, rfl⟩
  intro st x call reply h
  cases h
  rfl

end DngPreflight.Interview
