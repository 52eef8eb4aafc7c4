import DngPreflight.Interview.Trace

set_option relaxedAutoImplicit false
set_option autoImplicit false

/-!
# Interviews whose provider writes to the record

The engine hands its own record of answers to the provider, not a copy. As long as each reply
leaves the answers to earlier questions alone, they stay what they were when they were validated,
whatever else the provider writes. A reply that does not can replace them.

## Main definitions

* `DngPreflight.Interview.steps` — the accepted answers, with the records before and after.

## Main results

* `DngPreflight.Interview.holdsAccepted` — the record and the result hold the accepted answers if
  the replies keep them.
* `DngPreflight.Interview.rescoped_not_holdsAccepted` — a provider that replaces the scope.
-/

namespace DngPreflight

open Text Codec

/-- Validation looks at the fields of the answers only. -/
lemma InterviewAnswers.ofFields_congr {L : Leaves} {fs gs : List (String × PyValue)}
    (h : ∀ k ∈ InterviewAnswers.fieldNames, fs.lookup k = gs.lookup k) :
    InterviewAnswers.ofFields L fs = InterviewAnswers.ofFields L gs := by
  simp only [InterviewAnswers.fieldNames, List.forall_mem_cons] at h
  obtain ⟨h₀, h₁, h₂, h₃, h₄, h₅, h₆, h₇, -⟩ := h
  simp only [InterviewAnswers.ofFields, required, defaulted, h₀, h₁, h₂, h₃, h₄, h₅, h₆, h₇]

namespace Interview

variable {σ δ : Type} {L : Leaves} {snapshot : EnvironmentSnapshot}
  {provider : AnswersProvider σ δ} {st : σ} {a : InterviewAnswers} {prior : Prior}

/-- A step of an interview. -/
abbrev Step := Dialogue.Step String EnvironmentSnapshot PyValue (Message PyValue)

/-- The steps of an interview: its accepted answers, with the records before and after. -/
def steps (provider : AnswersProvider σ δ) (snapshot : EnvironmentSnapshot) (st : σ) : List Step :=
  Dialogue.steps provider snapshot orderedQuestions st Dict.empty

/-- The steps of an interview that succeeds are about all questions. -/
lemma map_question_steps (h : (dialogue provider snapshot st).result = .ok prior) :
    (steps provider snapshot st).map Dialogue.Step.question = orderedQuestions :=
  Dialogue.question_steps_of_ok h

/-- The final record holds the answer of each step. -/
lemma get?_of_mem_steps (hkeep : Dialogue.KeepsAnswers (steps provider snapshot st))
    (h : (dialogue provider snapshot st).result = .ok prior) {t : Step}
    (ht : t ∈ steps provider snapshot st) : prior.get? t.question.id = some t.reply.answer := by
  obtain ⟨earlier, s, hs⟩ : ∃ earlier s, steps provider snapshot st = earlier ++ [s] :=
    ⟨_, _, (List.dropLast_append_getLast (List.ne_nil_of_mem ht)).symm⟩
  rw [Dialogue.eq_after_of_ok h hs]
  exact Dialogue.get?_after nodup_orderedQuestions hkeep hs t (hs ▸ ht)

/-- The fields of the answers, with the accepted values. -/
lemma zip_accepted (h : (dialogue provider snapshot st).result = .ok prior) :
    InterviewAnswers.fieldNames.zip (accepted provider snapshot st) =
      (steps provider snapshot st).map fun t => (t.question.id, t.reply.answer) := by
  rw [← map_id_orderedQuestions, ← map_question_steps h, List.map_map]
  exact List.zip_map'

/-- **The final validation reads the accepted answers** if the replies keep them. -/
lemma ofFields_accepted (hkeep : Dialogue.KeepsAnswers (steps provider snapshot st))
    (h : (dialogue provider snapshot st).result = .ok prior) :
    InterviewAnswers.ofFields L prior.entries =
      InterviewAnswers.ofFields L
        (InterviewAnswers.fieldNames.zip (accepted provider snapshot st)) := by
  refine InterviewAnswers.ofFields_congr fun k hk => ?_
  have hnodup : ((InterviewAnswers.fieldNames.zip (accepted provider snapshot st)).map
      Prod.fst).Nodup := by
    rw [zip_accepted h, List.map_map]
    have hids := nodup_orderedQuestions
    rw [← map_question_steps h, List.map_map] at hids
    exact hids
  rw [← map_id_orderedQuestions, ← map_question_steps h, List.map_map] at hk
  obtain ⟨t, ht, rfl⟩ := List.mem_map.mp hk
  have hmem : (t.question.id, t.reply.answer) ∈
      InterviewAnswers.fieldNames.zip (accepted provider snapshot st) := by
    rw [zip_accepted h]
    exact List.mem_map_of_mem ht
  exact (get?_of_mem_steps hkeep h ht).trans (Dict.lookup_of_mem hnodup hmem).symm

/-- Accepted answers are acceptable, whatever the provider writes. -/
lemma acceptable_of_ok (h : (dialogue provider snapshot st).result = .ok prior) :
    Acceptable snapshot (accepted provider snapshot st) := by
  intro i q v hq hv
  obtain ⟨s, hs, rfl⟩ : ∃ s, (steps provider snapshot st)[i]? = some s ∧ s.reply.answer = v := by
    simpa only [accepted, Dialogue.accepted, steps, List.getElem?_map, Option.map_eq_some_iff]
      using hv
  rw [← map_question_steps h, List.getElem?_map, hs, Option.map_some] at hq
  obtain rfl := Option.some.inj hq
  exact ⟨_, Dialogue.validateAnswer_of_mem_steps (List.mem_of_getElem? hs)⟩

/-- The wildcard certificate of an interview in the RDP/SMB scope. -/
lemma wildcardCert_of_keepsAnswers
    (hkeep : Dialogue.KeepsAnswers (steps provider snapshot st))
    (h : (dialogue provider snapshot st).result = .ok prior)
    (hread : ReadFrom L prior a) (hscope : a.deploymentScope = .webSshRdpSmb) :
    a.wildcardCert = true := by
  have hquestions := map_question_steps h
  obtain ⟨front, back, hsplit, hfront, hback⟩ := List.map_eq_append_iff.mp
    (hquestions.trans (List.take_append_drop 4 orderedQuestions).symm)
  obtain ⟨w, later, rfl, hw, -⟩ := List.map_eq_cons_iff.mp hback
  obtain ⟨d, rest, rfl, hd, -⟩ := List.map_eq_cons_iff.mp hfront
  -- the scope that the wildcard answer was validated against is the final one
  have hafter : ∀ t ∈ (d :: rest) ++ [w],
      w.after.get? t.question.id = some t.reply.answer :=
    Dialogue.get?_after nodup_orderedQuestions hkeep hsplit
  have hseen : w.reply.prior.get? "deployment_scope" = some d.reply.answer := by
    have hget := hafter d (by simp)
    rwa [Dialogue.Step.after, Dict.get?_insert, hd, hw, if_neg (by decide)] at hget
  have hfinal : prior.get? "deployment_scope" = some d.reply.answer := by
    have hget := get?_of_mem_steps hkeep h (t := d) (by rw [hsplit]; simp)
    rwa [hd] at hget
  have hmem : w ∈ steps provider snapshot st := by rw [hsplit]; simp
  have hvalid := Dialogue.validateAnswer_of_mem_steps hmem
  rw [hw] at hvalid
  obtain ⟨b, hb, hforced⟩ := validateAnswer_wildcardCert hvalid
  have hwild : prior.get? "wildcard_cert" = some (.data (.scalar (.bool b))) := by
    have hget := get?_of_mem_steps hkeep h hmem
    rwa [hw, hb] at hget
  rw [hread.wildcardCert_eq hwild]
  exact hforced (scopeIsRdpSmb_of_readFrom hread (hseen.trans hfinal.symm) hscope)

/-- **The record holds the accepted answers**, in every state of an interview in which each reply
leaves the answers to earlier questions alone: after each step every accepted answer is recorded
as it was accepted. If the interview succeeds, the result holds the accepted answers, with a
wildcard certificate in the RDP/SMB scope; and they are the result if the choices among them are
strings.

**Proof sketch.** Induction on the steps: neither the reply nor the new answer touches the
entries of earlier questions. The final validation looks the fields up in the last record. -/
theorem holdsAccepted (L : Leaves) (provider : AnswersProvider σ δ)
    (snapshot : EnvironmentSnapshot) (st : σ)
    (hkeep : Dialogue.KeepsAnswers (steps provider snapshot st)) :
    (∀ earlier s later, steps provider snapshot st = earlier ++ s :: later →
      ∀ t ∈ earlier ++ [s], s.after.get? t.question.id = some t.reply.answer) ∧
    ∀ a, run L snapshot provider st = .ok a →
      (∃ h, List.Forall₂ PyValue.HeldAs (accepted provider snapshot st) (a.values h) ∧
        (StringChoices (accepted provider snapshot st) →
          accepted provider snapshot st = a.values h)) ∧
      (a.deploymentScope = .webSshRdpSmb → a.wildcardCert = true) := by
  refine ⟨fun earlier s later h => Dialogue.get?_after nodup_orderedQuestions hkeep h,
    fun a hrun => ?_⟩
  obtain ⟨prior, hprior, hfields⟩ := exists_of_run hrun
  refine ⟨?_, wildcardCert_of_keepsAnswers hkeep hprior (readFrom_of_ofFields hfields)⟩
  have hval := InterviewAnswers.validated_of_ofFields L hfields
  rw [ofFields_accepted hkeep hprior] at hfields
  have hlen : (accepted provider snapshot st).length = orderedQuestions.length := by
    rw [← map_question_steps hprior, List.length_map]
    exact List.length_map _
  obtain ⟨s, hs⟩ := exists_shape (acceptable_of_ok hprior) hlen
  rw [← hs] at hfields ⊢
  exact ⟨hval, forall₂_heldAs s hfields hval, fun hstr => toList_eq_values s hstr hfields hval⟩

/-- The canned answers, by a provider that records each of them itself. -/
def recordingProvider : AnswersProvider Unit Empty :=
  fun _ _ call => (.ok ⟨cannedAnswer call.question,
    call.prior.insert call.question (cannedAnswer call.question)⟩, ())

/-- The recording provider writes to the entry of its own question at most. -/
lemma recordingProvider_writesOwn : recordingProvider.WritesOwn := by
  intro st x call reply h k hk
  cases h
  rw [Dict.get?_insert, if_neg hk]

/-- The result of the recording provider is what it has answered. -/
theorem holdsAccepted_recording :
    ∃ a, run .strict (makeSnapshot {}) recordingProvider () = .ok a ∧
      (∃ h, accepted recordingProvider (makeSnapshot {}) () = a.values h) ∧
      a.wildcardCert = true := by
  have h : ∃ a, run .strict (makeSnapshot {}) recordingProvider () = .ok a ∧
      a.deploymentScope = .webSshRdpSmb := ⟨_, rfl, rfl⟩
  obtain ⟨a, hrun, hscope⟩ := h
  have hkeep : Dialogue.KeepsAnswers (steps recordingProvider (makeSnapshot {}) ()) :=
    Dialogue.keepsAnswers_of_writesOwn recordingProvider_writesOwn nodup_orderedQuestions
  obtain ⟨⟨h, -, hvalues⟩, hwild⟩ :=
    (holdsAccepted .strict recordingProvider (makeSnapshot {}) () hkeep).2 a hrun
  refine ⟨a, hrun, ⟨h, hvalues fun i hi => ?_⟩, hwild hscope⟩
  simp only [List.mem_cons, List.not_mem_nil, or_false] at hi
  rcases hi with rfl | rfl | rfl
  · exact ⟨"web_ssh_rdp_smb", rfl⟩
  · exact ⟨"okta", rfl⟩
  · exact ⟨"split_horizon", rfl⟩

/-- The canned answers in the other scope, by a provider that replaces the recorded scope when it
is asked for the load balancer. -/
def rescopingProvider : AnswersProvider Unit Empty :=
  fun _ _ call =>
    (.ok ⟨if call.question = "deployment_scope" then .data (dumpStr "web_ssh")
        else cannedAnswer call.question,
      if call.question = "load_balancer" then
        call.prior.insert "deployment_scope" (.data (dumpStr "web_ssh_rdp_smb"))
      else call.prior⟩, ())

/-- The accepted scope is not the one in the result, which has no wildcard certificate. -/
theorem rescoped_not_holdsAccepted :
    (accepted rescopingProvider (makeSnapshot {}) ()).head? = some (.data (dumpStr "web_ssh")) ∧
    ∃ a, run .strict (makeSnapshot {}) rescopingProvider () = .ok a ∧
      a.deploymentScope = .webSshRdpSmb ∧ a.wildcardCert = false ∧
      a.seedApps.rdpRelays ≠ [] := by
  exact ⟨rfl, _, rfl, rfl, rfl, List.cons_ne_nil _ _⟩

end Interview

end DngPreflight
