import DngPreflight.Dialogue.Run

set_option relaxedAutoImplicit false
set_option autoImplicit false

/-!
# Traces of dialogues

The accepted answers of a dialogue, one step each: the question, the record when it came up, and
the reply to it. Under a provider that does not write to the record, the accepted answers
determine the calls and the outcome. Under any other provider, an answer stays recorded as long
as the replies leave it alone.

## Main definitions

* `Dialogue.steps`, `Dialogue.accepted` — the accepted answers, with and without their context.
* `Dialogue.recordFrom`, `Dialogue.callsOf` — the record and the calls that belong to a list of
  accepted answers.
* `Dialogue.KeepsAnswers` — the replies leave the answers to earlier questions alone.

## Main results

* `Dialogue.calls_askAll` — the calls are those that belong to the accepted answers.
* `Dialogue.stopsAt_of_lt`, `Dialogue.result_of_length_eq` — the outcome.
* `Dialogue.get?_after` — an accepted answer stays recorded if the replies keep it.
-/

namespace Dialogue

open Codec

variable {κ χ α ε δ σ : Type}

/-! ## Replies -/

/-- The reply to a question: the provider's if the question applies, and otherwise the default,
with the record as it is. -/
def reply (provider : Provider σ κ χ α δ) (x : χ) (q : Question κ χ α ε) (st : σ)
    (prior : Dict κ α) : Except δ (Reply κ α) × σ :=
  if q.appliesWhen x prior then provider st x (q.call x prior)
  else (.ok ⟨q.defaultFrom x prior, prior⟩, st)

variable {provider : Provider σ κ χ α δ} {x : χ} {q : Question κ χ α ε}
  {qs : List (Question κ χ α ε)} {st : σ} {prior final : Dict κ α}

/-- A provider that does not write to the record replies with the record as it is. -/
lemma prior_of_reply (hro : provider.ReadOnly) {r : Reply κ α} {st' : σ}
    (h : reply provider x q st prior = (.ok r, st')) : r.prior = prior := by
  unfold reply at h
  split at h
  · exact hro st x _ r (congrArg Prod.fst h)
  · cases h
    rfl

/-- Why a dialogue ends at a question: the provider raises when it is asked, or the answer is
rejected. -/
def StopsAt (provider : Provider σ κ χ α δ) (x : χ) (q : Question κ χ α ε) (prior : Dict κ α) :
    Failure ε δ → Prop
  | .raised d => ∃ st, (reply provider x q st prior).1 = .error d
  | .invalid e => ∃ st r, (reply provider x q st prior).1 = .ok r ∧
      q.validateAnswer r.answer x r.prior = .error e

/-! ## Steps -/

/-- An accepted answer: the question, the record when it came up, and the reply. -/
structure Step (κ χ α ε : Type) where
  question : Question κ χ α ε
  before : Dict κ α
  reply : Reply κ α

variable [DecidableEq κ]

/-- The record after an accepted answer. -/
def Step.after (s : Step κ χ α ε) : Dict κ α :=
  s.reply.prior.insert s.question.id s.reply.answer

/-- The accepted answers of a dialogue, in order. -/
def steps (provider : Provider σ κ χ α δ) (x : χ) :
    List (Question κ χ α ε) → σ → Dict κ α → List (Step κ χ α ε)
  | [], _, _ => []
  | q :: qs, st, prior =>
    match reply provider x q st prior with
    | (.error _, _) => []
    | (.ok r, st') =>
      match q.validateAnswer r.answer x r.prior with
      | .error _ => []
      | .ok () => ⟨q, prior, r⟩ :: steps provider x qs st' (r.prior.insert q.id r.answer)

/-- The accepted answers themselves. -/
def accepted (provider : Provider σ κ χ α δ) (x : χ) (qs : List (Question κ χ α ε)) (st : σ)
    (prior : Dict κ α) : List α :=
  (steps provider x qs st prior).map fun s => s.reply.answer

/-- The calls made for one question. -/
def Question.calls (q : Question κ χ α ε) (x : χ) (prior : Dict κ α) : List (Call κ α) :=
  if q.appliesWhen x prior then [q.call x prior] else []

/-- The calls of one question. -/
lemma calls_ask : (ask provider x q st prior).calls = q.calls x prior := by
  unfold ask Question.calls
  split
  · split <;> rfl
  · rfl

/-- The provider's state after one question. -/
lemma state_ask :
    (ask provider x q st prior).state = (reply provider x q st prior).2 := by
  unfold ask reply
  split
  · split
    · rename_i h; rw [h]
    · rename_i h; rw [h]
  · rfl

/-- The result of one question. -/
lemma result_ask : (ask provider x q st prior).result =
    (match (reply provider x q st prior).1 with
    | .error d => .error (.raised d)
    | .ok r => accept q r.answer x r.prior) := by
  unfold ask reply
  split
  · split
    · rename_i h; rw [h]
    · rename_i h; rw [h]
  · rfl

/-- **How a dialogue begins**: either it ends at its first question, or the first answer is
accepted and the dialogue goes on with the record after it. -/
lemma askAll_cons_cases (provider : Provider σ κ χ α δ) (x : χ) (q : Question κ χ α ε)
    (qs : List (Question κ χ α ε)) (st : σ) (prior : Dict κ α) :
    (∃ e, StopsAt provider x q prior e ∧
      (askAll provider x (q :: qs) st prior).calls = q.calls x prior ∧
      (askAll provider x (q :: qs) st prior).result = .error e ∧
      steps provider x (q :: qs) st prior = []) ∨
    ∃ r st', reply provider x q st prior = (.ok r, st') ∧
      q.validateAnswer r.answer x r.prior = .ok () ∧
      (askAll provider x (q :: qs) st prior).calls = q.calls x prior ++
        (askAll provider x qs st' (r.prior.insert q.id r.answer)).calls ∧
      (askAll provider x (q :: qs) st prior).result =
        (askAll provider x qs st' (r.prior.insert q.id r.answer)).result ∧
      steps provider x (q :: qs) st prior =
        ⟨q, prior, r⟩ :: steps provider x qs st' (r.prior.insert q.id r.answer) := by
  rcases h : reply provider x q st prior with ⟨d | r, st'⟩
  · have hres : (ask provider x q st prior).result = .error (.raised d) := by rw [result_ask, h]
    refine Or.inl ⟨.raised d, ⟨st, congrArg Prod.fst h⟩, ?_⟩
    simp only [askAll, hres, calls_ask, steps, h, and_self]
  · rcases hv : q.validateAnswer r.answer x r.prior with e | ⟨⟩
    · have hres : (ask provider x q st prior).result = .error (.invalid e) := by
        rw [result_ask, h]
        simp only [accept, hv]
      refine Or.inl ⟨.invalid e, ⟨st, r, congrArg Prod.fst h, hv⟩, ?_⟩
      simp only [askAll, hres, calls_ask, steps, h, hv, and_self]
    · have hres : (ask provider x q st prior).result =
          .ok (r.prior.insert q.id r.answer) := by
        rw [result_ask, h]
        simp only [accept, hv]
      have hst : (ask provider x q st prior).state = st' := by rw [state_ask, h]
      refine Or.inr ⟨r, st', rfl, hv, ?_⟩
      simp only [askAll, hres, hst, calls_ask, steps, h, hv, and_self]

/-! ## What the accepted answers determine -/

/-- The record that answers to the first of the questions leave. -/
def recordFrom (prior : Dict κ α) (qs : List (Question κ χ α ε)) (answers : List α) : Dict κ α :=
  (qs.zip answers).foldl (fun d e => d.insert e.1.id e.2) prior

/-- The call for the question at an index, given the accepted answers: its record is that of the
answers before it. -/
def callAt (x : χ) (prior : Dict κ α) (qs : List (Question κ χ α ε)) (answers : List α) (i : ℕ) :
    Option (Call κ α) :=
  qs[i]?.bind fun q =>
    if q.appliesWhen x (recordFrom prior qs (answers.take i)) then
      some (q.call x (recordFrom prior qs (answers.take i)))
    else none

/-- The calls of a dialogue, given the accepted answers: up to the question after the last
accepted one. -/
def callsOf (x : χ) (prior : Dict κ α) (qs : List (Question κ χ α ε)) (answers : List α) :
    List (Call κ α) :=
  (List.range (answers.length + 1)).filterMap (callAt x prior qs answers)

/-- The calls at a list of indices that begins with the first question. -/
lemma filterMap_callAt_zero (answers : List α) (l : List ℕ) :
    (0 :: l).filterMap (callAt x prior (q :: qs) answers) =
      q.calls x prior ++ l.filterMap (callAt x prior (q :: qs) answers) := by
  have hzero : callAt x prior (q :: qs) answers 0 =
      if q.appliesWhen x prior then some (q.call x prior) else none := rfl
  by_cases happ : q.appliesWhen x prior
  · rw [if_pos happ] at hzero
    rw [List.filterMap_cons_some hzero, Question.calls, if_pos happ, List.singleton_append]
  · rw [if_neg happ] at hzero
    rw [List.filterMap_cons_none hzero, Question.calls, if_neg happ, List.nil_append]

/-- The calls before any answer is accepted. -/
lemma callsOf_nil : callsOf x prior (q :: qs) [] = q.calls x prior := by
  rw [callsOf, List.length_nil, Nat.zero_add, List.range_one, filterMap_callAt_zero,
    List.filterMap_nil, List.append_nil]

/-- The calls once the first answer is accepted. -/
lemma callsOf_cons (a : α) (answers : List α) :
    callsOf x prior (q :: qs) (a :: answers) =
      q.calls x prior ++ callsOf x (prior.insert q.id a) qs answers := by
  have htail : callAt x prior (q :: qs) (a :: answers) ∘ Nat.succ =
      callAt x (prior.insert q.id a) qs answers := rfl
  rw [callsOf, List.length_cons, List.range_succ_eq_map, filterMap_callAt_zero,
    List.filterMap_map, htail]
  rfl

/-- **The calls of a dialogue** are those that belong to its accepted answers.

**Proof sketch.** Induction on the questions. The record that a read-only provider leaves is the
one that the answers determine. -/
lemma calls_askAll (hro : provider.ReadOnly) : (askAll provider x qs st prior).calls =
    callsOf x prior qs (accepted provider x qs st prior) := by
  induction qs generalizing st prior with
  | nil => rfl
  | cons q qs ih =>
    rcases askAll_cons_cases provider x q qs st prior with
      ⟨e, -, hcalls, -, hsteps⟩ | ⟨r, st', h, -, hcalls, -, hsteps⟩
    · rw [hcalls, accepted, hsteps, List.map_nil, callsOf_nil]
    · rw [hcalls, accepted, hsteps, List.map_cons, callsOf_cons, ih, prior_of_reply hro h]
      rfl

/-- The accepted answers after the first one. -/
lemma accepted_of_steps {r : Reply κ α} {st' : σ} {after : Dict κ α}
    (h : steps provider x (q :: qs) st prior = ⟨q, prior, r⟩ :: steps provider x qs st' after) :
    accepted provider x (q :: qs) st prior =
      r.answer :: accepted provider x qs st' after := by
  rw [accepted, h]
  rfl

/-- **Accepted answers are replies** to their questions, with the record of the answers before
them, and valid in its context. -/
lemma reply_accepted (hro : provider.ReadOnly) {i : ℕ} {answer : α} (hq : qs[i]? = some q)
    (ha : (accepted provider x qs st prior)[i]? = some answer) :
    (∃ st', (reply provider x q st'
        (recordFrom prior qs ((accepted provider x qs st prior).take i))).1 =
      .ok ⟨answer, recordFrom prior qs ((accepted provider x qs st prior).take i)⟩) ∧
    q.validateAnswer answer x
      (recordFrom prior qs ((accepted provider x qs st prior).take i)) = .ok () := by
  induction qs generalizing st prior i with
  | nil => simp at hq
  | cons q' qs ih =>
    rcases askAll_cons_cases provider x q' qs st prior with
      ⟨e, -, -, -, hsteps⟩ | ⟨r, st', h, hv, -, -, hsteps⟩
    · simp [accepted, hsteps] at ha
    · have hprior := prior_of_reply hro h
      rw [hprior] at hv hsteps
      rw [accepted_of_steps hsteps] at ha ⊢
      cases i with
      | zero =>
        obtain rfl : q' = q := Option.some.inj hq
        obtain rfl : r.answer = answer := Option.some.inj ha
        subst hprior
        exact ⟨⟨st, congrArg Prod.fst h⟩, hv⟩
      | succ i => exact ih hq ha

/-- There are no more accepted answers than questions. -/
lemma length_accepted_le : (accepted provider x qs st prior).length ≤ qs.length := by
  induction qs generalizing st prior with
  | nil => simp [accepted, steps]
  | cons q qs ih =>
    rcases askAll_cons_cases provider x q qs st prior with
      ⟨e, -, -, -, hsteps⟩ | ⟨r, st', -, -, -, -, hsteps⟩
    · simp [accepted, hsteps]
    · rw [accepted_of_steps hsteps]
      exact Nat.succ_le_succ ih

/-- **A dialogue that does not accept all answers** ends at the question after the last accepted
one. -/
lemma stopsAt_of_lt (hro : provider.ReadOnly)
    (hlt : (accepted provider x qs st prior).length < qs.length) :
    ∃ q e, qs[(accepted provider x qs st prior).length]? = some q ∧
      (askAll provider x qs st prior).result = .error e ∧
      StopsAt provider x q (recordFrom prior qs (accepted provider x qs st prior)) e := by
  induction qs generalizing st prior with
  | nil => simp at hlt
  | cons q qs ih =>
    rcases askAll_cons_cases provider x q qs st prior with
      ⟨e, hstop, -, hres, hsteps⟩ | ⟨r, st', h, -, -, hres, hsteps⟩
    · rw [accepted, hsteps]
      exact ⟨q, e, rfl, hres, hstop⟩
    · rw [prior_of_reply hro h] at hres hsteps
      rw [accepted_of_steps hsteps] at hlt ⊢
      rw [hres]
      exact ih (Nat.lt_of_succ_lt_succ hlt)

/-- **A dialogue that accepts all answers** ends with their record. -/
lemma result_of_length_eq (hro : provider.ReadOnly)
    (heq : (accepted provider x qs st prior).length = qs.length) :
    (askAll provider x qs st prior).result =
      .ok (recordFrom prior qs (accepted provider x qs st prior)) := by
  induction qs generalizing st prior with
  | nil => rfl
  | cons q qs ih =>
    rcases askAll_cons_cases provider x q qs st prior with
      ⟨e, -, -, -, hsteps⟩ | ⟨r, st', h, -, -, hres, hsteps⟩
    · simp [accepted, hsteps] at heq
    · rw [prior_of_reply hro h] at hres hsteps
      rw [accepted_of_steps hsteps] at heq ⊢
      rw [hres, ih (Nat.succ.inj heq)]
      rfl

/-- The entries of the record of answers to questions with distinct ids. -/
lemma entries_recordFrom {answers : List α}
    (hnodup : (prior.entries.map Prod.fst ++ qs.map Question.id).Nodup) :
    (recordFrom prior qs answers).entries =
      prior.entries ++ (qs.map Question.id).zip answers := by
  induction qs generalizing prior answers with
  | nil => simp [recordFrom]
  | cons q qs ih =>
    cases answers with
    | nil => simp [recordFrom]
    | cons a answers =>
      have hnew : q.id ∉ prior.entries.map Prod.fst := fun hm =>
        (List.nodup_append.mp hnodup).2.2 q.id hm q.id (by simp) rfl
      have hins : (prior.insert q.id a).entries = prior.entries ++ [(q.id, a)] :=
        Dict.insertEntry_of_not_mem a hnew
      have hrec : recordFrom prior (q :: qs) (a :: answers) =
          recordFrom (prior.insert q.id a) qs answers := rfl
      rw [hrec, ih (by rw [hins]; simpa using hnodup), hins]
      simp

/-! ## Providers that write to the record -/

/-- Each reply leaves the answers to the questions before it as they are. -/
def KeepsAnswers (steps : List (Step κ χ α ε)) : Prop :=
  ∀ earlier s later, steps = earlier ++ s :: later →
    ∀ k ∈ earlier.map fun e => e.question.id, s.reply.prior.get? k = s.before.get? k

/-- The replies of the steps are those to their questions. -/
lemma reply_of_mem_steps {s : Step κ χ α ε} (h : s ∈ steps provider x qs st prior) :
    ∃ st', (reply provider x s.question st' s.before).1 = .ok s.reply := by
  induction qs generalizing st prior with
  | nil => simp [steps] at h
  | cons q qs ih =>
    rcases askAll_cons_cases provider x q qs st prior with
      ⟨e, -, -, -, hsteps⟩ | ⟨r, st', hr, -, -, -, hsteps⟩
    · simp [hsteps] at h
    · rw [hsteps] at h
      rcases List.mem_cons.mp h with rfl | h
      · exact ⟨st, congrArg Prod.fst hr⟩
      · exact ih h

/-- Accepted answers are valid in the context of the record that the reply leaves. -/
lemma validateAnswer_of_mem_steps {s : Step κ χ α ε} (h : s ∈ steps provider x qs st prior) :
    s.question.validateAnswer s.reply.answer x s.reply.prior = .ok () := by
  induction qs generalizing st prior with
  | nil => simp [steps] at h
  | cons q qs ih =>
    rcases askAll_cons_cases provider x q qs st prior with
      ⟨e, -, -, -, hsteps⟩ | ⟨r, st', -, hv, -, -, hsteps⟩
    · simp [hsteps] at h
    · rw [hsteps] at h
      rcases List.mem_cons.mp h with rfl | h
      · exact hv
      · exact ih h

/-- The steps are about the first of the questions, in order. -/
lemma question_isPrefix :
    (steps provider x qs st prior).map Step.question <+: qs := by
  induction qs generalizing st prior with
  | nil => simp [steps]
  | cons q qs ih =>
    rcases askAll_cons_cases provider x q qs st prior with
      ⟨e, -, -, -, hsteps⟩ | ⟨r, st', -, -, -, -, hsteps⟩
    · simp [hsteps]
    · rw [hsteps, List.map_cons]
      exact (List.prefix_cons_inj q).mpr ih

/-- The first step is taken from the record that the dialogue begins with. -/
lemma before_of_cons {s : Step κ χ α ε} {later : List (Step κ χ α ε)}
    (h : steps provider x qs st prior = s :: later) : s.before = prior := by
  cases qs with
  | nil => simp [steps] at h
  | cons q qs =>
    rcases askAll_cons_cases provider x q qs st prior with
      ⟨e, -, -, -, hsteps⟩ | ⟨r, st', -, -, -, -, hsteps⟩
    · simp [hsteps] at h
    · cases hsteps.symm.trans h
      rfl

/-- A step is taken from the record after the step before it. -/
lemma before_eq_after {earlier later : List (Step κ χ α ε)} {s t : Step κ χ α ε}
    (h : steps provider x qs st prior = earlier ++ s :: t :: later) : t.before = s.after := by
  induction qs generalizing st prior earlier with
  | nil => simp [steps] at h
  | cons q qs ih =>
    rcases askAll_cons_cases provider x q qs st prior with
      ⟨e, -, -, -, hsteps⟩ | ⟨r, st', -, -, -, -, hsteps⟩
    · simp [hsteps] at h
    · rw [hsteps] at h
      cases earlier with
      | nil =>
        obtain ⟨rfl, hrest⟩ := List.cons.inj h
        exact before_of_cons hrest
      | cons e earlier => exact ih (List.cons.inj h).2

/-- No question comes up twice. -/
lemma id_ne_of_mem_earlier (hnodup : (qs.map Question.id).Nodup)
    {earlier later : List (Step κ χ α ε)} {s : Step κ χ α ε}
    (h : steps provider x qs st prior = earlier ++ s :: later) {k : κ}
    (hk : k ∈ earlier.map fun e => e.question.id) : k ≠ s.question.id := by
  have hfirst : (steps provider x qs st prior).map Step.question <+: qs := question_isPrefix
  have hids := (hfirst.sublist.map Question.id).nodup hnodup
  rw [h, List.map_map, List.map_append] at hids
  exact (List.nodup_append.mp hids).2.2 k hk _ (by simp)

/-- **An accepted answer stays recorded**, as long as the replies leave it alone.

**Proof sketch.** Induction on the steps before. The reply leaves the answers recorded before the
step as they are, and writing the new answer does not touch them, since no question comes up
twice. -/
lemma get?_after (hnodup : (qs.map Question.id).Nodup)
    (hkeep : KeepsAnswers (steps provider x qs st prior))
    {earlier later : List (Step κ χ α ε)} {s : Step κ χ α ε}
    (h : steps provider x qs st prior = earlier ++ s :: later) :
    ∀ t ∈ earlier ++ [s], s.after.get? t.question.id = some t.reply.answer := by
  induction earlier using List.reverseRecOn generalizing s later with
  | nil =>
    intro t ht
    obtain rfl := List.mem_singleton.mp ht
    rw [Step.after, Dict.get?_insert, if_pos rfl]
  | append_singleton earlier p ih =>
    intro t ht
    rcases List.mem_append.mp ht with ht | ht
    · have hbefore : s.before = p.after :=
        before_eq_after (h.trans (List.append_assoc earlier [p] (s :: later)))
      have hne : t.question.id ≠ s.question.id :=
        id_ne_of_mem_earlier hnodup h (List.mem_map_of_mem ht)
      rw [Step.after, Dict.get?_insert, if_neg hne,
        hkeep _ s later h _ (List.mem_map_of_mem ht), hbefore]
      exact ih (h.trans (List.append_assoc earlier [p] (s :: later))) t ht
    · obtain rfl := List.mem_singleton.mp ht
      rw [Step.after, Dict.get?_insert, if_pos rfl]

/-- A dialogue that succeeds has a step for each question. -/
lemma question_steps_of_ok (h : (askAll provider x qs st prior).result = .ok final) :
    (steps provider x qs st prior).map Step.question = qs := by
  induction qs generalizing st prior with
  | nil => rfl
  | cons q qs ih =>
    rcases askAll_cons_cases provider x q qs st prior with
      ⟨e, -, -, hres, -⟩ | ⟨r, st', -, -, -, hres, hsteps⟩
    · cases hres.symm.trans h
    · rw [hsteps, List.map_cons, ih (hres.symm.trans h)]

/-- A dialogue that succeeds ends with the record after its last step. -/
lemma eq_after_of_ok {earlier : List (Step κ χ α ε)} {s : Step κ χ α ε}
    (h : (askAll provider x qs st prior).result = .ok final)
    (hs : steps provider x qs st prior = earlier ++ [s]) : final = s.after := by
  induction qs generalizing st prior earlier with
  | nil => simp [steps] at hs
  | cons q qs ih =>
    rcases askAll_cons_cases provider x q qs st prior with
      ⟨e, -, -, -, hsteps⟩ | ⟨r, st', -, -, -, hres, hsteps⟩
    · simp [hsteps] at hs
    · rw [hres] at h
      rw [hsteps] at hs
      cases earlier with
      | nil =>
        obtain ⟨rfl, hnil⟩ := List.cons.inj hs
        have hqs : qs = [] := by rw [← question_steps_of_ok h, hnil, List.map_nil]
        subst hqs
        exact (Except.ok.inj h).symm
      | cons e earlier => exact ih h (List.cons.inj hs).2

/-- A provider that writes to the entry of its own question at most. -/
def Provider.WritesOwn (provider : Provider σ κ χ α δ) : Prop :=
  ∀ st x call reply, (provider st x call).1 = .ok reply →
    ∀ k, k ≠ call.question → reply.prior.get? k = call.prior.get? k

/-- A provider that does not write to the record writes to no entry of it. -/
lemma Provider.ReadOnly.writesOwn (hro : provider.ReadOnly) : provider.WritesOwn := by
  intro st x call reply h k _
  rw [hro st x call reply h]

/-- A provider that writes to the entry of its own question at most keeps the answers. -/
lemma keepsAnswers_of_writesOwn (hown : provider.WritesOwn) (hnodup : (qs.map Question.id).Nodup) :
    KeepsAnswers (steps provider x qs st prior) := by
  intro earlier s later h k hk
  have hne : k ≠ s.question.id := id_ne_of_mem_earlier hnodup h hk
  have hmem : s ∈ steps provider x qs st prior := by simp [h]
  obtain ⟨st', hreply⟩ := reply_of_mem_steps hmem
  unfold reply at hreply
  split at hreply
  · exact hown st' x _ s.reply hreply k hne
  · rw [← Except.ok.inj hreply]

end Dialogue
