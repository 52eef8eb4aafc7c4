import DngPreflight.Codec.Tree

set_option relaxedAutoImplicit false
set_option autoImplicit false

/-!
# Dialogues

A dialogue asks a list of questions in order. Each question has a default computed from the
answers so far; a question that does not apply takes its default as the answer, any other is
put to a provider. An answer is validated before it is recorded, and the first invalid answer
ends the dialogue.

The provider is an arbitrary stateful function: it may fail, its answers may depend on
everything it has seen, and it may return the record of earlier answers changed.

## Main definitions

* `Dialogue.Question` — a question, by its policy functions.
* `Dialogue.Provider`, `Dialogue.Provider.ReadOnly` — providers, and those that leave the record
  alone.
* `Dialogue.ask`, `Dialogue.askAll` — one question, and all of them in order.

## Main results

* `Dialogue.ask_ok` — what one question records, under a read-only provider.
* `Dialogue.askAll_ok` — what a whole dialogue has recorded: every answer is valid in the
  context of the answers before it, and answers are never changed afterwards.
-/

namespace Dialogue

open Codec

variable {κ χ α ε δ σ : Type} [DecidableEq κ]

/-- A question about a context `χ`, answered by a value of `α`. -/
structure Question (κ χ α ε : Type) where
  id : κ
  defaultFrom : χ → Dict κ α → α
  appliesWhen : χ → Dict κ α → Bool
  validateAnswer : α → χ → Dict κ α → Except ε Unit

/-- A call of the provider: the question, its default, and the answers so far. -/
structure Call (κ α : Type) where
  question : κ
  default : α
  prior : Dict κ α

/-- What a provider returns: an answer, and the record as it leaves it. -/
structure Reply (κ α : Type) where
  answer : α
  prior : Dict κ α

/-- A provider with state `σ`, which may raise an error of `δ`. -/
abbrev Provider (σ κ χ α δ : Type) := σ → χ → Call κ α → Except δ (Reply κ α) × σ

/-- The provider does not write to the record. -/
def Provider.ReadOnly (provider : Provider σ κ χ α δ) : Prop :=
  ∀ st x call reply, (provider st x call).1 = .ok reply → reply.prior = call.prior

/-- Why a dialogue ends early. -/
inductive Failure (ε δ : Type) where
  | invalid (e : ε)
  | raised (d : δ)

/-- A dialogue: the calls made, the provider's state at the end, and the record of answers or
the reason for ending early. -/
structure Run (σ κ α ε δ : Type) where
  calls : List (Call κ α)
  state : σ
  result : Except (Failure ε δ) (Dict κ α)

/-- Validate an answer and record it. -/
def accept (q : Question κ χ α ε) (answer : α) (x : χ) (prior : Dict κ α) :
    Except (Failure ε δ) (Dict κ α) :=
  match q.validateAnswer answer x prior with
  | .error e => .error (.invalid e)
  | .ok () => .ok (prior.insert q.id answer)

/-- The call made for a question. -/
def Question.call (q : Question κ χ α ε) (x : χ) (prior : Dict κ α) : Call κ α :=
  ⟨q.id, q.defaultFrom x prior, prior⟩

/-- Ask one question. -/
def ask (provider : Provider σ κ χ α δ) (x : χ) (q : Question κ χ α ε) (st : σ)
    (prior : Dict κ α) : Run σ κ α ε δ :=
  if q.appliesWhen x prior then
    match provider st x (q.call x prior) with
    | (.error d, st') => ⟨[q.call x prior], st', .error (.raised d)⟩
    | (.ok reply, st') => ⟨[q.call x prior], st', accept q reply.answer x reply.prior⟩
  else ⟨[], st, accept q (q.defaultFrom x prior) x prior⟩

/-- Ask all questions in order. -/
def askAll (provider : Provider σ κ χ α δ) (x : χ) :
    List (Question κ χ α ε) → σ → Dict κ α → Run σ κ α ε δ
  | [], st, prior => ⟨[], st, .ok prior⟩
  | q :: qs, st, prior =>
    let first := ask provider x q st prior
    match first.result with
    | .error e => ⟨first.calls, first.state, .error e⟩
    | .ok prior' =>
      let rest := askAll provider x qs first.state prior'
      ⟨first.calls ++ rest.calls, rest.state, rest.result⟩

/-! ## One question -/

variable {provider : Provider σ κ χ α δ} {x : χ} {q : Question κ χ α ε}
  {qs : List (Question κ χ α ε)} {st : σ} {prior prior' : Dict κ α}

/-- The calls of a question are about it. -/
lemma question_of_mem_ask {call : Call κ α} (h : call ∈ (ask provider x q st prior).calls) :
    call.question = q.id := by
  unfold ask at h
  split at h
  · split at h <;> exact congrArg Call.question (List.mem_singleton.mp h)
  · simp at h

/-- An accepted answer is valid and recorded. -/
lemma accept_ok {answer : α} (h : accept (δ := δ) q answer x prior = .ok prior') :
    q.validateAnswer answer x prior = .ok () ∧ prior' = prior.insert q.id answer := by
  unfold accept at h
  split at h
  · cases h
  · rename_i hv
    exact ⟨hv, (Except.ok.inj h).symm⟩

/-- **What a question records**: a valid answer, which is the default if the question does not
apply; then the provider is not called. -/
lemma ask_ok (hro : provider.ReadOnly) (h : (ask provider x q st prior).result = .ok prior') :
    ∃ answer, prior' = prior.insert q.id answer ∧ q.validateAnswer answer x prior = .ok () ∧
      (q.appliesWhen x prior = false →
        answer = q.defaultFrom x prior ∧ (ask provider x q st prior).calls = []) := by
  unfold ask at h ⊢
  split at h
  · rename_i happ
    split at h
    · cases h
    · rename_i reply st' hreply
      have hprior := hro _ _ _ reply (congrArg Prod.fst hreply)
      rw [Question.call] at hprior
      simp only [hprior] at h
      obtain ⟨hv, hp⟩ := accept_ok h
      exact ⟨reply.answer, hp, hv, fun hn => by rw [hn] at happ; cases happ⟩
  · rename_i happ
    obtain ⟨hv, hp⟩ := accept_ok h
    exact ⟨_, hp, hv, fun _ => ⟨rfl, by simp [happ]⟩⟩

/-! ## All questions -/

/-- The calls of a dialogue are about its questions. -/
lemma question_of_mem_askAll {call : Call κ α}
    (h : call ∈ (askAll provider x qs st prior).calls) : call.question ∈ qs.map Question.id := by
  induction qs generalizing st prior with
  | nil => simp [askAll] at h
  | cons q qs ih =>
    simp only [askAll] at h
    split at h
    · exact List.mem_cons.mpr (Or.inl (question_of_mem_ask h))
    · rcases List.mem_append.mp h with h | h
      · exact List.mem_cons.mpr (Or.inl (question_of_mem_ask h))
      · exact List.mem_cons_of_mem _ (ih h)

/-- What is recorded for a question: the answer that was valid in the context of the answers
before it, and the default, without a call, if the question did not apply. -/
def Recorded (x : χ) (calls : List (Call κ α)) (final : Dict κ α) (q : Question κ χ α ε)
    (later : List (Question κ χ α ε)) : Prop :=
  ∃ before answer, (∀ k, k ∉ (q :: later).map Question.id → before.get? k = final.get? k) ∧
    final.get? q.id = some answer ∧ q.validateAnswer answer x before = .ok () ∧
    (q.appliesWhen x before = false → answer = q.defaultFrom x before ∧
      ∀ call ∈ calls, call.question ≠ q.id)

/-- Calls about other questions, made earlier, change nothing. -/
lemma Recorded.append {calls earlier : List (Call κ α)} {final : Dict κ α}
    {later : List (Question κ χ α ε)} (h : Recorded x calls final q later)
    (hother : ∀ call ∈ earlier, call.question ≠ q.id) :
    Recorded x (earlier ++ calls) final q later := by
  obtain ⟨before, answer, hagree, hget, hvalid, hskip⟩ := h
  refine ⟨before, answer, hagree, hget, hvalid, fun happ => ⟨(hskip happ).1, ?_⟩⟩
  intro call hcall
  rcases List.mem_append.mp hcall with hcall | hcall
  · exact hother call hcall
  · exact (hskip happ).2 call hcall

/-- The first question is recorded, if what comes later leaves its answer alone and makes no call
about it. -/
lemma recorded_of_ask {calls : List (Call κ α)} {final : Dict κ α} (hro : provider.ReadOnly)
    (h : (ask provider x q st prior).result = .ok prior')
    (hkeep : ∀ k, k ∉ (q :: qs).map Question.id → final.get? k = prior.get? k)
    (hanswer : final.get? q.id = prior'.get? q.id)
    (hother : ∀ call ∈ calls, call.question ≠ q.id) :
    Recorded x ((ask provider x q st prior).calls ++ calls) final q qs := by
  obtain ⟨answer, rfl, hvalid, hskip⟩ := ask_ok hro h
  refine ⟨prior, answer, fun k hk => (hkeep k hk).symm, ?_, hvalid, fun happ => ?_⟩
  · rw [hanswer, Dict.get?_insert, if_pos rfl]
  · rw [(hskip happ).2, List.nil_append]
    exact ⟨(hskip happ).1, hother⟩

/-- **What a dialogue has recorded**: for each question an answer that was valid when it was
given, in the context of the final answers to the questions before it.

**Proof sketch.** Induction on the questions. The first one is recorded by `recorded_of_ask`: no
later question has its id, so that neither its answer is overwritten nor is the provider
called for it again. -/
theorem askAll_ok (hro : provider.ReadOnly) (hnodup : (qs.map Question.id).Nodup)
    (h : (askAll provider x qs st prior).result = .ok prior') :
    (∀ k, k ∉ qs.map Question.id → prior'.get? k = prior.get? k) ∧
      ∀ earlier q later, qs = earlier ++ q :: later →
        Recorded x (askAll provider x qs st prior).calls prior' q later := by
  induction qs generalizing st prior with
  | nil =>
    simp only [askAll, Except.ok.injEq] at h
    exact ⟨fun k _ => by rw [h], fun earlier q later he => by simp at he⟩
  | cons q qs ih =>
    simp only [List.map_cons, List.nodup_cons] at hnodup
    simp only [askAll] at h ⊢
    split at h
    · cases h
    · rename_i prior₁ hfirst
      obtain ⟨hframe, hrest⟩ := ih hnodup.2 h
      have hkeep : ∀ k, k ∉ (q :: qs).map Question.id → prior'.get? k = prior.get? k := by
        intro k hk
        obtain ⟨answer, rfl, -, -⟩ := ask_ok hro hfirst
        simp only [List.map_cons, List.mem_cons, not_or] at hk
        rw [hframe k hk.2, Dict.get?_insert, if_neg hk.1]
      refine ⟨hkeep, fun earlier q' later he => ?_⟩
      cases earlier with
      | nil =>
        obtain ⟨rfl, rfl⟩ := List.cons.inj he
        refine recorded_of_ask hro hfirst hkeep (hframe _ hnodup.1) fun call hcall heq => ?_
        exact hnodup.1 (heq ▸ question_of_mem_askAll hcall)
      | cons e earlier =>
        obtain ⟨rfl, rfl⟩ := List.cons.inj he
        refine (hrest earlier q' later rfl).append fun call hcall heq => hnodup.1 ?_
        have hid := question_of_mem_ask hcall
        rw [← hid, heq]
        exact List.mem_map_of_mem (by simp)

end Dialogue
