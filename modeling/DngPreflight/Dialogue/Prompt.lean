import DngPreflight.Dialogue.Trace

set_option relaxedAutoImplicit false
set_option autoImplicit false

/-!
# Prompts

A prompt consumes what is typed, item by item, and returns a value or raises an error. There are
three rules for each way to build prompts: what is typed so that a value is returned, and what is
known of every value that is returned and of every error that is raised.

## Main definitions

* `Dialogue.Prompt` — prompts, a monad.
* `Dialogue.Prompt.Consumes`, `Dialogue.Prompt.Ensures`, `Dialogue.Prompt.Raises` — the rules.
* `Dialogue.Replies` — the provider's replies to all questions are accepted.

## Main results

* `Dialogue.replies_iff` — when a dialogue under a read-only provider succeeds.
-/

namespace Dialogue

variable {τ ε α β : Type}

/-! ## Prompts -/

/-- A prompt: from what will be typed to a value or an error, and what is left. -/
def Prompt (τ ε α : Type) := List τ → Except ε α × List τ

namespace Prompt

/-- Return a value without a prompt. -/
def pure (a : α) : Prompt τ ε α := fun ts => (.ok a, ts)

/-- Raise an error. -/
def raise (e : ε) : Prompt τ ε α := fun ts => (.error e, ts)

/-- One prompt after the other. -/
def bind (p : Prompt τ ε α) (f : α → Prompt τ ε β) : Prompt τ ε β := fun ts =>
  match p ts with
  | (.ok a, ts') => f a ts'
  | (.error e, ts') => (.error e, ts')

/-- A prompt that is followed by another one asks first for what the first one asks for. -/
instance : Monad (Prompt τ ε) where
  pure := pure
  bind := bind

/-- Take one item. The first error is raised if there is none, and that of the item if it cannot be
read. -/
def take (e : ε) (refuse : τ → ε) (read : τ → Option α) : Prompt τ ε α
  | [] => (.error e, [])
  | t :: ts =>
    match read t with
    | some a => (.ok a, ts)
    | none => (.error (refuse t), ts)

/-- Return a value that is there, or raise. -/
def orRaise (e : ε) : Option α → Prompt τ ε α
  | some a => pure a
  | none => raise e

/-! ### What is typed -/

/-- The prompt consumes exactly these items, whatever follows them, and returns the value. -/
def Consumes (p : Prompt τ ε α) (ts : List τ) (a : α) : Prop :=
  ∀ rest, p (ts ++ rest) = (.ok a, rest)

/-- Nothing is consumed. -/
lemma Consumes.pure (a : α) : Consumes (Pure.pure a : Prompt τ ε α) [] a := fun _ => rfl

/-- An item that can be read is consumed. -/
lemma Consumes.take {e : ε} {refuse : τ → ε} {read : τ → Option α} {t : τ} {a : α}
    (h : read t = some a) : Consumes (take e refuse read) [t] a := by
  intro rest
  show (match read t with
    | some a => (Except.ok a, rest)
    | none => (.error (refuse t), rest)) = _
  rw [h]

/-- A value that is there is returned without a prompt. -/
lemma Consumes.orRaise {e : ε} {x : Option α} {a : α} (h : x = some a) :
    Consumes (orRaise e x : Prompt τ ε α) [] a := by
  subst h
  exact fun _ => rfl

/-- Two prompts consume their items one after the other. -/
lemma Consumes.bind {p : Prompt τ ε α} {f : α → Prompt τ ε β} {ts ts' : List τ} {a : α} {b : β}
    (hp : Consumes p ts a) (hf : Consumes (f a) ts' b) : Consumes (p >>= f) (ts ++ ts') b := by
  intro rest
  show (match p (ts ++ ts' ++ rest) with
    | (.ok a, us) => f a us
    | (.error e, us) => (.error e, us)) = _
  rw [List.append_assoc, hp]
  exact hf rest

/-- The first prompt consumes one item. -/
lemma Consumes.cons {p : Prompt τ ε α} {f : α → Prompt τ ε β} {t : τ} {ts : List τ} {a : α}
    {b : β} (hp : Consumes p [t] a) (hf : Consumes (f a) ts b) :
    Consumes (p >>= f) (t :: ts) b := hp.bind hf

/-- The first prompt consumes nothing. -/
lemma Consumes.silent {p : Prompt τ ε α} {f : α → Prompt τ ε β} {ts : List τ} {a : α} {b : β}
    (hp : Consumes p [] a) (hf : Consumes (f a) ts b) : Consumes (p >>= f) ts b := hp.bind hf

/-- A prompt whose value is mapped consumes the same items. -/
lemma Consumes.map {p : Prompt τ ε α} {ts : List τ} {a : α} (f : α → β) (hp : Consumes p ts a) :
    Consumes (f <$> p) ts (f a) := by
  have hbind := hp.bind (f := fun a => Pure.pure (f a)) (Consumes.pure (f a))
  rw [List.append_nil] at hbind
  exact hbind

/-! ### What is returned -/

/-- Every value that the prompt returns has the property. -/
def Ensures (p : Prompt τ ε α) (P : α → Prop) : Prop := ∀ ts a ts', p ts = (.ok a, ts') → P a

variable {P : α → Prop} {Q : β → Prop}

/-- The value that is returned is known. -/
lemma Ensures.pure {a : α} (h : P a) : Ensures (Pure.pure a : Prompt τ ε α) P := by
  rintro ts _ _ ⟨⟩
  exact h

/-- No value is returned. -/
lemma Ensures.raise (e : ε) : Ensures (raise e : Prompt τ ε α) P := by
  rintro ts _ _ ⟨⟩

/-- The value was read from an item. -/
lemma Ensures.take {e : ε} {refuse : τ → ε} {read : τ → Option α}
    (h : ∀ t a, read t = some a → P a) : Ensures (take e refuse read) P := by
  intro ts a ts' hp
  cases ts with
  | nil => cases hp
  | cons t ts =>
    cases hread : read t with
    | none =>
      simp only [Prompt.take, hread, Prod.mk.injEq, reduceCtorEq, false_and] at hp
    | some b =>
      simp only [Prompt.take, hread, Prod.mk.injEq, Except.ok.injEq] at hp
      rw [← hp.1]
      exact h t b hread

/-- The value was there. -/
lemma Ensures.orRaise {e : ε} {x : Option α} (h : ∀ a, x = some a → P a) :
    Ensures (orRaise e x : Prompt τ ε α) P := by
  cases x with
  | none => exact Ensures.raise e
  | some a => exact Ensures.pure (h a rfl)

/-- What is known of the first value may be used for the second prompt. -/
lemma Ensures.bind {p : Prompt τ ε α} {f : α → Prompt τ ε β} (hp : Ensures p P)
    (hf : ∀ a, P a → Ensures (f a) Q) : Ensures (p >>= f) Q := by
  intro ts b ts' h
  have hbind : Prompt.bind p f ts = (.ok b, ts') := h
  unfold Prompt.bind at hbind
  split at hbind
  · rename_i a us hret
    exact hf a (hp ts a us hret) us b ts' hbind
  · cases hbind

/-- What is known of a value is known of what it is mapped to. -/
lemma Ensures.map {p : Prompt τ ε α} {f : α → β} (hp : Ensures p fun a => Q (f a)) :
    Ensures (f <$> p) Q := hp.bind fun a h => Ensures.pure (a := f a) h

/-- Nothing is known of a value that is not looked at. -/
lemma Ensures.trivial (p : Prompt τ ε α) : Ensures p fun _ => True := fun _ _ _ _ => True.intro

/-! ### What is raised -/

/-- Every error that the prompt raises has the property. -/
def Raises (p : Prompt τ ε α) (R : ε → Prop) : Prop := ∀ ts e ts', p ts = (.error e, ts') → R e

variable {R : ε → Prop}

/-- Nothing is raised. -/
lemma Raises.pure (a : α) : Raises (Pure.pure a : Prompt τ ε α) R := by
  rintro ts _ _ ⟨⟩

/-- The error that is raised is known. -/
lemma Raises.raise {e : ε} (h : R e) : Raises (raise e : Prompt τ ε α) R := by
  rintro ts _ _ ⟨⟩
  exact h

/-- One of the errors is raised. -/
lemma Raises.take {e : ε} {refuse : τ → ε} {read : τ → Option α} (h : R e)
    (hrefuse : ∀ t, R (refuse t)) : Raises (take e refuse read) R := by
  intro ts e' ts' hp
  cases ts with
  | nil =>
    cases hp
    exact h
  | cons t ts =>
    cases hread : read t with
    | none =>
      simp only [Prompt.take, hread, Prod.mk.injEq, Except.error.injEq] at hp
      rw [← hp.1]
      exact hrefuse t
    | some b =>
      simp only [Prompt.take, hread, Prod.mk.injEq, reduceCtorEq, false_and] at hp

/-- The error is raised if the value is not there. -/
lemma Raises.orRaise {e : ε} (x : Option α) (h : R e) :
    Raises (orRaise e x : Prompt τ ε α) R := by
  cases x with
  | none => exact Raises.raise h
  | some a => exact Raises.pure a

/-- Either prompt raises. -/
lemma Raises.bind {p : Prompt τ ε α} {f : α → Prompt τ ε β} (hp : Raises p R)
    (hf : ∀ a, Raises (f a) R) : Raises (p >>= f) R := by
  intro ts e ts' h
  have hbind : Prompt.bind p f ts = (.error e, ts') := h
  unfold Prompt.bind at hbind
  split at hbind
  · rename_i a us hret
    exact hf a us e ts' hbind
  · rename_i d us herr
    cases hbind
    exact hp ts _ _ herr

/-- A prompt whose value is mapped raises the same errors. -/
lemma Raises.map {p : Prompt τ ε α} {f : α → β} (hp : Raises p R) : Raises (f <$> p) R :=
  hp.bind fun a => Raises.pure (f a)

/-- What is known of the errors may be weakened. -/
lemma Raises.mono {p : Prompt τ ε α} {S : ε → Prop} (hp : Raises p R) (h : ∀ e, R e → S e) :
    Raises p S := fun ts e ts' he => h e (hp ts e ts' he)

end Prompt

/-! ## Dialogues that succeed -/

section Replies

open Codec

variable {κ χ ε δ σ α : Type} [DecidableEq κ]

/-- The provider replies to the questions, one after the other, with answers that are valid. -/
inductive Replies (provider : Provider σ κ χ α δ) (x : χ) :
    List (Question κ χ α ε) → σ → Dict κ α → List α → σ → Prop where
  | nil {st : σ} {prior : Dict κ α} : Replies provider x [] st prior [] st
  | cons {q : Question κ χ α ε} {qs : List (Question κ χ α ε)} {st st' st'' : σ}
      {prior : Dict κ α} {answer : α} {answers : List α}
      (hreply : reply provider x q st prior = (.ok ⟨answer, prior⟩, st'))
      (hvalid : q.validateAnswer answer x prior = .ok ())
      (later : Replies provider x qs st' (prior.insert q.id answer) answers st'') :
      Replies provider x (q :: qs) st prior (answer :: answers) st''

variable {provider : Provider σ κ χ α δ} {x : χ} {qs : List (Question κ χ α ε)} {st : σ}
  {prior : Dict κ α}

/-- The result of a dialogue, by the reply to its first question. -/
lemma result_askAll_cons (provider : Provider σ κ χ α δ) (x : χ) (q : Question κ χ α ε)
    (qs : List (Question κ χ α ε)) (st : σ) (prior : Dict κ α) :
    (askAll provider x (q :: qs) st prior).result =
      match reply provider x q st prior with
      | (.error d, _) => .error (.raised d)
      | (.ok r, st') =>
        match q.validateAnswer r.answer x r.prior with
        | .error e => .error (.invalid e)
        | .ok () => (askAll provider x qs st' (r.prior.insert q.id r.answer)).result := by
  rcases hreply : reply provider x q st prior with ⟨d | r, st'⟩
  · have hresult : (ask provider x q st prior).result = .error (.raised d) := by
      rw [result_ask, hreply]
    simp only [askAll, hresult]
  · have hstate : (ask provider x q st prior).state = st' := by rw [state_ask, hreply]
    cases hvalid : q.validateAnswer r.answer x r.prior with
    | error e =>
      have hresult : (ask provider x q st prior).result = .error (.invalid e) := by
        rw [result_ask, hreply]
        simp only [accept, hvalid]
      simp only [askAll, hresult, hvalid]
    | ok =>
      have hresult : (ask provider x q st prior).result = .ok (r.prior.insert q.id r.answer) := by
        rw [result_ask, hreply]
        simp only [accept, hvalid]
      simp only [askAll, hresult, hstate, hvalid]

/-- The record that the first replies leave. -/
lemma recordFrom_take_zero (answers : List α) :
    recordFrom prior qs (answers.take 0) = prior := by
  rw [List.take_zero, recordFrom, List.zip_nil_right, List.foldl_nil]

/-- **Each reply** is a valid answer in the context of the replies before it. -/
lemma Replies.reply_get {answers : List α} {st' : σ}
    (h : Replies provider x qs st prior answers st') {i : ℕ} {q : Question κ χ α ε} {answer : α}
    (hq : qs[i]? = some q) (ha : answers[i]? = some answer) :
    (∃ st₁ st₂, reply provider x q st₁ (recordFrom prior qs (answers.take i)) =
      (.ok ⟨answer, recordFrom prior qs (answers.take i)⟩, st₂)) ∧
    q.validateAnswer answer x (recordFrom prior qs (answers.take i)) = .ok () := by
  induction h generalizing i with
  | nil => cases hq
  | cons hreply hvalid later ih =>
    cases i with
    | zero =>
      cases hq
      cases ha
      rw [recordFrom_take_zero]
      exact ⟨⟨_, _, hreply⟩, hvalid⟩
    | succ i => exact ih hq ha

/-- There are as many replies as questions. -/
lemma Replies.length_eq {answers : List α} {st' : σ}
    (h : Replies provider x qs st prior answers st') : answers.length = qs.length := by
  induction h with
  | nil => rfl
  | cons hreply hvalid later ih => rw [List.length_cons, List.length_cons, ih]

/-- **A dialogue succeeds** under a read-only provider exactly if the provider replies to all
questions; then the record holds the replies.

**Proof sketch.** Induction on the questions. -/
theorem replies_iff (hro : provider.ReadOnly) {final : Dict κ α} :
    (askAll provider x qs st prior).result = .ok final ↔
      ∃ answers st', Replies provider x qs st prior answers st' ∧
        final = recordFrom prior qs answers := by
  induction qs generalizing st prior with
  | nil =>
    constructor
    · intro h
      exact ⟨[], st, .nil, (Except.ok.inj h).symm⟩
    · rintro ⟨answers, st', h, rfl⟩
      cases h
      rfl
  | cons q qs ih =>
    rw [result_askAll_cons]
    constructor
    · intro h
      split at h
      · cases h
      · rename_i r st' hreply
        obtain ⟨answer, prior'⟩ := r
        obtain rfl : prior' = prior := prior_of_reply hro hreply
        split at h
        · cases h
        · rename_i hvalid
          obtain ⟨answers, st'', hlater, rfl⟩ := ih.mp h
          exact ⟨answer :: answers, st'', .cons hreply hvalid hlater, rfl⟩
    · rintro ⟨answers, st'', h, rfl⟩
      cases h with
      | cons hreply hvalid later =>
        simp only [hreply, hvalid]
        exact ih.mpr ⟨_, st'', later, rfl⟩

end Replies

end Dialogue
