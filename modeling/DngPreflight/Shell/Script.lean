import Mathlib.Data.List.Basic

set_option relaxedAutoImplicit false
set_option autoImplicit false

/-!
# Scripts that stop at the first failure

The functions of a shell script that runs under `set -e`: each changes a state, and either
succeeds or ends the script. A script calls its functions one after the other until one of them
ends it.

## Main definitions

* `Shell.Action` — a function of a script.
* `Shell.Action.sequence` — call functions one after the other.

## Main results

* `Shell.Action.sequence_cons_eq_ok_iff` — when a script succeeds.
-/

namespace Shell

variable {σ ε : Type}

/-- A function of a script: whether it succeeds, and the state that it leaves in either case. -/
abbrev Action (σ ε : Type) := σ → Except ε Unit × σ

namespace Action

/-- A test that does not change the state. -/
def check (e : Except ε Unit) : Action σ ε := fun s => (e, s)

/-- Call functions one after the other, up to the first that fails. -/
def sequence : List (Action σ ε) → Action σ ε
  | [], s => (.ok (), s)
  | a :: as, s =>
    match a s with
    | (.ok (), t) => sequence as t
    | (.error e, t) => (.error e, t)

/-- A check succeeds or fails as it is told to. -/
@[simp] lemma check_fst (e : Except ε Unit) (s : σ) : (check e s).1 = e := rfl

/-- A check leaves the state alone. -/
@[simp] lemma check_snd (e : Except ε Unit) (s : σ) : (check e s).2 = s := rfl

/-- A script without actions succeeds and leaves the state alone. -/
@[simp] lemma sequence_nil (s : σ) : sequence ([] : List (Action σ ε)) s = (.ok (), s) := rfl

/-- If a function succeeds, the script goes on from the state that it leaves. -/
lemma sequence_cons_of_ok {a : Action σ ε} {s : σ} (h : (a s).1 = .ok ()) (as : List (Action σ ε)) :
    sequence (a :: as) s = sequence as (a s).2 := by
  rcases ha : a s with ⟨e, t⟩
  rw [ha] at h
  subst h
  rw [sequence, ha]

/-- If a function fails, the script ends with the state that it leaves. -/
lemma sequence_cons_of_error {a : Action σ ε} {s : σ} {e : ε} (h : (a s).1 = .error e)
    (as : List (Action σ ε)) : sequence (a :: as) s = a s := by
  rcases ha : a s with ⟨e', t⟩
  rw [ha] at h
  subst h
  rw [sequence, ha]

/-- A script that begins with a test ends there, or goes on from the same state. -/
lemma sequence_check_cons (e : Except ε Unit) (as : List (Action σ ε)) (s : σ) :
    (e ≠ .ok () ∧ sequence (check e :: as) s = (e, s)) ∨
      (e = .ok () ∧ sequence (check e :: as) s = sequence as s) := by
  cases e with
  | error e => exact Or.inl ⟨nofun, rfl⟩
  | ok u => exact Or.inr ⟨rfl, rfl⟩

/-- **A script succeeds** if its first function does and then the others do. -/
lemma sequence_cons_eq_ok_iff {a : Action σ ε} {as : List (Action σ ε)} {s : σ} :
    (sequence (a :: as) s).1 = .ok () ↔ (a s).1 = .ok () ∧ (sequence as (a s).2).1 = .ok () := by
  cases h : (a s).1 with
  | error e => simp [sequence_cons_of_error h, h]
  | ok u => simp [sequence_cons_of_ok h]

end Action

end Shell
