import Mathlib.Data.List.Basic
import Mathlib.Data.Finset.Basic

set_option relaxedAutoImplicit false
set_option autoImplicit false

/-!
# Gates: ordered checks with waivers

A gate runs a list of checks over an input, in order. A check raises an error, passes, or
returns a violation; a violation may name a flag that waives it, and the gate returns the
violations that the given flags do not waive.

The results of a gate for different sets of flags are filters of one list, the violations
before waivers: the algebra of waivers below (antitone, unions to intersections) is that of
filters.

## Main definitions

* `Gate.Check` — a check; `Gate.result` — the violation it returns, if any.
* `Gate.run` — the gate, with a predicate that says which violations are waived.
* `Gate.Returns` — no check raises.
* `Gate.Waived` — a violation is waived by a set of flags.

## Main results

* `Gate.run_of_returns`, `Gate.returns_of_run` — what a gate returns, and when it returns.
* `Gate.run_of_error` — the first check that raises ends the run.
* `Gate.mem_of_run` — the members of the result.
* `Gate.sublist_of_subset`, `Gate.run_union` — the algebra of waivers.
-/

namespace Gate

variable {γ ε ν φ : Type}

/-- A check: an error, nothing, or a violation. -/
abbrev Check (γ ε ν : Type) := γ → Except ε (Option ν)

/-- The violation that a check returns, if any. -/
def result (x : γ) (check : Check γ ε ν) : Option ν :=
  match check x with
  | .ok r => r
  | .error _ => none

/-- Run the checks in order and collect the violations that are not waived; the first error
ends the run. -/
def run (waived : ν → Bool) (x : γ) : List (Check γ ε ν) → Except ε (List ν)
  | [] => .ok []
  | check :: rest =>
    match check x with
    | .error e => .error e
    | .ok none => run waived x rest
    | .ok (some v) =>
      match run waived x rest with
      | .error e => .error e
      | .ok out => .ok (if waived v then out else v :: out)

/-- No check raises. -/
def Returns (x : γ) (checks : List (Check γ ε ν)) : Prop := ∀ check ∈ checks, ∃ r, check x = .ok r

/-- The violations before waivers. -/
def violations (x : γ) (checks : List (Check γ ε ν)) : List ν := checks.filterMap (result x)

/-- **What a gate returns**: the violations that are not waived, in the order of the checks. -/
lemma run_of_returns {waived : ν → Bool} {x : γ} {checks : List (Check γ ε ν)}
    (h : Returns x checks) :
    run waived x checks = .ok ((violations x checks).filter fun v => ! waived v) := by
  induction checks with
  | nil => rfl
  | cons check rest ih =>
    have ih := ih fun c hc => h c (List.mem_cons_of_mem check hc)
    obtain ⟨r, hr⟩ := h check (by simp)
    cases r with
    | none => simp [run, violations, result, hr, ih]
    | some v =>
      cases hw : waived v <;>
        simp [run, violations, result, hr, ih, hw]

/-- **When a gate returns**: no check raises. -/
lemma returns_of_run {waived : ν → Bool} {x : γ} {checks : List (Check γ ε ν)} {out : List ν}
    (h : run waived x checks = .ok out) : Returns x checks := by
  induction checks generalizing out with
  | nil => simp [Returns]
  | cons check rest ih =>
    have hrest : ∃ out', run waived x rest = .ok out' := by
      unfold run at h
      split at h
      · cases h
      · exact ⟨out, h⟩
      · split at h
        · cases h
        · exact ⟨_, by assumption⟩
    obtain ⟨out', hout'⟩ := hrest
    intro c hc
    rcases List.mem_cons.mp hc with rfl | hc
    · cases hcx : c x with
      | error e => simp [run, hcx] at h
      | ok r => exact ⟨r, rfl⟩
    · exact ih hout' c hc

/-- **When a gate raises**: the first check that raises ends the run, whatever is waived. -/
lemma run_of_error {waived : ν → Bool} {x : γ} {before after : List (Check γ ε ν)}
    {check : Check γ ε ν} {e : ε} (hbefore : Returns x before) (h : check x = .error e) :
    run waived x (before ++ check :: after) = .error e := by
  induction before with
  | nil => simp [run, h]
  | cons c before ih =>
    obtain ⟨r, hr⟩ := hbefore c (by simp)
    have hrest := ih fun d hd => hbefore d (List.mem_cons_of_mem c hd)
    cases r <;> simp [run, hr, hrest]

/-- What a gate that returns has returned. -/
lemma eq_of_run {waived : ν → Bool} {x : γ} {checks : List (Check γ ε ν)} {out : List ν}
    (h : run waived x checks = .ok out) :
    out = (violations x checks).filter fun v => ! waived v := by
  rw [run_of_returns (returns_of_run h)] at h
  exact (Except.ok.inj h).symm

/-- A violation of the result comes from a check and is not waived. -/
lemma mem_of_run {waived : ν → Bool} {x : γ} {checks : List (Check γ ε ν)} {out : List ν}
    (h : run waived x checks = .ok out) {v : ν} :
    v ∈ out ↔ (∃ check ∈ checks, check x = .ok (some v)) ∧ waived v = false := by
  have hcheck : ∀ check ∈ checks, result x check = some v ↔ check x = .ok (some v) := by
    intro check _
    unfold result
    cases check x <;> simp
  rw [eq_of_run h, List.mem_filter, violations, List.mem_filterMap, Bool.not_eq_true']
  exact and_congr_left fun _ => exists_congr fun check => and_congr_right (hcheck check)

/-! ## Waiving by flags -/

section Flags

variable [DecidableEq φ]

/-- A violation is waived by a set of flags: its own flag is in the set. -/
def Waived (flag : ν → Option φ) (flags : Finset φ) (v : ν) : Bool :=
  match flag v with
  | some f => decide (f ∈ flags)
  | none => false

variable {flag : ν → Option φ} {flags flags' : Finset φ} {x : γ} {checks : List (Check γ ε ν)}
  {out out' : List ν}

/-- More flags waive more. -/
lemma Waived.mono (h : flags ⊆ flags') {v : ν} (hv : Waived flag flags v) :
    Waived flag flags' v := by
  unfold Waived at hv ⊢
  split at hv
  · exact decide_eq_true (h (of_decide_eq_true hv))
  · exact hv

/-- A union of flags waives what either set waives. -/
lemma waived_union (v : ν) :
    Waived flag (flags ∪ flags') v = (Waived flag flags v || Waived flag flags' v) := by
  unfold Waived
  cases flag v with
  | none => rfl
  | some f => simp

/-- **Waivers are antitone**: with more flags, a gate returns a sublist. -/
lemma sublist_of_subset (hsub : flags ⊆ flags')
    (h : run (Waived flag flags) x checks = .ok out)
    (h' : run (Waived flag flags') x checks = .ok out') : out'.Sublist out := by
  rw [eq_of_run h, eq_of_run h']
  refine List.monotone_filter_right _ fun v hv => ?_
  simp only [Bool.not_eq_true'] at hv ⊢
  by_contra hw
  rw [Bool.not_eq_false] at hw
  rw [Waived.mono hsub hw] at hv
  cases hv

/-- A violation without a flag is returned whatever the flags. -/
lemma mem_iff_of_flag_none {v : ν} (hv : flag v = none)
    (h : run (Waived flag flags) x checks = .ok out)
    (h' : run (Waived flag flags') x checks = .ok out') : v ∈ out ↔ v ∈ out' := by
  rw [mem_of_run h, mem_of_run h']
  simp [Waived, hv]

/-- **Unions become intersections**: with the flags of two sets, a gate returns the violations
that it returns with each of them. -/
lemma run_union [DecidableEq ν] (h : run (Waived flag flags) x checks = .ok out)
    (h' : run (Waived flag flags') x checks = .ok out') :
    run (Waived flag (flags ∪ flags')) x checks = .ok (out.filter (· ∈ out')) := by
  rw [run_of_returns (returns_of_run h), eq_of_run h, eq_of_run h', List.filter_filter]
  congr 1
  refine List.filter_congr fun v hv => ?_
  simp [waived_union, List.mem_filter, hv, Bool.and_comm]

end Flags

end Gate
