import DngPreflight.Models.Serialization
import DngPreflight.Validation.Overrides

set_option relaxedAutoImplicit false
set_option autoImplicit false

/-!
# When the validator returns

Of the seven checks, only the one about the version can raise: it converts the parts of the
version to integers, and a plan file may hold any text as its version.

## Main definitions

* `DngPreflight.ValidatorReturns` — the validator returns a list under every override set.

## Main results

* `DngPreflight.validatorReturns_iff` — the validator returns exactly when the parts of the version
  are integer literals.
* `DngPreflight.validatePlan_of_version_error` — otherwise it raises under every override set.
-/

namespace DngPreflight

open Text Codec

/-- The validator returns a list of hard stops, whatever the overrides. -/
def ValidatorReturns (c : DngConfig) : Prop :=
  ∀ overrides, ∃ out, validatePlan c overrides = .ok out

/-- A version can be read exactly when its parts are integer literals. -/
lemma exists_versionTuple_iff (version : Str) :
    (∃ t, versionTuple version = .ok t) ↔ ∀ p ∈ version.splitOn '.', ∃ n, Text.int p = some n := by
  constructor
  · rintro ⟨t, ht⟩ p hp
    obtain ⟨n, hn⟩ := exists_ok_of_mapM ht hp
    split at hn
    · exact ⟨_, by assumption⟩
    · cases hn
  · intro h
    refine exists_mapM_ok fun p hp => ?_
    obtain ⟨n, hn⟩ := h p hp
    exact ⟨n, by rw [hn]⟩

/-- The validator returns exactly when the checks do, since an error is never waived. -/
lemma validatorReturns_iff_returns (c : DngConfig) :
    ValidatorReturns c ↔ Gate.Returns c allChecks := by
  constructor
  · intro h
    obtain ⟨out, hout⟩ := h ∅
    exact Gate.returns_of_run hout
  · intro h overrides
    exact exists_validatePlan h overrides

/-- **When the validator returns**: for every plan, exactly when every part of the version between
its dots is an integer literal.

**Proof sketch.** The first error ends the run whatever the overrides are, and the only check that
can raise is the one that reads the version. -/
theorem validatorReturns_iff (c : DngConfig) :
    ValidatorReturns c ↔
      ∀ p ∈ c.dngVersionMinimum.splitOn '.', ∃ n, Text.int p = some n := by
  rw [validatorReturns_iff_returns, returns_iff, exists_versionTuple_iff]

/-- The version check is the only one that can raise. -/
lemma exists_check_of_ne {r : Rule} (hr : r ≠ .dngVersionMinimum) (c : DngConfig) :
    ∃ o, r.check c = .ok o := by
  have ho := r.outcome_check c
  generalize r.check c = out at ho ⊢
  cases ho with
  | raises hrule => exact absurd hrule hr
  | passes => exact ⟨_, rfl⟩
  | reports => exact ⟨_, rfl⟩

/-- A version that cannot be read ends the validation under every override set, so that no other
violation is reported. -/
lemma validatePlan_of_version_error {c : DngConfig} {e : ValueError}
    (h : versionTuple c.dngVersionMinimum = .error e) (overrides : Finset Str) :
    validatePlan c overrides = .error e := by
  have hbefore : Gate.Returns c ((Rule.all.take 4).map Rule.check) := by
    intro check hcheck
    obtain ⟨r, hr, rfl⟩ := List.mem_map.mp hcheck
    refine exists_check_of_ne ?_ c
    rintro rfl
    exact absurd hr (by decide)
  have hversion : checkDngVersion c = .error e := by rw [checkDngVersion, h]
  exact Gate.run_of_error hbefore hversion

/-- A plan of a domain-joined host, with a version that is no list of numbers. -/
def latestPlan : DngConfig :=
  { buildConfig (makeSnapshot { domainJoined := true }) (makeAnswers {}) with
    dngVersionMinimum := "latest" }

/-- The plan loads; the validator raises under every override set, and so does not report that the
host is domain-joined either. -/
theorem latestPlan_raises :
    DngConfig.modelValidate .strict latestPlan.modelDump = some latestPlan ∧
      (∀ overrides, validatePlan latestPlan overrides = .error ⟨"latest"⟩) ∧
      Violates latestPlan .hostMustNotBeDomainJoined := by
  refine ⟨DngConfig.modelValidate_modelDump .strict ?_ (storable_sample true), ?_, rfl⟩
  · intro lb hlb
    cases hlb
  · exact validatePlan_of_version_error (by decide)

end DngPreflight
