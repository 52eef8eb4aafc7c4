import DngPreflight.Interview.Engine

set_option relaxedAutoImplicit false
set_option autoImplicit false

/-!
# Coherence of plans

The derived flag of a plan and the RDP relays in it agree with the deployment scope if the plan
comes from an interview. A plan that was edited after it had been saved need not be coherent:
neither loading nor the rules look at these fields.

## Main definitions

* `DngPreflight.DngConfig.edit` — the plan with another derived flag and other seed apps.

## Main results

* `DngPreflight.Interview.coherent_or_edited` — plans from interviews are coherent, and edited
  plans load and pass like the plans that they were edited from.
-/

namespace DngPreflight

open Text Codec

/-- The plan with another derived flag and other seed apps, as an editor may leave it. -/
def DngConfig.edit (c : DngConfig) (flag : Bool) (apps : SeedApps) : DngConfig :=
  { c with answers := { c.answers with seedApps := apps }, requiresExtraDnsContainer := flag }

/-- No rule looks at the derived flag or at the seed apps. -/
lemma validatePlan_edit (c : DngConfig) (flag : Bool) (apps : SeedApps) (overrides : Finset Str) :
    validatePlan (c.edit flag apps) overrides = validatePlan c overrides := rfl

/-- An edited plan reads back. -/
lemma DngConfig.modelValidate_modelDump_edit (L : Leaves) {c : DngConfig}
    (hanswers : c.answers.Validated) (hstore : c.snapshot.Storable) (flag : Bool)
    (apps : SeedApps) :
    DngConfig.modelValidate L (c.edit flag apps).modelDump = some (c.edit flag apps) :=
  DngConfig.modelValidate_modelDump L hanswers hstore

namespace Interview

variable {σ δ : Type}

/-- **Plans from interviews are coherent**, if the answer about the scope does not compare equal to
both scopes, and they are loaded as they are after they have been saved, if their snapshot is
storable. **Edited plans** load, and the rules decide about them as about the plan before, whatever
flag and seed apps have been put in.

**Proof sketch.** The flag is derived from the scope, and the question about seed apps accepts RDP
relays in the RDP/SMB scope only. The rules read neither field. -/
theorem coherent_or_edited (L : Leaves) :
    (∀ (provider : AnswersProvider σ δ) (st : σ) (snapshot : EnvironmentSnapshot)
      (answers : InterviewAnswers), provider.ReadOnly →
      run L snapshot provider st = .ok answers →
        (TellsOneScope provider snapshot st → (buildConfig snapshot answers).Coherent) ∧
        (snapshot.Storable → DngConfig.modelValidate L (buildConfig snapshot answers).modelDump =
          some (buildConfig snapshot answers))) ∧
    ∀ (c : DngConfig) (overrides : Finset Str), c.answers.Validated → c.snapshot.Storable →
      ∀ (flag : Bool) (apps : SeedApps),
        DngConfig.modelValidate L (c.edit flag apps).modelDump = some (c.edit flag apps) ∧
        validatePlan (c.edit flag apps) overrides = validatePlan c overrides := by
  refine ⟨fun provider st snapshot answers hro h => ?_,
    fun c overrides hanswers hstore flag apps =>
      ⟨DngConfig.modelValidate_modelDump_edit L hanswers hstore flag apps,
        validatePlan_edit c flag apps overrides⟩⟩
  obtain ⟨prior, hprior, hfields⟩ := exists_of_run h
  refine ⟨fun hone => ?_, fun hstore => ?_⟩
  · exact coherent_buildConfig snapshot
      (relaysInScope_of_run hro hone hprior (readFrom_of_ofFields hfields))
  · exact DngConfig.modelValidate_modelDump L (InterviewAnswers.validated_of_ofFields L hfields)
      hstore

/-- The plan of the canned interview is coherent, and reads back. -/
theorem coherent_or_edited_canned :
    ∃ answers, run .strict (makeSnapshot {}) cannedProvider () = .ok answers ∧
      (buildConfig (makeSnapshot {}) answers).Coherent ∧
      DngConfig.modelValidate .strict (buildConfig (makeSnapshot {}) answers).modelDump =
        some (buildConfig (makeSnapshot {}) answers) := by
  have h : ∃ answers, run .strict (makeSnapshot {}) cannedProvider () = .ok answers := ⟨_, rfl⟩
  obtain ⟨answers, hrun⟩ := h
  obtain ⟨hcoherent, hround⟩ :=
    (coherent_or_edited .strict).1 cannedProvider () _ answers cannedProvider_readOnly hrun
  exact ⟨answers, hrun, hcoherent tellsOneScope_canned, hround (storable_sample false)⟩

/-- The sample plan with the flag set and with an RDP relay, although its scope is the other
one. -/
def editedPlan : DngConfig :=
  (buildConfig (makeSnapshot {}) (makeAnswers {})).edit true (stubApps 0 0 1)

/-- The edited plan loads and passes, and both parts of coherence fail. -/
theorem editedPlan_not_coherent :
    DngConfig.modelValidate .strict editedPlan.modelDump = some editedPlan ∧
      validatePlan editedPlan ∅ = .ok [] ∧ ¬ editedPlan.Coherent ∧
      ¬ editedPlan.answers.RelaysInScope ∧
      ¬ (editedPlan.requiresExtraDnsContainer = true ↔
        editedPlan.answers.deploymentScope = .webSshRdpSmb) := by
  refine ⟨?_, by decide +kernel, by decide, by decide, by decide⟩
  refine DngConfig.modelValidate_modelDump_edit .strict ?_ (storable_sample false) true
    (stubApps 0 0 1)
  intro lb hlb
  cases hlb

end Interview

end DngPreflight
