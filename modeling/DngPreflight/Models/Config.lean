import DngPreflight.Models.Snapshot
import DngPreflight.Models.Answers

set_option relaxedAutoImplicit false
set_option autoImplicit false

/-!
# The plan

The single input of every generator: the snapshot, the answers, and the fields derived from
them.

## Main definitions

* `DngPreflight.DngConfig` — the plan.
* `DngPreflight.buildConfig` — derive the plan from a snapshot and interview answers.
* `DngPreflight.DngConfig.Coherent` — the derived fields and the seed apps agree with the
  deployment scope.

## Main results

* `DngPreflight.coherent_buildConfig` — a derived plan is coherent, if the answers have RDP
  relays only in the RDP/SMB scope.
-/

namespace DngPreflight

open Text

/-- The oldest supported version. -/
def dngMinVersion : Str := "3.3.0"

/-- The input of every generator. -/
structure DngConfig where
  snapshot : EnvironmentSnapshot
  answers : InterviewAnswers
  requiresExtraDnsContainer : Bool
  dngVersionMinimum : Str
  deriving DecidableEq

/-- Derive a plan from a snapshot and interview answers. -/
def buildConfig (snapshot : EnvironmentSnapshot) (answers : InterviewAnswers) : DngConfig where
  snapshot := snapshot
  answers := answers
  requiresExtraDnsContainer := answers.deploymentScope = .webSshRdpSmb
  dngVersionMinimum := dngMinVersion

/-- RDP relays are seeded in the RDP/SMB scope only. -/
def InterviewAnswers.RelaysInScope (a : InterviewAnswers) : Prop :=
  a.seedApps.rdpRelays ≠ [] → a.deploymentScope = .webSshRdpSmb

/-- The rule is decided by the relays and the scope. -/
instance (a : InterviewAnswers) : Decidable a.RelaysInScope :=
  inferInstanceAs (Decidable (_ → _))

/-- The derived flag is the one `buildConfig` derives, and RDP relays are seeded in the RDP/SMB
scope only. -/
def DngConfig.Coherent (c : DngConfig) : Prop :=
  (c.requiresExtraDnsContainer = true ↔ c.answers.deploymentScope = .webSshRdpSmb) ∧
    c.answers.RelaysInScope

/-- Coherence is decided rule by rule. -/
instance (c : DngConfig) : Decidable c.Coherent := inferInstanceAs (Decidable (_ ∧ _))

/-- A derived plan is coherent, if its answers keep RDP relays in scope. -/
lemma coherent_buildConfig (snapshot : EnvironmentSnapshot) {answers : InterviewAnswers}
    (h : answers.RelaysInScope) : (buildConfig snapshot answers).Coherent :=
  ⟨by simp [buildConfig], h⟩

end DngPreflight
