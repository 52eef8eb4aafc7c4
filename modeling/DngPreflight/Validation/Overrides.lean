import DngPreflight.Validation.HardStops
import DngPreflight.Models.Factories

set_option relaxedAutoImplicit false
set_option autoImplicit false

/-!
# The validator under overrides

What the validator returns, as a function of the rules that a plan violates and of the override
flags, and what a plan without surviving hard stop is known to satisfy.

## Main definitions

* `DngPreflight.Overridden` — a rule whose own flag is among the overrides.
* `DngPreflight.rulesOf` — the rules of a list of hard stops.

## Main results

* `DngPreflight.returns_iff` — the checks return exactly when the version is a dotted list of
  integer literals.
* `DngPreflight.mem_rulesOf_validatePlan` — the rules that the validator returns.
* `DngPreflight.validatePlan_exact` — the validator under all override sets at once.
* `DngPreflight.dns_evidence_iff` — when the DNS evidence that the validator accepts is about
  the hostname that is deployed.
-/

namespace DngPreflight

open Text Codec

/-! ## What the validator returns -/

/-- The own flag of the rule is among the overrides. -/
def Overridden (overrides : Finset Str) (r : Rule) : Prop :=
  ∃ f ∈ overrides, r.waiver = some f

/-- The rules of a list of hard stops. -/
def rulesOf (out : List HardStop) : List Rule := out.map HardStop.rule

/-- The checks return exactly when the version can be read. -/
lemma returns_iff (c : DngConfig) :
    Gate.Returns c allChecks ↔ ∃ v, versionTuple c.dngVersionMinimum = .ok v := by
  constructor
  · intro h
    obtain ⟨r, hr⟩ := h checkDngVersion (by simp [allChecks])
    unfold checkDngVersion at hr
    split at hr
    · cases hr
    · exact ⟨_, by assumption⟩
  · rintro ⟨v, hv⟩ check hcheck
    obtain ⟨r, -, rfl⟩ : ∃ r ∈ Rule.all, Rule.check r = check := by
      rwa [allChecks_eq, List.mem_map] at hcheck
    have ho := r.outcome_check c
    generalize r.check c = out at ho ⊢
    cases ho with
    | raises _ h =>
      rw [hv] at h
      cases h
    | passes => exact ⟨_, rfl⟩
    | reports => exact ⟨_, rfl⟩

/-- The checks of a derived plan return. -/
lemma returns_buildConfig (s : EnvironmentSnapshot) (a : InterviewAnswers) :
    Gate.Returns (buildConfig s a) allChecks :=
  (returns_iff _).mpr ⟨[3, 3, 0], by simp only [buildConfig]; decide⟩

variable {c : DngConfig} {overrides : Finset Str} {out : List HardStop}

/-- The validator returns if the checks do. -/
lemma exists_validatePlan (h : Gate.Returns c allChecks) (overrides : Finset Str) :
    ∃ out, validatePlan c overrides = .ok out :=
  ⟨_, Gate.run_of_returns h⟩

/-- A violation is waived exactly when its rule is overridden. -/
lemma waived_iff_overridden {r : Rule} {v : HardStop} (h : r.check c = .ok (some v)) :
    Gate.Waived HardStop.waiver overrides v = true ↔ Overridden overrides r := by
  rw [Gate.Waived, (Rule.check_spec h).2, Overridden]
  cases r.waiver <;> simp

/-- The members of the result: the violations reported by the checks of rules that are not
overridden. -/
lemma mem_validatePlan (h : validatePlan c overrides = .ok out) {v : HardStop} :
    v ∈ out ↔ v.rule.check c = .ok (some v) ∧ ¬ Overridden overrides v.rule := by
  rw [Gate.mem_of_run h]
  constructor
  · rintro ⟨⟨check, hcheck, hv⟩, hw⟩
    obtain ⟨r, -, rfl⟩ : ∃ r ∈ Rule.all, Rule.check r = check := by
      rwa [allChecks_eq, List.mem_map] at hcheck
    have hr := (Rule.check_spec hv).1
    subst hr
    refine ⟨hv, fun ho => ?_⟩
    rw [(waived_iff_overridden hv).mpr ho] at hw
    cases hw
  · rintro ⟨hv, ho⟩
    refine ⟨⟨v.rule.check, ?_, hv⟩, ?_⟩
    · rw [allChecks_eq]
      exact List.mem_map_of_mem (Rule.mem_all _)
    · rw [← Bool.not_eq_true]
      exact fun hw => ho ((waived_iff_overridden hv).mp hw)

/-- **The rules that the validator returns** are the rules that the plan violates and that are
not overridden. -/
lemma mem_rulesOf_validatePlan (h : validatePlan c overrides = .ok out) (r : Rule) :
    r ∈ rulesOf out ↔ Violates c r ∧ ¬ Overridden overrides r := by
  rw [rulesOf, List.mem_map]
  constructor
  · rintro ⟨v, hv, rfl⟩
    obtain ⟨hcheck, ho⟩ := (mem_validatePlan h).mp hv
    exact ⟨Rule.check_eq_ok_some_iff.mp ⟨v, hcheck⟩, ho⟩
  · rintro ⟨hviol, ho⟩
    obtain ⟨v, hv⟩ := Rule.check_eq_ok_some_iff.mpr hviol
    have hr := (Rule.check_spec hv).1
    subst hr
    exact ⟨v, (mem_validatePlan h).mpr ⟨hv, ho⟩, rfl⟩

/-- The rules are returned in their order, each at most once. -/
lemma rulesOf_sublist (h : validatePlan c overrides = .ok out) :
    (rulesOf out).Sublist Rule.all := by
  have hall : ∀ l : List Rule,
      ((Gate.violations c (l.map Rule.check)).map HardStop.rule).Sublist l := by
    intro l
    induction l with
    | nil => exact List.Sublist.refl _
    | cons r l ih =>
      simp only [Gate.violations, List.map_cons, List.filterMap_cons] at ih ⊢
      cases hr : Gate.result c r.check with
      | none => exact ih.cons r
      | some v =>
        have hv : r.check c = .ok (some v) := by
          unfold Gate.result at hr
          split at hr
          · rename_i hok
            rw [hok, hr]
          · cases hr
        simp only [List.map_cons, (Rule.check_spec hv).1]
        exact ih.cons_cons r
  rw [rulesOf, Gate.eq_of_run h]
  exact (List.filter_sublist.map _).trans (hall Rule.all)

/-- A plan passes exactly when its version can be read and every rule that it violates is
overridden. -/
lemma validatePlan_eq_nil_iff :
    validatePlan c overrides = .ok [] ↔
      Gate.Returns c allChecks ∧ ∀ r, Violates c r → Overridden overrides r := by
  constructor
  · intro h
    refine ⟨Gate.returns_of_run h, fun r hr => ?_⟩
    by_contra ho
    simpa [rulesOf] using (mem_rulesOf_validatePlan h r).mpr ⟨hr, ho⟩
  · rintro ⟨hret, hall⟩
    obtain ⟨out, hrun⟩ := exists_validatePlan hret overrides
    rw [hrun]
    refine congrArg Except.ok (List.eq_nil_iff_forall_not_mem.mpr fun v hv => ?_)
    obtain ⟨hcheck, ho⟩ := (mem_validatePlan hrun).mp hv
    exact ho (hall _ (Rule.check_eq_ok_some_iff.mp ⟨v, hcheck⟩))

/-- A rule without flag is satisfied by every plan that passes. -/
lemma not_violates_of_validatePlan {r : Rule} (h : validatePlan c overrides = .ok [])
    (hr : r.waiver = none) : ¬ Violates c r := by
  intro hviol
  obtain ⟨f, -, hf⟩ := (validatePlan_eq_nil_iff.mp h).2 r hviol
  rw [hr] at hf
  cases hf

/-! ## All override sets at once -/

/-- **The validator under overrides.** On a plan whose checks return, the validator returns, in
the order of the rules and each at most once, exactly the rules that the plan violates and
whose own flag is not given. A larger override set gives a sublist, a blocking violation is
returned under every override set, a flag hides no rule but its own, and a union of override
sets gives the intersection of the results. The time rule is violated by an offset whose
absolute value is above 30 or that is not a number.

**Proof sketch.** The results for all override sets are filters of one list, the violations
before overrides; the rest is the algebra of waivers of a gate. -/
theorem validatePlan_exact (c : DngConfig) (hc : Gate.Returns c allChecks)
    (overrides : Finset Str) :
    ∃ out, validatePlan c overrides = .ok out ∧
      (rulesOf out).Sublist Rule.all ∧ (rulesOf out).Nodup ∧
      (∀ r, r ∈ rulesOf out ↔ Violates c r ∧ ¬ Overridden overrides r) ∧
      (Violates c .timeOffsetWithin30s ↔ ∃ ts o, c.snapshot.timeSync = .detected ts ∧
        ts.offsetSeconds = some o ∧ (o = .nan ∨ o.absGt 30)) ∧
      ∀ (overrides' : Finset Str) (out' : List HardStop),
        validatePlan c overrides' = .ok out' →
        (overrides ⊆ overrides' → out'.Sublist out) ∧
        (∀ v ∈ out, v.severity = .block → v ∈ out') ∧
        (∀ f, overrides' = insert f overrides →
          ∀ r, r.waiver ≠ some f → (r ∈ rulesOf out' ↔ r ∈ rulesOf out)) ∧
        validatePlan c (overrides ∪ overrides') = .ok (out.filter (· ∈ out')) := by
  obtain ⟨out, hrun⟩ := exists_validatePlan hc overrides
  refine ⟨_, hrun, rulesOf_sublist hrun, (rulesOf_sublist hrun).nodup Rule.nodup_all,
    mem_rulesOf_validatePlan hrun, ?_, fun overrides' out' h' => ⟨?_, ?_, ?_, ?_⟩⟩
  · simp only [Violates, Bool.not_eq_true, PyFloat.absLe_eq_false_iff]
  · exact fun hsub => Gate.sublist_of_subset hsub hrun h'
  · intro v hv hblock
    have hw : v.waiver = none := by rw [HardStop.waiver, hblock]
    exact (Gate.mem_iff_of_flag_none hw hrun h').mp hv
  · rintro f rfl r hr
    have hiff : Overridden (insert f overrides) r ↔ Overridden overrides r := by
      simp only [Overridden, Finset.mem_insert, exists_eq_or_imp]
      exact or_iff_right hr
    rw [mem_rulesOf_validatePlan h', mem_rulesOf_validatePlan hrun, hiff]
  · exact Gate.run_union hrun h'

/-- The hypotheses hold of the sample plan. -/
theorem validatePlan_exact_sample :
    ∃ out, validatePlan (buildConfig (makeSnapshot {}) (makeAnswers {})) {skipTimeCheck} =
      .ok out ∧ (rulesOf out).Nodup := by
  obtain ⟨out, h, -, hnodup, -⟩ :=
    validatePlan_exact (buildConfig (makeSnapshot {}) (makeAnswers {}))
      (returns_buildConfig _ _) {skipTimeCheck}
  exact ⟨out, h, hnodup⟩

/-- A plan whose time offset is not a number. -/
def nanOffsetPlan : DngConfig :=
  buildConfig (makeSnapshot { timeOffsetSeconds := some .nan }) (makeAnswers {})

/-- The time rule fires on an offset that is not a number, although its absolute value is not
above 30. -/
theorem nanOffset_reported :
    (validatePlan nanOffsetPlan ∅).map rulesOf = .ok [.timeOffsetWithin30s] ∧
      ¬ ∃ ts o, nanOffsetPlan.snapshot.timeSync = .detected ts ∧ ts.offsetSeconds = some o ∧
        o.absGt 30 := by
  refine ⟨by decide, ?_⟩
  rintro ⟨ts, o, hts, ho, hgt⟩
  cases hts
  cases ho
  exact absurd hgt (by decide)

/-! ## The DNS evidence -/

/-- The hostname rule is satisfied exactly when some resolver returned records. -/
lemma violates_publicHostname_iff (c : DngConfig) :
    Violates c .publicHostnameMustResolve ↔ c.snapshot.dns.resolves = false :=
  (DnsResolution.resolves_eq_false_iff _).symm

/-- If the validator reports no hostname violation on the derived plan, the DNS records in the
snapshot are about the hostname of the answers, and some resolver returned one. -/
def DnsEvidence (s : EnvironmentSnapshot) (a : InterviewAnswers) (overrides : Finset Str) :
    Prop :=
  ∀ out, validatePlan (buildConfig s a) overrides = .ok out →
    Rule.publicHostnameMustResolve ∉ rulesOf out →
    s.dns.hostname = a.publicHostname ∧
      ∃ ips ∈ s.dns.aRecords.values ++ s.dns.aaaaRecords.values, ips ≠ []

/-- **When the DNS evidence is about the deployed hostname**: exactly when the inspected
hostname is the one in the answers, or nothing resolved at all (so that the rule fires).

**Proof sketch.** The rule reads the records and never the hostname they are for: it passes
exactly when some list of records is nonempty, whatever the answers say. -/
theorem dns_evidence_iff (s : EnvironmentSnapshot) (a : InterviewAnswers)
    (overrides : Finset Str) :
    DnsEvidence s a overrides ↔
      s.dns.hostname = a.publicHostname ∨
        ∀ ips ∈ s.dns.aRecords.values ++ s.dns.aaaaRecords.values, ips = [] := by
  obtain ⟨out, hrun⟩ := exists_validatePlan (returns_buildConfig s a) overrides
  have hno : ¬ Overridden overrides .publicHostnameMustResolve := by
    rintro ⟨f, -, hf⟩
    cases hf
  have hmem := mem_rulesOf_validatePlan hrun .publicHostnameMustResolve
  constructor
  · intro h
    by_cases hviol : Violates (buildConfig s a) .publicHostnameMustResolve
    · exact Or.inr hviol
    · exact Or.inl (h _ hrun fun hm => hviol (hmem.mp hm).1).1
  · rintro h out' hout hpass
    obtain rfl : out = out' := Except.ok.inj (hrun.symm.trans hout)
    have hnot : ¬ Violates (buildConfig s a) .publicHostnameMustResolve :=
      fun hviol => hpass (hmem.mpr ⟨hviol, hno⟩)
    have hsome : ∃ ips ∈ s.dns.aRecords.values ++ s.dns.aaaaRecords.values, ips ≠ [] := by
      by_contra hall
      push Not at hall
      exact hnot hall
    rcases h with h | h
    · exact ⟨h, hsome⟩
    · exact absurd h hnot

/-- The sample plan passes. -/
lemma validatePlan_sample :
    validatePlan (buildConfig (makeSnapshot {}) (makeAnswers {})) ∅ = .ok [] := by decide +kernel

/-- So it does with another hostname, which no rule looks at unless it is violated. -/
lemma validatePlan_sample_hostname (hostname : Str) :
    validatePlan (buildConfig (makeSnapshot {}) (makeAnswers { publicHostname := hostname })) ∅ =
      .ok [] := validatePlan_sample

/-- The inspected hostname resolves, the answers name another one, and the validator passes. -/
theorem dns_evidence_other_hostname :
    validatePlan (buildConfig (makeSnapshot {})
        (makeAnswers { publicHostname := "gateway.example.net" })) ∅ = .ok [] ∧
      ¬ DnsEvidence (makeSnapshot {}) (makeAnswers { publicHostname := "gateway.example.net" })
        ∅ := by
  refine ⟨validatePlan_sample_hostname _, fun h => ?_⟩
  exact absurd (h [] (validatePlan_sample_hostname _) (by decide)).1 (by decide)

end DngPreflight
