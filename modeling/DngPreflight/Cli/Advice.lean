import DngPreflight.Cli.Pipeline

set_option relaxedAutoImplicit false
set_option autoImplicit false

/-!
# The advice that is printed

A command that is stopped prints a line for every hard stop, and names the flag that overrides it if
there is one. Whether the command succeeds with more flags can be told from these lines.

## Main definitions

* `DngPreflight.Cli.shownFlag` — the flag that a line names.

## Main results

* `DngPreflight.Cli.shownFlag_hardStopLine` — lines name the flags of their rules, and no others.
* `DngPreflight.Cli.rerun_iff` — a command that was stopped succeeds with more flags exactly if
  every line names one of them.
-/

namespace DngPreflight.Cli

open Text Codec Store

/-! ## Lines -/

/-- What stands before the flag at the end of a line. -/
def overrideOpening : Str := " (override: "

/-- The flag in a text of the form ` (override: flag)`. -/
def flagIn (s : Str) : Option Str :=
  if overrideOpening.isPrefixOf s = true ∧ s.getLast? = some ')' then
    some (s.drop overrideOpening.length).dropLast
  else none

/-- The flag that a line names at its end. -/
def shownFlag (line : Line) : Option Str :=
  match line.getLast? with
  | some (.text s) => flagIn s
  | _ => none

/-- The flag of a text with a flag. -/
lemma flagIn_flag (flag : Str) : flagIn (overrideOpening ++ flag ++ ")".toList) = some flag := by
  have hclosing : ")".toList = [')'] := rfl
  have hopens : overrideOpening.isPrefixOf (overrideOpening ++ flag ++ [')']) = true := by
    rw [List.append_assoc, List.isPrefixOf_iff_prefix]
    exact List.prefix_append _ _
  rw [flagIn, hclosing, if_pos ⟨hopens, List.getLast?_concat⟩, List.append_assoc,
    List.drop_left, List.dropLast_concat]

/-- A line names the flag in its last text. -/
lemma shownFlag_append_text (line : Line) (s : Str) :
    shownFlag (line ++ [.text s]) = flagIn s := by
  rw [shownFlag, List.getLast?_concat]

/-- The line of a hard stop without a flag ends as its message does. -/
lemma shownFlag_of_none {v : HardStop} (hflag : v.overrideFlag = none) {s : Str}
    (hmessage : v.message.getLast? = some (.text s)) : shownFlag (hardStopLine v) = flagIn s := by
  rw [shownFlag, hardStopLine, hflag, List.append_nil, List.getLast?_append, hmessage]
  rfl

/-- The line of a hard stop with a flag ends with the flag. -/
lemma shownFlag_of_some {v : HardStop} {flag : Str} (hflag : v.overrideFlag = some flag)
    (hne : flag ≠ []) : shownFlag (hardStopLine v) = some flag := by
  rw [hardStopLine, hflag]
  simp only [if_neg hne]
  rw [shownFlag_append_text]
  exact flagIn_flag flag

/-- **The lines name the flags of their rules**, and no others. -/
lemma shownFlag_hardStopLine {r : Rule} {c : DngConfig} {v : HardStop}
    (h : r.check c = .ok (some v)) : shownFlag (hardStopLine v) = r.waiver := by
  cases r
  case adminPortMustBePrivate =>
    simp only [Rule.check, checkAdminPort, ite_not] at h
    split at h
    · cases h
    · split at h
      · split at h
        · cases h
        · cases h
          exact shownFlag_of_some rfl (by decide)
      · cases h
  case hostMustNotBeDomainJoined =>
    simp only [Rule.check, checkDomainJoined] at h
    split at h
    · cases h
      exact shownFlag_of_some rfl (by decide)
    · cases h
  case wildcardRequiredForRdpSmb =>
    simp only [Rule.check, checkWildcardForRdpSmb, ite_not] at h
    split at h
    · split at h
      · cases h
      · cases h
        exact (shownFlag_of_none rfl rfl).trans (by decide)
    · cases h
  case timeOffsetWithin30s =>
    simp only [Rule.check, checkTimeOffset] at h
    split at h
    · cases h
    · split at h
      · cases h
      · split at h
        · cases h
        · cases h
          exact shownFlag_of_some rfl (by decide)
  case dngVersionMinimum =>
    simp only [Rule.check, checkDngVersion] at h
    split at h
    · cases h
    · split at h
      · cases h
        exact (shownFlag_of_none rfl rfl).trans (by decide)
      · cases h
  case lbRequiresTrustedProxies =>
    simp only [Rule.check, checkLbTrustedProxies, ite_not] at h
    split at h
    · cases h
    · split at h
      · cases h
        exact (shownFlag_of_none rfl rfl).trans (by decide)
      · cases h
  case publicHostnameMustResolve =>
    simp only [Rule.check, checkPublicHostnameResolves] at h
    split at h
    · cases h
    · cases h
      exact (shownFlag_of_none rfl rfl).trans (by decide)

/-! ## More flags -/

section Rerun

variable {safeLoad : Bytes → Option Tree} {L : Leaves} {fs : FileSystem} {flags : Flags}

/-- A plan is stopped if its violations are reported. -/
lemma acceptPlan_of_error {content : Bytes} {config : DngConfig} {stop : Stop}
    (hload : loadPlan safeLoad L content = some config)
    (hreport : reportViolationsAndExit config (collectOverrides flags) = .error stop) :
    acceptPlan safeLoad L flags content = .error stop := by
  simp only [acceptPlan, hload, hreport]

/-- A plan that is stopped by hard stops. -/
lemma exists_of_acceptPlan {content : Bytes} {stop : Stop}
    (h : acceptPlan safeLoad L flags content = .error stop) (hexit : stop.exitCode = 2) :
    ∃ config out, loadPlan safeLoad L content = some config ∧
      validatePlan config (collectOverrides flags) = .ok out ∧
      stop.echoed = out.map hardStopLine := by
  unfold acceptPlan at h
  split at h
  · cases h
    exact absurd hexit (by decide)
  · rename_i config hload
    refine ⟨config, ?_⟩
    unfold reportViolationsAndExit at h
    cases hvalid : validatePlan config (collectOverrides flags) with
    | error e =>
      simp only [hvalid, Except.error.injEq] at h
      subst h
      exact absurd hexit (by decide)
    | ok out =>
      refine ⟨out, hload, rfl, ?_⟩
      cases out with
      | nil => simp only [hvalid, reduceCtorEq] at h
      | cons v out =>
        simp only [hvalid, Except.error.injEq] at h
        subst h
        rfl

/-- **With more flags** a plan passes exactly if the flags override every violation that is left. -/
lemma validatePlan_eq_nil_iff_of_subset {config : DngConfig} {overrides overrides' : Finset Str}
    {out : List HardStop} (h : validatePlan config overrides = .ok out)
    (hsub : overrides ⊆ overrides') :
    validatePlan config overrides' = .ok [] ↔ ∀ v ∈ out, Overridden overrides' v.rule := by
  have hreturns : Gate.Returns config allChecks := Gate.returns_of_run h
  rw [validatePlan_eq_nil_iff, and_iff_right hreturns]
  constructor
  · intro hall v hv
    exact hall v.rule ((mem_rulesOf_validatePlan h _).mp (List.mem_map_of_mem hv)).1
  · intro hall r hr
    by_cases hover : Overridden overrides r
    · obtain ⟨flag, hflag, hwaiver⟩ := hover
      exact ⟨flag, hsub hflag, hwaiver⟩
    · obtain ⟨v, hv, hrule⟩ :=
        List.mem_map.mp ((mem_rulesOf_validatePlan h r).mpr ⟨hr, hover⟩)
      rw [← hrule]
      exact hall v hv

/-- `validate` prints what `generate` prints when the plan is stopped. -/
lemma validateCmd_of_error {planPath : Path} {f : File} {stop : Stop}
    (hplan : fs.file planPath = some f)
    (h : acceptPlan safeLoad L flags f.content = .error stop) :
    validateCmd safeLoad L fs planPath flags = stop.outcome fs := by
  simp only [validateCmd, hplan, h]

/-- **The advice is exact**: if `generate` or `validate` is stopped by hard stops, it succeeds with
the same flags and more exactly if every line that was printed names one of the flags that are given
then; so never, if there is a line that names none.

**Proof sketch.** The lines name the flags of the violations that are left, and a plan passes with
more flags exactly if they override all of these. -/
theorem rerun_iff {planPath outputDir : Path} {f : File} {flags' : Flags}
    (hplan : fs.file planPath = some f) (hout : fs.file outputDir = none)
    (hstop : (generateCmd safeLoad L fs planPath outputDir flags).exitCode = 2)
    (hsub : collectOverrides flags ⊆ collectOverrides flags') :
    let lines := (generateCmd safeLoad L fs planPath outputDir flags).echoed
    let named := ∀ line ∈ lines, ∃ flag ∈ collectOverrides flags', shownFlag line = some flag
    ((generateCmd safeLoad L fs planPath outputDir flags').exitCode = 0 ↔ named) ∧
      ((validateCmd safeLoad L fs planPath flags').exitCode = 0 ↔ named) ∧
      (validateCmd safeLoad L fs planPath flags).echoed = lines := by
  intro lines named
  cases haccept : acceptPlan safeLoad L flags f.content with
  | ok config =>
    rw [generateCmd_eq_generated hplan hout haccept] at hstop
    have hzero : 0 = 2 := hstop
    omega
  | error stop =>
    have hgenerate := generateCmd_of_error hplan hout haccept
    rw [hgenerate] at hstop
    obtain ⟨config, out, hload, hvalid, hechoed⟩ := exists_of_acceptPlan haccept hstop
    have hlines : lines = out.map hardStopLine := by
      rw [← hechoed]
      exact congrArg Outcome.echoed hgenerate
    have hnamed : named ↔ ∃ config, acceptPlan safeLoad L flags' f.content = .ok config := by
      have haccept' : (∃ config, acceptPlan safeLoad L flags' f.content = .ok config) ↔
          validatePlan config (collectOverrides flags') = .ok [] := by
        simp only [acceptPlan_eq_ok_iff, hload, Option.some.injEq, exists_eq_left']
      rw [haccept', validatePlan_eq_nil_iff_of_subset hvalid hsub]
      show (∀ line ∈ lines, _) ↔ _
      rw [hlines, List.forall_mem_map]
      refine forall₂_congr fun v hv => ?_
      rw [shownFlag_hardStopLine ((mem_validatePlan hvalid).mp hv).1, Overridden]
    refine ⟨(exitCode_generateCmd hplan hout).trans hnamed.symm,
      (exitCode_validateCmd hplan).trans hnamed.symm, ?_⟩
    rw [validateCmd_of_error hplan haccept]
    exact (congrArg Outcome.echoed hgenerate).symm

end Rerun

/-! ## A sample run -/

/-- The lines of the canned plan, on a host that is joined to a domain. -/
def joinedLines : List Str :=
  planLines.map fun l =>
    if l = "    domain_joined: false".toList then "    domain_joined: true" else l

/-- The canned plan on such a host. -/
def joinedPlan : DngConfig :=
  { cannedPlan with snapshot := makeSnapshot { domainJoined := true } }

/-- A parser of its text. -/
def joinedLoad (content : Bytes) : Option Tree :=
  if content = encode (textOf joinedLines) then some joinedPlan.modelDump else none

/-- A directory with this plan. -/
def joinedFs : FileSystem where
  file p := if p = ["plan.yaml".toList] then some ⟨encode (textOf joinedLines), 0o644⟩ else none
  isDir _ := false
  newMode := 0o644

/-- The plan is read from its text. -/
lemma loadPlan_joined :
    loadPlan joinedLoad .strict (encode (textOf joinedLines)) = some joinedPlan := by
  have hload : joinedLoad (encode (textOf joinedLines)) = some joinedPlan.modelDump := if_pos rfl
  rw [loadPlan, hload, Option.bind_some]
  exact modelValidate_canned true

/-- The plan is stopped, the line names a flag, and with this flag it is generated. -/
theorem rerun_iff_joined :
    (generateCmd joinedLoad .strict joinedFs ["plan.yaml"] ["dng-build"] {}).exitCode = 2 ∧
      (generateCmd joinedLoad .strict joinedFs ["plan.yaml"] ["dng-build"]
        { allowDomainJoined := true }).exitCode = 0 := by
  have hplan : joinedFs.file ["plan.yaml"] = some ⟨encode (textOf joinedLines), 0o644⟩ := rfl
  have hout : joinedFs.file ["dng-build"] = none := by decide
  obtain ⟨v, hcheck⟩ : ∃ v, checkDomainJoined joinedPlan = .ok (some v) := ⟨_, rfl⟩
  have hvalid : validatePlan joinedPlan (collectOverrides {}) = .ok [v] := by
    cases hcheck
    decide +kernel
  have hreport : reportViolationsAndExit joinedPlan (collectOverrides {}) =
      .error ⟨2, [hardStopLine v]⟩ := by
    simp only [reportViolationsAndExit, hvalid]
    rfl
  have haccept : acceptPlan joinedLoad .strict {} (encode (textOf joinedLines)) =
      .error ⟨2, [hardStopLine v]⟩ := acceptPlan_of_error loadPlan_joined hreport
  have hstop := generateCmd_of_error hplan hout haccept
  have hexit : (generateCmd joinedLoad .strict joinedFs ["plan.yaml"] ["dng-build"] {}).exitCode =
      2 := congrArg Outcome.exitCode hstop
  refine ⟨hexit, (rerun_iff hplan hout hexit (by decide)).1.mpr fun line hline => ?_⟩
  rw [hstop] at hline
  obtain rfl := List.mem_singleton.mp hline
  exact ⟨allowDomainJoined, by decide,
    shownFlag_hardStopLine (r := .hostMustNotBeDomainJoined) hcheck⟩

end DngPreflight.Cli
