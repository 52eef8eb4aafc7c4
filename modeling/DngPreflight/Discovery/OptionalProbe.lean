import DngPreflight.Discovery.Collect
import DngPreflight.Discovery.TimeSync

set_option relaxedAutoImplicit false
set_option autoImplicit false

/-!
# Optional probes

The aggregator downgrades an optional probe that takes too long. Any exception of such a probe,
however, aborts the collection of the snapshot. The time-sync probe is one of them.

## Main definitions

* `DngPreflight.Discovery.optional` — a probe that may take too long.
* `DngPreflight.Discovery.collectWithTimeSync` — the snapshot, with the result of the time-sync
  probe.
* `DngPreflight.Discovery.TimeSyncReturns` — the time-sync probe always has a result.
* `DngPreflight.Discovery.MarkFollowed` — the selected peer of `ntpq` has a name.

## Main results

* `DngPreflight.Discovery.ntpSource_eq_none_iff` — when the output of `ntpq` cannot be read.
* `DngPreflight.Discovery.timeSyncReturns_iff` — when the time-sync probe always has a result.
-/

namespace DngPreflight.Discovery

open Text Codec Timing

/-! ## The aggregator -/

/-- Why a collection is aborted: a probe breaches its budget, or raises another exception. -/
inductive Abort where
  | timeout
  | exception
  deriving DecidableEq

/-- An optional probe within its budget, given its result, or none if it raises an exception. Only a
breach of the budget is caught. -/
def optional {α : Type} (label : Str) (probe : Timed (Option (OrMissing α))) :
    Except Abort (OrMissing α) :=
  match waitFor perProbeTimeout probe with
  | some (some result) => .ok result
  | some none => .error .exception
  | none => .ok (.missing ⟨label ++ " probe exceeded 10s timeout"⟩)

/-- Run every probe at once, and put the snapshot together; the first exception of a probe aborts
all of them. -/
def collectWithTimeSync (ops : Operations) (host : LocalFacts) (hostname : Str)
    (timeSync : Timed (Option (OrMissing TimeSyncState))) : Except Abort EnvironmentSnapshot :=
  match optional "time_sync" timeSync with
  | .error abort => .error abort
  | .ok state =>
    (collect ops { host with timeSync := state } hostname).mapError fun _ => .timeout

/-- The time-sync probe always has a result, whatever the offset is: it finds a daemon and a source,
and reports a state or that nothing is detected, so that the collection is never aborted but for a
breach of a budget. -/
structure TimeSyncReturns (tools : TimeTools) : Prop where
  detects : ∃ daemon source, detectDaemon tools = some (daemon, source)
  reports : ∀ offset, ∃ result, collectTimeSync tools offset = some result
  collects : ∀ (ops : Operations) (host : LocalFacts) (hostname : Str) (offset : Option PyFloat)
    (duration : ℚ), collectWithTimeSync ops host hostname ⟨collectTimeSync tools offset, duration⟩ ≠
      .error .exception

/-- The first line that `ntpq` marks as the selected peer, if there is one, has something other than
white space after the mark. -/
def MarkFollowed (stdout : Str) : Prop :=
  ∀ line, ((splitlines stdout).find? fun line => startsWith line "*") = some line →
    ∃ c ∈ line.drop 1, isSpace c = false

/-! ## The time-sync probe -/

/-- A text has no first word exactly if it is blank. -/
lemma firstWord_eq_nil_iff {s : Str} :
    ((s.dropWhile isSpace).takeWhile fun c => ! isSpace c) = [] ↔ ∀ c ∈ s, isSpace c = true := by
  induction s with
  | nil => simp
  | cons c s ih =>
    rw [List.dropWhile_cons]
    split_ifs with hspace
    · rw [ih, List.forall_mem_cons, and_iff_right hspace]
    · simp [hspace]

/-- **When the output of `ntpq` cannot be read**: exactly if the mark stands alone. -/
lemma ntpSource_eq_none_iff {stdout : Str} : ntpSource stdout = none ↔ ¬ MarkFollowed stdout := by
  unfold ntpSource MarkFollowed
  cases (splitlines stdout).find? fun line => startsWith line "*" with
  | none => simp
  | some line =>
    simp only [ite_eq_left_iff, reduceCtorEq, imp_false, not_not, firstWord_eq_nil_iff]
    simp

/-- When there is no result: `chronyc` does not succeed, and the output of `ntpq` cannot be read. -/
lemma detectDaemon_eq_none_iff {tools : TimeTools} :
    detectDaemon tools = none ↔ succeeded tools.chronyc = none ∧
      ∃ stdout, succeeded tools.ntpq = some stdout ∧ ¬ MarkFollowed stdout := by
  unfold detectDaemon
  cases succeeded tools.chronyc with
  | some stdout => simp
  | none =>
    cases succeeded tools.ntpq with
    | some stdout => simp [ntpSource_eq_none_iff]
    | none =>
      cases succeeded tools.timedatectl with
      | some stdout =>
        dsimp only
        split_ifs <;> simp
      | none => simp

/-- The collection is not aborted by an exception if the time-sync probe has a result. -/
lemma collectWithTimeSync_ne_exception {ops : Operations} {host : LocalFacts} {hostname : Str}
    {result : OrMissing TimeSyncState} {duration : ℚ} :
    collectWithTimeSync ops host hostname ⟨some result, duration⟩ ≠ .error .exception := by
  have hoptional : ∃ state, optional "time_sync" ⟨some result, duration⟩ = .ok state := by
    unfold optional
    rcases le_or_gt duration perProbeTimeout with hle | hlt
    · rw [waitFor_of_le hle]
      exact ⟨_, rfl⟩
    · rw [waitFor_of_lt hlt]
      exact ⟨_, rfl⟩
  obtain ⟨state, hstate⟩ := hoptional
  rw [collectWithTimeSync, hstate]
  cases hcollect : collect ops { host with timeSync := state } hostname <;>
    simp [Except.mapError, hcollect]

/-- **When the time-sync probe always has a result**: exactly if `chronyc` succeeds, or if the first
line that `ntpq` marks, should it succeed, has a name after the mark.

**Proof sketch.** The only operation that can fail is taking the first word after the mark. -/
theorem timeSyncReturns_iff (tools : TimeTools) :
    TimeSyncReturns tools ↔ (succeeded tools.chronyc).isSome = true ∨
      ∀ stdout, succeeded tools.ntpq = some stdout → MarkFollowed stdout := by
  have hcondition : detectDaemon tools ≠ none ↔ (succeeded tools.chronyc).isSome = true ∨
      ∀ stdout, succeeded tools.ntpq = some stdout → MarkFollowed stdout := by
    rw [Ne, detectDaemon_eq_none_iff, not_and_or, ← Ne, ← Option.isSome_iff_ne_none]
    simp only [not_exists, not_and, not_not]
  rw [← hcondition]
  constructor
  · rintro ⟨⟨daemon, source, hdetect⟩, -, -⟩ hnone
    rw [hnone] at hdetect
    cases hdetect
  · intro hsome
    obtain ⟨found, hfound⟩ := Option.ne_none_iff_exists'.mp hsome
    have hreports : ∀ offset, ∃ result, collectTimeSync tools offset = some result := by
      intro offset
      rw [collectTimeSync, hfound]
      exact ⟨_, rfl⟩
    refine ⟨⟨found.1, found.2, hfound⟩, hreports, fun ops host hostname offset duration => ?_⟩
    obtain ⟨result, hresult⟩ := hreports offset
    rw [hresult]
    exact collectWithTimeSync_ne_exception

/-- A host with `ntpq` only, which marks a peer without a name. -/
def loneMarkHost : TimeTools where
  ntpq := some (.exited 0 "     remote           refid\n*\n")

/-- The mark that stands alone aborts the collection of the snapshot, whatever the other probes
find. -/
theorem loneMark_not_timeSyncReturns :
    detectDaemon loneMarkHost = none ∧
    (∀ ops host hostname offset, collectWithTimeSync ops host hostname
      ⟨collectTimeSync loneMarkHost offset, 0⟩ = .error .exception) ∧
    ¬ TimeSyncReturns loneMarkHost := by
  have hnone : detectDaemon loneMarkHost = none := by decide
  refine ⟨hnone, fun ops host hostname offset => ?_, fun h => ?_⟩
  · have hraises : collectTimeSync loneMarkHost offset = none := by
      rw [collectTimeSync, hnone, Option.map_none]
    have hbudget : (0 : ℚ) ≤ perProbeTimeout := by decide
    rw [collectWithTimeSync, optional, hraises, waitFor_of_le hbudget]
  · obtain ⟨daemon, source, hdetect⟩ := h.detects
    rw [hnone] at hdetect
    cases hdetect

end DngPreflight.Discovery
