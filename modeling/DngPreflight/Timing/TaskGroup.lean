import DngPreflight.Timing.Timed

set_option relaxedAutoImplicit false
set_option autoImplicit false

/-!
# Task groups

Tasks that are started at once and awaited together. Every task has a result, or raises an error. As
soon as a task raises, the group raises, and the other tasks are cancelled; tasks that raise at the
same time raise together.

## Main definitions

* `Timing.Task`, `Timing.Group` — tasks, and groups of them.
* `Timing.Task.within` — a task that is cancelled after some time.
* `Timing.Group.both` — a group of two groups.
* `Timing.Group.Tracks` — how a group ends, given how its tasks fail.

## Main results

* `Timing.Group.Tracks.both` — a group raises the errors of the tasks that fail first.
* `Timing.Group.duration_both_le` — a group takes no longer than each of its tasks is allowed to.
-/

namespace Timing

variable {ε α β : Type}

/-- A task: a result or an error, after some time. -/
abbrev Task (ε α : Type) := Timed (Except ε α)

/-- A group of tasks: their results, or the errors that it raises. -/
abbrev Group (ε α : Type) := Timed (Except (List ε) α)

namespace Task

/-- The task, or an error when the time limit is reached. -/
def within (limit : ℚ) (late : ε) (t : Task ε α) : Task ε α :=
  match waitFor limit t with
  | some r => ⟨r, t.duration⟩
  | none => ⟨.error late, limit⟩

/-- A group of one task. -/
def start (t : Task ε α) : Group ε α := t.map (Except.mapError fun e => [e])

/-- The error of a task, and when it is raised. -/
def failures (t : Task ε α) : List (ℚ × ε) :=
  match t.value with
  | .ok _ => []
  | .error e => [(t.duration, e)]

variable {limit : ℚ} {late : ε} {t : Task ε α}

/-- A task that is in time is left alone. -/
lemma within_of_le (h : t.duration ≤ limit) : t.within limit late = t := by
  rw [within, waitFor_of_le h]

/-- A task that is late raises the error. -/
lemma within_of_lt (h : limit < t.duration) : t.within limit late = ⟨.error late, limit⟩ := by
  rw [within, waitFor_of_lt h]

/-- A task with a time limit keeps to it. -/
lemma duration_within_le (limit : ℚ) (late : ε) (t : Task ε α) :
    (t.within limit late).duration ≤ limit := by
  rcases le_or_gt t.duration limit with h | h
  · rwa [within_of_le h]
  · rw [within_of_lt h]

/-- It has a result if the task has it in time. -/
lemma value_within_eq_ok_iff {a : α} :
    (t.within limit late).value = .ok a ↔ t.value = .ok a ∧ t.duration ≤ limit := by
  rcases le_or_gt t.duration limit with h | h
  · rw [within_of_le h, and_iff_left h]
  · rw [within_of_lt h]
    exact iff_of_false (by simp) fun hok => not_lt.mpr hok.2 h

/-- A group of one task has the result of the task. -/
lemma value_start_eq_ok_iff {a : α} : t.start.value = .ok a ↔ t.value = .ok a := by
  show Except.mapError _ t.value = _ ↔ _
  cases t.value with
  | ok b => simp [Except.mapError]
  | error e => simp [Except.mapError]

end Task

namespace Group

/-- Two groups at once: both results, or the errors that are raised first. -/
def both (s : Group ε α) (t : Group ε β) : Group ε (α × β) :=
  match s.value, t.value with
  | .ok a, .ok b => ⟨.ok (a, b), max s.duration t.duration⟩
  | .error es, .ok _ => ⟨.error es, s.duration⟩
  | .ok _, .error es => ⟨.error es, t.duration⟩
  | .error es, .error fs =>
    if s.duration < t.duration then ⟨.error es, s.duration⟩
    else if t.duration < s.duration then ⟨.error fs, t.duration⟩
    else ⟨.error (es ++ fs), s.duration⟩

/-- The group fails with those of the failures that come first. -/
structure Fails (g : Group ε α) (fs : List (ℚ × ε)) : Prop where
  first : ∀ f ∈ fs, g.duration ≤ f.1
  raised : ∃ f ∈ fs, f.1 = g.duration
  value_eq : g.value = .error ((fs.filter fun f => decide (f.1 = g.duration)).map Prod.snd)

/-- How a group ends whose tasks have these failures. -/
def Tracks (g : Group ε α) (fs : List (ℚ × ε)) : Prop :=
  (fs = [] ∧ ∃ a, g.value = .ok a) ∨ g.Fails fs

variable {s : Group ε α} {t : Group ε β} {fs gs : List (ℚ × ε)}

/-- A group of one task fails if the task does. -/
lemma tracks_start (t : Task ε α) : t.start.Tracks t.failures := by
  cases h : t.value with
  | ok a =>
    exact .inl ⟨by rw [Task.failures, h], a, congrArg (Except.mapError fun e => [e]) h⟩
  | error e =>
    have hfailures : t.failures = [(t.duration, e)] := by rw [Task.failures, h]
    have hduration : t.start.duration = t.duration := rfl
    refine .inr ⟨?_, ⟨(t.duration, e), by rw [hfailures]; exact List.mem_singleton_self _, rfl⟩, ?_⟩
    · intro f hf
      rw [hfailures, List.mem_singleton] at hf
      rw [hf, hduration]
    · have hvalue : t.start.value = .error [e] := congrArg (Except.mapError fun e => [e]) h
      simp [hfailures, hduration, hvalue]

/-- Failures that come later than a time are not raised at that time. -/
lemma filter_eq_nil_of_lt {d : ℚ} (h : ∀ f ∈ fs, d < f.1) :
    (fs.filter fun f => decide (f.1 = d)) = [] := by
  rw [List.filter_eq_nil_iff]
  intro f hf hd
  exact absurd (of_decide_eq_true hd) (h f hf).ne'

/-- One group has its results, or fails later, so that the other one decides. -/
lemma Fails.append_right {u : Group ε β} (h : s.Fails fs) (hlater : ∀ f ∈ gs, s.duration < f.1)
    (hvalue : u.value = .error ((fs.filter fun f => decide (f.1 = s.duration)).map Prod.snd))
    (hduration : u.duration = s.duration) : u.Fails (fs ++ gs) := by
  obtain ⟨f, hf, hfirst⟩ := h.raised
  refine ⟨?_, ⟨f, List.mem_append_left gs hf, hfirst.trans hduration.symm⟩, ?_⟩
  · intro g hg
    rw [hduration]
    rcases List.mem_append.mp hg with hg | hg
    · exact h.first g hg
    · exact (hlater g hg).le
  · rw [hduration, List.filter_append, filter_eq_nil_of_lt hlater, List.append_nil, hvalue]

/-- The same with the groups the other way round. -/
lemma Fails.append_left {u : Group ε β} (h : s.Fails fs) (hlater : ∀ f ∈ gs, s.duration < f.1)
    (hvalue : u.value = .error ((fs.filter fun f => decide (f.1 = s.duration)).map Prod.snd))
    (hduration : u.duration = s.duration) : u.Fails (gs ++ fs) := by
  obtain ⟨f, hf, hfirst⟩ := h.raised
  refine ⟨?_, ⟨f, List.mem_append_right gs hf, hfirst.trans hduration.symm⟩, ?_⟩
  · intro g hg
    rw [hduration]
    rcases List.mem_append.mp hg with hg | hg
    · exact (hlater g hg).le
    · exact h.first g hg
  · rw [hduration, List.filter_append, filter_eq_nil_of_lt hlater, List.nil_append, hvalue]

/-- **A group of two groups** ends as the failures of all their tasks say: it raises those that come
first, and none of the others. -/
lemma Tracks.both (hs : s.Tracks fs) (ht : t.Tracks gs) : (s.both t).Tracks (fs ++ gs) := by
  rcases hs with ⟨rfl, a, ha⟩ | hs
  · rcases ht with ⟨rfl, b, hb⟩ | ht
    · exact .inl ⟨rfl, (a, b), by rw [Group.both, ha, hb]⟩
    · refine .inr ?_
      rw [List.nil_append]
      have hboth : s.both t = ⟨.error ((gs.filter fun f => decide (f.1 = t.duration)).map Prod.snd),
          t.duration⟩ := by rw [Group.both, ha, ht.value_eq]
      rw [hboth]
      exact ⟨ht.first, ht.raised, rfl⟩
  · rcases ht with ⟨rfl, b, hb⟩ | ht
    · refine .inr ?_
      rw [List.append_nil]
      have hboth : s.both t = ⟨.error ((fs.filter fun f => decide (f.1 = s.duration)).map Prod.snd),
          s.duration⟩ := by rw [Group.both, hs.value_eq, hb]
      rw [hboth]
      exact ⟨hs.first, hs.raised, rfl⟩
    · refine .inr ?_
      rw [Group.both, hs.value_eq, ht.value_eq]
      dsimp only
      rcases lt_trichotomy s.duration t.duration with hlt | heq | hlt
      · rw [if_pos hlt]
        exact hs.append_right (fun g hg => hlt.trans_le (ht.first g hg)) rfl rfl
      · rw [if_neg heq.not_lt, if_neg heq.not_gt]
        obtain ⟨f, hf, hfirst⟩ := hs.raised
        refine ⟨?_, ⟨f, List.mem_append_left gs hf, hfirst⟩, ?_⟩
        · intro g hg
          rcases List.mem_append.mp hg with hg | hg
          · exact hs.first g hg
          · exact heq.trans_le (ht.first g hg)
        · rw [List.filter_append, List.map_append, heq]
      · rw [if_neg hlt.not_gt, if_pos hlt]
        exact ht.append_left (fun g hg => hlt.trans_le (hs.first g hg)) rfl rfl

/-- The results of a group can be used. -/
lemma Tracks.map {f : α → β} (h : s.Tracks fs) : Tracks (Timed.map (Except.map f) s) fs := by
  rcases h with ⟨rfl, a, ha⟩ | h
  · exact .inl ⟨rfl, f a, congrArg (Except.map f) ha⟩
  · exact .inr ⟨h.first, h.raised, congrArg (Except.map f) h.value_eq⟩

/-- Two groups have their results exactly if each has its result. -/
lemma value_both_eq_ok_iff {a : α} {b : β} :
    (s.both t).value = .ok (a, b) ↔ s.value = .ok a ∧ t.value = .ok b := by
  unfold Group.both
  cases s.value with
  | ok a' =>
    cases t.value with
    | ok b' => simp
    | error fs => simp
  | error es =>
    cases t.value with
    | ok b' => simp
    | error fs =>
      dsimp only
      split_ifs <;> simp

/-- A group takes no longer than each of its tasks is allowed to. -/
lemma duration_both_le {limit : ℚ} (hs : s.duration ≤ limit) (ht : t.duration ≤ limit) :
    (s.both t).duration ≤ limit := by
  unfold Group.both
  cases s.value with
  | ok a =>
    cases t.value with
    | ok b => exact max_le hs ht
    | error fs => exact ht
  | error es =>
    cases t.value with
    | ok b => exact hs
    | error fs =>
      dsimp only
      split_ifs
      · exact hs
      · exact ht
      · exact hs

end Group

end Timing
