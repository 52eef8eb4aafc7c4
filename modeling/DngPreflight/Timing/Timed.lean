import Mathlib.Algebra.Order.Ring.Rat

set_option relaxedAutoImplicit false
set_option autoImplicit false

/-!
# Computations that take time

Results together with the time that it takes to obtain them, on a clock of rational numbers. What is
done in sequence takes the sum of the times, and what is done at once takes the longest of them.

## Main definitions

* `Timing.Timed` — a result and its duration; `Timing.Timed.bind` is sequential composition.
* `Timing.Timed.traverse`, `Timing.Timed.gather`, `Timing.Timed.firstSome` — a list of computations:
  one after the other, all at once, or one after the other up to the first that succeeds.
* `Timing.Op` — a computation that honours a time limit.
* `Timing.waitFor` — a result, unless it takes too long.

## Main results

* `Timing.Timed.value_firstSome` — the result of a list of computations.
* `Timing.Timed.duration_traverse`, `Timing.Timed.duration_firstSome`,
  `Timing.Timed.duration_gather_le` — the durations of lists of computations.
-/

namespace Timing

variable {α β : Type}

/-- A result and the time that it takes to obtain it. -/
structure Timed (α : Type) where
  value : α
  duration : ℚ

namespace Timed

/-- A result that takes no time. -/
def pure (a : α) : Timed α := ⟨a, 0⟩

/-- The result is used by another computation. -/
def bind (t : Timed α) (f : α → Timed β) : Timed β :=
  ⟨(f t.value).value, t.duration + (f t.value).duration⟩

/-- The result is used, in no time. -/
def map (f : α → β) (t : Timed α) : Timed β := ⟨f t.value, t.duration⟩

/-- Two results are obtained at once. -/
def both (s : Timed α) (t : Timed β) : Timed (α × β) :=
  ⟨(s.value, t.value), max s.duration t.duration⟩

/-- The results for a list are obtained one after the other. -/
def traverse (f : α → Timed β) : List α → Timed (List β)
  | [] => pure []
  | a :: l => (f a).bind fun b => (traverse f l).map fun bs => b :: bs

/-- The results for a list are obtained at once. -/
def gather (f : α → Timed β) (l : List α) : Timed (List β) :=
  ⟨l.map fun a => (f a).value, (l.map fun a => (f a).duration).foldr max 0⟩

/-- The list is tried one after the other, up to the first item that has a result. -/
def firstSome (f : α → Timed (Option β)) : List α → Timed (Option β)
  | [] => pure none
  | a :: l => (f a).bind fun
    | some b => pure (some b)
    | none => firstSome f l

/-- The items of the list that are tried. -/
def attempts (f : α → Timed (Option β)) : List α → List α
  | [] => []
  | a :: l => a :: if (f a).value.isSome then [] else attempts f l

/-- A result that is there takes no time. -/
@[simp] lemma duration_pure (a : α) : (pure a).duration = 0 := rfl

/-- The duration of a result that is there is not negative. -/
lemma zero_le_duration_pure (a : α) : 0 ≤ (pure a).duration := le_refl 0

/-- In sequence the durations of two computations add. -/
@[simp] lemma duration_bind (t : Timed α) (f : α → Timed β) :
    (t.bind f).duration = t.duration + (f t.value).duration := rfl

/-- Using a result takes no time. -/
@[simp] lemma duration_map (f : α → β) (t : Timed α) : (t.map f).duration = t.duration := rfl

/-- At once the longer duration counts. -/
@[simp] lemma duration_both (s : Timed α) (t : Timed β) :
    (s.both t).duration = max s.duration t.duration := rfl

/-- **Up to the first success** the result is that of the first item that has one. -/
lemma value_firstSome (f : α → Timed (Option β)) (l : List α) :
    (firstSome f l).value = l.findSome? fun a => (f a).value := by
  induction l with
  | nil => rfl
  | cons a l ih =>
    rw [firstSome, bind, List.findSome?_cons]
    cases (f a).value with
    | some b => rfl
    | none => exact ih

/-- One after the other, the computations have their own values. -/
lemma value_traverse (f : α → Timed β) (l : List α) :
    (traverse f l).value = l.map fun a => (f a).value := by
  induction l with
  | nil => rfl
  | cons a l ih =>
    rw [List.map_cons, ← ih]
    rfl

/-- **In sequence** the durations add. -/
lemma duration_traverse (f : α → Timed β) (l : List α) :
    (traverse f l).duration = (l.map fun a => (f a).duration).sum := by
  induction l with
  | nil => rfl
  | cons a l ih => rw [traverse, duration_bind, duration_map, ih, List.map_cons, List.sum_cons]

/-- **Up to the first success** the durations of what is tried add. -/
lemma duration_firstSome (f : α → Timed (Option β)) (l : List α) :
    (firstSome f l).duration = ((attempts f l).map fun a => (f a).duration).sum := by
  induction l with
  | nil => rfl
  | cons a l ih =>
    rw [firstSome, duration_bind, attempts, List.map_cons, List.sum_cons]
    cases (f a).value with
    | some b => simp
    | none => simp [ih]

/-- **At once** no more time is taken than a bound on all durations. -/
lemma duration_gather_le {f : α → Timed β} {l : List α} {bound : ℚ} (hbound : 0 ≤ bound)
    (h : ∀ a ∈ l, (f a).duration ≤ bound) : (gather f l).duration ≤ bound := by
  change (l.map fun a => (f a).duration).foldr max 0 ≤ bound
  induction l with
  | nil => exact hbound
  | cons a l ih =>
    rw [List.map_cons, List.foldr_cons]
    exact max_le (h a (by simp)) (ih fun b hb => h b (List.mem_cons_of_mem a hb))

end Timed

/-- A computation that honours a time limit. -/
structure Op (limit : ℚ) (α : Type) extends Timed α where
  nonneg : 0 ≤ duration
  le_limit : duration ≤ limit

/-- The result, unless it takes longer than the limit. -/
def waitFor (limit : ℚ) (t : Timed α) : Option α :=
  if t.duration ≤ limit then some t.value else none

/-- Within the limit there is a result. -/
lemma waitFor_of_le {limit : ℚ} {t : Timed α} (h : t.duration ≤ limit) :
    waitFor limit t = some t.value := if_pos h

/-- Beyond the limit there is none. -/
lemma waitFor_of_lt {limit : ℚ} {t : Timed α} (h : limit < t.duration) : waitFor limit t = none :=
  if_neg (not_le.mpr h)

end Timing
