import Mathlib.Data.List.Infix

set_option relaxedAutoImplicit false
set_option autoImplicit false

/-!
# Searching in texts with separators

Where a list can occur in another one that is put together with separators: in lines, and in a name
and a value.

## Main results

* `Text.infix_append_cons_iff` — what has no separator occurs on one side of it.
* `Text.infix_lines_iff` — what has no separator occurs in one of the lines.
* `Text.infix_assignment_iff` — where an assignment occurs in another one.
-/

namespace Text

variable {α : Type} {c : α}

/-- What has no separator begins a list before the separator. -/
lemma prefix_append_cons_iff {s a b : List α} (hs : c ∉ s) : s <+: a ++ c :: b ↔ s <+: a := by
  induction a generalizing s with
  | nil =>
    cases s with
    | nil => simp
    | cons d s =>
      have hne : d ≠ c := fun h => hs (h ▸ List.mem_cons_self)
      simp [List.cons_prefix_cons, hne]
  | cons d a ih =>
    cases s with
    | nil => simp
    | cons e s =>
      rw [List.cons_append, List.cons_prefix_cons, List.cons_prefix_cons,
        ih fun h => hs (List.mem_cons_of_mem e h)]

/-- **What has no separator occurs on one side of it.** -/
lemma infix_append_cons_iff {s a b : List α} (hs : c ∉ s) :
    s <:+: a ++ c :: b ↔ s <:+: a ∨ s <:+: b := by
  induction a with
  | nil =>
    rw [List.nil_append, List.infix_cons_iff, ← List.nil_append (c :: b),
      prefix_append_cons_iff hs, List.prefix_nil, List.infix_nil]
  | cons d a ih =>
    rw [List.cons_append, List.infix_cons_iff, ih, ← List.cons_append, prefix_append_cons_iff hs,
      List.infix_cons_iff, or_assoc]

/-- **What has no separator occurs in one of the lines** that are each ended by one. -/
lemma infix_lines_iff {s : List α} (hs : c ∉ s) (hne : s ≠ []) {lines : List (List α)} :
    s <:+: lines.flatMap (· ++ [c]) ↔ ∃ l ∈ lines, s <:+: l := by
  induction lines with
  | nil => simp [hne]
  | cons l lines ih =>
    rw [List.flatMap_cons, List.append_assoc, List.singleton_append, infix_append_cons_iff hs, ih,
      List.exists_mem_cons_iff]

variable {k v p q : List α}

/-- An assignment begins another one of the same name. -/
lemma prefix_assignment_iff (hk : c ∉ k) (hp : c ∉ p) :
    p ++ c :: q <+: k ++ c :: v ↔ p = k ∧ q <+: v := by
  induction k generalizing p with
  | nil =>
    cases p with
    | nil => simp [List.cons_prefix_cons]
    | cons d p =>
      have hne : d ≠ c := fun h => hp (h ▸ List.mem_cons_self)
      simp [List.cons_prefix_cons, hne]
  | cons d k ih =>
    cases p with
    | nil =>
      have hne : c ≠ d := fun h => hk (h ▸ List.mem_cons_self)
      simp [List.cons_prefix_cons, hne]
    | cons e p =>
      rw [List.cons_append, List.cons_append, List.cons_prefix_cons,
        ih (fun h => hk (List.mem_cons_of_mem d h)) fun h => hp (List.mem_cons_of_mem e h),
        List.cons.injEq, and_assoc]

/-- **Where an assignment occurs in another one**: at the end of the name and the beginning of the
value, or in the value. -/
lemma infix_assignment_iff (hk : c ∉ k) (hp : c ∉ p) :
    p ++ c :: q <:+: k ++ c :: v ↔ (p <:+ k ∧ q <+: v) ∨ p ++ c :: q <:+: v := by
  induction k with
  | nil =>
    rw [List.nil_append, List.infix_cons_iff, ← List.nil_append (c :: v),
      prefix_assignment_iff hk hp, List.suffix_nil]
  | cons d k ih =>
    rw [List.cons_append, List.infix_cons_iff, ih fun h => hk (List.mem_cons_of_mem d h),
      ← List.cons_append, prefix_assignment_iff hk hp, List.suffix_cons_iff, or_and_right, or_assoc]

end Text
