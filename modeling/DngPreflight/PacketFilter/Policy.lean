import Mathlib.Data.List.Basic

set_option relaxedAutoImplicit false
set_option autoImplicit false

/-!
# Packet-filter policies

A policy says which packets to a TCP port are admitted from which source. Two ways to denote a
policy: an ordered list of rules, of which the first that matches decides and nothing is
admitted by default; and zones, where packets from the sources bound to the trusted zone are
admitted and any other packet is judged by the ports of the default zone.

Sources are of any type, and rules name sets of sources of any type.

## Main definitions

* `PacketFilter.Rule`, `PacketFilter.firstMatch` — ordered rules.
* `PacketFilter.addRule` — add a rule at the end, unless it is there.
* `PacketFilter.decides` — some rule applies to a packet.
* `PacketFilter.Zones`, `PacketFilter.Zones.admits` — zones.

## Main results

* `PacketFilter.firstMatch_foldl_addRule` — leaving out repeated rules does not change the policy.
* `PacketFilter.firstMatch_append` — rules after others are left the packets that those do not
  decide about.
* `PacketFilter.firstMatch_allowFrom` — a block of rules that allow sources to one port.
-/

namespace PacketFilter

variable {S α : Type}

/-- A rule for a port: allow or deny, from some sources or from anywhere. -/
structure Rule (S : Type) where
  allow : Bool
  source : Option S
  port : ℕ
  deriving DecidableEq

variable (contains : S → α → Bool)

/-- The rule applies to a packet. -/
def Rule.matches (r : Rule S) (a : α) (port : ℕ) : Bool :=
  decide (r.port = port) &&
    match r.source with
    | none => true
    | some s => contains s a

/-- The first rule that matches decides; by default a packet is denied. -/
def firstMatch : List (Rule S) → α → ℕ → Bool
  | [], _, _ => false
  | r :: rs, a, port => if r.matches contains a port then r.allow else firstMatch rs a port

/-- Add a rule at the end, unless it is there. -/
def addRule [DecidableEq S] (rs : List (Rule S)) (r : Rule S) : List (Rule S) :=
  if r ∈ rs then rs else rs ++ [r]

variable {contains} {a : α} {port : ℕ}

/-- Rules that do not match are passed over. -/
lemma firstMatch_append_of_not_matches {rs : List (Rule S)} (ss : List (Rule S))
    (h : ∀ r ∈ rs, r.matches contains a port = false) :
    firstMatch contains (rs ++ ss) a port = firstMatch contains ss a port := by
  induction rs with
  | nil => rfl
  | cons r rs ih =>
    rw [List.cons_append, firstMatch, h r (by simp),
      ih fun s hs => h s (List.mem_cons_of_mem r hs)]
    rfl

/-- Once a rule matches, what follows does not matter. -/
lemma firstMatch_append_of_matches {rs : List (Rule S)} (ss : List (Rule S))
    (h : ∃ r ∈ rs, r.matches contains a port = true) :
    firstMatch contains (rs ++ ss) a port = firstMatch contains rs a port := by
  induction rs with
  | nil => simp at h
  | cons r rs ih =>
    by_cases hr : r.matches contains a port = true
    · simp [firstMatch, hr]
    · obtain ⟨s, hs, hm⟩ := h
      have hs' : s ∈ rs := by
        rcases List.mem_cons.mp hs with rfl | hs
        · exact absurd hm hr
        · exact hs
      rw [List.cons_append, firstMatch, firstMatch, ih ⟨s, hs', hm⟩]

/-- A repeated rule does not change the policy. -/
lemma firstMatch_addRule [DecidableEq S] (rs ss : List (Rule S)) (r : Rule S) :
    firstMatch contains (addRule rs r ++ ss) a port =
      firstMatch contains (rs ++ r :: ss) a port := by
  unfold addRule
  split_ifs with h
  · by_cases hm : ∃ s ∈ rs, s.matches contains a port = true
    · rw [firstMatch_append_of_matches ss hm, firstMatch_append_of_matches (r :: ss) hm]
    · have hno : ∀ s ∈ rs, s.matches contains a port = false := by
        intro s hs
        rw [← Bool.not_eq_true]
        exact fun ht => hm ⟨s, hs, ht⟩
      rw [firstMatch_append_of_not_matches ss hno,
        firstMatch_append_of_not_matches (r :: ss) hno, firstMatch, hno r h]
      rfl
  · simp

/-- **Leaving out repeated rules does not change the policy.** -/
lemma firstMatch_foldl_addRule [DecidableEq S] (rs ss : List (Rule S)) :
    firstMatch contains (ss.foldl addRule rs) a port =
      firstMatch contains (rs ++ ss) a port := by
  induction ss generalizing rs with
  | nil => simp
  | cons r ss ih =>
    rw [List.foldl_cons, ih]
    exact firstMatch_addRule rs ss r

/-- A rule about another port is passed over. -/
lemma firstMatch_cons_of_port_ne {r : Rule S} (rs : List (Rule S)) (h : r.port ≠ port) :
    firstMatch contains (r :: rs) a port = firstMatch contains rs a port := by
  simp [firstMatch, Rule.matches, h]

/-- Packets to a port that no rule is about are denied. -/
lemma firstMatch_of_forall_port_ne {rs : List (Rule S)} (h : ∀ r ∈ rs, r.port ≠ port) :
    firstMatch contains rs a port = false := by
  induction rs with
  | nil => rfl
  | cons r rs ih =>
    rw [firstMatch_cons_of_port_ne rs (h r (by simp))]
    exact ih fun s hs => h s (List.mem_cons_of_mem r hs)

/-- **A block of rules that allow sources to one port** admits the packets from these sources,
and leaves the others to the rules after it. -/
lemma firstMatch_allowFrom (ss : List S) (rs : List (Rule S)) :
    firstMatch contains (ss.map (fun s => ⟨true, some s, port⟩) ++ rs) a port =
      (ss.any (contains · a) || firstMatch contains rs a port) := by
  induction ss with
  | nil => rfl
  | cons s ss ih =>
    cases hs : contains s a <;> simp [firstMatch, Rule.matches, hs, ih]

/-! ## Rules after other rules -/

variable (contains) in
/-- Some rule applies to a packet, so that the rules decide about it. -/
def decides (rs : List (Rule S)) (a : α) (port : ℕ) : Bool :=
  rs.any fun r => r.matches contains a port

/-- **Rules after others** are left the packets that those do not decide about. -/
lemma firstMatch_append (rs ss : List (Rule S)) :
    firstMatch contains (rs ++ ss) a port =
      if decides contains rs a port then firstMatch contains rs a port
      else firstMatch contains ss a port := by
  split_ifs with h
  · exact firstMatch_append_of_matches ss (List.any_eq_true.mp h)
  · have hno := List.any_eq_false.mp (Bool.eq_false_iff.mpr h)
    exact firstMatch_append_of_not_matches ss fun r hr => Bool.eq_false_iff.mpr (hno r hr)

section Repeated

variable [DecidableEq S]

/-- Adding a rule that is there changes nothing. -/
lemma addRule_of_mem {rs : List (Rule S)} {r : Rule S} (h : r ∈ rs) : addRule rs r = rs := if_pos h

/-- The rules after a rule was added. -/
lemma mem_addRule {rs : List (Rule S)} {r s : Rule S} : s ∈ addRule rs r ↔ s ∈ rs ∨ s = r := by
  unfold addRule
  split_ifs with h
  · constructor
    · exact Or.inl
    · rintro (hs | rfl)
      · exact hs
      · exact h
  · simp

/-- The rules after several were added. -/
lemma mem_foldl_addRule {rs ss : List (Rule S)} {s : Rule S} :
    s ∈ ss.foldl addRule rs ↔ s ∈ rs ∨ s ∈ ss := by
  induction ss generalizing rs with
  | nil => simp
  | cons r ss ih => rw [List.foldl_cons, ih, mem_addRule, List.mem_cons, or_assoc]

/-- **Adding rules that are there changes nothing.** -/
lemma foldl_addRule_of_subset {rs ss : List (Rule S)} (h : ss ⊆ rs) : ss.foldl addRule rs = rs := by
  induction ss with
  | nil => rfl
  | cons r ss ih =>
    rw [List.foldl_cons, addRule_of_mem (h List.mem_cons_self)]
    exact ih fun s hs => h (List.mem_cons_of_mem r hs)

end Repeated

/-! ## Zones -/

/-- Zones: the sources bound to the trusted zone, and the ports open in the default zone. -/
structure Zones (S : Type) where
  trusted : List S
  ports : List ℕ
  deriving DecidableEq

variable (contains) in
/-- The trusted zone admits everything, the default zone its ports. -/
def Zones.admits (z : Zones S) (a : α) (port : ℕ) : Bool :=
  z.trusted.any (contains · a) || decide (port ∈ z.ports)

/-- A packet from a source bound to the trusted zone is admitted to every port. -/
lemma Zones.admits_of_mem_trusted {z : Zones S} {s : S} (hs : s ∈ z.trusted)
    (ha : contains s a = true) : z.admits contains a port = true := by
  rw [Zones.admits, Bool.or_eq_true]
  exact Or.inl (List.any_eq_true.mpr ⟨s, hs, ha⟩)

/-- Zones with more sources and ports admit what either part admits. -/
lemma Zones.admits_append (z z' : Zones S) :
    Zones.admits contains ⟨z.trusted ++ z'.trusted, z.ports ++ z'.ports⟩ a port =
      (z.admits contains a port || z'.admits contains a port) := by
  rw [Bool.eq_iff_iff]
  simp only [Zones.admits, List.any_append, List.mem_append, Bool.decide_or, Bool.or_eq_true]
  tauto

end PacketFilter
