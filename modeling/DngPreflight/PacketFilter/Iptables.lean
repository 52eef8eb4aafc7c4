import DngPreflight.Text.Lines

set_option relaxedAutoImplicit false
set_option autoImplicit false

/-!
# Listings of iptables

The rules that `iptables -S` prints, one in a line: the policies of the built-in chains, the chains
that users have made, and the rules appended to chains. A packet for the host enters the `INPUT`
chain, and the rules of a chain may send it to other chains.

## Main definitions

* `Iptables.Entry`, `Iptables.parseLine`, `Iptables.entries` — the entries of a listing.
* `Iptables.Reachable` — the chains that a packet for the host may enter.
* `Iptables.FiltersInbound` — the listing drops or rejects some packet for the host.

## Main results

* `Iptables.parseLine_accept` — what the line of a policy that accepts can be read as.
-/

namespace Iptables

open Text

/-! ## Words -/

/-- Where a character of a line stands: outside of double quotes, in them, or after a backslash in
them. -/
inductive Quoting where
  | outside
  | inside
  | escaped
  deriving DecidableEq

/-- The words of the rest of a line, `cur` being the part of the current word already read. -/
def wordsFrom : Option Str → Quoting → Str → List Str
  | cur, _, [] => cur.toList
  | cur, .escaped, c :: s => wordsFrom (some (cur.getD [] ++ [c])) .inside s
  | cur, .inside, c :: s =>
    if c = '"' then wordsFrom cur .outside s
    else if c = '\\' then wordsFrom cur .escaped s
    else wordsFrom (some (cur.getD [] ++ [c])) .inside s
  | cur, .outside, c :: s =>
    if isSpace c then cur.toList ++ wordsFrom none .outside s
    else if c = '"' then wordsFrom (some (cur.getD [])) .inside s
    else wordsFrom (some (cur.getD [] ++ [c])) .outside s

/-- The words of a line. -/
def words (s : Str) : List Str := wordsFrom none .outside s

example : words "-A INPUT -m comment --comment \"a \\\" b\" -j DROP" =
    (["-A", "INPUT", "-m", "comment", "--comment", "a \" b", "-j", "DROP"] :
      List String).map String.toList := by decide

/-- Whitespace before the words does not matter. -/
lemma words_append_of_isSpace {ws : Str} (h : ∀ c ∈ ws, isSpace c = true) (s : Str) :
    words (ws ++ s) = words s := by
  induction ws with
  | nil => rfl
  | cons c ws ih =>
    have hc : isSpace c = true := h c (by simp)
    rw [List.cons_append, words, wordsFrom, if_pos hc]
    exact ih fun d hd => h d (List.mem_cons_of_mem c hd)

/-- A word that has begun goes on. -/
lemma exists_wordsFrom (w : Str) (q : Quoting) (s : Str) :
    ∃ x rest, wordsFrom (some w) q s = (w ++ x) :: rest := by
  have hword : ∀ {w d s q}, (∃ x rest, wordsFrom (some (w ++ [d])) q s = (w ++ [d] ++ x) :: rest) →
      ∃ x rest, wordsFrom (some (w ++ [d])) q s = (w ++ x) :: rest := by
    rintro w d s q ⟨x, rest, hx⟩
    exact ⟨[d] ++ x, rest, by rw [hx, List.append_assoc]⟩
  induction s generalizing w q with
  | nil => exact ⟨[], [], by cases q <;> simp [wordsFrom]⟩
  | cons c s ih =>
    cases q with
    | escaped => exact hword (ih (w ++ [c]) .inside)
    | inside =>
      rw [wordsFrom]
      split_ifs
      · exact ih w .outside
      · exact ih w .escaped
      · exact hword (ih (w ++ [c]) .inside)
    | outside =>
      rw [wordsFrom]
      split_ifs
      · exact ⟨[], _, by rw [List.append_nil]; rfl⟩
      · exact ih w .inside
      · exact hword (ih (w ++ [c]) .outside)

/-! ## Entries -/

/-- The policy of a built-in chain. -/
inductive Policy where
  | accept
  | drop
  deriving DecidableEq

/-- An entry of a listing. -/
inductive Entry where
  | policy (chain : Str) (p : Policy)
  | newChain (name : Str)
  | append (chain : Str) (targets : List Str)
  deriving DecidableEq

/-- The targets that the options of a rule name. -/
def targetsOf : List Str → List Str
  | o :: t :: ws => if o = "-j" ∨ o = "-g" then t :: targetsOf (t :: ws) else targetsOf (t :: ws)
  | _ => []

/-- Read a policy. -/
def parsePolicy (s : Str) : Option Policy :=
  if s = "ACCEPT" then some .accept else if s = "DROP" then some .drop else none

/-- Read a line; a line of any other form is no entry. -/
def parseLine (l : Str) : Option Entry :=
  match words l with
  | o :: chain :: args =>
    if o = "-P" ∧ args.length = 1 then (parsePolicy args.flatten).map (Entry.policy chain)
    else if o = "-N" ∧ args = [] then some (.newChain chain)
    else if o = "-A" then some (.append chain (targetsOf args))
    else none
  | _ => none

/-- The entries of a listing. -/
def entries (listing : Str) : List Entry := (feedLines listing).filterMap parseLine

/-! ## Filtering -/

/-- The chains that a packet for the host may enter. -/
inductive Reachable (es : List Entry) : Str → Prop
  | input : Reachable es "INPUT"
  | jump {chain targets name : _} : Reachable es chain → Entry.append chain targets ∈ es →
      name ∈ targets → Reachable es name

/-- The targets that end the way of a packet. -/
def blockingTargets : List Str := ["DROP", "REJECT"]

/-- The listing filters packets for the host: their policy is not to accept, or a rule of a chain
that they may enter drops or rejects. -/
def FiltersInbound (es : List Entry) : Prop :=
  Entry.policy "INPUT" .drop ∈ es ∨
    ∃ chain targets, Reachable es chain ∧ Entry.append chain targets ∈ es ∧
      ∃ t ∈ targets, t ∈ blockingTargets

/-- The entry drops or rejects, be its chain reachable or not. -/
def Entry.blocks : Entry → Bool
  | .policy chain p => decide (chain = "INPUT" ∧ p = .drop)
  | .newChain _ => false
  | .append _ targets => targets.any fun t => blockingTargets.any fun b => decide (t = b)

/-- A listing that filters has an entry that blocks. -/
lemma exists_blocks_of_filtersInbound {es : List Entry} (h : FiltersInbound es) :
    ∃ e ∈ es, e.blocks = true := by
  rcases h with h | ⟨chain, targets, -, hmem, t, ht, hblock⟩
  · exact ⟨_, h, rfl⟩
  · have hany : (blockingTargets.any fun b => decide (t = b)) = true :=
      List.any_eq_true.mpr ⟨t, hblock, decide_eq_true rfl⟩
    exact ⟨_, hmem, List.any_eq_true.mpr ⟨t, ht, hany⟩⟩

/-- **A line that begins with a policy that accepts** is no entry, or is that policy. -/
lemma parseLine_accept {ws chain rest : Str} (hws : ∀ c ∈ ws, isSpace c = true)
    (hchain : chain ∈ (["INPUT", "OUTPUT", "FORWARD"] : List Str)) {e : Entry}
    (h : parseLine (ws ++ ("-P ".toList ++ chain ++ " ACCEPT".toList ++ rest)) = some e) :
    e = .policy chain .accept := by
  have hwords : ∃ x more, words (ws ++ ("-P ".toList ++ chain ++ " ACCEPT".toList ++ rest)) =
      "-P".toList :: chain :: ("ACCEPT".toList ++ x) :: more := by
    obtain ⟨x, more, hx⟩ := exists_wordsFrom "ACCEPT" .outside rest
    refine ⟨x, more, ?_⟩
    rw [words_append_of_isSpace hws, ← hx]
    simp only [List.mem_cons, List.not_mem_nil, or_false] at hchain
    rcases hchain with rfl | rfl | rfl <;> rfl
  obtain ⟨x, more, hwords⟩ := hwords
  unfold parseLine at h
  rw [hwords] at h
  cases more with
  | nil =>
    have hdrop : "ACCEPT".toList ++ x ≠ "DROP".toList := by simp
    simp only [List.length_singleton, and_self, if_true, List.flatten_cons, List.flatten_nil,
      List.append_nil, parsePolicy, if_neg hdrop] at h
    split_ifs at h
    · cases h
      rfl
    · cases h
  | cons m more => simp at h

end Iptables
