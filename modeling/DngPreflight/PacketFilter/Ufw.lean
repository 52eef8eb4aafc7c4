import DngPreflight.Net.Notation
import DngPreflight.PacketFilter.Policy

set_option relaxedAutoImplicit false
set_option autoImplicit false

/-!
# ufw

The commands of the `ufw` front end that scripts use to allow and deny TCP ports, and their effect
on the rules of a host. The semantics is assumed: every new rule is added at the end, one that is
already there is skipped, the first rule that matches decides, and what no rule matches is denied. A
front end that updates an earlier rule with another action in its place is not covered.

## Main definitions

* `Ufw.Command`, `Ufw.parse` — the commands, and how they are read from words.
* `Ufw.State`, `Ufw.exec`, `Ufw.run`, `Ufw.runFrom` — their effect.
* `Ufw.State.admits` — the policy of the host.

## Main results

* `Ufw.admits_run` — the policy after rules have been added and the firewall enabled.
-/

namespace Ufw

open Text Net PacketFilter

/-- A command. -/
inductive Command where
  | rule (r : Rule IpNetwork)
  | enable
  | status
  deriving DecidableEq

/-- A TCP port: a decimal number followed by `/tcp`. -/
def portSpec (s : Str) : Option ℕ :=
  match s.splitOn '/' with
  | [n, proto] => if proto = "tcp" then parsePrefix 65535 n else none
  | _ => none

/-- Read a command from its words; anything else is not a command of this language. -/
def parse (cmd : List Str) : Option Command :=
  match cmd with
  | [tool, verb, spec] =>
    if tool = "ufw" ∧ verb = "allow" then (portSpec spec).map fun p => .rule ⟨true, none, p⟩
    else if tool = "ufw" ∧ verb = "deny" then (portSpec spec).map fun p => .rule ⟨false, none, p⟩
    else if [tool, verb, spec] = ["ufw", "--force", "enable"] then some .enable
    else if [tool, verb, spec] = ["ufw", "status", "verbose"] then some .status
    else none
  | [tool, verb, w₁, src, w₂, w₃, w₄, port, w₅, w₆] =>
    if [tool, verb, w₁, w₂, w₃, w₄, w₅, w₆] =
        ["ufw", "allow", "from", "to", "any", "port", "proto", "tcp"] then
      (parseNetwork src).bind fun s =>
        (parsePrefix 65535 port).map fun p => .rule ⟨true, some s, p⟩
    else none
  | _ => none

/-- The state of a host: its rules in order, and whether the firewall is enabled. -/
structure State where
  rules : List (Rule IpNetwork)
  enabled : Bool
  deriving DecidableEq

/-- A host without earlier rules. -/
def State.fresh : State := ⟨[], false⟩

/-- The effect of a command: a rule is added at the end, unless it is there. A rule that differs
from an earlier one in its action only is a new rule. -/
def exec (st : State) : Command → State
  | .rule r => { st with rules := addRule st.rules r }
  | .enable => { st with enabled := true }
  | .status => st

/-- Run a script given by the words of its commands; a word list that is no command of this
language gives no result. -/
def run (cmds : List (List Str)) : Option State :=
  (cmds.mapM parse).map fun cs => cs.foldl exec State.fresh

/-- A packet to a TCP port is admitted: the rules decide once the firewall is enabled. -/
def State.admits (st : State) (a : IpAddress) (port : ℕ) : Bool :=
  if st.enabled then firstMatch IpNetwork.contains st.rules a port else true

/-- The state after adding rules. -/
lemma foldl_exec_rules (rs : List (Rule IpNetwork)) (st : State) :
    (rs.map Command.rule).foldl exec st = { st with rules := rs.foldl addRule st.rules } := by
  induction rs generalizing st with
  | nil => rfl
  | cons r rs ih => rw [List.map_cons, List.foldl_cons, ih]; rfl

/-- Run a script on a host that has rules already. -/
def runFrom (st : State) (cmds : List (List Str)) : Option State :=
  (cmds.mapM parse).map fun cs => cs.foldl exec st

/-- A script is run from a host without earlier rules. -/
lemma runFrom_fresh (cmds : List (List Str)) : runFrom State.fresh cmds = run cmds := rfl

/-- A script is run to its end on every host, or on none. -/
lemma runFrom_eq_none_iff {st : State} {cmds : List (List Str)} :
    runFrom st cmds = none ↔ cmds.mapM parse = none := Option.map_eq_none_iff

/-- **The rules after a script** that adds rules, enables the firewall and asks for its status:
those that are not there yet are added at the end. -/
lemma runFrom_of_mapM {cmds : List (List Str)} {rs : List (Rule IpNetwork)}
    (h : cmds.mapM parse = some (rs.map Command.rule ++ [.enable, .status])) (st : State) :
    runFrom st cmds = some ⟨rs.foldl addRule st.rules, true⟩ := by
  rw [runFrom, h, Option.map_some, List.foldl_append, foldl_exec_rules]
  rfl

/-- **The policy of a script** that adds rules, enables the firewall and asks for its status:
the first rule that matches decides. -/
lemma admits_run {cmds : List (List Str)} {rs : List (Rule IpNetwork)}
    (h : cmds.mapM parse = some (rs.map Command.rule ++ [.enable, .status])) :
    ∃ st, run cmds = some st ∧
      ∀ a port, st.admits a port = firstMatch IpNetwork.contains rs a port := by
  refine ⟨_, runFrom_of_mapM h State.fresh, fun a port => ?_⟩
  rw [State.admits, if_pos rfl, State.fresh, firstMatch_foldl_addRule, List.nil_append]

/-- A rule for a source that is not a network is no command. -/
lemma parse_allowFrom_eq_none {src : Str} (h : parseNetwork src = none) (ws : List Str) :
    parse ("ufw".toList :: "allow".toList :: "from".toList :: src :: ws) = none := by
  unfold parse
  split
  · rename_i heq
    simp at heq
  · rename_i heq
    cases heq
    rw [h, Option.bind_none, ite_self]
  · rfl

/-- A script with a word list that is no command has no result. -/
lemma run_eq_none {cmds : List (List Str)} {cmd : List Str} (hmem : cmd ∈ cmds)
    (h : parse cmd = none) : run cmds = none := by
  cases hm : cmds.mapM parse with
  | none => rw [run, hm, Option.map_none]
  | some cs =>
    obtain ⟨c, -, hc⟩ := exists_of_mapM hm hmem
    rw [h] at hc
    cases hc

end Ufw
