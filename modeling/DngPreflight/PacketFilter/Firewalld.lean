import DngPreflight.PacketFilter.Ufw

set_option relaxedAutoImplicit false
set_option autoImplicit false

/-!
# firewalld

The commands of `firewall-cmd` that scripts use to open TCP ports and to bind sources to zones,
and their effect. Permanent changes take effect on reload. The semantics is assumed: a source that
is bound to the trusted zone is admitted to every port, anybody else to the ports of the default
zone, which is the public one, and what else may be configured in zones is left out.

## Main definitions

* `Firewalld.Command`, `Firewalld.parse` — the commands, and how they are read from words.
* `Firewalld.State`, `Firewalld.exec`, `Firewalld.run`, `Firewalld.runFrom` — their effect.
* `Firewalld.State.admits` — the policy of the host.

## Main results

* `Firewalld.admits_run` — the policy after permanent changes have been reloaded.
-/

namespace Firewalld

open Text Net PacketFilter

/-- The zones that scripts change: the default zone and the trusted one. -/
inductive Zone where
  | publicZone
  | trustedZone
  deriving DecidableEq

/-- A command. -/
inductive Command where
  | addPort (z : Zone) (port : ℕ)
  | addSource (z : Zone) (s : IpNetwork)
  | reload
  | listAll
  deriving DecidableEq

/-- What follows an option name in a word. -/
def optionValue (name s : Str) : Option Str :=
  if s.take name.length = name then some (s.drop name.length) else none

/-- Read the zone option. -/
def zoneOption (s : Str) : Option Zone :=
  if s = "--zone=public" then some .publicZone
  else if s = "--zone=trusted" then some .trustedZone
  else none

/-- Read a command from its words; anything else is not a command of this language. -/
def parse (cmd : List Str) : Option Command :=
  match cmd with
  | [tool, opt] =>
    if [tool, opt] = ["firewall-cmd", "--reload"] then some .reload
    else if [tool, opt] = ["firewall-cmd", "--list-all"] then some .listAll
    else none
  | [tool, opt, zone, change] =>
    if tool = "firewall-cmd" ∧ opt = "--permanent" then
      (zoneOption zone).bind fun z =>
        match optionValue "--add-port=" change with
        | some v => (Ufw.portSpec v).map (Command.addPort z)
        | none =>
          (optionValue "--add-source=" change).bind fun v =>
            (parseNetwork v).map (Command.addSource z)
    else none
  | _ => none

/-- The state of a host: its permanent zones, and those in effect. Ports of the trusted zone and
sources of the default zone have no effect: the one admits everything, the other is the default
already. -/
structure State where
  permanent : Zones IpNetwork
  runtime : Zones IpNetwork
  deriving DecidableEq

/-- A host without earlier rules. -/
def State.fresh : State := ⟨⟨[], []⟩, ⟨[], []⟩⟩

/-- The effect of a command on the permanent zones. -/
def change (z : Zones IpNetwork) : Command → Zones IpNetwork
  | .addPort .publicZone p => { z with ports := z.ports ++ [p] }
  | .addSource .trustedZone s => { z with trusted := z.trusted ++ [s] }
  | _ => z

/-- The effect of a command. -/
def exec (st : State) (c : Command) : State :=
  match c with
  | .reload => { st with runtime := st.permanent }
  | c => { st with permanent := change st.permanent c }

/-- Run a script given by the words of its commands; a word list that is no command of this
language gives no result. -/
def run (cmds : List (List Str)) : Option State :=
  (cmds.mapM parse).map fun cs => cs.foldl exec State.fresh

/-- A packet to a TCP port is admitted by the zones in effect. -/
def State.admits (st : State) (a : IpAddress) (port : ℕ) : Bool :=
  st.runtime.admits IpNetwork.contains a port

/-- Run a script on a host that has rules already. -/
def runFrom (st : State) (cmds : List (List Str)) : Option State :=
  (cmds.mapM parse).map fun cs => cs.foldl exec st

/-- A script is run from a host without earlier rules. -/
lemma runFrom_fresh (cmds : List (List Str)) : runFrom State.fresh cmds = run cmds := rfl

/-- A script is run to its end on every host, or on none. -/
lemma runFrom_eq_none_iff {st : State} {cmds : List (List Str)} :
    runFrom st cmds = none ↔ cmds.mapM parse = none := Option.map_eq_none_iff

/-- Commands other than a reload change the permanent zones. -/
lemma permanent_foldl_exec {cs : List Command} (hcs : .reload ∉ cs) (st : State) :
    (cs.foldl exec st).permanent = cs.foldl change st.permanent := by
  induction cs generalizing st with
  | nil => rfl
  | cons c cs ih =>
    simp only [List.mem_cons, not_or] at hcs
    rw [List.foldl_cons, ih hcs.2, List.foldl_cons]
    cases c with
    | reload => exact absurd rfl hcs.1
    | _ => rfl

/-- Commands other than a reload do not change the zones in effect. -/
lemma runtime_foldl_exec {cs : List Command} (hcs : .reload ∉ cs) (st : State) :
    (cs.foldl exec st).runtime = st.runtime := by
  induction cs generalizing st with
  | nil => rfl
  | cons c cs ih =>
    simp only [List.mem_cons, not_or] at hcs
    rw [List.foldl_cons, ih hcs.2]
    cases c with
    | reload => exact absurd rfl hcs.1
    | _ => rfl

/-- **The zones after permanent changes and a reload**: what was changed in the zones in effect only
is lost. -/
lemma foldl_exec_reload {cs : List Command} (hcs : .reload ∉ cs) (st : State) :
    (cs ++ [Command.reload, Command.listAll]).foldl exec st =
      ⟨cs.foldl change st.permanent, cs.foldl change st.permanent⟩ := by
  rw [List.foldl_append]
  simp only [List.foldl_cons, List.foldl_nil, exec, permanent_foldl_exec hcs st]
  rfl

/-- The zones after a script that makes permanent changes and reloads. -/
lemma runFrom_of_mapM {cmds : List (List Str)} {cs : List Command} (hcs : .reload ∉ cs)
    (h : cmds.mapM parse = some (cs ++ [.reload, .listAll])) (st : State) :
    runFrom st cmds =
      some ⟨cs.foldl change st.permanent, cs.foldl change st.permanent⟩ := by
  rw [runFrom, h, Option.map_some, foldl_exec_reload hcs st]

/-- **The policy of a script** that makes permanent changes and reloads. -/
lemma admits_run {cmds : List (List Str)} {cs : List Command} (hcs : .reload ∉ cs)
    (h : cmds.mapM parse = some (cs ++ [.reload, .listAll])) :
    ∃ st, run cmds = some st ∧ ∀ a port, st.admits a port =
      (cs.foldl change ⟨[], []⟩).admits IpNetwork.contains a port :=
  ⟨_, runFrom_of_mapM hcs h State.fresh, fun _ _ => rfl⟩

/-- Binding a source that is not a network is no command. -/
lemma parse_addSource_eq_none {src : Str} (h : parseNetwork src = none) (zone : Str)
    (ws : List Str) :
    parse ("firewall-cmd".toList :: "--permanent".toList :: zone ::
      ("--add-source=".toList ++ src) :: ws) = none := by
  have hport : optionValue "--add-port=" ("--add-source=".toList ++ src) = none := rfl
  have hsource : optionValue "--add-source=" ("--add-source=".toList ++ src) = some src := by
    simp [optionValue]
  unfold parse
  split
  · rename_i heq
    simp at heq
  · rename_i heq
    cases heq
    simp only [hport, hsource, Option.bind_some, h, Option.map_none, Option.bind_fun_none, ite_self]
  · rfl

/-- A script with a word list that is no command has no result. -/
lemma run_eq_none {cmds : List (List Str)} {cmd : List Str} (hmem : cmd ∈ cmds)
    (h : parse cmd = none) : run cmds = none := by
  cases hm : cmds.mapM parse with
  | none => rw [run, hm, Option.map_none]
  | some cs =>
    obtain ⟨c, -, hc⟩ := exists_of_mapM hm hmem
    rw [h] at hc
    cases hc

end Firewalld
