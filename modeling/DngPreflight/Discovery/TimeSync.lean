import DngPreflight.Discovery.Command
import DngPreflight.Models.Snapshot
import DngPreflight.Text.Infix

set_option relaxedAutoImplicit false
set_option autoImplicit false

/-!
# The time-sync probe

How the probe finds the daemon that keeps the time: it asks `chronyc`, `ntpq` and `timedatectl`, in
this order, and takes the first that succeeds. In the properties that `timedatectl show` lists, it
searches for two texts.

## Main definitions

* `DngPreflight.Discovery.detectDaemon`, `DngPreflight.Discovery.collectTimeSync` — the probe.
* `DngPreflight.Discovery.Property`, `DngPreflight.Discovery.listing` — properties, and their
  listing.
* `DngPreflight.Discovery.Synchronizes` — what the properties say about the daemon.

## Main results

* `DngPreflight.Discovery.contains_listing_iff` — where a searched text occurs in a listing.
* `DngPreflight.Discovery.detectsTimesyncd_iff` — when the probe reports what the properties say.
-/

namespace DngPreflight.Discovery

open Text

/-! ## The probe -/

/-- The tools on a host: for each tool that is in the path the outcome of the command that the probe
runs, which is `chronyc tracking`, `ntpq -pn` or `timedatectl show`. -/
structure TimeTools where
  chronyc : Option Outcome := none
  ntpq : Option Outcome := none
  timedatectl : Option Outcome := none
  deriving DecidableEq

/-- What a command prints, if its tool is there and it exits with 0. -/
def succeeded : Option Outcome → Option Str
  | some (.exited returncode stdout) => if returncode = 0 then some stdout else none
  | _ => none

/-- What `chronyc` names as its reference: what follows the colon in the first line with a
reference, unless that is blank. -/
def chronySource (stdout : Str) : Option Str :=
  match (splitlines stdout).find? fun line =>
      startsWith (lower line) "reference id" && decide (':' ∈ line) with
  | none => none
  | some line =>
    let source := strip ((line.dropWhile (· ≠ ':')).drop 1)
    if source = [] then none else some source

/-- The peer that `ntpq` marks as selected, if there is one. There is no result if the mark stands
alone, where taking the first word raises an `IndexError`. -/
def ntpSource (stdout : Str) : Option (Option Str) :=
  match (splitlines stdout).find? fun line => startsWith line "*" with
  | none => some none
  | some line =>
    let peer := ((line.drop 1).dropWhile isSpace).takeWhile fun c => ! isSpace c
    if peer = [] then none else some (some peer)

/-- The daemon and its source; no result if an exception is raised. -/
def detectDaemon (tools : TimeTools) : Option (Str × Option Str) :=
  match succeeded tools.chronyc with
  | some stdout => some ("chronyd", chronySource stdout)
  | none =>
    match succeeded tools.ntpq with
    | some stdout => (ntpSource stdout).map fun source => ("ntpd".toList, source)
    | none =>
      match succeeded tools.timedatectl with
      | some stdout =>
        if contains stdout "NTP=yes" || contains stdout "NTPSynchronized=yes" then
          some ("systemd-timesyncd", none)
        else some ("none", none)
      | none => some ("none", none)

/-- The state of the time synchronization, given the offset from `pool.ntp.org` if that could be
reached; no result if an exception is raised. -/
def collectTimeSync (tools : TimeTools) (offset : Option PyFloat) :
    Option (OrMissing TimeSyncState) :=
  (detectDaemon tools).map fun found =>
    if found.1 = "none".toList ∧ offset = none then
      .missing ⟨"no time-sync daemon detected and pool.ntp.org unreachable"⟩
    else .detected ⟨found.1, found.2, offset⟩

/-- Nothing is detected exactly if there is no daemon and no offset. -/
lemma collectTimeSync_missing_iff {tools : TimeTools} {offset : Option PyFloat} :
    (∃ reason, collectTimeSync tools offset = some (.missing reason)) ↔
      (∃ source, detectDaemon tools = some ("none".toList, source)) ∧ offset = none := by
  cases hdetect : detectDaemon tools with
  | none => simp only [collectTimeSync, hdetect, Option.map_none, reduceCtorEq, exists_false,
      false_and]
  | some found =>
    rw [collectTimeSync, hdetect, Option.map_some]
    by_cases h : found.1 = "none".toList ∧ offset = none
    · rw [if_pos h]
      exact iff_of_true ⟨_, rfl⟩ ⟨⟨found.2, by rw [← h.1]⟩, h.2⟩
    · rw [if_neg h]
      refine iff_of_false (fun ⟨reason, hreason⟩ => ?_) fun ⟨⟨source, hsource⟩, hoffset⟩ => ?_
      · cases hreason
      · exact h ⟨congrArg Prod.fst (Option.some.inj hsource), hoffset⟩

/-! ## Listings -/

/-- A property of a listing: a name and a value. -/
structure Property where
  key : Str
  value : Str
  no_eq : '=' ∉ key
  key_no_feed : '\n' ∉ key
  value_no_feed : '\n' ∉ value

/-- The line of a property. -/
def Property.line (p : Property) : Str := p.key ++ '=' :: p.value

/-- The listing of properties, one in each line. -/
def listing (properties : List Property) : Str :=
  (properties.map Property.line).flatMap (· ++ ['\n'])

/-- The properties of a service that keeps the time. -/
def synchronizationKeys : List Str := ["NTP", "NTPSynchronized"]

/-- The property named `NTP` or the property named `NTPSynchronized` is `yes`. -/
def Synchronizes (properties : List Property) : Prop :=
  ∃ p ∈ properties, p.key ∈ synchronizationKeys ∧ p.value = "yes"

/-- The daemon that is reported is the one that the properties tell of. -/
def DetectsTimesyncd (tools : TimeTools) (properties : List Property) : Prop :=
  (Synchronizes properties → detectDaemon tools = some ("systemd-timesyncd".toList, none)) ∧
    (¬ Synchronizes properties → detectDaemon tools = some ("none".toList, none))

/-- A property that looks as if it told of a service: its name ends in that of one of the two, and
its value begins with `yes`; or its value has the text of one of the two in it. -/
def Property.Resembles (p : Property) : Prop :=
  ∃ key ∈ synchronizationKeys,
    (key <:+ p.key ∧ "yes".toList <+: p.value) ∨ key ++ "=yes".toList <:+: p.value

/-- The test for a part of a text. -/
lemma contains_iff {s sub : Str} : contains s sub = true ↔ sub <:+: s := by
  simp only [contains, List.any_eq_true, List.mem_tails, startsWith, List.isPrefixOf_iff_prefix]
  constructor
  · rintro ⟨t, hsuffix, hprefix⟩
    exact hprefix.isInfix.trans hsuffix.isInfix
  · rintro ⟨u, v, rfl⟩
    exact ⟨sub ++ v, ⟨u, by rw [List.append_assoc]⟩, List.prefix_append sub v⟩

/-- **Where a searched text occurs in a listing**: in one of its lines, across the sign between name
and value or in the value. -/
lemma contains_listing_iff {properties : List Property} {key : Str}
    (hkey : key ∈ synchronizationKeys) :
    contains (listing properties) (key ++ "=yes".toList) = true ↔ ∃ p ∈ properties,
      (key <:+ p.key ∧ "yes".toList <+: p.value) ∨ key ++ "=yes".toList <:+: p.value := by
  have hsearch : '=' ∉ key ∧ '\n' ∉ key ++ "=yes".toList := by
    simp only [synchronizationKeys, List.mem_cons, List.not_mem_nil, or_false] at hkey
    rcases hkey with rfl | rfl <;> decide
  rw [contains_iff, listing, infix_lines_iff hsearch.2 (by simp)]
  constructor
  · rintro ⟨_, hline, hinfix⟩
    obtain ⟨p, hp, rfl⟩ := List.mem_map.mp hline
    exact ⟨p, hp, (infix_assignment_iff p.no_eq hsearch.1).mp hinfix⟩
  · rintro ⟨p, hp, hinfix⟩
    exact ⟨p.line, List.mem_map_of_mem hp, (infix_assignment_iff p.no_eq hsearch.1).mpr hinfix⟩

/-- The properties that are searched for. -/
lemma resembles_of_synchronizes {p : Property} (hkey : p.key ∈ synchronizationKeys)
    (hvalue : p.value = "yes") : p.Resembles :=
  ⟨p.key, hkey, Or.inl ⟨List.suffix_refl _, hvalue ▸ List.prefix_refl _⟩⟩

/-- One of the searched texts occurs in a listing if a property resembles one of those that are
searched for. -/
lemma contains_or_iff {properties : List Property} :
    (contains (listing properties) "NTP=yes" ||
      contains (listing properties) "NTPSynchronized=yes") = true ↔
        ∃ p ∈ properties, p.Resembles := by
  have hntp : "NTP".toList ∈ synchronizationKeys := by simp [synchronizationKeys]
  have hsynchronized : "NTPSynchronized".toList ∈ synchronizationKeys := by
    simp [synchronizationKeys]
  have hntp' : "NTP=yes".toList = "NTP".toList ++ "=yes".toList := by rfl
  have hsynchronized' : "NTPSynchronized=yes".toList =
      "NTPSynchronized".toList ++ "=yes".toList := by rfl
  rw [Bool.or_eq_true, hntp', hsynchronized', contains_listing_iff hntp,
    contains_listing_iff hsynchronized]
  constructor
  · rintro (⟨p, hp, h⟩ | ⟨p, hp, h⟩)
    · exact ⟨p, hp, _, hntp, h⟩
    · exact ⟨p, hp, _, hsynchronized, h⟩
  · rintro ⟨p, hp, key, hkey, h⟩
    simp only [synchronizationKeys, List.mem_cons, List.not_mem_nil, or_false] at hkey
    rcases hkey with rfl | rfl
    · exact Or.inl ⟨p, hp, h⟩
    · exact Or.inr ⟨p, hp, h⟩

/-- The daemon that is reported where only `timedatectl` succeeds. -/
lemma detectDaemon_of_listing {tools : TimeTools} {properties : List Property}
    (hchronyc : succeeded tools.chronyc = none) (hntpq : succeeded tools.ntpq = none)
    (htimedatectl : tools.timedatectl = some (.exited 0 (listing properties))) :
    ((∃ p ∈ properties, p.Resembles) →
      detectDaemon tools = some ("systemd-timesyncd".toList, none)) ∧
    ((¬ ∃ p ∈ properties, p.Resembles) → detectDaemon tools = some ("none".toList, none)) := by
  have hout : succeeded tools.timedatectl = some (listing properties) := by
    rw [htimedatectl]
    rfl
  have hdetect : detectDaemon tools = if (contains (listing properties) "NTP=yes" ||
      contains (listing properties) "NTPSynchronized=yes") = true then
        some ("systemd-timesyncd".toList, none) else some ("none".toList, none) := by
    simp only [detectDaemon, hchronyc, hntpq, hout]
  rw [hdetect]
  exact ⟨fun h => if_pos (contains_or_iff.mpr h),
    fun h => if_neg fun hc => h (contains_or_iff.mp hc)⟩

/-- **When the probe reports what the properties say**, on a host on which only `timedatectl`
succeeds: exactly if `NTP` or `NTPSynchronized` is `yes`, or no other property looks like it.

**Proof sketch.** The searched texts occur in the line of every property that resembles one of the
two, and nowhere else. -/
theorem detectsTimesyncd_iff {tools : TimeTools} {properties : List Property}
    (hchronyc : succeeded tools.chronyc = none) (hntpq : succeeded tools.ntpq = none)
    (htimedatectl : tools.timedatectl = some (.exited 0 (listing properties))) :
    DetectsTimesyncd tools properties ↔
      Synchronizes properties ∨ ∀ p ∈ properties, ¬ p.Resembles := by
  obtain ⟨hyes, hno⟩ := detectDaemon_of_listing hchronyc hntpq htimedatectl
  by_cases hsync : Synchronizes properties
  · obtain ⟨p, hp, hkey, hvalue⟩ := hsync
    refine iff_of_true ⟨fun _ => hyes ⟨p, hp, resembles_of_synchronizes hkey hvalue⟩, ?_⟩
      (Or.inl ⟨p, hp, hkey, hvalue⟩)
    exact fun h => absurd ⟨p, hp, hkey, hvalue⟩ h
  · constructor
    · rintro ⟨-, hnone⟩
      refine Or.inr fun p hp hresembles => ?_
      have hsame := (hyes ⟨p, hp, hresembles⟩).symm.trans (hnone hsync)
      exact absurd hsame (by decide)
    · rintro (h | h)
      · exact absurd h hsync
      · exact ⟨fun hs => absurd hs hsync, fun _ => hno fun ⟨p, hp, hr⟩ => h p hp hr⟩

/-- A property, given by texts in which the signs of a listing do not occur. -/
def property (key value : String) (h : '=' ∉ key.toList ∧ '\n' ∉ key.toList ∧ '\n' ∉ value.toList) :
    Property := ⟨key, value, h.1, h.2.1, h.2.2⟩

/-- What `timedatectl show` lists on a host whose service is on or off: that NTP can be used, is
told in either case. -/
def timedatectlProperties (ntp : String) (h : '\n' ∉ ntp.toList) : List Property :=
  [property "Timezone" "Etc/UTC" (by decide), property "LocalRTC" "no" (by decide),
    property "CanNTP" "yes" (by decide), property "NTP" ntp ⟨by decide, by decide, h⟩,
    property "NTPSynchronized" ntp ⟨by decide, by decide, h⟩]

/-- A host with `timedatectl` only. -/
def timedatectlHost (properties : List Property) : TimeTools where
  timedatectl := some (.exited 0 (listing properties))

/-- The service that is on is reported. -/
theorem detectsTimesyncd_iff_on :
    DetectsTimesyncd (timedatectlHost (timedatectlProperties "yes" (by decide)))
      (timedatectlProperties "yes" (by decide)) :=
  (detectsTimesyncd_iff rfl rfl rfl).mpr (Or.inl ⟨property "NTP" "yes" (by decide),
    by simp [timedatectlProperties], by simp [property, synchronizationKeys], rfl⟩)

/-- The service that is off is reported, too. -/
theorem timedatectl_off_not_detects :
    ¬ Synchronizes (timedatectlProperties "no" (by decide)) ∧
    detectDaemon (timedatectlHost (timedatectlProperties "no" (by decide))) =
      some ("systemd-timesyncd".toList, none) ∧
    ¬ DetectsTimesyncd (timedatectlHost (timedatectlProperties "no" (by decide)))
      (timedatectlProperties "no" (by decide)) := by
  have hoff : ¬ Synchronizes (timedatectlProperties "no" (by decide)) := by
    rintro ⟨p, hp, hkey, hvalue⟩
    simp only [timedatectlProperties, List.mem_cons, List.not_mem_nil, or_false] at hp
    rcases hp with rfl | rfl | rfl | rfl | rfl <;>
      simp [property, synchronizationKeys] at hkey hvalue
  have hdetect : detectDaemon (timedatectlHost (timedatectlProperties "no" (by decide))) =
      some ("systemd-timesyncd".toList, none) :=
    (detectDaemon_of_listing rfl rfl rfl).1
      ⟨property "CanNTP" "yes" (by decide), by simp [timedatectlProperties], "NTP",
        by simp [synchronizationKeys], Or.inl ⟨⟨"Can".toList, rfl⟩, List.prefix_refl _⟩⟩
  refine ⟨hoff, hdetect, fun h => ?_⟩
  exact absurd ((h.2 hoff).symm.trans hdetect) (by decide)

end DngPreflight.Discovery
