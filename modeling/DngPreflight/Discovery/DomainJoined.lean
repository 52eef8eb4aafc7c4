import DngPreflight.Discovery.Command
import DngPreflight.Shell.Grep
import DngPreflight.Validation.HardStops
import DngPreflight.Models.Factories

set_option relaxedAutoImplicit false
set_option autoImplicit false

/-!
# Domain-joined hosts

Discovery and the installer both look at the output of `realm list` and at `/etc/krb5.conf` to tell
whether a host is domain-joined. Discovery scans the file for an entry in its section of realms, the
installer for a default realm. The characters that `grep` takes for whitespace depend on the locale
and are a parameter.

## Main definitions

* `DngPreflight.Discovery.detectDomainJoined` — what discovery reports.
* `DngPreflight.Discovery.verifyNotDomainJoined` — whether the installer aborts.
* `DngPreflight.Discovery.HostFacts.ListsRealm` … `DngPreflight.Discovery.HostFacts.HasDefaultRealm`
  — what each of the four tests looks for.

## Main results

* `DngPreflight.Discovery.detectDomainJoined_iff`,
  `DngPreflight.Discovery.verifyNotDomainJoined_iff` — the tests find what they look for.
* `DngPreflight.Discovery.agree_iff` — when discovery and the installer agree.
-/

namespace DngPreflight.Discovery

open Text Grep

/-! ## The facts -/

/-- The `realm` command of a host: it is not in the path, it cannot be run, or `realm list` exits
with a code after it has printed something, maybe after more than two seconds. -/
inductive Realm where
  | notInstalled
  | unusable
  | exits (returncode : ℤ) (stdout : Str) (slow : Bool)
  deriving DecidableEq

/-- What both sides look at: the `realm` command, and the text of `/etc/krb5.conf` if it can be
read. -/
structure HostFacts where
  realm : Realm
  krb5 : Option Str
  deriving DecidableEq

/-! ## Discovery -/

/-- The outcome of `realm list` under a time limit of two seconds, if `realm` is in the path. -/
def Realm.outcome : Realm → Option Outcome
  | .notInstalled => none
  | .unusable => some .failed
  | .exits returncode stdout slow => some (if slow then .failed else .exited returncode stdout)

/-- `realm list` succeeds and prints something. -/
def Realm.detected (realm : Realm) : Bool :=
  match realm.outcome with
  | some (.exited returncode stdout) => decide (returncode = 0 ∧ strip stdout ≠ [])
  | _ => false

/-- The stripped line is blank or a comment. -/
def isIgnored (line : Str) : Bool :=
  decide (line = []) || startsWith line "#" || startsWith line ";"

/-- The stripped line is the header of a section. -/
def isHeader (line : Str) : Bool := startsWith line "["

/-- The stripped line is the header of the section of realms. -/
def isRealmsHeader (line : Str) : Bool := startsWith (lower line) "[realms]"

/-- The rest of the lines has an entry in a section of realms; the flag tells whether the current
section is one. -/
def scanRealms : Bool → List Str → Bool
  | _, [] => false
  | inRealms, rawLine :: lines =>
    let line := strip rawLine
    if isIgnored line then scanRealms inRealms lines
    else if isHeader line then scanRealms (isRealmsHeader line) lines
    else if inRealms && decide ('=' ∈ line) then true
    else scanRealms inRealms lines

/-- Domain-join heuristic: `realm list` is not empty, or `/etc/krb5.conf` has realms. -/
def detectDomainJoined (host : HostFacts) : Bool :=
  host.realm.detected ||
    match host.krb5 with
    | none => false
    | some text => scanRealms false (splitlines text)

/-! ## The installer -/

variable (space : Char → Bool)

/-- `realm list 2>/dev/null | grep -q '^[^[:space:]]'`, where a failure of `realm` is one of the
pipeline. -/
def Realm.refused : Realm → Bool
  | .exits returncode stdout _ => decide (returncode = 0) && grep [.one (! space ·)] stdout
  | _ => false

/-- `grep -Eq '^[[:space:]]*default_realm'`. -/
def namesDefaultRealm (text : Str) : Bool :=
  grep (.many space :: literal "default_realm") text

/-- The installer aborts. -/
def verifyNotDomainJoined (host : HostFacts) : Bool :=
  host.realm.refused space ||
    match host.krb5 with
    | none => false
    | some text => namesDefaultRealm space text

/-! ## What the tests look for -/

/-- `realm list` exits with 0 within two seconds, and prints something that is not whitespace. -/
def HostFacts.ListsRealm (host : HostFacts) : Prop :=
  ∃ stdout, host.realm = .exits 0 stdout false ∧ ∃ c ∈ stdout, isSpace c = false

/-- `realm list` exits with 0 and prints a line that begins with a character that is not
whitespace. -/
def HostFacts.PrintsRealm (host : HostFacts) : Prop :=
  ∃ stdout slow, host.realm = .exits 0 stdout slow ∧
    ∃ c t, c :: t ∈ grepLines stdout ∧ space c = false

/-- The stripped line is an entry of a section. -/
def isEntry (line : Str) : Bool := ! isIgnored line && ! isHeader line && decide ('=' ∈ line)

/-- The current section has an entry in the rest of its lines. -/
def EntryFollows (lines : List Str) : Prop :=
  ∃ before line after, lines = before ++ line :: after ∧
    (∀ l ∈ before, isHeader (strip l) = false) ∧ isEntry (strip line) = true

/-- Some section of realms has an entry. -/
def HasRealmEntry (lines : List Str) : Prop :=
  ∃ before header after, lines = before ++ header :: after ∧ isHeader (strip header) = true ∧
    isRealmsHeader (strip header) = true ∧ EntryFollows after

/-- The file has an entry in a section of realms. -/
def HostFacts.HasRealm (host : HostFacts) : Prop :=
  ∃ text, host.krb5 = some text ∧ HasRealmEntry (splitlines text)

/-- The file has a line that begins with `default_realm`, after whitespace. -/
def HostFacts.HasDefaultRealm (host : HostFacts) : Prop :=
  ∃ text, host.krb5 = some text ∧ ∃ u t, u ++ "default_realm".toList ++ t ∈ grepLines text ∧
    ∀ c ∈ u, space c = true

/-! ## The tests find what they look for -/

/-- The current section has an entry if the next line is one, or if that line is no header and there
is one after it. -/
lemma entryFollows_cons {l : Str} {lines : List Str} :
    EntryFollows (l :: lines) ↔
      isEntry (strip l) = true ∨ isHeader (strip l) = false ∧ EntryFollows lines := by
  constructor
  · rintro ⟨before, line, after, heq, hbefore, hentry⟩
    cases before with
    | nil =>
      obtain ⟨rfl, -⟩ := List.cons.inj heq
      exact Or.inl hentry
    | cons b before =>
      obtain ⟨rfl, rfl⟩ := List.cons.inj heq
      exact Or.inr ⟨hbefore l (by simp), before, line, after, rfl,
        fun m hm => hbefore m (List.mem_cons_of_mem l hm), hentry⟩
  · rintro (hentry | ⟨hheader, before, line, after, rfl, hbefore, hentry⟩)
    · exact ⟨[], l, lines, rfl, by simp, hentry⟩
    · refine ⟨l :: before, line, after, rfl, ?_, hentry⟩
      rintro m (_ | ⟨_, hm⟩)
      · exact hheader
      · exact hbefore m hm

/-- Some section of realms has an entry if the next line begins one that has, or if there is one
after it. -/
lemma hasRealmEntry_cons {l : Str} {lines : List Str} :
    HasRealmEntry (l :: lines) ↔
      (isHeader (strip l) = true ∧ isRealmsHeader (strip l) = true ∧ EntryFollows lines) ∨
        HasRealmEntry lines := by
  constructor
  · rintro ⟨before, header, after, heq, hentry⟩
    cases before with
    | nil =>
      obtain ⟨rfl, rfl⟩ := List.cons.inj heq
      exact Or.inl hentry
    | cons b before =>
      obtain ⟨rfl, rfl⟩ := List.cons.inj heq
      exact Or.inr ⟨before, header, after, rfl, hentry⟩
  · rintro (hentry | ⟨before, header, after, rfl, hentry⟩)
    · exact ⟨[], l, lines, rfl, hentry⟩
    · exact ⟨l :: before, header, after, rfl, hentry⟩

/-- A blank line or a comment is no header. -/
lemma isHeader_of_isIgnored {line : Str} (h : isIgnored line = true) : isHeader line = false := by
  rw [isIgnored, Bool.or_eq_true, Bool.or_eq_true] at h
  rcases h with (h | h) | h
  · rw [of_decide_eq_true h]
    rfl
  · obtain ⟨t, rfl⟩ := List.isPrefixOf_iff_prefix.mp h
    rfl
  · obtain ⟨t, rfl⟩ := List.isPrefixOf_iff_prefix.mp h
    rfl

/-- **The scan of the sections**: there is an entry in the current section, if that is one of
realms, or in a section of realms that begins later.

**Proof sketch.** Induction on the lines; a line is ignored, begins a section, is an entry, or is
none of these. -/
lemma scanRealms_iff {inRealms : Bool} {lines : List Str} :
    scanRealms inRealms lines = true ↔
      (inRealms = true ∧ EntryFollows lines) ∨ HasRealmEntry lines := by
  induction lines generalizing inRealms with
  | nil =>
    constructor
    · intro h
      cases h
    · rintro (⟨-, before, line, after, h, -⟩ | ⟨before, header, after, h, -⟩) <;> simp at h
  | cons l lines ih =>
    rw [entryFollows_cons, hasRealmEntry_cons, scanRealms]
    by_cases hignored : isIgnored (strip l) = true
    · simp [hignored, isHeader_of_isIgnored hignored, isEntry, ih]
    · by_cases hheader : isHeader (strip l) = true
      · simp [hignored, hheader, isEntry, ih]
      · by_cases heq : '=' ∈ strip l
        · cases inRealms <;> simp [hignored, hheader, heq, isEntry, ih]
        · simp [hignored, hheader, heq, isEntry, ih]

/-- What remains of a string that is stripped. -/
lemma strip_ne_nil_iff {s : Str} : strip s ≠ [] ↔ ∃ c ∈ s, isSpace c = false := by
  rw [strip, Ne, trim_eq_nil_iff]
  simp

/-- Discovery reports a realm that `realm` lists or that the file has. -/
lemma detectDomainJoined_iff {host : HostFacts} :
    detectDomainJoined host = true ↔ host.ListsRealm ∨ host.HasRealm := by
  obtain ⟨realm, krb5⟩ := host
  have hrealm : realm.detected = true ↔ (⟨realm, krb5⟩ : HostFacts).ListsRealm := by
    cases realm with
    | notInstalled => simp [Realm.detected, Realm.outcome, HostFacts.ListsRealm]
    | unusable => simp [Realm.detected, Realm.outcome, HostFacts.ListsRealm]
    | exits returncode stdout slow =>
      cases slow <;> simp [Realm.detected, Realm.outcome, HostFacts.ListsRealm, strip_ne_nil_iff,
        and_assoc]
  rw [detectDomainJoined, Bool.or_eq_true, hrealm]
  cases krb5 with
  | none => simp [HostFacts.HasRealm]
  | some text => simp [HostFacts.HasRealm, scanRealms_iff]

variable {space}

/-- What a line has that begins with a character of a class. -/
lemma grep_one_iff {p : Char → Bool} {text : Str} :
    grep [.one p] text = true ↔ ∃ c t, c :: t ∈ grepLines text ∧ p c = true := by
  rw [grep_iff]
  constructor
  · rintro ⟨line, hline, u, t, rfl, c, v, rfl, hc, rfl⟩
    exact ⟨c, t, hline, hc⟩
  · rintro ⟨c, t, hline, hc⟩
    exact ⟨c :: t, hline, [c], t, rfl, c, [], rfl, hc, rfl⟩

/-- What a line has that begins with a literal after characters of a class. -/
lemma grep_many_literal_iff {p : Char → Bool} {w text : Str} :
    grep (.many p :: literal w) text = true ↔
      ∃ u t, u ++ w ++ t ∈ grepLines text ∧ ∀ c ∈ u, p c = true := by
  rw [grep_iff]
  constructor
  · rintro ⟨line, hline, _, t, rfl, u, v, rfl, hu, hv⟩
    rw [matches_literal.mp hv] at hline
    exact ⟨u, t, hline, hu⟩
  · rintro ⟨u, t, hline, hu⟩
    exact ⟨_, hline, u ++ w, t, rfl, u, w, rfl, hu, matches_literal.mpr rfl⟩

/-- The installer aborts for a realm that `realm` prints or that the file has as its default. -/
lemma verifyNotDomainJoined_iff {host : HostFacts} :
    verifyNotDomainJoined space host = true ↔
      host.PrintsRealm space ∨ host.HasDefaultRealm space := by
  obtain ⟨realm, krb5⟩ := host
  have hrealm : realm.refused space = true ↔ (⟨realm, krb5⟩ : HostFacts).PrintsRealm space := by
    cases realm with
    | notInstalled => simp [Realm.refused, HostFacts.PrintsRealm]
    | unusable => simp [Realm.refused, HostFacts.PrintsRealm]
    | exits returncode stdout slow =>
      simp [Realm.refused, HostFacts.PrintsRealm, grep_one_iff]
  rw [verifyNotDomainJoined, Bool.or_eq_true, hrealm]
  cases krb5 with
  | none => simp [HostFacts.HasDefaultRealm]
  | some text =>
    simp only [namesDefaultRealm, grep_many_literal_iff, HostFacts.HasDefaultRealm,
      Option.some.injEq, exists_eq_left']

/-! ## Agreement -/

variable (space) in
/-- Discovery reports the host as domain-joined exactly if the installer aborts on it. -/
def Agree (host : HostFacts) : Prop :=
  detectDomainJoined host = true ↔ verifyNotDomainJoined space host = true

/-- **When discovery and the installer agree**: `realm` tells both of a realm; or it tells neither,
and the file has an entry of a realm exactly if it has a default realm; or it tells one side only,
and the file tells the other.

**Proof sketch.** Each side asks two questions, and a host is domain-joined for it if either answer
is yes. -/
theorem agree_iff (space : Char → Bool) (host : HostFacts) :
    Agree space host ↔
      (host.ListsRealm ∧ host.PrintsRealm space) ∨
      (¬ host.ListsRealm ∧ ¬ host.PrintsRealm space ∧
        (host.HasRealm ↔ host.HasDefaultRealm space)) ∨
      (host.ListsRealm ∧ ¬ host.PrintsRealm space ∧ host.HasDefaultRealm space) ∨
      (¬ host.ListsRealm ∧ host.PrintsRealm space ∧ host.HasRealm) := by
  rw [Agree, detectDomainJoined_iff, verifyNotDomainJoined_iff]
  by_cases hlists : host.ListsRealm
  · by_cases hprints : host.PrintsRealm space <;> simp [hlists, hprints]
  · by_cases hprints : host.PrintsRealm space <;> simp [hlists, hprints]

/-- Whitespace in the POSIX locale. -/
def posixSpace (c : Char) : Bool := c = ' ' || decide ('\t' ≤ c ∧ c ≤ '\r')

/-- A host whose file has a default realm and no section of realms. -/
def defaultRealmHost : HostFacts :=
  ⟨.notInstalled, some (join "\n" ["[libdefaults]", "default_realm = EXAMPLE.COM", ""])⟩

/-- A host whose file has a realm and no default realm. -/
def realmHost : HostFacts :=
  ⟨.notInstalled, some (join "\n" ["[realms]", "EXAMPLE.COM = \x7b", "\x7d", ""])⟩

/-- The host with a default realm passes discovery and is refused by the installer; the host with a
realm is flagged, and slips through. -/
theorem defaultRealmHost_not_agree :
    (checkDomainJoined (buildConfig
        (makeSnapshot { domainJoined := detectDomainJoined defaultRealmHost })
        (makeAnswers {})) = .ok none ∧
      verifyNotDomainJoined posixSpace defaultRealmHost = true ∧
      ¬ Agree posixSpace defaultRealmHost) ∧
    detectDomainJoined realmHost = true ∧ verifyNotDomainJoined posixSpace realmHost = false ∧
      ¬ Agree posixSpace realmHost := by
  have hdefault : detectDomainJoined defaultRealmHost = false := by decide
  have hdefault' : verifyNotDomainJoined posixSpace defaultRealmHost = true := by decide
  have hrealm : detectDomainJoined realmHost = true := by decide
  have hrealm' : verifyNotDomainJoined posixSpace realmHost = false := by decide
  refine ⟨⟨by rw [hdefault]; decide, hdefault', fun h => ?_⟩, hrealm, hrealm', fun h => ?_⟩
  · exact absurd (h.mpr hdefault') (by rw [hdefault]; decide)
  · exact absurd (h.mp hrealm) (by rw [hrealm']; decide)

end DngPreflight.Discovery
