import DngPreflight.Discovery.DomainJoined

set_option relaxedAutoImplicit false
set_option autoImplicit false

/-!
# Sections of `krb5.conf`

Discovery scans `/etc/krb5.conf` with a flag that tells whether the current section is one of
realms. The section of a line is told by the nearest header above it, whatever stands in between.

## Main definitions

* `DngPreflight.Discovery.sectionOf` — the header of the section that some lines lead up to.
* `DngPreflight.Discovery.IsAssignment` — a line that assigns something.
* `DngPreflight.Discovery.AssignsRealm` — a line assigns something in a section of realms.

## Main results

* `DngPreflight.Discovery.scanRealms_inRealms_iff` — what the scan finds from a line on.
* `DngPreflight.Discovery.detectDomainJoined_krb5_iff` — when the file tells of a domain.
-/

namespace DngPreflight.Discovery

open Text

/-! ## Sections -/

/-- The header of the section that lines lead up to: the last of them that is one. -/
def sectionOf (above : List Str) : Option Str := ((above.map strip).filter isHeader).getLast?

/-- The section that lines lead up to is one of realms. -/
def inRealms (above : List Str) : Bool := (sectionOf above).any isRealmsHeader

/-- A stripped line that assigns something: it is not blank, no comment and no header, and it has an
equals sign. -/
structure IsAssignment (line : Str) : Prop where
  not_blank : line ≠ []
  no_comment : line.head? ≠ some '#' ∧ line.head? ≠ some ';'
  no_header : line.head? ≠ some '['
  has_equals : '=' ∈ line

/-- Some line of the text assigns something, and the nearest header above it is one of realms. -/
def AssignsRealm (text : Str) : Prop :=
  ∃ above line below, splitlines text = above ++ line :: below ∧ IsAssignment (strip line) ∧
    ∃ header, sectionOf above = some header ∧ isRealmsHeader header = true

/-- A line of the rest is an entry in a section of realms, given the lines above the rest. -/
def EntryBelow (above lines : List Str) : Prop :=
  ∃ between line below, lines = between ++ line :: below ∧ isEntry (strip line) = true ∧
    inRealms (above ++ between) = true

/-! ## The scan -/

/-- **The flag of the scan**: a header sets it, and no other line changes it. -/
lemma inRealms_append_singleton (above : List Str) (line : Str) :
    inRealms (above ++ [line]) =
      if isHeader (strip line) then isRealmsHeader (strip line) else inRealms above := by
  rw [inRealms, sectionOf, List.map_append, List.filter_append, List.map_singleton]
  by_cases hheader : isHeader (strip line) = true
  · simp [hheader]
  · simp [hheader, inRealms, sectionOf]

/-- An entry is the next line, or it is below it. -/
lemma entryBelow_cons {above lines : List Str} {l : Str} :
    EntryBelow above (l :: lines) ↔
      (isEntry (strip l) = true ∧ inRealms above = true) ∨ EntryBelow (above ++ [l]) lines := by
  constructor
  · rintro ⟨between, line, below, heq, hentry, hrealms⟩
    cases between with
    | nil =>
      obtain ⟨rfl, rfl⟩ := List.cons.inj heq
      rw [List.append_nil] at hrealms
      exact Or.inl ⟨hentry, hrealms⟩
    | cons b between =>
      obtain ⟨rfl, rfl⟩ := List.cons.inj heq
      refine Or.inr ⟨between, line, below, rfl, hentry, ?_⟩
      rwa [List.append_assoc, List.singleton_append]
  · rintro (⟨hentry, hrealms⟩ | ⟨between, line, below, rfl, hentry, hrealms⟩)
    · exact ⟨[], l, lines, rfl, hentry, by rwa [List.append_nil]⟩
    · refine ⟨l :: between, line, below, rfl, hentry, ?_⟩
      rwa [List.append_assoc, List.singleton_append] at hrealms

/-- **What the scan finds from a line on**, its flag telling the section that the lines above lead
up to.

**Proof sketch.** Induction on the lines. The invariant is the flag, which each line carries on: an
ignored line and one without an equals sign leave it, a header sets it, and an entry ends the scan
if it is set. -/
lemma scanRealms_inRealms_iff {above lines : List Str} :
    scanRealms (inRealms above) lines = true ↔ EntryBelow above lines := by
  induction lines generalizing above with
  | nil =>
    refine iff_of_false Bool.false_ne_true ?_
    rintro ⟨between, line, below, heq, -⟩
    simp at heq
  | cons l lines ih =>
    have hnext := inRealms_append_singleton above l
    rw [entryBelow_cons, scanRealms, ← ih, hnext]
    by_cases hignored : isIgnored (strip l) = true
    · simp [hignored, isHeader_of_isIgnored hignored, isEntry]
    · by_cases hheader : isHeader (strip l) = true
      · simp [hignored, hheader, isEntry]
      · by_cases hequals : '=' ∈ strip l
        · cases hflag : inRealms above <;> simp [hignored, hheader, hequals, isEntry]
        · simp [hignored, hheader, hequals, isEntry]

/-- A line is an entry exactly if it assigns something. -/
lemma isEntry_iff {line : Str} : isEntry line = true ↔ IsAssignment line := by
  have hignored : isIgnored line = true ↔
      line = [] ∨ line.head? = some '#' ∨ line.head? = some ';' := by
    rw [isIgnored, Bool.or_eq_true, Bool.or_eq_true, decide_eq_true_eq, or_assoc,
      ← startsWith_singleton, ← startsWith_singleton]
    rfl
  have hheader : isHeader line = true ↔ line.head? = some '[' := startsWith_singleton
  rw [isEntry, Bool.and_eq_true, Bool.and_eq_true, Bool.not_eq_true', Bool.not_eq_true',
    ← Bool.not_eq_true, ← Bool.not_eq_true, hignored, hheader, decide_eq_true_eq]
  constructor
  · rintro ⟨⟨h, hno⟩, hequals⟩
    simp only [not_or] at h
    exact ⟨h.1, h.2, hno, hequals⟩
  · rintro ⟨hblank, hcomment, hno, hequals⟩
    exact ⟨⟨by simp only [not_or]; exact ⟨hblank, hcomment⟩, hno⟩, hequals⟩

/-- **When the file tells of a domain**, `realm list` telling nothing: exactly if some line assigns
something, and the nearest header above it is one of realms.

**Proof sketch.** The scan begins above the first line, where there is no header. -/
theorem detectDomainJoined_krb5_iff {realm : Realm} (hrealm : realm.detected = false) (text : Str) :
    detectDomainJoined ⟨realm, some text⟩ = true ↔ AssignsRealm text := by
  have hscan : detectDomainJoined ⟨realm, some text⟩ =
      scanRealms (inRealms []) (splitlines text) := by
    rw [detectDomainJoined, hrealm]
    rfl
  rw [hscan, scanRealms_inRealms_iff]
  simp only [EntryBelow, AssignsRealm, isEntry_iff, List.nil_append, inRealms,
    Option.any_eq_true]

/-- A file in which the section of realms is begun again after another one, in capital letters. -/
def reopenedSections : Str :=
  join "\n" ["[realms]", "# EXAMPLE.ORG = no", "[libdefaults]", "dns_lookup_kdc = true",
    "  [REALMS] ", "", "; old", "EXAMPLE.COM = \x7b", "\x7d"]

/-- The realm in it is found. -/
theorem detectDomainJoined_krb5_iff_reopened :
    detectDomainJoined ⟨.notInstalled, some reopenedSections⟩ = true := by
  refine (detectDomainJoined_krb5_iff rfl reopenedSections).mpr ⟨["[realms]", "# EXAMPLE.ORG = no",
    "[libdefaults]", "dns_lookup_kdc = true", "  [REALMS] ", "", "; old"], "EXAMPLE.COM = \x7b",
    ["\x7d"], by decide, isEntry_iff.mp (by decide), "[REALMS]", by decide, by decide⟩

end DngPreflight.Discovery
