import DngPreflight.Generators.RecordSets
import DngPreflight.Interview.Questions

set_option relaxedAutoImplicit false
set_option autoImplicit false

/-!
# The parent zone

The generators put the wildcard, the ACME challenge of the wildcard, the seed applications and the
administrator's address in the domain that is left of the public hostname without its first label.
That domain is a zone of the organisation only if the hostname has labels enough.

## Main definitions

* `DngPreflight.DnsRecords.UsableZone` — a domain below a top-level domain.
* `DngPreflight.DnsRecords.UnderTld` — names directly under a top-level domain.
* `DngPreflight.DnsRecords.HasUsableZone` — the domain of a hostname is usable, and no wildcard or
  challenge is directly under a top-level domain.
* `DngPreflight.DnsRecords.ThreeLabels` — hostnames with labels enough.

## Main results

* `DngPreflight.DnsRecords.hasUsableZone_iff` — which hostnames have a usable zone.
-/

namespace DngPreflight.DnsRecords

open Text Codec

/-- The domain is not empty and not a single label, does not begin with a dot, and is left of the
hostname without one label. -/
structure UsableZone (hostname domain : Str) : Prop where
  ne_nil : domain ≠ []
  dot_mem : '.' ∈ domain
  head_ne : domain.head? ≠ some '.'
  exists_label : ∃ label, label ≠ [] ∧ '.' ∉ label ∧ hostname = label ++ '.' :: domain

/-- A name that is a label directly under a top-level domain, with or without the dot of the
root. -/
def UnderTld (name : Str) : Prop :=
  ∃ label tld, '.' ∉ label ∧ '.' ∉ tld ∧
    (name = label ++ '.' :: tld ∨ name = label ++ '.' :: (tld ++ ['.']))

/-- The name of a wildcard or of an ACME challenge. -/
def ZoneName (name : Str) : Prop :=
  "*.".toList <+: name ∨ "_acme-challenge.".toList <+: name

/-- The domain that is derived from a hostname is usable, and in no plan with this hostname does
either file list a wildcard or a challenge directly under a top-level domain. -/
def HasUsableZone (hostname : Str) : Prop :=
  UsableZone hostname (domainFromFqdn hostname) ∧
    ∀ config : DngConfig, config.answers.publicHostname = hostname →
      ∀ r ∈ records config ++ mdRows config, ZoneName r.name → ¬ UnderTld r.name

/-- The hostname begins with two labels that are not empty, each followed by a dot, and goes on
after the second. -/
def ThreeLabels (hostname : Str) : Prop :=
  ∃ first second rest, first ≠ [] ∧ '.' ∉ first ∧ second ≠ [] ∧ '.' ∉ second ∧ rest ≠ [] ∧
    hostname = first ++ '.' :: (second ++ '.' :: rest)

variable {config : DngConfig}

/-- A name below two labels is not directly under a top-level domain.

**Proof sketch.** Count the dots: there are two of them at least, and if there are no more, the
last one is not at the end. -/
lemma not_underTld (name second : Str) {rest : Str} (hrest : rest ≠ []) :
    ¬ UnderTld (name ++ '.' :: (second ++ '.' :: rest)) := by
  rintro ⟨label, tld, hlabel, htld, h | h⟩
  · have hcount := congrArg (List.count '.') h
    simp only [List.count_append, List.count_cons_self, List.count_eq_zero.mpr hlabel,
      List.count_eq_zero.mpr htld] at hcount
    omega
  · have hcount := congrArg (List.count '.') h
    simp only [List.count_append, List.count_cons_self, List.count_nil,
      List.count_eq_zero.mpr hlabel, List.count_eq_zero.mpr htld] at hcount
    have hnodot : '.' ∉ rest := List.count_eq_zero.mp (by omega)
    rcases List.eq_nil_or_concat rest with hnil | ⟨front, c, rfl⟩
    · exact hrest hnil
    · have hsplit : (name ++ '.' :: (second ++ '.' :: front)) ++ [c] =
          (label ++ '.' :: tld) ++ ['.'] := by simpa using h
      obtain rfl : c = '.' := (List.cons.inj (List.append_inj' hsplit rfl).2).1
      exact hnodot (by simp)

/-- A name in the domain of the hostname. -/
def InDomain (config : DngConfig) (name : Str) : Prop :=
  ∃ label, name = label ++ '.' :: publicHostnameDomain config

/-- The address records of a name have this name. -/
lemma name_of_mem_addressRows {name : Str} {r : DnsRecord} (h : r ∈ addressRows config name) :
    r.name = name := by
  unfold addressRows at h
  split at h
  · rw [List.mem_singleton.mp h]
  · obtain ⟨ip, -, rfl⟩ := List.mem_map.mp h
    rfl

/-- The hostname is in its domain. -/
lemma inDomain_hostname (hdot : '.' ∈ config.answers.publicHostname) :
    InDomain config config.answers.publicHostname :=
  ⟨_, (firstLabel_append_domain hdot).symm⟩

/-- The wildcard is in the domain. -/
lemma inDomain_wildcard : InDomain config ("*.".toList ++ publicHostnameDomain config) :=
  ⟨"*".toList, rfl⟩

/-- The ACME challenges are in the domain. -/
lemma inDomain_of_mem_acmeRows (hdot : '.' ∈ config.answers.publicHostname) {r : DnsRecord}
    (h : r ∈ acmeRows config) : InDomain config r.name := by
  rcases List.mem_cons.mp h with rfl | h
  · obtain ⟨label, hlabel⟩ := inDomain_hostname hdot
    refine ⟨"_acme-challenge.".toList ++ label, ?_⟩
    rw [List.append_assoc, ← hlabel]
  · split at h
    · have htext : "_acme-challenge.".toList = "_acme-challenge".toList ++ ['.'] := by simp
      rw [List.mem_singleton.mp h, htext]
      exact ⟨_, List.append_assoc _ ['.'] _⟩
    · cases h

/-- The records of the JSON form are in the domain. -/
lemma inDomain_of_mem_records (hdot : '.' ∈ config.answers.publicHostname) {r : DnsRecord}
    (h : r ∈ records config) : InDomain config r.name := by
  rcases List.mem_append.mp h with h | h
  · rcases List.mem_append.mp h with h | h
    · rcases List.mem_append.mp h with h | h
      · rw [List.mem_singleton.mp h]
        exact inDomain_hostname hdot
      · split at h
        · rw [List.mem_singleton.mp h]
          exact inDomain_wildcard
        · cases h
    · split at h
      · exact inDomain_of_mem_acmeRows hdot h
      · cases h
  · obtain ⟨hostname, -, rfl⟩ := List.mem_map.mp h
    exact ⟨hostname, rfl⟩

/-- The rows of the Markdown form are in the domain, but for the delegation. -/
lemma inDomain_of_mem_mdRows (hdot : '.' ∈ config.answers.publicHostname) {r : DnsRecord}
    (h : r ∈ mdRows config) : InDomain config r.name ∨ r ∈ delegationRows config := by
  rcases List.mem_append.mp h with h | h
  · rcases List.mem_append.mp h with h | h
    · rcases List.mem_append.mp h with h | h
      · rcases List.mem_append.mp h with h | h
        · rw [name_of_mem_addressRows h]
          exact Or.inl (inDomain_hostname hdot)
        · split at h
          · rw [name_of_mem_addressRows h]
            exact Or.inl inDomain_wildcard
          · cases h
      · split at h
        · exact Or.inl (inDomain_of_mem_acmeRows hdot h)
        · cases h
    · split at h
      · exact Or.inr h
      · cases h
  · obtain ⟨hostname, -, rfl⟩ := List.mem_map.mp h
    exact Or.inl ⟨hostname, rfl⟩

/-- The delegation is neither a wildcard nor a challenge. -/
lemma not_zoneName_delegation {r : DnsRecord} (h : r ∈ delegationRows config) :
    ¬ ZoneName r.name := by
  rw [List.mem_singleton.mp h]
  rintro (⟨rest, hrest⟩ | ⟨rest, hrest⟩)
  · have hhead : some '*' = some '<' := congrArg List.head? hrest
    exact absurd hhead (by decide)
  · have hhead : some '_' = some '<' := congrArg List.head? hrest
    exact absurd hhead (by decide)

/-- A plan with a wildcard certificate. -/
def wildcardPlan (hostname : Str) : DngConfig :=
  buildConfig (makeSnapshot {})
    { makeAnswers {} with publicHostname := hostname, wildcardCert := true }

/-- The wildcard is listed in a plan with a wildcard certificate. -/
lemma exists_mem_records_wildcardPlan (hostname : Str) :
    ∃ r ∈ records (wildcardPlan hostname), r.name = "*.".toList ++ domainFromFqdn hostname :=
  ⟨⟨"A", "*.".toList ++ domainFromFqdn hostname, targetValue (wildcardPlan hostname), 300⟩,
    List.mem_append.mpr (Or.inl (List.mem_append.mpr (Or.inl (List.mem_append.mpr
      (Or.inr List.mem_cons_self))))), rfl⟩

/-- A usable zone leaves the hostname three labels. -/
lemma threeLabels_of_hasUsableZone {hostname : Str} (h : HasUsableZone hostname) :
    ThreeLabels hostname := by
  obtain ⟨⟨-, hdot, hhead, label, hne, hlabel, hsplit⟩, hunder⟩ := h
  have hdomain := firstLabel_append_domain hdot
  have hfirst := dot_notMem_firstLabel (domainFromFqdn hostname)
  refine ⟨label, firstLabel (domainFromFqdn hostname), domainFromFqdn (domainFromFqdn hostname),
    hne, hlabel, fun hnil => ?_, hfirst, fun hnil => ?_, by rw [hdomain]; exact hsplit⟩
  · rw [hnil] at hdomain
    exact hhead (by rw [← hdomain]; rfl)
  · rw [hnil] at hdomain
    obtain ⟨r, hr, hname⟩ := exists_mem_records_wildcardPlan hostname
    refine hunder (wildcardPlan hostname) rfl r (List.mem_append.mpr (Or.inl hr)) ?_ ?_
    · exact Or.inl ⟨_, hname.symm⟩
    · rw [hname, ← hdomain]
      exact ⟨"*".toList, _, by decide, hfirst, Or.inr rfl⟩

/-- The domain of a hostname of three labels. -/
lemma usableZone_of_labels {first second rest : Str} (hfirst : first ≠ []) (hdot : '.' ∉ first)
    (hsecond : second ≠ []) (hdot' : '.' ∉ second) :
    UsableZone (first ++ '.' :: (second ++ '.' :: rest)) (second ++ '.' :: rest) where
  ne_nil := by simp
  dot_mem := by simp
  head_ne := by
    intro hhead
    rw [List.head?_append_of_ne_nil _ hsecond] at hhead
    exact hdot' (List.mem_of_head? hhead)
  exists_label := ⟨first, hfirst, hdot, rfl⟩

/-- **Which hostnames have a usable zone**: those that begin with two labels that are not empty,
each followed by a dot, and go on after the second.

**Proof sketch.** The second label and what follows it is the domain. All wildcards and
challenges are in this domain, so that they are not directly under a top-level domain. If nothing
follows the second dot, the wildcard is. -/
theorem hasUsableZone_iff (hostname : Str) : HasUsableZone hostname ↔ ThreeLabels hostname := by
  refine ⟨threeLabels_of_hasUsableZone, ?_⟩
  rintro ⟨first, second, rest, hfirst, hdot, hsecond, hdot', hrest, rfl⟩
  have hdomain := domainFromFqdn_append hdot (second ++ '.' :: rest)
  refine ⟨hdomain.symm ▸ usableZone_of_labels hfirst hdot hsecond hdot', ?_⟩
  intro config hconfig r hr hzone
  have hmem : '.' ∈ config.answers.publicHostname := by rw [hconfig]; simp
  have hin : InDomain config r.name := by
    rcases List.mem_append.mp hr with hr | hr
    · exact inDomain_of_mem_records hmem hr
    · exact (inDomain_of_mem_mdRows hmem hr).resolve_right
        fun h => not_zoneName_delegation h hzone
  obtain ⟨label, hname⟩ := hin
  rw [hname, publicHostnameDomain, hconfig, hdomain]
  exact not_underTld label second hrest

/-- The question accepts a hostname of two labels, whose domain is a top-level domain. -/
theorem apexHostname_not_hasUsableZone :
    publicHostnameQuestion.validateAnswer (.data (dumpStr "example.com")) (makeSnapshot {})
        Dict.empty = .ok () ∧
      domainFromFqdn "example.com" = "com".toList ∧ ¬ HasUsableZone "example.com" := by
  refine ⟨validateAnswer_publicHostname.mpr ⟨_, rfl, by decide⟩, by decide, ?_⟩
  rintro ⟨hzone, -⟩
  exact absurd hzone.dot_mem (by decide)

end DngPreflight.DnsRecords
