import DngPreflight.Generators.DnsRecords
import DngPreflight.Validation.Overrides

set_option relaxedAutoImplicit false
set_option autoImplicit false

/-!
# The record sets of the DNS records

The rows of the tables in `dns-records.md` against the entries of the array in
`dns-records.json`, and these entries against what the validator takes for a hostname that
resolves.

## Main definitions

* `DngPreflight.DnsRecords.mdRows` — the rows of the tables, in their order.
* `DngPreflight.DnsRecords.SameRecordSet` — both files describe the same set of records.
* `DngPreflight.DnsRecords.HostnameAnswered` — the array has an address of the hostname that
  discovery obtained, and no other.

## Main results

* `DngPreflight.DnsRecords.emits_template` — the marked lines of the template are these rows.
* `DngPreflight.DnsRecords.sameRecordSet_iff` — when both files describe the same set of records.
* `DngPreflight.DnsRecords.answeredIfResolving_iff` — when the array agrees with the validator.
-/

namespace DngPreflight.DnsRecords

open Text Codec

/-! ## The addresses that were obtained -/

/-- The addresses of the A records that any resolver returned, with repetitions. -/
def aAddresses (config : DngConfig) : List Str := config.snapshot.dns.aRecords.values.flatten

/-- The addresses of the AAAA records that any resolver returned, with repetitions. -/
def aaaaAddresses (config : DngConfig) : List Str := config.snapshot.dns.aaaaRecords.values.flatten

/-- What is collected, `ips` having been collected before. -/
lemma mem_foldl_collect {l ips : List Str} {ip : Str} :
    ip ∈ l.foldl (fun ips ip => if ips.contains ip then ips else ips ++ [ip]) ips ↔
      ip ∈ ips ∨ ip ∈ l := by
  induction l generalizing ips with
  | nil => simp
  | cons a l ih =>
    rw [List.foldl_cons, ih]
    split_ifs with h
    · rw [List.contains_iff_mem] at h
      constructor
      · exact Or.imp_right (List.mem_cons_of_mem a)
      · rintro (hip | hip)
        · exact Or.inl hip
        · rcases List.mem_cons.mp hip with rfl | hip
          · exact Or.inl h
          · exact Or.inr hip
    · simp [or_assoc]

/-- Nothing is collected twice. -/
lemma nodup_foldl_collect {l ips : List Str} (h : ips.Nodup) :
    (l.foldl (fun ips ip => if ips.contains ip then ips else ips ++ [ip]) ips).Nodup := by
  induction l generalizing ips with
  | nil => exact h
  | cons a l ih =>
    rw [List.foldl_cons]
    split_ifs with ha
    · exact ih h
    · rw [List.contains_iff_mem] at ha
      exact ih (List.nodup_append.mpr ⟨h, List.nodup_singleton a, fun x hx y hy he => ha (by
        rw [List.mem_singleton] at hy
        rwa [← hy, ← he])⟩)

variable {config : DngConfig}

/-- The resolved addresses are those of the A records. -/
lemma mem_resolvedIps {ip : Str} : ip ∈ resolvedIps config ↔ ip ∈ aAddresses config := by
  rw [resolvedIps, mem_foldl_collect]
  simp [aAddresses]

/-- The target is the marker, or one of the addresses. -/
lemma targetValue_cases (config : DngConfig) :
    (resolvedIps config = [] ∧ targetValue config = "<set to DNG host public IP>") ∨
      targetValue config ∈ resolvedIps config := by
  unfold targetValue
  cases resolvedIps config with
  | nil => exact Or.inl ⟨rfl, rfl⟩
  | cons ip ips => exact Or.inr List.mem_cons_self

/-- With at most one address, the address records of a name are a single one, of the target. -/
lemma addressRows_of_forall_eq (h : ∀ ip ∈ aAddresses config, ∀ ip' ∈ aAddresses config, ip = ip')
    (name : Str) : addressRows config name = [⟨"A", name, targetValue config, 300⟩] := by
  have hnodup : (resolvedIps config).Nodup := nodup_foldl_collect List.nodup_nil
  have hall : ∀ ip ∈ resolvedIps config, ∀ ip' ∈ resolvedIps config, ip = ip' :=
    fun ip hip ip' hip' => h ip (mem_resolvedIps.mp hip) ip' (mem_resolvedIps.mp hip')
  unfold addressRows targetValue
  cases hips : resolvedIps config with
  | nil => rfl
  | cons ip ips =>
    rw [hips] at hnodup hall
    cases ips with
    | nil => rfl
    | cons ip' ips =>
      obtain rfl := hall ip (by simp) ip' (by simp)
      simp at hnodup

/-! ## The rows of the tables -/

/-- The rows of the tables, in their order. -/
def mdRows (config : DngConfig) : List DnsRecord :=
  baseRows config ++
  (if config.answers.wildcardCert then wildcardRows config else []) ++
  (if usesAcme config then acmeRows config else []) ++
  (if config.requiresExtraDnsContainer then delegationRows config else []) ++
  seedRows config

/-- The cells of a row. -/
def DnsRecord.cells (r : DnsRecord) : List Str :=
  [r.type ++ List.replicate (4 - r.type.length) ' ', r.name, r.value, numeral 10 r.ttl]

/-- What a line of a table begins with. -/
def rowMarker : String := "| "

/-- Prose has no marked lines. -/
lemma emits_prose {l : List String} (h : (l.all (· != rowMarker)) = true) :
    Emits rowMarker.toList (lines l) [] := emits_lines (by decide) h

/-- A table has its rows as marked lines. -/
lemma emits_table (rows : List DnsRecord) :
    Emits rowMarker.toList (table rows) (rows.map DnsRecord.cells) := by
  have hrow : ∀ r ∈ rows, Emits rowMarker.toList r.row [r.cells] := fun r _ => emits_line rfl rfl
  have hhead : Emits rowMarker.toList (lines ["", "| Type | Name | Value | TTL |",
      "|------|------|-------|-----|"]) [] := emits_prose (by simp [rowMarker])
  have h := hhead.append (Emits.flatMap hrow)
  rwa [List.nil_append, ← List.map_eq_flatMap] at h

/-- A section on a condition has the marked lines of its body on that condition. -/
lemma emits_sectionIf (b : Bool) {body : Template} {rows : List (List Str)}
    (h : Emits rowMarker.toList body rows) :
    Emits rowMarker.toList (sectionIf b body) (if b then rows else []) := by
  have hblank : Emits rowMarker.toList (lines [""]) [] := emits_prose (by simp [rowMarker])
  cases b with
  | false => exact fun _ => rfl
  | true =>
    have h := (hblank.append h).append hblank
    rwa [List.nil_append, List.append_nil] at h

/-- A table after prose. -/
lemma emits_prose_table {prose : Template} (h : Emits rowMarker.toList prose [])
    (rows : List DnsRecord) :
    Emits rowMarker.toList (prose ++ table rows) (rows.map DnsRecord.cells) :=
  h.append (emits_table rows)

/-- **The tables of the Markdown form**: the marked lines of the template are the rows. -/
lemma emits_template (config : DngConfig) :
    Emits rowMarker.toList (template config) ((mdRows config).map DnsRecord.cells) := by
  have hseed : (if decide (seedAppHostnames config ≠ []) then
      (seedRows config).map DnsRecord.cells else []) = (seedRows config).map DnsRecord.cells := by
    by_cases h : seedAppHostnames config = []
    · simp only [seedRows, h, List.map_nil, ite_self]
    · rw [if_pos (decide_eq_true h)]
  have hrows : (mdRows config).map DnsRecord.cells =
      (([] ++ [] ++ (baseRows config).map DnsRecord.cells ++ []) ++
        (if config.answers.wildcardCert then (wildcardRows config).map DnsRecord.cells else []) ++
        (if usesAcme config then (acmeRows config).map DnsRecord.cells else []) ++
        (if config.requiresExtraDnsContainer then (delegationRows config).map DnsRecord.cells
          else []) ++
        (if decide (seedAppHostnames config ≠ []) then (seedRows config).map DnsRecord.cells
          else [])) ++ [] ++ [] ++ [] ++ [] := by
    rw [hseed, mdRows]
    simp only [List.map_append, List.nil_append, List.append_nil, apply_ite (List.map _),
      List.map_nil]
  rw [hrows, template]
  refine ((((((((Emits.append (Emits.append (Emits.append (emits_of_unmarked rfl)
    (emits_prose ?_)) (emits_table _)) (emits_prose ?_)).append
    (emits_sectionIf _ (emits_prose_table (emits_prose ?_) _))).append
    (emits_sectionIf _ (emits_prose_table
      (((emits_prose ?_).append (emits_of_unmarked rfl)).append (emits_prose ?_)) _))).append
    (emits_sectionIf _ (emits_prose_table (emits_prose ?_) _))).append
    (emits_sectionIf _ (emits_prose_table (emits_prose ?_) _))).append (emits_prose ?_)).append
    (emits_of_unmarked rfl)).append (emits_of_unmarked rfl)).append (emits_prose ?_)
  all_goals simp [rowMarker]

/-! ## Both files -/

/-- Both files describe the same set of records. -/
def SameRecordSet (config : DngConfig) : Prop :=
  ∀ r, r ∈ mdRows config ↔ r ∈ records config

/-- The value of the seed application rows. -/
def seedMarker : Str := "<DNG host public IP>"

/-- The entries of the array: address records of the target, and challenges. -/
lemma type_of_mem_records {r : DnsRecord} (h : r ∈ records config) :
    (r.type = "A" ∧ r.value = targetValue config) ∨ r.type = "TXT" := by
  have hacme : ∀ r ∈ acmeRows config, r.type = "TXT" := by
    intro r hr
    unfold acmeRows at hr
    split_ifs at hr
    · rcases List.mem_cons.mp hr with rfl | hr
      · rfl
      · rw [List.mem_singleton.mp hr]
    · rw [List.mem_singleton.mp hr]
  simp only [records, List.mem_append, List.mem_singleton, List.mem_map] at h
  rcases h with ((rfl | h) | h) | ⟨hostname, -, rfl⟩
  · exact Or.inl ⟨rfl, rfl⟩
  · split_ifs at h
    · rw [List.mem_singleton.mp h]
      exact Or.inl ⟨rfl, rfl⟩
    · cases h
  · split_ifs at h
    · exact Or.inr (hacme r h)
    · cases h
  · exact Or.inl ⟨rfl, rfl⟩

/-- The address records of the array all have the same value. -/
lemma value_of_mem_records {r : DnsRecord} (h : r ∈ records config) (htype : r.type = "A") :
    r.value = targetValue config := by
  rcases type_of_mem_records h with ⟨-, hvalue⟩ | htxt
  · exact hvalue
  · rw [htype] at htxt
    exact absurd htxt (by decide)

/-- The array delegates no subdomain, and has no AAAA record. -/
lemma type_ne_of_mem_records {r : DnsRecord} (h : r ∈ records config) :
    r.type ≠ "NS" ∧ r.type ≠ "AAAA" := by
  rcases type_of_mem_records h with ⟨htype, -⟩ | htype
  · rw [htype]
    decide
  · rw [htype]
    decide

/-- If the array has every row, then nothing is delegated, at most one address was obtained, and
the seed applications have the target as their value. -/
lemma rows_of_forall_mem_records (h : ∀ r ∈ mdRows config, r ∈ records config) :
    config.requiresExtraDnsContainer = false ∧
      (∀ ip ∈ aAddresses config, ip = targetValue config) ∧
      (seedAppHostnames config ≠ [] → targetValue config = seedMarker) := by
  refine ⟨?_, fun ip hip => ?_, fun hne => ?_⟩
  · by_contra hflag
    rw [Bool.not_eq_false] at hflag
    refine (type_ne_of_mem_records (h ⟨"NS", "<external_subdomain>",
      config.answers.publicHostname, 3600⟩ ?_)).1 rfl
    simp [mdRows, hflag, delegationRows]
  · have hips : resolvedIps config ≠ [] := List.ne_nil_of_mem (mem_resolvedIps.mpr hip)
    refine value_of_mem_records (h ⟨"A", config.answers.publicHostname, ip, 300⟩ ?_) rfl
    have hbase : (⟨"A", config.answers.publicHostname, ip, 300⟩ : DnsRecord) ∈ baseRows config := by
      rw [baseRows, addressRows, if_neg hips]
      exact List.mem_map_of_mem (mem_resolvedIps.mpr hip)
    simp only [mdRows, List.mem_append]
    exact Or.inl (Or.inl (Or.inl (Or.inl hbase)))
  · obtain ⟨hostname, hmem⟩ := List.exists_mem_of_ne_nil _ hne
    refine (value_of_mem_records (h ⟨"A", hostname ++ '.' :: publicHostnameDomain config,
      seedMarker, 300⟩ ?_) rfl).symm
    have hseed : (⟨"A", hostname ++ '.' :: publicHostnameDomain config, seedMarker, 300⟩ :
        DnsRecord) ∈ seedRows config :=
      List.mem_map_of_mem (f := fun hostname => (⟨"A",
        hostname ++ '.' :: publicHostnameDomain config, seedMarker, 300⟩ : DnsRecord)) hmem
    simp only [mdRows, List.mem_append]
    exact Or.inr hseed

/-- **When both files describe the same records**: exactly when nothing is delegated, discovery
obtained at most one A address, and there are no seed applications, unless that address is the
marker that stands in their rows.

**Proof sketch.** The array gives all its address records one value, the first address that was
obtained. The tables have a row for each address, a delegation, and a marker for the seed
applications. If none of this makes a difference, the rows are the entries in the same order. -/
theorem sameRecordSet_iff (config : DngConfig) :
    SameRecordSet config ↔
      config.requiresExtraDnsContainer = false ∧
      (∀ ip ∈ aAddresses config, ∀ ip' ∈ aAddresses config, ip = ip') ∧
      (seedAppHostnames config = [] ∨ seedMarker ∈ aAddresses config) := by
  constructor
  · intro h
    obtain ⟨hflag, hone, hseed⟩ := rows_of_forall_mem_records fun r hr => (h r).mp hr
    refine ⟨hflag, fun ip hip ip' hip' => (hone ip hip).trans (hone ip' hip').symm, ?_⟩
    by_cases hne : seedAppHostnames config = []
    · exact Or.inl hne
    · have htarget := hseed hne
      rcases targetValue_cases config with ⟨-, hmarker⟩ | hmem
      · rw [htarget] at hmarker
        exact absurd hmarker (by decide)
      · rw [htarget] at hmem
        exact Or.inr (mem_resolvedIps.mp hmem)
  · rintro ⟨hflag, hone, hseed⟩ r
    have hrows : seedRows config = (seedAppHostnames config).map fun hostname =>
        ⟨"A", hostname ++ '.' :: publicHostnameDomain config, targetValue config, 300⟩ := by
      rcases hseed with hnil | hmem
      · rw [seedRows, hnil]
        rfl
      · have htarget : targetValue config = seedMarker := by
          rcases targetValue_cases config with ⟨hnil, -⟩ | htarget
          · exact absurd (mem_resolvedIps.mpr hmem) (by simp [hnil])
          · exact hone _ (mem_resolvedIps.mp htarget) _ hmem
        rw [htarget]
        rfl
    have heq : mdRows config = records config := by
      rw [mdRows, records, hrows, baseRows, wildcardRows, addressRows_of_forall_eq hone,
        addressRows_of_forall_eq hone, hflag]
      simp
    rw [heq]

/-- A plan with RDP relays. -/
def relayPlan : DngConfig :=
  buildConfig (makeSnapshot {})
    (makeAnswers { deploymentScope := .webSshRdpSmb, seedApps := stubApps 1 0 0 })

/-- The plan passes; the array lacks the delegation, and gives the seed application another
value. -/
theorem relayPlan_not_sameRecordSet :
    validatePlan relayPlan ∅ = .ok [] ∧ ¬ SameRecordSet relayPlan ∧
      (⟨"NS", "<external_subdomain>", "dng.example.com", 3600⟩ : DnsRecord) ∈ mdRows relayPlan ∧
      (⟨"A", "web-1.example.com", "<DNG host public IP>", 300⟩ : DnsRecord) ∈ mdRows relayPlan ∧
      (⟨"A", "web-1.example.com", "203.0.113.10", 300⟩ : DnsRecord) ∈ records relayPlan := by
  have hrow : (⟨"NS", "<external_subdomain>", "dng.example.com", 3600⟩ : DnsRecord) ∈
      mdRows relayPlan := by decide
  refine ⟨by decide +kernel, fun h => ?_, hrow, by decide, by decide⟩
  exact (type_ne_of_mem_records ((h _).mp hrow)).1 rfl

/-! ## The validator -/

/-- The record is an address record of a value that discovery obtained: an A record of an A
result, or an AAAA record of an AAAA result. -/
def Obtained (config : DngConfig) (r : DnsRecord) : Prop :=
  (r.type = "A" ∧ r.value ∈ aAddresses config) ∨ (r.type = "AAAA" ∧ r.value ∈ aaaaAddresses config)

/-- The array has an address record of the hostname with an address that discovery obtained, and
every address record of the hostname has such an address. -/
def HostnameAnswered (config : DngConfig) : Prop :=
  (∃ r ∈ records config, r.name = config.answers.publicHostname ∧ Obtained config r) ∧
    ∀ r ∈ records config, r.name = config.answers.publicHostname →
      r.type = "A" ∨ r.type = "AAAA" → Obtained config r

/-- If the hostname rule passes, the hostname is answered. -/
def AnsweredIfResolving (config : DngConfig) : Prop :=
  checkPublicHostnameResolves config = .ok none → HostnameAnswered config

/-- The address records of the array are obtained if an A record was. -/
lemma obtained_of_mem_records (hne : aAddresses config ≠ []) {r : DnsRecord}
    (h : r ∈ records config) (htype : r.type = "A") : Obtained config r := by
  refine Or.inl ⟨htype, ?_⟩
  rw [value_of_mem_records h htype]
  rcases targetValue_cases config with ⟨hnil, -⟩ | hmem
  · obtain ⟨ip, hip⟩ := List.exists_mem_of_ne_nil _ hne
    exact absurd (mem_resolvedIps.mpr hip) (by simp [hnil])
  · exact mem_resolvedIps.mp hmem

/-- **The hostname is answered** exactly if an A record was obtained. -/
lemma hostnameAnswered_iff : HostnameAnswered config ↔ aAddresses config ≠ [] := by
  constructor
  · rintro ⟨⟨r, hr, -, hobtained⟩, -⟩
    rcases hobtained with ⟨-, hvalue⟩ | ⟨htype, -⟩
    · exact List.ne_nil_of_mem hvalue
    · exact absurd htype (type_ne_of_mem_records hr).2
  · intro hne
    have hbase : (⟨"A", config.answers.publicHostname, targetValue config, 300⟩ : DnsRecord) ∈
        records config := by
      simp [records]
    refine ⟨⟨_, hbase, rfl, obtained_of_mem_records hne hbase rfl⟩, fun r hr _ htype => ?_⟩
    rcases htype with htype | htype
    · exact obtained_of_mem_records hne hr htype
    · exact absurd htype (type_ne_of_mem_records hr).2

/-- **When the array agrees with the validator**: exactly when some resolver returned an A record,
or none returned any record, so that the rule fires.

**Proof sketch.** The rule passes if a list of A or AAAA records is nonempty. The array has one
address record of the hostname, an A record; it has an address exactly if there is an A record. -/
theorem answeredIfResolving_iff (config : DngConfig) :
    AnsweredIfResolving config ↔
      (∃ ips ∈ config.snapshot.dns.aRecords.values, ips ≠ []) ∨
        ∀ ips ∈ config.snapshot.dns.aRecords.values ++ config.snapshot.dns.aaaaRecords.values,
          ips = [] := by
  have hne : aAddresses config ≠ [] ↔ ∃ ips ∈ config.snapshot.dns.aRecords.values, ips ≠ [] := by
    simp [aAddresses]
  have hrule : checkPublicHostnameResolves config = .ok none ↔
      config.snapshot.dns.resolves = true := by
    unfold checkPublicHostnameResolves
    split_ifs with h
    · exact iff_of_true rfl h
    · exact iff_of_false (fun hok => Option.some_ne_none _ (Except.ok.inj hok)) h
  rw [AnsweredIfResolving, hostnameAnswered_iff, hne, hrule, ← DnsResolution.resolves_eq_false_iff]
  cases config.snapshot.dns.resolves <;> simp

/-- A snapshot of a host that has an IPv6 address only. -/
def ipv6OnlySnapshot : EnvironmentSnapshot :=
  let s := makeSnapshot { aRecords := Dict.single "1.1.1.1" [] }
  { s with dns := { s.dns with aaaaRecords := Dict.single "1.1.1.1" ["2001:db8::10"] } }

/-- Its plan. -/
def ipv6OnlyPlan : DngConfig := buildConfig ipv6OnlySnapshot (makeAnswers {})

/-- The plan passes, and the only address record of the hostname is the marker. -/
theorem ipv6OnlyPlan_not_answered :
    validatePlan ipv6OnlyPlan ∅ = .ok [] ∧ ¬ AnsweredIfResolving ipv6OnlyPlan ∧
      records ipv6OnlyPlan =
        [⟨"A", "dng.example.com", "<set to DNG host public IP>", 300⟩] := by
  refine ⟨by decide +kernel, fun h => ?_, by decide⟩
  have hno : aAddresses ipv6OnlyPlan = [] := by decide
  exact hostnameAnswered_iff.mp (h (by decide)) hno

end DngPreflight.DnsRecords
