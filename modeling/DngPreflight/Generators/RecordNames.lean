import DngPreflight.Generators.RecordSets
import DngPreflight.Interview.Prompt

set_option relaxedAutoImplicit false
set_option autoImplicit false

/-!
# The names in the DNS records

Whether two records in the array of `dns-records.json` have the same type and name. All addresses
are of names directly below the domain of the public hostname, so that this comes down to the
labels before it: that of the hostname itself, the wildcard, and the names of the seed
applications.

## Main definitions

* `DngPreflight.DnsRecords.DistinctNames` — no two records have the same type and name.
* `DngPreflight.DnsRecords.ClashFree` — the first label of the hostname is not used for another
  record.

## Main results

* `DngPreflight.DnsRecords.distinctNames_of_nodup` — the names of a plan.
* `DngPreflight.DnsRecords.distinctNames_iff` — the names of a plan from an interview with a
  prompt.
-/

namespace DngPreflight.DnsRecords

open Text Codec

variable {config : DngConfig}

/-- What a record is looked up by. -/
def DnsRecord.key (r : DnsRecord) : Str × Str := (r.type, r.name)

/-- The public names of the seed applications. -/
def seedFqdns (config : DngConfig) : List Str :=
  (seedAppHostnames config).map fun hostname => hostname ++ '.' :: publicHostnameDomain config

/-- No two records have the same type and name; so no seed application has the name of the gateway
or of another application. -/
def DistinctNames (config : DngConfig) : Prop :=
  ((records config).map DnsRecord.key).Nodup ∧
    (config.answers.publicHostname :: seedFqdns config).Nodup

/-- The first label of the hostname is neither the name of a seed application nor, with a wildcard
certificate, the wildcard. -/
def ClashFree (config : DngConfig) : Prop :=
  firstLabel config.answers.publicHostname ∉ seedAppHostnames config ∧
    ¬ (config.answers.wildcardCert = true ∧
      firstLabel config.answers.publicHostname = "*".toList)

/-- The labels that address records are for: of the host, of the wildcard, and of the seed
applications. -/
def addressLabels (config : DngConfig) : List Str :=
  [firstLabel config.answers.publicHostname] ++
    (if config.answers.wildcardCert then ["*".toList] else []) ++ seedAppHostnames config

/-- A label below the domain. -/
def below (config : DngConfig) (label : Str) : Str := label ++ '.' :: publicHostnameDomain config

/-- Different labels are different names. -/
lemma below_injective (config : DngConfig) : Function.Injective (below config) :=
  fun _ _ h => List.append_cancel_right h

/-- The records for the ACME challenge, if there are any. -/
def challengeRecords (config : DngConfig) : List DnsRecord :=
  if usesAcme config then acmeRows config else []

/-- **The keys of the records**: addresses of the labels, and the ACME challenges. -/
lemma map_key_records_perm (hdot : '.' ∈ config.answers.publicHostname) :
    ((records config).map DnsRecord.key).Perm
      ((addressLabels config).map (fun l => ("A".toList, below config l)) ++
        (challengeRecords config).map DnsRecord.key) := by
  have hhost : [(⟨"A", config.answers.publicHostname, targetValue config, 300⟩ : DnsRecord)].map
      DnsRecord.key =
      [firstLabel config.answers.publicHostname].map fun l => ("A".toList, below config l) := by
    rw [List.map_singleton, List.map_singleton, below, publicHostnameDomain,
      firstLabel_append_domain hdot]
    rfl
  have hseeds : ((seedAppHostnames config).map fun hostname => (⟨"A",
      hostname ++ '.' :: publicHostnameDomain config, targetValue config, 300⟩ : DnsRecord)).map
        DnsRecord.key =
      (seedAppHostnames config).map fun l => ("A".toList, below config l) := by
    rw [List.map_map]
    rfl
  have hwild : (if config.answers.wildcardCert then
      [(⟨"A", "*.".toList ++ publicHostnameDomain config, targetValue config, 300⟩ : DnsRecord)]
      else []).map DnsRecord.key =
      (if config.answers.wildcardCert then ["*".toList] else []).map
        fun l => ("A".toList, below config l) := by
    split <;> rfl
  rw [records, List.map_append, List.map_append, List.map_append, hhost, hwild, hseeds,
    addressLabels, List.map_append, List.map_append, ← challengeRecords, List.append_assoc,
    List.append_assoc _ (List.map _ (seedAppHostnames config))]
  exact List.perm_append_comm.append_left _

/-- The ACME challenges are texts. -/
lemma type_of_mem_challengeRecords {r : DnsRecord} (h : r ∈ challengeRecords config) :
    r.type = "TXT".toList := by
  have hacme : ∀ r ∈ acmeRows config, r.type = "TXT".toList := by
    unfold acmeRows
    split <;> simp
  unfold challengeRecords at h
  split at h
  · exact hacme r h
  · cases h

/-- The ACME challenges have different names. -/
lemma nodup_challenge_keys (hdot : '.' ∈ config.answers.publicHostname) :
    ((challengeRecords config).map DnsRecord.key).Nodup := by
  have hne : config.answers.publicHostname ≠ publicHostnameDomain config := by
    intro heq
    have hlen := congrArg List.length (firstLabel_append_domain hdot)
    rw [List.length_append, List.length_cons, ← publicHostnameDomain, ← heq] at hlen
    omega
  unfold challengeRecords acmeRows
  split
  · split
    · simpa [DnsRecord.key] using hne
    · simp
  · simp

/-- The keys of the records are different if the labels of the address records are. -/
lemma nodup_keys_iff (hdot : '.' ∈ config.answers.publicHostname) :
    ((records config).map DnsRecord.key).Nodup ↔ (addressLabels config).Nodup := by
  have hinj : Function.Injective fun l => ("A".toList, below config l) :=
    fun _ _ h => below_injective config (Prod.mk.inj h).2
  rw [(map_key_records_perm hdot).nodup_iff, List.nodup_append, List.nodup_map_iff hinj]
  refine ⟨fun h => h.1, fun h => ⟨h, nodup_challenge_keys hdot, ?_⟩⟩
  intro a ha b hb hab
  obtain ⟨l, -, rfl⟩ := List.mem_map.mp ha
  obtain ⟨r, hr, rfl⟩ := List.mem_map.mp hb
  have htype : "A".toList = r.type := congrArg Prod.fst hab
  rw [type_of_mem_challengeRecords hr] at htype
  exact absurd htype (by decide)

/-- The labels of the address records are different if that of the host is not used again. -/
lemma nodup_addressLabels_iff (hseeds : (seedAppHostnames config).Nodup)
    (hstar : "*".toList ∉ seedAppHostnames config) :
    (addressLabels config).Nodup ↔ ClashFree config := by
  have hstar : ['*'] ∉ seedAppHostnames config := hstar
  unfold addressLabels ClashFree
  by_cases hwild : config.answers.wildcardCert = true
  · simp [hwild, hseeds, hstar, and_comm]
  · simp [hwild, hseeds]

/-- **When the names are different**, if those of the seed applications are different labels: no
label is used twice.

**Proof sketch.** Addresses and ACME challenges are told apart by their types. Addresses are of
different names if the labels differ. The name of the challenge for the wildcard is shorter than
the other one. -/
lemma distinctNames_of_nodup (hdot : '.' ∈ config.answers.publicHostname)
    (hseeds : (seedAppHostnames config).Nodup) (hstar : "*".toList ∉ seedAppHostnames config) :
    DistinctNames config ↔ ClashFree config := by
  have hkeys := (nodup_keys_iff hdot).trans (nodup_addressLabels_iff hseeds hstar)
  refine ⟨fun h => hkeys.mp h.1, fun hfree => ⟨hkeys.mpr hfree, ?_⟩⟩
  have hfqdns : config.answers.publicHostname :: seedFqdns config =
      (firstLabel config.answers.publicHostname :: seedAppHostnames config).map
        (below config) := by
    rw [List.map_cons, below, publicHostnameDomain, firstLabel_append_domain hdot]
    rfl
  rw [hfqdns, List.nodup_map_iff (below_injective config)]
  exact List.nodup_cons.mpr ⟨hfree.1, hseeds⟩

section Prompt

open Interview

variable {σ δ : Type} {provider : AnswersProvider σ δ} {snapshot : EnvironmentSnapshot} {st : σ}
  {answers : InterviewAnswers}

/-- **When the names from an interview are different**: for every interview whose seed
applications come from the prompt, in any number, no two records have the same type and name if
and only if the first label of the hostname is neither the name of one of them nor, with a
wildcard certificate, the wildcard.

**Proof sketch.** The names of the categories begin with different letters, none of them the
wildcard, and within a category they are numbered. -/
theorem distinctNames_iff (L : Leaves) (hro : provider.ReadOnly)
    (hprompt : SeedAppsFromPrompt provider) (hrun : run L snapshot provider st = .ok answers) :
    DistinctNames (buildConfig snapshot answers) ↔ ClashFree (buildConfig snapshot answers) := by
  obtain ⟨scope, web, ssh, rdp, hasked⟩ := exists_askSeedApps hro hprompt hrun
  obtain ⟨prior, hprior, hfields⟩ := exists_of_run hrun
  have hhost : hostnameAccepted answers.publicHostname :=
    hostnameAccepted_of_run hro hprior (readFrom_of_ofFields hfields)
  refine distinctNames_of_nodup hhost.2 (nodup_names_askSeedApps hasked) fun hstar => ?_
  rcases head?_of_mem_seedNames hasked hstar with h | h | h
  · exact absurd h (by decide)
  · exact absurd h (by decide)
  · exact absurd h (by decide)

/-- The names from an interview with four seed applications are different. -/
theorem distinctNames_iff_four :
    ∃ answers, run .strict (makeSnapshot {}) (promptProvider "dng.example.com" "2" "1" "1") () =
        .ok answers ∧
      answers.wildcardCert = true ∧ (seedNames answers.seedApps).length = 4 ∧
      DistinctNames (buildConfig (makeSnapshot {}) answers) := by
  have h : ∃ answers,
      run .strict (makeSnapshot {}) (promptProvider "dng.example.com" "2" "1" "1") () =
        .ok answers ∧ answers.wildcardCert = true ∧ (seedNames answers.seedApps).length = 4 ∧
      ClashFree (buildConfig (makeSnapshot {}) answers) := by
    refine ⟨_, rfl, rfl, rfl, ?_, ?_⟩
    · decide
    · rintro ⟨-, hstar⟩
      exact absurd hstar (by decide)
  obtain ⟨answers, hrun, hwild, hlength, hfree⟩ := h
  exact ⟨answers, hrun, hwild, hlength,
    (distinctNames_iff .strict (promptProvider_readOnly _ _ _ _)
      (promptProvider_fromPrompt _ _ _ _) hrun).mpr hfree⟩

/-- The only seed application has the name of the gateway. -/
theorem seedOfGateway_not_distinctNames :
    ∃ answers,
      run .strict (makeSnapshot {}) (promptProvider "web-app-1.example.com" "1" "0" "0") () =
        .ok answers ∧
      seedFqdns (buildConfig (makeSnapshot {}) answers) = [answers.publicHostname] ∧
      ¬ DistinctNames (buildConfig (makeSnapshot {}) answers) := by
  refine ⟨_, rfl, by decide, ?_⟩
  rintro ⟨-, hnodup⟩
  exact absurd (List.nodup_cons.mp hnodup).1 (by decide)

end Prompt

end DngPreflight.DnsRecords
