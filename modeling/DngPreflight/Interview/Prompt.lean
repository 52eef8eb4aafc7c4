import DngPreflight.Interview.SharedRecord

set_option relaxedAutoImplicit false
set_option autoImplicit false

/-!
# Seed applications from the prompt

The prompt asks how many seed applications of each category there are, and numbers their names.

## Main definitions

* `DngPreflight.Interview.askSeedApps` — the seed applications, from the texts that are typed in.
* `DngPreflight.Interview.SeedAppsFromPrompt` — providers that take them from there.

## Main results

* `DngPreflight.Interview.exists_askSeedApps` — the seed applications of a successful interview
  were asked for.
* `DngPreflight.Interview.nodup_names_askSeedApps` — no two of them have the same name.
-/

namespace DngPreflight

open Text Codec

/-- Names of stubs begin with the label of their category. -/
lemma exists_of_mem_stubs {label : String} {n : ℕ} {name : Str}
    (h : name ∈ (stubs label n).map AppStub.name) : ∃ rest, name = label.toList ++ rest := by
  obtain ⟨stub, hstub, rfl⟩ := List.mem_map.mp h
  obtain ⟨i, -, rfl⟩ := List.mem_map.mp hstub
  exact ⟨_, rfl⟩

/-- The stubs of a category have different names. -/
lemma nodup_names_stubs (label : String) (n : ℕ) : ((stubs label n).map AppStub.name).Nodup := by
  rw [stubs, List.map_map]
  refine List.Nodup.map (fun i j h => ?_) List.nodup_range
  have htail := List.append_cancel_left h
  exact Nat.succ_injective (numeral_ten_injective (List.cons.inj htail).2)

namespace Interview

variable {σ δ : Type} {L : Leaves} {snapshot : EnvironmentSnapshot}
  {provider : AnswersProvider σ δ} {st : σ} {answers : InterviewAnswers}

/-- `_ask_seed_apps`: the number of applications of each category, the last one being asked for
in the RDP/SMB scope only. A text that is not a number raises. -/
def askSeedApps (scopeIsRdpSmb : Bool) (webText sshText rdpText : Str) : Option SeedApps := do
  let web ← int webText
  let ssh ← int sshText
  let rdp ← (if scopeIsRdpSmb then int rdpText else some 0)
  pure { webApps := stubs "web-app" web.toNat, sshRelays := stubs "ssh-relay" ssh.toNat,
         rdpRelays := stubs "rdp-relay" rdp.toNat }

/-- The provider answers the question about seed applications with what its prompt returns. -/
def SeedAppsFromPrompt (provider : AnswersProvider σ δ) : Prop :=
  ∀ st x call reply, call.question = "seed_apps" → (provider st x call).1 = .ok reply →
    ∃ web ssh rdp apps, askSeedApps (scopeIsRdpSmb call.prior) web ssh rdp = some apps ∧
      reply.answer = .seedApps apps

/-- The names of the seed applications, in the order of the categories. -/
def seedNames (apps : SeedApps) : List Str :=
  (apps.webApps ++ apps.sshRelays ++ apps.rdpRelays).map AppStub.name

/-- What is asked for are numbered stubs. -/
lemma exists_stubs {scope : Bool} {web ssh rdp : Str} {apps : SeedApps}
    (h : askSeedApps scope web ssh rdp = some apps) :
    ∃ l m n, apps = ⟨stubs "web-app" l, stubs "ssh-relay" m, stubs "rdp-relay" n⟩ := by
  simp only [askSeedApps, Option.bind_eq_bind, Option.bind_eq_some_iff] at h
  obtain ⟨_, -, _, -, _, -, h⟩ := h
  exact ⟨_, _, _, (Option.some.inj h).symm⟩

/-- Names that are asked for begin with one of three letters. -/
lemma head?_of_mem_seedNames {scope : Bool} {web ssh rdp : Str} {apps : SeedApps} {name : Str}
    (h : askSeedApps scope web ssh rdp = some apps) (hname : name ∈ seedNames apps) :
    name.head? = some 'w' ∨ name.head? = some 's' ∨ name.head? = some 'r' := by
  obtain ⟨_, _, _, rfl⟩ := exists_stubs h
  simp only [seedNames, List.map_append, List.mem_append] at hname
  rcases hname with (hname | hname) | hname
  · obtain ⟨rest, rfl⟩ := exists_of_mem_stubs hname
    exact Or.inl rfl
  · obtain ⟨rest, rfl⟩ := exists_of_mem_stubs hname
    exact Or.inr (Or.inl rfl)
  · obtain ⟨rest, rfl⟩ := exists_of_mem_stubs hname
    exact Or.inr (Or.inr rfl)

/-- **Seed applications that are asked for have different names.** -/
lemma nodup_names_askSeedApps {scope : Bool} {web ssh rdp : Str} {apps : SeedApps}
    (h : askSeedApps scope web ssh rdp = some apps) : (seedNames apps).Nodup := by
  obtain ⟨_, _, _, rfl⟩ := exists_stubs h
  have hhead : ∀ {l l' : String} {n n' : ℕ}, l.toList.head? ≠ l'.toList.head? →
      l.toList ≠ [] → l'.toList ≠ [] → ∀ a ∈ (stubs l n).map AppStub.name,
        ∀ b ∈ (stubs l' n').map AppStub.name, a ≠ b := by
    intro l l' n n' hne hl hl' a ha b hb hab
    obtain ⟨u, rfl⟩ := exists_of_mem_stubs ha
    obtain ⟨v, rfl⟩ := exists_of_mem_stubs hb
    have hheads := congrArg List.head? hab
    rw [List.head?_append_of_ne_nil _ hl, List.head?_append_of_ne_nil _ hl'] at hheads
    exact hne hheads
  simp only [seedNames, List.map_append]
  refine List.nodup_append.mpr ⟨List.nodup_append.mpr ⟨nodup_names_stubs _ _,
    nodup_names_stubs _ _, hhead (by decide) (by decide) (by decide)⟩,
    nodup_names_stubs _ _, fun a ha b hb => ?_⟩
  rcases List.mem_append.mp ha with ha | ha
  · exact hhead (by decide) (by decide) (by decide) a ha b hb
  · exact hhead (by decide) (by decide) (by decide) a ha b hb

/-- **The seed applications of a successful interview were asked for**, if the provider takes them
from the prompt and does not write to the record. -/
lemma exists_askSeedApps (hro : provider.ReadOnly) (hprompt : SeedAppsFromPrompt provider)
    (h : run L snapshot provider st = .ok answers) :
    ∃ scope web ssh rdp, askSeedApps scope web ssh rdp = some answers.seedApps := by
  obtain ⟨prior, hprior, hfields⟩ := exists_of_run h
  have hkeep : Dialogue.KeepsAnswers (steps provider snapshot st) :=
    Dialogue.keepsAnswers_of_writesOwn hro.writesOwn nodup_orderedQuestions
  have hmem : seedAppsQuestion ∈ (steps provider snapshot st).map Dialogue.Step.question := by
    rw [map_question_steps hprior]
    simp [orderedQuestions]
  obtain ⟨s, hs, hquestion⟩ := List.mem_map.mp hmem
  obtain ⟨st', hreply⟩ := Dialogue.reply_of_mem_steps hs
  rw [hquestion] at hreply
  obtain ⟨web, ssh, rdp, apps, happs, hanswer⟩ := hprompt st' snapshot _ s.reply rfl hreply
  have hget := get?_of_mem_steps hkeep hprior hs
  rw [hquestion, hanswer] at hget
  rw [(readFrom_of_ofFields hfields).seedApps_eq hget]
  exact ⟨_, web, ssh, rdp, happs⟩

/-! ## A provider with a prompt -/

/-- The canned answers with a given hostname, and with the seed applications from the prompt. -/
def promptProvider (hostname web ssh rdp : Str) : AnswersProvider Unit Unit := fun _ _ call =>
  if call.question = "seed_apps" then
    match askSeedApps (scopeIsRdpSmb call.prior) web ssh rdp with
    | some apps => (.ok ⟨.seedApps apps, call.prior⟩, ())
    | none => (.error (), ())
  else if call.question = "public_hostname" then (.ok ⟨.data (dumpStr hostname), call.prior⟩, ())
  else (.ok ⟨cannedAnswer call.question, call.prior⟩, ())

/-- The provider with a prompt does not write to the record. -/
lemma promptProvider_readOnly (hostname web ssh rdp : Str) :
    (promptProvider hostname web ssh rdp).ReadOnly := by
  intro st x call reply h
  unfold promptProvider at h
  split at h
  · split at h <;> cases h
    rfl
  · split at h <;> cases h <;> rfl

/-- The provider with a prompt takes the seed applications from it. -/
lemma promptProvider_fromPrompt (hostname web ssh rdp : Str) :
    SeedAppsFromPrompt (promptProvider hostname web ssh rdp) := by
  intro st x call reply hquestion h
  rw [promptProvider, if_pos hquestion] at h
  split at h
  · rename_i apps happs
    cases h
    exact ⟨web, ssh, rdp, apps, happs, rfl⟩
  · cases h

end Interview

end DngPreflight
