import DngPreflight.Net.Notation
import DngPreflight.Discovery.Collect
import DngPreflight.Validation.HardStops

set_option relaxedAutoImplicit false
set_option autoImplicit false

/-!
# The public address

The network probe asks one service after the other for the public address of the host, and takes
what the first successful response says, whatever that is. The rule on the admin port compares it
with the addresses of the interfaces.

## Main definitions

* `DngPreflight.Discovery.isIpAddress` — a text is an IP address.
* `DngPreflight.Discovery.publicAddress` — the first address that the services tell.
* `DngPreflight.Discovery.TellsAddress` — the probe finds this address.
* `DngPreflight.Discovery.FirstAnswerIsAddress` — the first service that answers tells an address.

## Main results

* `DngPreflight.Discovery.checkAdminPort_of_not_isIpAddress` — anything but an address passes the
  rule on the admin port.
* `DngPreflight.Discovery.tellsAddress_iff` — when the probe finds the address.
-/

namespace DngPreflight.Discovery

open Text Codec Net Timing

/-! ## Addresses -/

/-- A text is an IP address, as `ipaddress.ip_address` has it: a dotted quad, or hextets with or
without a scope. -/
def isIpAddress (s : Str) : Bool :=
  (parseQuad s).isSome || ((splitScope s).bind fun parts => parseColonHex parts.1).isSome

/-- The address in a response: the trimmed body, if the status is 200 and the body is one. -/
def GetResult.address : GetResult → Option Str
  | .response status text =>
    if status = 200 ∧ isIpAddress (strip text) = true then some (strip text) else none
  | .httpError => none

/-- The first address in a sequence of responses. -/
def publicAddress (outcomes : List GetResult) : Option Str := outcomes.findSome? GetResult.address

/-- What the services result in, in the order in which they are asked. -/
def Operations.outcomes (ops : Operations) : List GetResult :=
  egressFallback.map fun url => (ops.get url).value

/-- The probe finds the first address that the services tell, and nothing else becomes the public
address of the host. -/
structure TellsAddress (ops : Operations) : Prop where
  first : (egressPublicIp ops).value = publicAddress ops.outcomes
  only : ∀ (host : LocalFacts) (ip : Str),
    (networkProbe ops host).value.egressPublicIp = some ip → isIpAddress ip = true

/-- A response answers: it is a 200, and its body is not blank. -/
def GetResult.answers : GetResult → Bool
  | .response status text => decide (status = 200 ∧ strip text ≠ [])
  | .httpError => false

/-- The first response that answers, if there is one, has an address as its body. -/
def FirstAnswerIsAddress (outcomes : List GetResult) : Prop :=
  ∀ status text, outcomes.find? GetResult.answers = some (.response status text) →
    isIpAddress (strip text) = true

/-! ## The first answer -/

/-- The address in a response is the text that the probe takes from it, if that is an address. -/
lemma GetResult.address_eq (r : GetResult) : r.address = r.ip.filter isIpAddress := by
  cases r with
  | httpError => rfl
  | response status text =>
    have hempty : isIpAddress [] = false := by decide
    by_cases hstatus : status = 200
    · by_cases hblank : strip text = []
      · simp [address, ip, hstatus, hblank, hempty]
      · simp [address, ip, hstatus, hblank, Option.filter_some]
    · simp [address, ip, hstatus]

/-- A response answers if the probe takes a text from it. -/
lemma GetResult.answers_eq (r : GetResult) : r.answers = r.ip.isSome := by
  cases r with
  | httpError => rfl
  | response status text =>
    by_cases hstatus : status = 200
    · by_cases hblank : strip text = [] <;> simp [answers, ip, hstatus, hblank]
    · simp [answers, ip, hstatus]

/-- What the probe takes from a response is its trimmed body. -/
lemma GetResult.ip_response {status : ℤ} {text ip : Str}
    (h : (GetResult.response status text).ip = some ip) : ip = strip text := by
  simp only [GetResult.ip] at h
  split_ifs at h
  exact (Option.some.inj h).symm

/-- The first result is that of the first item that has one. -/
lemma findSome?_eq_bind_find? {α β : Type} (f : α → Option β) (l : List α) :
    l.findSome? f = (l.find? fun a => (f a).isSome).bind f := by
  induction l with
  | nil => rfl
  | cons a l ih =>
    rw [List.findSome?_cons, List.find?_cons, ih]
    rcases hresult : f a with _ | b
    · rfl
    · simp [hresult]

/-- The first result is the first one that passes a test exactly if it passes.

**Proof sketch.** Induction on the list: if the result of the first item fails the test, no result
that passes is equal to it. -/
lemma findSome?_eq_filter_iff {α β : Type} {f : α → Option β} {test : β → Bool} {l : List α} :
    l.findSome? f = l.findSome? (fun a => (f a).filter test) ↔
      ∀ b, l.findSome? f = some b → test b = true := by
  constructor
  · intro hsame b hb
    rw [hsame] at hb
    obtain ⟨a, -, hresult⟩ := List.exists_of_findSome?_eq_some hb
    exact (Option.filter_eq_some_iff.mp hresult).2
  · intro htest
    induction l with
    | nil => rfl
    | cons a l ih =>
      rw [List.findSome?_cons] at htest
      rw [List.findSome?_cons, List.findSome?_cons]
      rcases hresult : f a with _ | b
      · rw [hresult] at htest
        exact ih htest
      · rw [hresult] at htest
        simp [Option.filter_some, htest b rfl]

/-- The probe takes the body of the first response that answers. -/
lemma value_egressPublicIp (ops : Operations) :
    (egressPublicIp ops).value = ops.outcomes.findSome? GetResult.ip := by
  rw [egressPublicIp, Timed.value_firstSome, Operations.outcomes, List.findSome?_map]
  rfl

/-- The first response that answers tells an address exactly if what the probe takes is one. -/
lemma firstAnswerIsAddress_iff {outcomes : List GetResult} :
    FirstAnswerIsAddress outcomes ↔
      ∀ ip, outcomes.findSome? GetResult.ip = some ip → isIpAddress ip = true := by
  have hanswers : (fun r : GetResult => r.ip.isSome) = GetResult.answers :=
    funext fun r => r.answers_eq.symm
  rw [findSome?_eq_bind_find?, hanswers, FirstAnswerIsAddress]
  constructor
  · intro h ip hip
    obtain ⟨r, hr, hip⟩ := Option.bind_eq_some_iff.mp hip
    cases r with
    | httpError => cases hip
    | response status text =>
      rw [GetResult.ip_response hip]
      exact h status text hr
  · intro h status text hr
    have hsome : (GetResult.response status text).ip.isSome = true := by
      rw [← GetResult.answers_eq]
      exact List.find?_some hr
    obtain ⟨ip, hip⟩ := Option.isSome_iff_exists.mp hsome
    rw [← GetResult.ip_response hip]
    exact h ip (Option.bind_eq_some_iff.mpr ⟨_, hr, hip⟩)

/-- **Anything but an address passes the rule on the admin port**, the interfaces having addresses
only. -/
lemma checkAdminPort_of_not_isIpAddress {config : DngConfig} {egress : Str}
    (hegress : config.snapshot.network.egressPublicIp = some egress)
    (hinterfaces : ∀ ip ∈ config.snapshot.network.interfaces.values.flatten, isIpAddress ip = true)
    (h : isIpAddress egress = false) : checkAdminPort config = .ok none := by
  have hnot : egress ∉ config.snapshot.network.interfaces.values.flatten := fun hmem =>
    Bool.false_ne_true (h.symm.trans (hinterfaces egress hmem))
  simp only [checkAdminPort, hegress, if_pos hnot]

/-- **When the probe finds the address**: exactly if the first response that answers tells one.

**Proof sketch.** The probe takes the body of the first response that answers. That is the first
address if it is an address. Otherwise it is not even an address. -/
theorem tellsAddress_iff (ops : Operations) :
    TellsAddress ops ↔ FirstAnswerIsAddress ops.outcomes := by
  have haddress : publicAddress ops.outcomes =
      ops.outcomes.findSome? fun r => r.ip.filter isIpAddress :=
    congrArg (fun f => ops.outcomes.findSome? f) (funext GetResult.address_eq)
  rw [firstAnswerIsAddress_iff, ← findSome?_eq_filter_iff]
  constructor
  · rintro ⟨hfirst, -⟩
    rw [← value_egressPublicIp, hfirst, haddress]
  · intro hsame
    have hfirst : (egressPublicIp ops).value = publicAddress ops.outcomes := by
      rw [value_egressPublicIp, hsame, haddress]
    refine ⟨hfirst, fun host ip hip => ?_⟩
    have hvalue : ops.outcomes.findSome? GetResult.ip = some ip := by
      rw [← value_egressPublicIp]
      exact hip
    exact findSome?_eq_filter_iff.mp hsame ip hvalue

/-- A network whose portal answers the first request with a page to sign in; the other services tell
the address. -/
def captivePortal : Operations where
  get url :=
    if url = "https://api.ipify.org" then
      ⟨⟨.response 200 "<html>Sign in</html>", 0⟩, le_refl _, by decide⟩
    else ⟨⟨.response 200 "203.0.113.10\n", 0⟩, le_refl _, by decide⟩
  head _ := ⟨⟨.response 200, 0⟩, le_refl _, by decide⟩
  query _ _ _ := ⟨⟨.answered [], 0⟩, le_refl _, by decide⟩
  reverse _ := ⟨⟨.failed, 0⟩, le_refl _, by decide⟩

/-- A plan for a host whose public address is on an interface, without a firewall. -/
def exposedPlan (egress : Option Str) : DngConfig :=
  buildConfig
    (makeSnapshot
      { egressPublicIp := egress
        interfaces := Dict.single "eth0" ["203.0.113.10"]
        firewall := .missing ⟨"no firewall"⟩ })
    (makeAnswers {})

/-- The page becomes the public address of the host, and the rule on the admin port passes for a
host that is exposed. -/
theorem captivePortal_not_tellsAddress :
    (networkProbe captivePortal sampleFacts).value.egressPublicIp =
      some "<html>Sign in</html>".toList ∧
    publicAddress captivePortal.outcomes = some "203.0.113.10".toList ∧
    checkAdminPort (exposedPlan (some "<html>Sign in</html>")) = .ok none ∧
    (∃ v, checkAdminPort (exposedPlan (some "203.0.113.10")) = .ok (some v)) ∧
    ¬ TellsAddress captivePortal := by
  have hpage : isIpAddress "<html>Sign in</html>" = false := by decide
  have hprobe : (networkProbe captivePortal sampleFacts).value.egressPublicIp =
      some "<html>Sign in</html>".toList := by decide
  refine ⟨hprobe, by decide, checkAdminPort_of_not_isIpAddress rfl (by decide) hpage, ?_,
    fun h => ?_⟩
  · have hviolates : Violates (exposedPlan (some "203.0.113.10")) .adminPortMustBePrivate := by
      refine ⟨⟨"203.0.113.10", rfl, ["203.0.113.10"], by decide, by simp⟩, ?_⟩
      rintro ⟨fw, hfirewall, -⟩
      cases hfirewall
    exact Rule.check_eq_ok_some_iff.mpr hviolates
  · exact Bool.false_ne_true (hpage.symm.trans (h.only sampleFacts _ hprobe))

end DngPreflight.Discovery
