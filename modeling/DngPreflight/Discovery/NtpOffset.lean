import Mathlib.Tactic.NormNum
import DngPreflight.Codec.FixedPoint
import DngPreflight.Discovery.TimeSync
import DngPreflight.Models.Factories
import DngPreflight.Validation.HardStops

set_option relaxedAutoImplicit false
set_option autoImplicit false

/-!
# The offset of the clock

The time-sync probe asks a time server for the time, and compares it with the local one in the
middle between sending the request and receiving the reply. The reply counts the seconds since 1900
in 32 bits, which wrap around in 2036. Times are exact rational numbers of seconds since 1970.

## Main definitions

* `DngPreflight.Discovery.queryNtpOffset` — the offset that the probe computes.
* `DngPreflight.Discovery.Carries` — a reply carries a time.
* `DngPreflight.Discovery.Exchange.Measures` — the offset is right, and the rule on the clock passes
  wherever it should.

## Main results

* `DngPreflight.Discovery.queryNtpOffset_of_carries` — the offset computed from a reply.
* `DngPreflight.Discovery.measures_iff` — when the offset is right.
-/

namespace DngPreflight.Discovery

open Text Codec

/-! ## The query -/

/-- Seconds between 1900 and 1970. -/
def ntpEpochOffset : ℕ := 2208988800

/-- An exchange with the time server: the local times of sending and receiving, and what is
received. -/
structure Exchange where
  t1 : ℚ
  datagram : List UInt8
  t4 : ℚ

/-- The local time in the middle of an exchange. -/
def Exchange.midpoint (x : Exchange) : ℚ := (x.t1 + x.t4) / 2

/-- The two numbers of four bytes each that eight bytes stand for, as `struct.unpack("!II", …)` has
them. -/
def unpackWords (data : List UInt8) : ℕ × ℕ := (bytesValue (data.take 4), bytesValue (data.drop 4))

/-- The offset of the server from the local clock, in seconds; none if there is no reply in time or
if it is too short. No more than 48 bytes are received. -/
def queryNtpOffset : Option Exchange → Option PyFloat
  | none => none
  | some x =>
    let data := x.datagram.take 48
    if data.length < 48 then none
    else
      -- the transmit timestamp: seconds since 1900, fixed-point
      let (secs, frac) := unpackWords ((data.drop 40).take 8)
      let serverTime := (secs : ℚ) - ntpEpochOffset + (frac : ℚ) / 2 ^ 32
      some (.fin (serverTime - (x.t1 + x.t4) / 2))

/-! ## Replies -/

/-- The timestamp of a time: the seconds since 1900 in 32 bits, which wrap around, and a fraction of
32 bits. -/
def ntpTimestamp (time : ℚ) : List UInt8 := packFixed 4 4 (time + ntpEpochOffset)

/-- A reply carries a time as its transmit timestamp. -/
structure Carries (datagram : List UInt8) (time : ℚ) : Prop where
  length_le : 48 ≤ datagram.length
  transmit : (datagram.drop 40).take 8 = ntpTimestamp time

/-- The offset that is computed from a reply that carries a time is right up to the last place of a
timestamp, and if the clocks differ by at most 29 seconds, the rule on the clock passes. -/
structure Exchange.Measures (x : Exchange) (time : ℚ) : Prop where
  offset : ∃ offset, queryNtpOffset (some x) = some (.fin offset) ∧
    |offset - (time - x.midpoint)| < 1 / 2 ^ 32
  passes : |time - x.midpoint| ≤ 29 → ∀ (tools : TimeTools) (config : DngConfig),
    collectTimeSync tools (queryNtpOffset (some x)) = some config.snapshot.timeSync →
      checkTimeOffset config = .ok none

/-- **The offset computed from a reply**: the time in the timestamp, from the middle of the
exchange. -/
lemma queryNtpOffset_of_carries {x : Exchange} {time : ℚ} (h : Carries x.datagram time) :
    queryNtpOffset (some x) =
      some (.fin (fixedValue 4 4 (ntpTimestamp time) - ntpEpochOffset - x.midpoint)) := by
  have hlength : ¬ (x.datagram.take 48).length < 48 := by
    rw [List.length_take, min_eq_left h.length_le]
    exact lt_irrefl 48
  have hdata : ((x.datagram.take 48).drop 40).take 8 = ntpTimestamp time := by
    rw [List.drop_take, List.take_take, ← h.transmit]
    rfl
  simp only [queryNtpOffset, if_neg hlength, hdata, unpackWords, fixedValue, Exchange.midpoint]
  congr 2
  norm_num
  ring

/-- The rule on the clock passes for an offset of at most 30 seconds. -/
lemma checkTimeOffset_of_abs_le {tools : TimeTools} {config : DngConfig} {offset : ℚ}
    (hcollect : collectTimeSync tools (some (.fin offset)) = some config.snapshot.timeSync)
    (h : |offset| ≤ 30) : checkTimeOffset config = .ok none := by
  obtain ⟨found, -, hfound⟩ := Option.map_eq_some_iff.mp hcollect
  rw [if_neg fun hnone => by simp at hnone] at hfound
  have hpass : (PyFloat.fin offset).absLe 30 = true := (PyFloat.absLe_fin_iff offset 30).mpr h
  simp only [checkTimeOffset, ← hfound, hpass, if_true]

/-- **When the offset is right**, and the rule on the clock passes for clocks that differ by at most
29 seconds: exactly before the timestamps wrap around.

**Proof sketch.** Before, the timestamp stands for the time up to its last place, and the offset is
at most 29 seconds and that. After, it stands for a time that is a whole turn earlier at least. -/
theorem measures_iff {x : Exchange} {time : ℚ} (hepoch : 0 ≤ time + ntpEpochOffset)
    (hcarries : Carries x.datagram time) :
    x.Measures time ↔ time + ntpEpochOffset < 2 ^ 32 := by
  have hturn : (2 : ℚ) ^ 32 = 256 ^ 4 := by norm_num
  have hquery := queryNtpOffset_of_carries hcarries
  have herror : fixedValue 4 4 (ntpTimestamp time) - ntpEpochOffset - x.midpoint -
      (time - x.midpoint) = fixedValue 4 4 (ntpTimestamp time) - (time + ntpEpochOffset) := by ring
  constructor
  · rintro ⟨⟨offset, hoffset, hlt⟩, -⟩
    obtain rfl : _ = offset := PyFloat.fin.inj (Option.some.inj (hquery.symm.trans hoffset))
    rw [herror, abs_lt] at hlt
    by_contra hwrap
    rw [not_lt, hturn] at hwrap
    have hless := le_sub_fixedValue_packFixed 4 hwrap
    have hplace : (1 : ℚ) / 2 ^ 32 < 256 ^ 4 := by norm_num
    rw [ntpTimestamp] at hlt
    linarith [hlt.1]
  · intro hlt
    rw [hturn] at hlt
    have hright : |fixedValue 4 4 (ntpTimestamp time) - (time + ntpEpochOffset)| < 1 / 2 ^ 32 := by
      rw [hturn]
      exact abs_fixedValue_packFixed_sub_lt 4 hepoch hlt
    refine ⟨⟨_, hquery, herror ▸ hright⟩, fun hclose tools config hcollect => ?_⟩
    rw [hquery] at hcollect
    refine checkTimeOffset_of_abs_le hcollect ?_
    have hplace : (1 : ℚ) / 2 ^ 32 < 1 := by norm_num
    rw [abs_lt] at hright
    rw [abs_le] at hclose ⊢
    constructor <;> linarith [hright.1, hright.2, hclose.1, hclose.2]

/-- The reply of a server at a time: the first bytes tell the version, the mode and the stratum. -/
def replyAt (time : ℚ) : List UInt8 := [36, 1] ++ List.replicate 38 0 ++ ntpTimestamp time

/-- Such a reply carries that time. -/
lemma carries_replyAt (time : ℚ) : Carries (replyAt time) time where
  length_le := by simp [replyAt, ntpTimestamp, packFixed]
  transmit := by simp [replyAt, ntpTimestamp, packFixed]

/-- An exchange between clocks that agree: no time passes. -/
def exchangeAt (time : ℚ) : Exchange := ⟨time, replyAt time, time⟩

/-- The clocks agree. -/
@[simp] lemma midpoint_exchangeAt (time : ℚ) : (exchangeAt time).midpoint = time := by
  rw [Exchange.midpoint, exchangeAt, add_self_div_two]

/-- In the year 2026 the offset is right. -/
theorem measures_iff_before_wrap : (exchangeAt 1778587200).Measures 1778587200 :=
  (measures_iff (by norm_num [ntpEpochOffset]) (carries_replyAt _)).mpr
    (by norm_num [ntpEpochOffset])

/-- A host whose time is kept by `chronyd`. -/
def chronyHost : TimeTools where
  chronyc := some (.exited 0 "Reference ID    : time.cloudflare.com")

/-- The sample plan for such a host, with the offset that is computed. -/
def offsetPlan (offset : ℚ) : DngConfig :=
  buildConfig (makeSnapshot { timeOffsetSeconds := some (.fin offset) }) (makeAnswers {})

/-- What is collected on such a host. -/
lemma collectTimeSync_chronyHost (offset : ℚ) :
    collectTimeSync chronyHost (some (.fin offset)) =
      some (offsetPlan offset).snapshot.timeSync := by
  have hdetect : detectDaemon chronyHost =
      some ("chronyd".toList, some "time.cloudflare.com".toList) := by decide
  rw [collectTimeSync, hdetect, Option.map_some, if_neg fun hnone => by simp at hnone]
  rfl

/-- A second and a half after the timestamps have wrapped around, a host whose clock agrees with
that of the server seems to be 136 years ahead, and the rule on the clock reports it. -/
theorem wrapped_not_measures :
    queryNtpOffset (some (exchangeAt (4171956995 / 2))) = some (.fin (-(2 ^ 32))) ∧
    collectTimeSync chronyHost (some (.fin (-(2 ^ 32)))) =
      some (offsetPlan (-(2 ^ 32))).snapshot.timeSync ∧
    (∃ v, checkTimeOffset (offsetPlan (-(2 ^ 32))) = .ok (some v)) ∧
    ¬ (exchangeAt (4171956995 / 2)).Measures (4171956995 / 2) := by
  have hquery : queryNtpOffset (some (exchangeAt (4171956995 / 2))) =
      some (.fin (-(2 ^ 32))) := by
    rw [queryNtpOffset_of_carries (carries_replyAt _), midpoint_exchangeAt, ntpTimestamp,
      fixedValue_packFixed]
    norm_num [ntpEpochOffset]
  have hlate : ¬ (PyFloat.fin (-(2 ^ 32))).absLe 30 = true := by
    rw [PyFloat.absLe_fin_iff, abs_neg]
    norm_num
  have hviolates : Violates (offsetPlan (-(2 ^ 32))) .timeOffsetWithin30s :=
    ⟨⟨"chronyd", some "time.cloudflare.com".toList, some (.fin (-(2 ^ 32)))⟩, _, rfl, rfl, hlate⟩
  have hreported : ∃ v, checkTimeOffset (offsetPlan (-(2 ^ 32))) = .ok (some v) :=
    Rule.check_eq_ok_some_iff.mpr hviolates
  refine ⟨hquery, collectTimeSync_chronyHost _, hreported, fun h => ?_⟩
  have hpass : checkTimeOffset (offsetPlan (-(2 ^ 32))) = .ok none := by
    refine h.passes ?_ chronyHost _ ?_
    · rw [midpoint_exchangeAt, sub_self, abs_zero]
      norm_num
    · rw [hquery, collectTimeSync_chronyHost]
  obtain ⟨v, hv⟩ := hreported
  rw [hpass] at hv
  cases hv

end DngPreflight.Discovery
