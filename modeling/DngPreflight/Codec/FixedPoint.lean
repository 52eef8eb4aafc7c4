import Mathlib.Algebra.Order.Floor.Semifield
import Mathlib.Data.Rat.Floor
import Mathlib.Tactic.Linarith
import DngPreflight.Net.Notation

set_option relaxedAutoImplicit false
set_option autoImplicit false

/-!
# Fixed-point numbers in bytes

A non-negative number in a fixed number of bytes, most significant first: its whole part in `w`
bytes, which wraps around, and its fraction in `f` bytes, which is rounded down.

## Main definitions

* `Codec.packBytes`, `Codec.bytesValue` — whole numbers in bytes.
* `Codec.packFixed`, `Codec.fixedValue` — fixed-point numbers.

## Main results

* `Codec.bytesValue_packBytes` — a packed number is read back up to wrapping around.
* `Codec.abs_fixedValue_packFixed_sub_lt` — a number that does not wrap around is read back up to
  the last place of its fraction.
* `Codec.le_sub_fixedValue_packFixed` — any other is read back as less by a whole turn at least.
-/

namespace Codec

open Text Net

/-! ## Whole numbers -/

/-- The last `w` bytes of a number, most significant first. -/
def packBytes (w n : ℕ) : List UInt8 := (bigEndian 256 w n).map UInt8.ofNat

/-- The number that the bytes stand for, most significant first. -/
def bytesValue (data : List UInt8) : ℕ := digitsValue 256 (data.map UInt8.toNat)

/-- A number is packed into the given number of bytes. -/
@[simp] lemma length_packBytes (w n : ℕ) : (packBytes w n).length = w := by
  rw [packBytes, List.length_map, length_bigEndian]

/-- **A packed number is read back** up to wrapping around. -/
lemma bytesValue_packBytes (w n : ℕ) : bytesValue (packBytes w n) = n % 256 ^ w := by
  have hbytes : (packBytes w n).map UInt8.toNat = bigEndian 256 w n := by
    rw [packBytes, List.map_map]
    refine (List.map_congr_left fun d hd => ?_).trans (List.map_id _)
    exact UInt8.toNat_ofNat_of_lt' (lt_of_mem_bigEndian (by decide) hd)
  rw [bytesValue, hbytes, digitsValue_bigEndian_mod]

/-! ## Fixed-point numbers -/

/-- The bytes of a fixed-point number: `w` for the whole part, and `f` for the fraction. -/
def packFixed (w f : ℕ) (q : ℚ) : List UInt8 :=
  packBytes w ⌊q⌋₊ ++ packBytes f ⌊Int.fract q * 256 ^ f⌋₊

/-- The fixed-point number that bytes stand for, the first `w` being its whole part. -/
def fixedValue (w f : ℕ) (data : List UInt8) : ℚ :=
  bytesValue (data.take w) + bytesValue (data.drop w) / 256 ^ f

/-- What is read back: the whole part up to wrapping around, and the fraction rounded down. -/
lemma fixedValue_packFixed (w f : ℕ) (q : ℚ) :
    fixedValue w f (packFixed w f q) =
      ((⌊q⌋₊ % 256 ^ w : ℕ) : ℚ) + (⌊Int.fract q * 256 ^ f⌋₊ : ℚ) / 256 ^ f := by
  have hscale : (0 : ℚ) < 256 ^ f := by positivity
  have hfraction : ⌊Int.fract q * 256 ^ f⌋₊ < 256 ^ f := by
    rw [Nat.floor_lt (mul_nonneg (Int.fract_nonneg q) hscale.le), Nat.cast_pow]
    exact mul_lt_of_lt_one_left hscale (Int.fract_lt_one q)
  rw [fixedValue, packFixed, List.take_left' (length_packBytes w _),
    List.drop_left' (length_packBytes w _), bytesValue_packBytes, bytesValue_packBytes,
    Nat.mod_eq_of_lt hfraction]

/-- Rounding the fraction down loses less than its last place. -/
lemma fract_sub_floor_div (f : ℕ) (q : ℚ) :
    0 ≤ Int.fract q - (⌊Int.fract q * 256 ^ f⌋₊ : ℚ) / 256 ^ f ∧
      Int.fract q - (⌊Int.fract q * 256 ^ f⌋₊ : ℚ) / 256 ^ f < 1 / 256 ^ f := by
  have hscale : (0 : ℚ) < 256 ^ f := by positivity
  constructor
  · rw [sub_nonneg, div_le_iff₀ hscale]
    exact Nat.floor_le (mul_nonneg (Int.fract_nonneg q) hscale.le)
  · rw [sub_lt_iff_lt_add, ← add_div, lt_div_iff₀ hscale, add_comm]
    exact Nat.lt_floor_add_one _

/-- A non-negative number is its whole part and its fraction. -/
lemma natFloor_add_fract {q : ℚ} (h : 0 ≤ q) : (⌊q⌋₊ : ℚ) + Int.fract q = q := by
  rw [natCast_floor_eq_intCast_floor h, Int.floor_add_fract]

/-- **A number that does not wrap around** is read back up to the last place of its fraction. -/
lemma abs_fixedValue_packFixed_sub_lt {w : ℕ} (f : ℕ) {q : ℚ} (h : 0 ≤ q) (hw : q < 256 ^ w) :
    |fixedValue w f (packFixed w f q) - q| < 1 / 256 ^ f := by
  obtain ⟨hle, hlt⟩ := fract_sub_floor_div f q
  have hwhole : ⌊q⌋₊ < 256 ^ w := by
    rwa [Nat.floor_lt h, Nat.cast_pow]
  have hparts := natFloor_add_fract h
  rw [fixedValue_packFixed, Nat.mod_eq_of_lt hwhole, abs_sub_comm, abs_of_nonneg] <;> linarith

/-- **A number that wraps around** is read back as less by a whole turn at least. -/
lemma le_sub_fixedValue_packFixed {w : ℕ} (f : ℕ) {q : ℚ} (hw : 256 ^ w ≤ q) :
    256 ^ w ≤ q - fixedValue w f (packFixed w f q) := by
  have hpos : (0 : ℚ) < 256 ^ w := by positivity
  have hparts := natFloor_add_fract (hpos.le.trans hw)
  have hturn : (⌊q⌋₊ % 256 ^ w : ℕ) + (256 : ℚ) ^ w ≤ ⌊q⌋₊ := by
    have hwhole : 256 ^ w ≤ ⌊q⌋₊ := Nat.le_floor (by rwa [Nat.cast_pow])
    have hmod : ⌊q⌋₊ % 256 ^ w + 256 ^ w ≤ ⌊q⌋₊ :=
      calc ⌊q⌋₊ % 256 ^ w + 256 ^ w
        _ = (⌊q⌋₊ - 256 ^ w) % 256 ^ w + 256 ^ w := by rw [← Nat.mod_eq_sub_mod hwhole]
        _ ≤ ⌊q⌋₊ - 256 ^ w + 256 ^ w := Nat.add_le_add_right (Nat.mod_le _ _) _
        _ = ⌊q⌋₊ := Nat.sub_add_cancel hwhole
    exact_mod_cast hmod
  have hle := (fract_sub_floor_div f q).1
  rw [fixedValue_packFixed]
  linarith

end Codec
