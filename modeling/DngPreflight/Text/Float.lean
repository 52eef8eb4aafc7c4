import Mathlib.Algebra.Order.Ring.Unbundled.Rat
import DngPreflight.Text.Numeral

set_option relaxedAutoImplicit false
set_option autoImplicit false

/-!
# Floating-point values

The values of Python's `float`: a finite value is the rational number it denotes. Negative
zero is not told apart from zero.

## Main definitions

* `Text.PyFloat` — a float: not a number, an infinity, or a finite value.
* `Text.PyFloat.absLe`, `Text.PyFloat.absGt` — `abs(x) <= b` and `abs(x) > b`.
* `Text.PyFloat.signedFixed1` — the format `+.1f`.

## Main results

* `Text.PyFloat.absLe_fin` — on finite values the comparison is that of the rationals.
* `Text.PyFloat.absLe_eq_false_iff` — the comparisons are complementary but for `nan`.
-/

namespace Text

/-- The values of a float. -/
inductive PyFloat where
  | nan
  | inf (negative : Bool)
  | fin (q : ℚ)
  deriving DecidableEq

namespace PyFloat

/-- The value is finite. -/
def isFinite : PyFloat → Bool
  | fin _ => true
  | _ => false

/-- `abs(x) <= b`, which no `nan` satisfies. -/
def absLe (x : PyFloat) (b : ℚ) : Bool :=
  match x with
  | nan => false
  | inf _ => false
  | fin q => decide (q.abs ≤ b)

/-- `abs(x) > b`, which no `nan` satisfies either. -/
def absGt (x : PyFloat) (b : ℚ) : Bool :=
  match x with
  | nan => false
  | inf _ => true
  | fin q => decide (b < q.abs)

/-- The two comparisons are complementary but for `nan`. -/
lemma absLe_eq_false_iff (x : PyFloat) (b : ℚ) : x.absLe b = false ↔ x = nan ∨ x.absGt b := by
  cases x <;> simp [absLe, absGt]

/-- On finite values the comparison is that of the rationals. -/
@[simp] lemma absLe_fin (q b : ℚ) : (fin q).absLe b = true ↔ q.abs ≤ b := by
  simp [absLe]

/-- The comparison of finite values, with the absolute value of an ordered group. -/
lemma absLe_fin_iff (q b : ℚ) : (fin q).absLe b = true ↔ |q| ≤ b := by
  rw [absLe_fin]
  rcases le_total 0 q with hsign | hsign
  · rw [Rat.abs_of_nonneg hsign, abs_of_nonneg hsign]
  · rw [Rat.abs_of_nonpos hsign, abs_of_nonpos hsign]

/-- The integer nearest to `q`, ties going to the even one. -/
def roundHalfEven (q : ℚ) : ℤ :=
  let r := q - q.floor
  if r < 1 / 2 then q.floor
  else if 1 / 2 < r then q.floor + 1
  else if q.floor % 2 = 0 then q.floor else q.floor + 1

/-- The format `+.1f`: a sign, and one digit after the point. -/
def signedFixed1 : PyFloat → Str
  | nan => "+nan"
  | inf neg => if neg then "-inf" else "+inf"
  | fin q =>
    let tenths := (roundHalfEven (q.abs * 10)).natAbs
    (if q < 0 then "-".toList else "+".toList) ++ numeral 10 (tenths / 10) ++
      '.' :: numeral 10 (tenths % 10)

example : (fin (-3125 / 100)).signedFixed1 = "-31.2".toList := by decide +kernel

end PyFloat

end Text
