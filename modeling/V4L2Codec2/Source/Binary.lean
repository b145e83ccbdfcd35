import Mathlib.Data.Int.Log
import Mathlib.Data.Rat.Floor

/-!
# `float` and `double` arithmetic: round to nearest, ties to even

Two computations of `V4L2EncodeInterface.cpp` round: `H264ProfileLevelSetter` computes
`static_cast<float>(targetFS) * frameRate.v.value` in `float` (line 122), and
`getKeyFramePeriod` computes `mKeyFramePeriodUs->value / 1e6 * mFrameRate->value` in `double`
(line 458). An IEEE 754 operation returns its exact result rounded to the format, and the
default rounding is to nearest with ties to even. `roundBinary precision x` is that rounding
with a `precision`-bit significand (24 for `float`, 53 for `double`) and an unbounded exponent.

The exponent range is left out because no value the code reads depends on it here:
* the `float` product is compared with a `maxMBPS` of at most `2073600`; a product that
  overflows to infinity fails that comparison, and so does the finite value above `2^128`
  the model keeps; one in the subnormal range is below `1` both ways and passes;
* the `double` period is an `int64` count of microseconds over `1e6` times a `float` rate, at
  most about `2^63 / 10^6 * 2^128 < 2^1024`; it never overflows, and a period below the
  normal range rounds to `0` and is clamped to `1` both ways.
-/

namespace V4L2Codec2.Source

/-- Round to the nearest integer, a tie going to the even neighbour. -/
def roundHalfEven (x : ℚ) : ℤ :=
  let below := ⌊x⌋
  if x - below < 1 / 2 then below
  else if 1 / 2 < x - below then below + 1
  else if below % 2 = 0 then below else below + 1

/-- A non-negative value rounded to `precision` significant bits: scaled by the quantum of its
binade `[2^e, 2^(e+1))`, rounded to an integer, scaled back. -/
def roundMagnitude (precision : ℕ) (x : ℚ) : ℚ :=
  let quantum : ℚ := 2 ^ (Int.log 2 x + 1 - precision)
  roundHalfEven (x / quantum) * quantum

/-- Round to nearest, ties to even, with a `precision`-bit significand; the rounding is
symmetric in the sign. -/
def roundBinary (precision : ℕ) (x : ℚ) : ℚ :=
  if x < 0 then -roundMagnitude precision (-x) else roundMagnitude precision x

/-- The result of a `float` operation from its exact value. -/
def roundFloat : ℚ → ℚ := roundBinary 24

/-- The result of a `double` operation from its exact value. -/
def roundDouble : ℚ → ℚ := roundBinary 53

/-! ## Rounding to an integer -/

@[simp] theorem roundHalfEven_intCast (z : ℤ) : roundHalfEven z = z := by
  simp [roundHalfEven]

@[simp] theorem roundHalfEven_zero : roundHalfEven 0 = 0 := by
  simpa using roundHalfEven_intCast 0

theorem floor_le_roundHalfEven (x : ℚ) : ⌊x⌋ ≤ roundHalfEven x := by
  simp only [roundHalfEven]
  split_ifs <;> omega

theorem roundHalfEven_le_floor_add_one (x : ℚ) : roundHalfEven x ≤ ⌊x⌋ + 1 := by
  simp only [roundHalfEven]
  split_ifs <;> omega

/-- Below the midpoint above an integer, a value rounds down to it. -/
theorem roundHalfEven_of_lt_half {x : ℚ} (z : ℤ) (lo : z ≤ x) (hi : x < z + 1 / 2) :
    roundHalfEven x = z := by
  have floor : ⌊x⌋ = z := Int.floor_eq_iff.mpr ⟨lo, by linarith⟩
  simp only [roundHalfEven, floor]
  rw [if_pos (by linarith)]

theorem roundHalfEven_mono {x y : ℚ} (le : x ≤ y) : roundHalfEven x ≤ roundHalfEven y := by
  rcases (Int.floor_le_floor le).lt_or_eq with below | same
  · calc roundHalfEven x ≤ ⌊x⌋ + 1 := roundHalfEven_le_floor_add_one x
      _ ≤ ⌊y⌋ := below
      _ ≤ roundHalfEven y := floor_le_roundHalfEven y
  · -- In one unit interval the rounding only moves up with the remainder.
    have remainder : x - ⌊y⌋ ≤ y - ⌊y⌋ := by linarith
    unfold roundHalfEven
    simp only [same]
    split_ifs <;> first | omega | linarith

/-! ## Rounding to a binade's quantum -/

theorem roundMagnitude_zero (precision : ℕ) : roundMagnitude precision 0 = 0 := by
  simp [roundMagnitude]

theorem roundMagnitude_nonneg (precision : ℕ) {x : ℚ} (nonneg : 0 ≤ x) :
    0 ≤ roundMagnitude precision x := by
  have quantum : (0 : ℚ) < 2 ^ (Int.log 2 x + 1 - precision) := zpow_pos two_pos _
  have rounded : (0 : ℤ) ≤ roundHalfEven (x / 2 ^ (Int.log 2 x + 1 - precision)) := by
    simpa using roundHalfEven_mono (div_nonneg nonneg quantum.le)
  exact mul_nonneg (Int.cast_nonneg.mpr rounded) quantum.le

/-- The binade of a positive value is the one `Int.log 2` names. -/
theorem log_eq_of_binade {x : ℚ} {e : ℤ} (lo : 2 ^ e ≤ x) (hi : x < 2 ^ (e + 1)) :
    Int.log 2 x = e := by
  have pos : 0 < x := (zpow_pos two_pos e).trans_le lo
  have lower := (Int.zpow_le_iff_le_log (b := 2) one_lt_two pos).mp (by exact_mod_cast lo)
  have upper := (Int.lt_zpow_iff_log_lt (b := 2) one_lt_two pos).mp (by exact_mod_cast hi)
  omega

theorem roundMagnitude_of_binade (precision : ℕ) {x : ℚ} {e : ℤ} (lo : 2 ^ e ≤ x)
    (hi : x < 2 ^ (e + 1)) :
    roundMagnitude precision x =
      roundHalfEven (x / 2 ^ (e + 1 - precision)) * 2 ^ (e + 1 - precision) := by
  simp only [roundMagnitude, log_eq_of_binade lo hi]

section
variable {precision : ℕ} (wide : 0 < precision)
include wide

/-- A value of the binade `[2^e, 2^(e+1))` rounds into `[2^e, 2^(e+1)]`. -/
theorem roundMagnitude_mem_binade {x : ℚ} {e : ℤ} (lo : 2 ^ e ≤ x) (hi : x < 2 ^ (e + 1)) :
    2 ^ e ≤ roundMagnitude precision x ∧ roundMagnitude precision x ≤ 2 ^ (e + 1) := by
  obtain ⟨n, rfl⟩ : ∃ n, precision = n + 1 := ⟨precision - 1, by omega⟩
  have exponent : e + 1 - ((n + 1 : ℕ) : ℤ) = e - n := by push_cast; ring
  rw [roundMagnitude_of_binade _ lo hi, exponent]
  have quantum : (0 : ℚ) < 2 ^ (e - n) := zpow_pos two_pos _
  -- The binade's ends are `2^n` and `2^(n+1)` quanta.
  have scale : ∀ k : ℕ, (2 : ℚ) ^ (e - n + k) = ((2 ^ k : ℤ) : ℚ) * 2 ^ (e - n) := fun k => by
    rw [zpow_add₀ two_ne_zero, zpow_natCast, mul_comm]
    push_cast
    rfl
  have bottom : (2 : ℚ) ^ e = ((2 ^ n : ℤ) : ℚ) * 2 ^ (e - n) := by
    rw [← scale]
    congr 1
    ring
  have top : (2 : ℚ) ^ (e + 1) = ((2 ^ (n + 1) : ℤ) : ℚ) * 2 ^ (e - n) := by
    rw [← scale]
    congr 1
    push_cast
    ring
  have least : roundHalfEven ((2 ^ n : ℤ) : ℚ) ≤ roundHalfEven (x / 2 ^ (e - n)) :=
    roundHalfEven_mono (by rw [le_div_iff₀ quantum, ← bottom]; exact lo)
  have most : roundHalfEven (x / 2 ^ (e - n)) ≤ roundHalfEven ((2 ^ (n + 1) : ℤ) : ℚ) :=
    roundHalfEven_mono (by rw [div_le_iff₀ quantum, ← top]; exact hi.le)
  rw [roundHalfEven_intCast] at least most
  rw [bottom, top]
  exact ⟨mul_le_mul_of_nonneg_right (Int.cast_le.mpr least) quantum.le,
    mul_le_mul_of_nonneg_right (Int.cast_le.mpr most) quantum.le⟩

theorem roundMagnitude_mono {x y : ℚ} (nonneg : 0 ≤ x) (le : x ≤ y) :
    roundMagnitude precision x ≤ roundMagnitude precision y := by
  rcases nonneg.lt_or_eq with pos | rfl
  swap
  · exact (roundMagnitude_zero precision).trans_le (roundMagnitude_nonneg precision le)
  have binade : ∀ {z : ℚ}, 0 < z → 2 ^ Int.log 2 z ≤ z ∧ z < 2 ^ (Int.log 2 z + 1) :=
    fun {z} z_pos => ⟨by exact_mod_cast Int.zpow_log_le_self (b := 2) one_lt_two z_pos,
      by exact_mod_cast Int.lt_zpow_succ_log_self (b := 2) one_lt_two z⟩
  rcases (Int.log_mono_right (b := 2) pos le).lt_or_eq with lower | same
  · -- Across binades the rounded values are separated by a power of two.
    calc roundMagnitude precision x ≤ 2 ^ (Int.log 2 x + 1) :=
          (roundMagnitude_mem_binade wide (binade pos).1 (binade pos).2).2
      _ ≤ 2 ^ Int.log 2 y := zpow_le_zpow_right₀ one_le_two (by omega)
      _ ≤ roundMagnitude precision y :=
          (roundMagnitude_mem_binade wide (binade (pos.trans_le le)).1
            (binade (pos.trans_le le)).2).1
  · have quantum : (0 : ℚ) < 2 ^ (Int.log 2 y + 1 - precision) := zpow_pos two_pos _
    unfold roundMagnitude
    rw [same]
    exact mul_le_mul_of_nonneg_right
      (Int.cast_le.mpr (roundHalfEven_mono (div_le_div_of_nonneg_right le quantum.le))) quantum.le

/-- Rounding is monotone. -/
theorem roundBinary_mono : Monotone (roundBinary precision) := by
  intro x y le
  unfold roundBinary
  split_ifs with negative negative'
  · exact neg_le_neg (roundMagnitude_mono wide (by linarith) (by linarith))
  · exact (neg_nonpos.mpr (roundMagnitude_nonneg precision (by linarith))).trans
      (roundMagnitude_nonneg precision (by linarith))
  · linarith
  · exact roundMagnitude_mono wide (by linarith) le

end

theorem roundBinary_nonneg (precision : ℕ) {x : ℚ} (nonneg : 0 ≤ x) :
    0 ≤ roundBinary precision x := by
  simpa [roundBinary, not_lt.mpr nonneg] using roundMagnitude_nonneg precision nonneg

@[simp] theorem roundBinary_zero (precision : ℕ) : roundBinary precision 0 = 0 := by
  simp [roundBinary, roundMagnitude_zero]

theorem roundFloat_mono : Monotone roundFloat := roundBinary_mono (by decide)

theorem roundDouble_mono : Monotone roundDouble := roundBinary_mono (by decide)

theorem roundFloat_nonneg {x : ℚ} (nonneg : 0 ≤ x) : 0 ≤ roundFloat x :=
  roundBinary_nonneg 24 nonneg

theorem roundDouble_nonneg {x : ℚ} (nonneg : 0 ≤ x) : 0 ≤ roundDouble x :=
  roundBinary_nonneg 53 nonneg

/-- A value that is a whole number of its binade's quanta is kept. -/
theorem roundMagnitude_eq_self (precision : ℕ) {x : ℚ} (m : ℤ)
    (exact : x / 2 ^ (Int.log 2 x + 1 - precision) = m) : roundMagnitude precision x = x := by
  simp only [roundMagnitude]
  rw [exact, roundHalfEven_intCast, ← exact, div_mul_cancel₀ _ (zpow_ne_zero _ two_ne_zero)]

/-- Natural numbers below `2^precision` are exact. -/
@[simp] theorem roundBinary_natCast {precision n : ℕ} (small : n < 2 ^ precision) :
    roundBinary precision n = n := by
  rcases Nat.eq_zero_or_pos n with rfl | pos
  · simp [roundBinary, roundMagnitude_zero]
  have below : Nat.log 2 n < precision := Nat.log_lt_of_lt_pow pos.ne' small
  rw [roundBinary, if_neg (not_lt.mpr (Nat.cast_nonneg n))]
  apply roundMagnitude_eq_self precision (n * 2 ^ (precision - 1 - Nat.log 2 n))
  rw [Int.log_natCast, show (Nat.log 2 n : ℤ) + 1 - precision =
    -((precision - 1 - Nat.log 2 n : ℕ) : ℤ) by omega, zpow_neg, zpow_natCast, div_inv_eq_mul]
  push_cast
  rfl

end V4L2Codec2.Source
