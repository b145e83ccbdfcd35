import V4L2Codec2.Source.Initialize
import Mathlib.Data.Rat.Floor

/-!
# Intra refresh and key frames

`IntraRefreshPeriodSetter` (`V4L2EncodeInterface.cpp:221-232`) normalises the intra-refresh
parameter: a period below one frame disables intra refresh, any other period selects the one
supported mode. `getKeyFramePeriod` (`:454-460`) derives the key-frame period in frames from
the period in microseconds and the frame rate; 0 means no periodic key frames. Away from its
special values it never decreases in either argument (`getKeyFramePeriod_mono`).

The source computes `value / 1e6 * frameRate` in `double`: the `int64_t` period is converted,
divided and multiplied, each step rounded by `roundDouble`. `std::round` is `stdRound`.
-/

namespace V4L2Codec2.Source
open C2Config

def intraRefreshPeriodSetter (period : IntraRefresh) : C2R × IntraRefresh :=
  if period.period < 1 then (.ok, ⟨.INTRA_REFRESH_DISABLED, 0⟩)
  else (.ok, { period with mode := .INTRA_REFRESH_ARBITRARY })

/-- The setter accepts every request and leaves intra refresh disabled with period 0, or in
the arbitrary mode with the requested period of at least one frame; what it leaves, it leaves
unchanged. -/
theorem intraRefreshPeriodSetter_normal (period : IntraRefresh) :
    let out := intraRefreshPeriodSetter period
    out.1 = .ok ∧
      (period.period < 1 ∧ out.2 = ⟨.INTRA_REFRESH_DISABLED, 0⟩ ∨
        1 ≤ period.period ∧ out.2 = ⟨.INTRA_REFRESH_ARBITRARY, period.period⟩) ∧
      intraRefreshPeriodSetter out.2 = out := by
  intro out
  by_cases below : period.period < 1
  · have disabled : out = (.ok, ⟨.INTRA_REFRESH_DISABLED, 0⟩) := if_pos below
    rw [disabled]
    exact ⟨rfl, .inl ⟨below, rfl⟩, if_pos zero_lt_one⟩
  · have arbitrary : out = (.ok, ⟨.INTRA_REFRESH_ARBITRARY, period.period⟩) := if_neg below
    rw [arbitrary]
    exact ⟨rfl, .inr ⟨not_lt.mp below, rfl⟩, if_neg below⟩

def INT64_MAX : Int := 2 ^ 63 - 1
def UINT32_MAX : Int := 2 ^ 32 - 1

/-- `std::round`: the nearest integer, halfway cases away from zero. -/
def stdRound (x : ℚ) : Int := if x < 0 then -⌊-x + 1 / 2⌋ else ⌊x + 1 / 2⌋

def getKeyFramePeriod (keyFramePeriodUs : Int) (frameRate : ℚ) : Nat :=
  if keyFramePeriodUs < 0 ∨ keyFramePeriodUs = INT64_MAX then 0
  else
    let period : ℚ := roundDouble (roundDouble (roundDouble keyFramePeriodUs / 1000000) * frameRate)
    (max (min (stdRound period) UINT32_MAX) 1).toNat

/-- The period in frames is 0, no periodic key frames, exactly for a negative or `INT64_MAX`
period in microseconds: every other period, 0 included, gives at least one frame. No result
exceeds `UINT32_MAX`, so the final cast to `uint32_t` keeps the value. -/
theorem getKeyFramePeriod_range (keyFramePeriodUs : Int) (frameRate : ℚ) :
    (getKeyFramePeriod keyFramePeriodUs frameRate = 0 ↔
      keyFramePeriodUs < 0 ∨ keyFramePeriodUs = INT64_MAX) ∧
    (getKeyFramePeriod keyFramePeriodUs frameRate : Int) ≤ UINT32_MAX := by
  unfold getKeyFramePeriod
  split_ifs with disabled
  · exact ⟨iff_of_true rfl disabled, by decide⟩
  · simp only [disabled, iff_false, UINT32_MAX]
    omega

/-- `std::round` never decreases: each branch is a monotone floor, and the negative branch
stays at or below 0, where the other starts. -/
theorem stdRound_mono {x y : ℚ} (le : x ≤ y) : stdRound x ≤ stdRound y := by
  unfold stdRound
  split_ifs with negative negative' negative'
  · exact neg_le_neg (Int.floor_mono (add_le_add_right (neg_le_neg le) _))
  · have below : 0 ≤ ⌊-x + 1 / 2⌋ :=
      Int.floor_nonneg.mpr (add_nonneg (neg_nonneg.mpr negative.le) one_half_pos.le)
    have above : 0 ≤ ⌊y + 1 / 2⌋ :=
      Int.floor_nonneg.mpr (add_nonneg (not_lt.mp negative') one_half_pos.le)
    omega
  · exact absurd (le.trans_lt negative') negative
  · exact Int.floor_mono (add_le_add_right le _)

/-- A longer key-frame period or a higher frame rate never gives fewer frames between key
frames, for every period from 0 up to, not including, `INT64_MAX`. -/
theorem getKeyFramePeriod_mono {shorter longer : Int} {slow fast : ℚ} (started : 0 ≤ shorter)
    (le : shorter ≤ longer) (finite : longer < INT64_MAX) (forward : 0 ≤ slow)
    (faster : slow ≤ fast) :
    getKeyFramePeriod shorter slow ≤ getKeyFramePeriod longer fast := by
  have converted : roundDouble shorter ≤ roundDouble longer := roundDouble_mono (Int.cast_le.mpr le)
  have seconds : roundDouble (roundDouble shorter / 1000000) ≤
      roundDouble (roundDouble longer / 1000000) :=
    roundDouble_mono (div_le_div_of_nonneg_right converted (by norm_num))
  have seconds_nonneg : 0 ≤ roundDouble (roundDouble shorter / 1000000) :=
    roundDouble_nonneg (div_nonneg (roundDouble_nonneg (Int.cast_nonneg.mpr started)) (by norm_num))
  have rounded := stdRound_mono (roundDouble_mono
    (mul_le_mul seconds faster forward (seconds_nonneg.trans seconds)))
  unfold INT64_MAX at finite
  simp only [getKeyFramePeriod, INT64_MAX]
  rw [if_neg (by omega), if_neg (by omega)]
  omega

/-- One second at the default 30 frames per second against two seconds at 60. -/
theorem getKeyFramePeriod_mono_default :
    0 ≤ (1000000 : Int) ∧ (1000000 : Int) ≤ 2000000 ∧ (2000000 : Int) < INT64_MAX ∧
    (0 : ℚ) ≤ kDefaultFrameRate ∧ kDefaultFrameRate ≤ 60 ∧
    getKeyFramePeriod 1000000 kDefaultFrameRate ≤ getKeyFramePeriod 2000000 60 :=
  have forward : (0 : ℚ) ≤ kDefaultFrameRate := Nat.cast_nonneg 30
  have faster : kDefaultFrameRate ≤ 60 := by
    unfold kDefaultFrameRate
    exact_mod_cast (show 30 ≤ 60 by decide)
  ⟨by decide, by decide, by decide, forward, faster,
    getKeyFramePeriod_mono (by decide) (by decide) (by decide) forward faster⟩

/-- The default period, one second, is 30 frames at the default frame rate: every `double`
step is exact on these whole numbers. -/
theorem getKeyFramePeriod_default : getKeyFramePeriod 1000000 kDefaultFrameRate = 30 := by
  have exact : ∀ n : ℕ, n < 2 ^ 53 → roundDouble n = n := fun _ small => roundBinary_natCast small
  have period : roundDouble (roundDouble (roundDouble ((1000000 : ℤ) : ℚ) / 1000000) *
      kDefaultFrameRate) = (30 : ℕ) := by
    rw [show ((1000000 : ℤ) : ℚ) = (1000000 : ℕ) by norm_num, exact _ (by norm_num),
      show ((1000000 : ℕ) : ℚ) / 1000000 = (1 : ℕ) by norm_num, exact _ (by norm_num),
      kDefaultFrameRate, ← Nat.cast_mul, exact _ (by norm_num)]
  have rounded : stdRound (30 : ℕ) = 30 := by
    rw [stdRound, if_neg (by norm_num), Int.floor_eq_iff]
    norm_num
  simp only [getKeyFramePeriod, period, rounded]
  decide

/-- 0.58 s at 25 frames per second: `580000 / 1e6` is the `double` just below 0.58, and the
product is the `double` just below 14.5, which `std::round` takes to 14 where the exact 14.5
would give 15. -/
example : getKeyFramePeriod 580000 25 = 14 := by
  have converted : roundDouble ((580000 : ℤ) : ℚ) = 580000 := by
    simpa using roundBinary_natCast (show (580000 : ℕ) < 2 ^ 53 by norm_num)
  have seconds : roundDouble (580000 / 1000000) = 5224175567749775 / 2 ^ 53 := by
    rw [roundDouble, roundBinary, if_neg (by norm_num),
      roundMagnitude_of_binade 53 (e := -1) (by norm_num) (by norm_num),
      roundHalfEven_of_lt_half 5224175567749775 (by norm_num) (by norm_num)]
    norm_num
  have period : roundDouble (5224175567749775 / 2 ^ 53 * 25) = 8162774324609023 / 2 ^ 49 := by
    rw [roundDouble, roundBinary, if_neg (by norm_num),
      roundMagnitude_of_binade 53 (e := 3) (by norm_num) (by norm_num),
      roundHalfEven_of_lt_half 8162774324609023 (by norm_num) (by norm_num)]
    norm_num
  have rounded : stdRound (8162774324609023 / 2 ^ 49) = 14 := by
    rw [stdRound, if_neg (by norm_num), Int.floor_eq_iff]
    norm_num
  simp only [getKeyFramePeriod, converted, seconds, period, rounded]
  decide

end V4L2Codec2.Source
