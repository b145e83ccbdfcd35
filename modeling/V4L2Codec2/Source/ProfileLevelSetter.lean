import V4L2Codec2.Source.LevelLimits
import V4L2Codec2.Source.Binary
import Mathlib.Algebra.Order.Field.Rat

/-!
# The profile-level setters

`H264ProfileLevelSetter` and `VP9ProfileLevelSetter` (`V4L2EncodeInterface.cpp:71-209`).
The H.264 setter is modelled with explicit state passing: the function-static
`lowestConfigLevel` is an argument and a result, and the `for` loop over `kLimits`, with its
`continue`, its `break` and the flag `needsUpdate`, is `levelScan`, structurally recursive
on the rows. `supportsAtAll` of a field declared with `oneOf` is membership in the declared
list, which the setters take as arguments.

Widths, heights and bitrates are the `uint32_t` fields of the C2 parameters. The frame rate
is the `float` value of its parameter, a rational here; `targetMBPS` is the `float` product
`static_cast<float>(targetFS) * frameRate`, each operation rounded by `roundFloat`.
-/

namespace V4L2Codec2.Source
open C2Config

/-- A parameter field a setter names in a `BadValue` failure: the profile and level of
`C2StreamProfileLevelInfo`, the width and height of `C2StreamPictureSizeInfo`, and the `value`
of the frame-rate and bitrate parameters. -/
inductive ParamField where
  | profile | level | width | height | frameRate | bitrate
  deriving DecidableEq, Repr

/-- `C2R`: the failures a setter reports. `C2R::Ok()` has none. -/
structure C2R where
  failures : List ParamField
  deriving DecidableEq, Repr

def C2R.ok : C2R := ⟨[]⟩

/-- `C2SettingResultBuilder::BadValue(F(field))`. -/
def C2R.badValue (field : ParamField) : C2R := ⟨[field]⟩

/-- `C2R::plus`: the failures of both. -/
def C2R.plus (first second : C2R) : C2R := ⟨first.failures ++ second.failures⟩

@[simp] theorem C2R.plus_eq_ok {first second : C2R} :
    first.plus second = .ok ↔ first = .ok ∧ second = .ok := by
  cases first
  cases second
  simp [C2R.plus, C2R.ok]

@[simp] theorem C2R.badValue_ne_ok (field : ParamField) : C2R.badValue field ≠ C2R.ok :=
  fun same => List.cons_ne_nil _ _ (congrArg C2R.failures same)

@[simp] theorem C2R.badValue_inj {a b : ParamField} : C2R.badValue a = C2R.badValue b ↔ a = b := by
  simp [C2R.badValue]

/-- `C2StreamProfileLevelInfo::output`. -/
structure ProfileLevel where
  profile : Nat
  level : Nat
  deriving DecidableEq, Repr

/-- `C2StreamPictureSizeInfo::input`. -/
structure PictureSize where
  width : UInt32
  height : UInt32
  deriving DecidableEq, Repr

/-- One call of the H.264 setter: its result, the parameter it leaves, and the value it leaves
in the function-static `lowestConfigLevel`. -/
structure SetterRun where
  result : C2R
  info : ProfileLevel
  lowestConfigLevel : Nat
  deriving DecidableEq, Repr

/-- `(x + 15) / 16` in `uint32_t`: the sum wraps for `x ≥ 2^32 - 15`. -/
def macroblocks (x : UInt32) : Nat := ((x + 15) / 16).toNat

/-- Frame size in macroblocks; the `uint64_t` product of two values below `2^28` is exact. -/
def targetFS (videoSize : PictureSize) : Nat :=
  macroblocks videoSize.width * macroblocks videoSize.height

/-- `static_cast<float>(targetFS) * frameRate.v.value`: the conversion and the product each
round to `float`. -/
def targetMBPS (videoSize : PictureSize) (frameRate : ℚ) : ℚ :=
  roundFloat (roundFloat (targetFS videoSize) * frameRate)

/-- Table A-2 scaling of a row's `maxBR` by profile thresholds. `maxBR * 5.0 / 4.0` is exact
in `double` and truncated back to `uint32_t`, which is `Nat` division; no product here
overflows `uint32_t`. -/
def scaledMaxBR (profile maxBR : Nat) : Nat :=
  if profile ≥ PROFILE_AVC_HIGH_422 then maxBR * 4
  else if profile ≥ PROFILE_AVC_HIGH_10 then maxBR * 3
  else if profile ≥ PROFILE_AVC_HIGH then maxBR * 5 / 4
  else maxBR

/-- The test of one row, with the already adopted profile. -/
def meetsLimit (profile : Nat) (videoSize : PictureSize) (frameRate : ℚ) (bitrate : UInt32)
    (limit : LevelLimits) : Bool :=
  targetFS videoSize ≤ limit.maxFS ∧ targetMBPS videoSize frameRate ≤ limit.maxMBPS ∧
    bitrate.toNat ≤ scaledMaxBR profile limit.maxBR

/-- Profile step shared by both setters: keep a supported profile not below `minProfile`,
else adopt `minProfile` when it is supported, else fail. -/
def adoptMinProfile (profiles : List Nat) (minProfile profile : Nat) : Option Nat :=
  if profile ∉ profiles ∨ profile < minProfile then
    if minProfile ∈ profiles then some minProfile else none
  else some profile

/-- The recorded lowest level replaces a higher requested level before the scan. -/
def startLevel (lowestConfigLevel level : Nat) : Nat :=
  if lowestConfigLevel ≠ LEVEL_UNUSED ∧ lowestConfigLevel < level then lowestConfigLevel
  else level

/-- The loop over `kLimits` from working level `level`. `none` is `!found`; `some (l, m)` is
the level and `lowestConfigLevel` at the `break`. The level and the recorded level change only
there, so they are fixed arguments; the loop's own state is `needsUpdate`. -/
def levelScan (supportsAtAll : Nat → Bool) (fits : LevelLimits → Bool)
    (level lowestConfigLevel : Nat) : List LevelLimits → Bool → Option (Nat × Nat)
  | [], _ => none
  | limit :: rest, needsUpdate =>
    if !supportsAtAll limit.level then
      levelScan supportsAtAll fits level lowestConfigLevel rest needsUpdate
    else if fits limit then
      some (if needsUpdate then (limit.level, level) else (level, lowestConfigLevel))
    else
      levelScan supportsAtAll fits level lowestConfigLevel rest
        (needsUpdate || decide (level ≤ limit.level))

/-- The end of the setter: `BadValue` for the level when the loop found none, with the
working level left in `info`; otherwise `Ok` with the level and recorded level of the `break`. -/
def levelOutcome (profile level lowestConfigLevel : Nat) : Option (Nat × Nat) → SetterRun
  | none => ⟨.badValue .level, ⟨profile, level⟩, lowestConfigLevel⟩
  | some (resolved, lowest) => ⟨.ok, ⟨profile, resolved⟩, lowest⟩

def h264ProfileLevelSetter (profiles levels : List Nat) (info : ProfileLevel)
    (videoSize : PictureSize) (frameRate : ℚ) (bitrate : UInt32) (lowestConfigLevel : Nat) :
    SetterRun :=
  match adoptMinProfile profiles PROFILE_AVC_BASELINE info.profile with
  | none => ⟨.badValue .profile, info, lowestConfigLevel⟩
  | some profile =>
    let level := startLevel lowestConfigLevel info.level
    let supportsAtAll : Nat → Bool := fun l => l ∈ levels
    levelOutcome profile level lowestConfigLevel
      (levelScan supportsAtAll (meetsLimit profile videoSize frameRate bitrate)
        level lowestConfigLevel kLimits (!supportsAtAll level))

def vp9ProfileLevelSetter (profiles : List Nat) (info : ProfileLevel) : C2R × ProfileLevel :=
  match adoptMinProfile profiles PROFILE_VP9_0 info.profile with
  | none => (.badValue .profile, info)
  | some profile => (.ok, { info with profile })

/-! ## Small lemmas -/

section
variable {profile level lowestConfigLevel : Nat}

@[simp] theorem levelOutcome_none :
    levelOutcome profile level lowestConfigLevel none =
      ⟨.badValue .level, ⟨profile, level⟩, lowestConfigLevel⟩ := rfl

@[simp] theorem levelOutcome_some (out : Nat × Nat) :
    levelOutcome profile level lowestConfigLevel (some out) = ⟨.ok, ⟨profile, out.1⟩, out.2⟩ :=
  rfl

@[simp] theorem levelOutcome_profile (result : Option (Nat × Nat)) :
    (levelOutcome profile level lowestConfigLevel result).info.profile = profile := by
  cases result <;> rfl

end

section
variable {profiles levels : List Nat} {info : ProfileLevel} {videoSize : PictureSize}
  {frameRate : ℚ} {bitrate : UInt32} {lowestConfigLevel : Nat}

theorem h264ProfileLevelSetter_of_refused
    (adoption : adoptMinProfile profiles PROFILE_AVC_BASELINE info.profile = none) :
    h264ProfileLevelSetter profiles levels info videoSize frameRate bitrate lowestConfigLevel =
      ⟨.badValue .profile, info, lowestConfigLevel⟩ := by
  simp only [h264ProfileLevelSetter, adoption]

theorem h264ProfileLevelSetter_of_adopted {profile : Nat}
    (adoption : adoptMinProfile profiles PROFILE_AVC_BASELINE info.profile = some profile) :
    h264ProfileLevelSetter profiles levels info videoSize frameRate bitrate lowestConfigLevel =
      levelOutcome profile (startLevel lowestConfigLevel info.level) lowestConfigLevel
        (levelScan (fun l => l ∈ levels) (meetsLimit profile videoSize frameRate bitrate)
          (startLevel lowestConfigLevel info.level) lowestConfigLevel kLimits
          (!decide (startLevel lowestConfigLevel info.level ∈ levels))) := by
  simp only [h264ProfileLevelSetter, adoption]

/-- A refused call leaves the static `lowestConfigLevel` as it found it. -/
theorem h264ProfileLevelSetter_lowest_of_refused
    (refused : (h264ProfileLevelSetter profiles levels info videoSize frameRate bitrate
      lowestConfigLevel).result ≠ .ok) :
    (h264ProfileLevelSetter profiles levels info videoSize frameRate bitrate
      lowestConfigLevel).lowestConfigLevel = lowestConfigLevel := by
  cases adoption : adoptMinProfile profiles PROFILE_AVC_BASELINE info.profile with
  | none => rw [h264ProfileLevelSetter_of_refused adoption]
  | some profile =>
    rw [h264ProfileLevelSetter_of_adopted adoption] at refused ⊢
    cases scan : levelScan (fun l => l ∈ levels) (meetsLimit profile videoSize frameRate bitrate)
        (startLevel lowestConfigLevel info.level) lowestConfigLevel kLimits
        (!decide (startLevel lowestConfigLevel info.level ∈ levels)) with
    | none => rfl
    | some out =>
      rw [scan] at refused
      exact absurd rfl refused

/-- Everything an accepted call did: it adopted a profile, and the level loop broke with the
level and the `lowestConfigLevel` the call leaves. -/
theorem h264ProfileLevelSetter_of_accepted
    (accepted : (h264ProfileLevelSetter profiles levels info videoSize frameRate bitrate
      lowestConfigLevel).result = .ok) :
    ∃ profile out, adoptMinProfile profiles PROFILE_AVC_BASELINE info.profile = some profile ∧
      levelScan (fun l => l ∈ levels) (meetsLimit profile videoSize frameRate bitrate)
        (startLevel lowestConfigLevel info.level) lowestConfigLevel kLimits
        (!decide (startLevel lowestConfigLevel info.level ∈ levels)) = some out ∧
      h264ProfileLevelSetter profiles levels info videoSize frameRate bitrate lowestConfigLevel =
        ⟨.ok, ⟨profile, out.1⟩, out.2⟩ := by
  cases adoption : adoptMinProfile profiles PROFILE_AVC_BASELINE info.profile with
  | none =>
    rw [h264ProfileLevelSetter_of_refused adoption] at accepted
    exact absurd accepted (C2R.badValue_ne_ok _)
  | some profile =>
    rw [h264ProfileLevelSetter_of_adopted adoption] at accepted ⊢
    cases scan : levelScan (fun l => l ∈ levels) (meetsLimit profile videoSize frameRate bitrate)
        (startLevel lowestConfigLevel info.level) lowestConfigLevel kLimits
        (!decide (startLevel lowestConfigLevel info.level ∈ levels)) with
    | none =>
      rw [scan] at accepted
      exact absurd accepted (C2R.badValue_ne_ok _)
    | some out => exact ⟨profile, out, rfl, scan, rfl⟩

end

theorem macroblocks_eq (x : UInt32) : macroblocks x = (x.toNat + 15) % 2 ^ 32 / 16 := by
  rw [macroblocks, UInt32.toNat_div]
  simp [UInt32.toNat, UInt32.add_def]

/-- A macroblock count is below `2^28`, so the `uint64_t` product in `targetFS` never wraps. -/
theorem macroblocks_lt (x : UInt32) : macroblocks x < 2 ^ 28 := by
  rw [macroblocks_eq]
  omega

/-- Above the wrap the count restarts: the widest `uint32_t` width has no macroblock. -/
example : macroblocks 4294967295 = 0 := by decide

/-- Below the wrap, `macroblocks` is the ceiling of `x / 16`. -/
theorem macroblocks_of_lt {x : UInt32} (small : x.toNat < 2 ^ 32 - 15) :
    macroblocks x = (x.toNat + 15) / 16 := by
  rw [macroblocks_eq, Nat.mod_eq_of_lt (by omega)]

theorem macroblocks_mono {x y : UInt32} (le : x ≤ y) (small : y.toNat < 2 ^ 32 - 15) :
    macroblocks x ≤ macroblocks y := by
  have : x.toNat ≤ y.toNat := le
  rw [macroblocks_of_lt small, macroblocks_of_lt (by omega)]
  omega

@[simp] theorem meetsLimit_iff (profile : Nat) (videoSize : PictureSize) (frameRate : ℚ)
    (bitrate : UInt32) (limit : LevelLimits) :
    meetsLimit profile videoSize frameRate bitrate limit = true ↔
      targetFS videoSize ≤ limit.maxFS ∧ targetMBPS videoSize frameRate ≤ limit.maxMBPS ∧
        bitrate.toNat ≤ scaledMaxBR profile limit.maxBR := by
  simp [meetsLimit]

/-- Where the `float` macroblock rate is a whole number, the row test is a test on naturals. -/
theorem meetsLimit_of_targetMBPS (profile : Nat) {videoSize : PictureSize} {frameRate : ℚ}
    (bitrate : UInt32) {rate : ℕ} (whole : targetMBPS videoSize frameRate = rate) :
    meetsLimit profile videoSize frameRate bitrate = fun limit =>
      decide (targetFS videoSize ≤ limit.maxFS) && decide (rate ≤ limit.maxMBPS) &&
        decide (bitrate.toNat ≤ scaledMaxBR profile limit.maxBR) := by
  funext limit
  simp only [meetsLimit, whole, Nat.cast_le, Bool.decide_and, Bool.and_assoc]

/-- With a whole frame rate whose product with the frame size is below `2^24`, the `float`
arithmetic is exact. -/
theorem targetMBPS_natCast {videoSize : PictureSize} {rate : ℕ}
    (small : targetFS videoSize < 2 ^ 24) (exact : targetFS videoSize * rate < 2 ^ 24) :
    targetMBPS videoSize rate = (targetFS videoSize * rate : ℕ) := by
  rw [targetMBPS, roundFloat, roundBinary_natCast small, ← Nat.cast_mul, roundBinary_natCast exact]

/-- The row test at a whole frame rate whose product with the frame size is below `2^24`. -/
theorem meetsLimit_natCast (profile : Nat) (videoSize : PictureSize) (rate : ℕ)
    (bitrate : UInt32) (small : targetFS videoSize < 2 ^ 24)
    (exact : targetFS videoSize * rate < 2 ^ 24) :
    meetsLimit profile videoSize rate bitrate = fun limit =>
      decide (targetFS videoSize ≤ limit.maxFS) && decide (targetFS videoSize * rate ≤ limit.maxMBPS) &&
        decide (bitrate.toNat ≤ scaledMaxBR profile limit.maxBR) :=
  meetsLimit_of_targetMBPS profile bitrate (targetMBPS_natCast small exact)

theorem scaledMaxBR_mono (profile : Nat) {a b : Nat} (le : a ≤ b) :
    scaledMaxBR profile a ≤ scaledMaxBR profile b := by
  unfold scaledMaxBR
  split_ifs <;> omega

/-- The scaled limit of every row stays below `2^32`: `maxBR *= 4`, `maxBR *= 3` and the
truncated `maxBR * 5.0 / 4.0` never wrap in `uint32_t`, so computing them in `Nat` is exact. -/
theorem scaledMaxBR_lt (profile : Nat) {limit : LevelLimits} (row : limit ∈ kLimits) :
    scaledMaxBR profile limit.maxBR < 2 ^ 32 := by
  have bounded : ∀ limit ∈ kLimits, limit.maxBR ≤ 240000000 := by decide
  have := bounded limit row
  unfold scaledMaxBR
  split_ifs <;> omega

/-- Scaling never lowers a row's bitrate limit. -/
theorem le_scaledMaxBR (profile maxBR : Nat) : maxBR ≤ scaledMaxBR profile maxBR := by
  unfold scaledMaxBR
  split_ifs <;> omega

/-- The `float` macroblock rate grows with the frame size and with a non-negative frame rate. -/
theorem targetMBPS_mono {small large : PictureSize} {slow fast : ℚ}
    (fs : targetFS small ≤ targetFS large) (forward : 0 ≤ slow) (rate : slow ≤ fast) :
    targetMBPS small slow ≤ targetMBPS large fast :=
  roundFloat_mono (mul_le_mul (roundFloat_mono (Nat.cast_le.mpr fs)) rate forward
    (roundFloat_nonneg (Nat.cast_nonneg _)))

/-- At a frame rate of at most zero the `float` rate is at most zero. -/
theorem targetMBPS_nonpos (videoSize : PictureSize) {frameRate : ℚ} (backward : frameRate ≤ 0) :
    targetMBPS videoSize frameRate ≤ 0 := by
  simpa [roundFloat] using roundFloat_mono
    (mul_nonpos_of_nonneg_of_nonpos (roundFloat_nonneg (Nat.cast_nonneg (targetFS videoSize)))
      backward)

/-- Smaller demands meet every row that larger demands meet. -/
theorem meetsLimit_of_le {profile : Nat} {small large : PictureSize} {slow fast : ℚ}
    {light heavy : UInt32} (fs : targetFS small ≤ targetFS large) (rate : slow ≤ fast)
    (bits : light ≤ heavy) {limit : LevelLimits}
    (meets : meetsLimit profile large fast heavy limit) :
    meetsLimit profile small slow light limit := by
  rw [meetsLimit_iff] at meets ⊢
  refine ⟨fs.trans meets.1, ?_, (show light.toNat ≤ heavy.toNat from bits).trans meets.2.2⟩
  rcases le_or_lt 0 slow with forward | backward
  · exact (targetMBPS_mono fs forward rate).trans meets.2.1
  · exact (targetMBPS_nonpos small backward.le).trans (Nat.cast_nonneg _)

/-- The adoption as one case split: keep, fall back to `minProfile`, or fail. -/
theorem adoptMinProfile_eq (profiles : List Nat) (minProfile profile : Nat) :
    adoptMinProfile profiles minProfile profile =
      if profile ∈ profiles ∧ minProfile ≤ profile then some profile
      else if minProfile ∈ profiles then some minProfile else none := by
  unfold adoptMinProfile
  rcases lt_or_le profile minProfile with low | high
  · have : ¬minProfile ≤ profile := not_le.mpr low
    by_cases member : profile ∈ profiles <;> simp [member, low, this]
  · have : ¬profile < minProfile := not_lt.mpr high
    by_cases member : profile ∈ profiles <;> simp [member, high, this]

/-- An adopted profile is offered and not below `minProfile`. -/
theorem adoptMinProfile_usable {profiles : List Nat} {minProfile profile adopted : Nat}
    (adoption : adoptMinProfile profiles minProfile profile = some adopted) :
    adopted ∈ profiles ∧ minProfile ≤ adopted := by
  rw [adoptMinProfile_eq] at adoption
  split_ifs at adoption with keep fallback <;> cases adoption
  · exact keep
  · exact ⟨fallback, le_rfl⟩

/-- An adopted profile is kept by a second adoption. -/
theorem adoptMinProfile_adopted {profiles : List Nat} {minProfile profile adopted : Nat}
    (adoption : adoptMinProfile profiles minProfile profile = some adopted) :
    adoptMinProfile profiles minProfile adopted = some adopted := by
  rw [adoptMinProfile_eq, if_pos (adoptMinProfile_usable adoption)]

@[simp] theorem startLevel_unused (level : Nat) : startLevel LEVEL_UNUSED level = level := by
  simp [startLevel]

/-- Applying the recorded level twice changes nothing. -/
theorem startLevel_startLevel (lowestConfigLevel level : Nat) :
    startLevel lowestConfigLevel (startLevel lowestConfigLevel level) =
      startLevel lowestConfigLevel level := by
  unfold startLevel
  split_ifs <;> omega

/-- Once a level is recorded, no call starts above it. -/
theorem startLevel_le_recorded {lowestConfigLevel : Nat} (recorded : lowestConfigLevel ≠ LEVEL_UNUSED)
    (level : Nat) : startLevel lowestConfigLevel level ≤ lowestConfigLevel := by
  unfold startLevel
  split_ifs with below
  · exact le_rfl
  · exact not_lt.mp (not_and.mp below recorded)

theorem startLevel_ne_unused {lowestConfigLevel level : Nat}
    (recorded : lowestConfigLevel ≠ LEVEL_UNUSED) (asked : level ≠ LEVEL_UNUSED) :
    startLevel lowestConfigLevel level ≠ LEVEL_UNUSED := by
  unfold startLevel
  split_ifs <;> assumption

end V4L2Codec2.Source
