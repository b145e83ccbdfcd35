import V4L2Codec2.Spec.Resolver
import V4L2Codec2.Source.Initialize

/-!
# One call of `H264ProfileLevelSetter`: what it accepts and what it resolves

`h264ProfileLevelSetter_outcome` is the full contract of one call, for every requested
profile and level, every recorded level, every size, frame rate and bitrate, every list of
supported profiles and every list of supported levels drawn from `kLimits`: when the call is
accepted, which profile it adopts, and which level it resolves. Feasibility is the code's own
row test: its frame size is `⌈w/16⌉·⌈h/16⌉` for every width and height below the 32-bit wrap of
`w + 15` (`targetFS_of_lt`), and its macroblock rate is the `float` product, which can round
down onto a row's limit an exact product just above it
(`h264ProfileLevelSetter_acceptance_counterexample`).
-/

namespace V4L2Codec2.Guarantees
open Source Spec C2Config

/-- Below the wrap of `w + 15`, the code's frame size is the product of the ceilings. -/
theorem targetFS_of_lt {videoSize : PictureSize} (narrow : videoSize.width.toNat < 2 ^ 32 - 15)
    (short : videoSize.height.toNat < 2 ^ 32 - 15) :
    targetFS videoSize = (videoSize.width.toNat + 15) / 16 * ((videoSize.height.toNat + 15) / 16) := by
  rw [targetFS, macroblocks_of_lt narrow, macroblocks_of_lt short]

/-- The level part of a call, once a profile is adopted. -/
theorem resolved_outcome (feasible : Nat → Bool) (levels : List Nat) (profile proposed lowest : Nat) :
    let run := levelOutcome profile proposed lowest (resolveLevel feasible levels proposed lowest)
    (run.result = .ok ↔ ∃ l ∈ levels, feasible l) ∧
      (run.result = .ok → run.info.profile = profile ∧
        if proposed ∈ levels ∧ feasible proposed then run.info.level = proposed
        else IsLeast {l | l ∈ levels ∧ feasible l} run.info.level) := by
  intro run
  cases resolution : resolveLevel feasible levels proposed lowest with
  | none =>
    have none := resolveLevel_eq_none.mp resolution
    simp only [run, resolution, levelOutcome_none, C2R.badValue_ne_ok, false_iff, false_implies,
      and_true, not_exists, not_and]
    exact none
  | some out =>
    obtain ⟨resolved, lowest'⟩ := out
    simp only [run, resolution, levelOutcome_some]
    rcases resolveLevel_eq_some.mp resolution with ⟨supported, feasible', same, -⟩ |
      ⟨moved, least, -⟩
    · exact ⟨by simpa using ⟨proposed, supported, feasible'⟩,
        fun _ => by simp [supported, feasible', same]⟩
    · exact ⟨by simpa using ⟨resolved, least.1⟩, fun _ => by simpa [moved] using least⟩

/-- One call of the H.264 setter, completely: it is accepted exactly when a usable profile
exists and some supported level is feasible for the adopted profile; it then adopts the
requested profile when supported and not below Baseline and Baseline otherwise, and keeps
the memory-adjusted proposal when that is supported and feasible, else takes the least
supported feasible level. -/
theorem h264ProfileLevelSetter_outcome (profiles levels : List Nat)
    (drawn : levels ⊆ tableLevels) (info : ProfileLevel) (videoSize : PictureSize)
    (frameRate : ℚ) (bitrate : UInt32) (lowest : Nat) :
    let run := h264ProfileLevelSetter profiles levels info videoSize frameRate bitrate lowest
    let profile := if info.profile ∈ profiles ∧ PROFILE_AVC_BASELINE ≤ info.profile then
      info.profile else PROFILE_AVC_BASELINE
    let proposed := startLevel lowest info.level
    let feasible := levelFeasible (meetsLimit profile videoSize frameRate bitrate)
    (run.result = .ok ↔
      (info.profile ∈ profiles ∧ PROFILE_AVC_BASELINE ≤ info.profile ∨
        PROFILE_AVC_BASELINE ∈ profiles) ∧ ∃ l ∈ levels, feasible l) ∧
    (run.result = .ok → run.info.profile = profile ∧
      if proposed ∈ levels ∧ feasible proposed then run.info.level = proposed
      else IsLeast {l | l ∈ levels ∧ feasible l} run.info.level) := by
  intro run profile proposed feasible
  have defined : run = _ := h264ProfileLevelSetter_eq_resolve profiles levels drawn info
    videoSize frameRate bitrate lowest
  have adoption : adoptMinProfile profiles PROFILE_AVC_BASELINE info.profile =
      if (info.profile ∈ profiles ∧ PROFILE_AVC_BASELINE ≤ info.profile) ∨
        PROFILE_AVC_BASELINE ∈ profiles then some profile else none := by
    simp only [adoptMinProfile_eq, profile]
    by_cases keep : info.profile ∈ profiles ∧ PROFILE_AVC_BASELINE ≤ info.profile
    · rw [if_pos keep, if_pos (Or.inl keep), if_pos keep]
    · by_cases fallback : PROFILE_AVC_BASELINE ∈ profiles
      · rw [if_neg keep, if_pos fallback, if_pos (Or.inr fallback), if_neg keep]
      · rw [if_neg keep, if_neg fallback, if_neg (not_or.mpr ⟨keep, fallback⟩)]
  rw [adoption] at defined
  by_cases usable : (info.profile ∈ profiles ∧ PROFILE_AVC_BASELINE ≤ info.profile) ∨
      PROFILE_AVC_BASELINE ∈ profiles
  · simp only [if_pos usable] at defined
    simp only [defined, usable, true_and]
    exact resolved_outcome feasible levels profile proposed lowest
  · simp only [if_neg usable] at defined
    simp [defined, usable]

/-- At the defaults `Initialize` declares for a Baseline-only device. -/
theorem h264ProfileLevelSetter_outcome_defaults :
    avcLevels ⊆ tableLevels ∧
    (let run := h264ProfileLevelSetter [PROFILE_AVC_BASELINE] avcLevels
      ⟨PROFILE_AVC_BASELINE, LEVEL_AVC_4_1⟩ ⟨320, 240⟩ kDefaultFrameRate kDefaultBitrate LEVEL_UNUSED
    let profile := if PROFILE_AVC_BASELINE ∈ [PROFILE_AVC_BASELINE] ∧
      PROFILE_AVC_BASELINE ≤ PROFILE_AVC_BASELINE then PROFILE_AVC_BASELINE else PROFILE_AVC_BASELINE
    let proposed := startLevel LEVEL_UNUSED LEVEL_AVC_4_1
    let feasible := levelFeasible (meetsLimit profile ⟨320, 240⟩ kDefaultFrameRate kDefaultBitrate)
    (run.result = .ok ↔
      (PROFILE_AVC_BASELINE ∈ [PROFILE_AVC_BASELINE] ∧
          PROFILE_AVC_BASELINE ≤ PROFILE_AVC_BASELINE ∨
        PROFILE_AVC_BASELINE ∈ [PROFILE_AVC_BASELINE]) ∧ ∃ l ∈ avcLevels, feasible l) ∧
    (run.result = .ok → run.info.profile = profile ∧
      if proposed ∈ avcLevels ∧ feasible proposed then run.info.level = proposed
      else IsLeast {l | l ∈ avcLevels ∧ feasible l} run.info.level)) :=
  ⟨avcLevels_subset_tableLevels, h264ProfileLevelSetter_outcome [PROFILE_AVC_BASELINE] avcLevels
    avcLevels_subset_tableLevels ⟨PROFILE_AVC_BASELINE, LEVEL_AVC_4_1⟩ ⟨320, 240⟩ kDefaultFrameRate
    kDefaultBitrate LEVEL_UNUSED⟩

/-- `25 · 59.4f` is `1485 + 5/131072` exactly and rounds to `1485.0` in `float`. -/
theorem targetMBPS_80x80 : targetMBPS ⟨80, 80⟩ (7785677 / 131072) = (1485 : ℕ) := by
  have converted : roundFloat (targetFS ⟨80, 80⟩) = 25 := by
    rw [show targetFS ⟨80, 80⟩ = 25 from rfl]
    exact roundBinary_natCast (by norm_num)
  have product : (25 : ℚ) * (7785677 / 131072) = 194641925 / 131072 := by norm_num
  rw [targetMBPS, converted, product, roundFloat, roundBinary, if_neg (by norm_num),
    roundMagnitude_of_binade 24 (e := 10) (by norm_num) (by norm_num),
    roundHalfEven_of_lt_half 12165120 (by norm_num) (by norm_num)]
  norm_num

/-- The claimed outcome fails twice. With only Main supported, a request for Baseline has
`P' = P` and `LEVEL_AVC_4_1` meets the claimed limits at 320x240, 30 fps and 64 kbit/s, yet the
call is refused for the profile. At 80x80 and `59.4f` fps the exact rate `25 · 59.4f` exceeds
level 1's 1485 macroblocks per second, so the claimed level is 1.1, yet the `float` product is
1485 and the call keeps level 1. -/
theorem h264ProfileLevelSetter_acceptance_counterexample :
    (h264ProfileLevelSetter [PROFILE_AVC_MAIN] [LEVEL_AVC_4_1]
        ⟨PROFILE_AVC_BASELINE, LEVEL_AVC_4_1⟩ ⟨320, 240⟩ (30 : ℕ) 64000 LEVEL_UNUSED).result =
      .badValue .profile ∧
    ⟨LEVEL_AVC_4_1, 245760, 8192, 50000000⟩ ∈ kLimits ∧
    (320 + 15) / 16 * ((240 + 15) / 16) ≤ 8192 ∧
    (320 + 15) / 16 * ((240 + 15) / 16) * 30 ≤ 245760 ∧ 64000 ≤ 50000000 ∧
    h264ProfileLevelSetter [PROFILE_AVC_BASELINE] avcLevels ⟨PROFILE_AVC_BASELINE, LEVEL_AVC_1⟩
        ⟨80, 80⟩ (7785677 / 131072) 64000 LEVEL_UNUSED =
      ⟨.ok, ⟨PROFILE_AVC_BASELINE, LEVEL_AVC_1⟩, LEVEL_UNUSED⟩ ∧
    ⟨LEVEL_AVC_1, 1485, 99, 64000⟩ ∈ kLimits ∧
    (1485 : ℚ) < ((80 + 15) / 16 * ((80 + 15) / 16) : ℕ) * (7785677 / 131072) := by
  refine ⟨?_, by decide, by decide, by decide, by decide, ?_, by decide, by norm_num⟩
  · simp (disch := decide) only [h264ProfileLevelSetter, meetsLimit_natCast]
    decide
  · simp only [h264ProfileLevelSetter, meetsLimit_of_targetMBPS _ _ targetMBPS_80x80]
    decide

/-- High 10 Intra follows High 4:2:2 in the enumeration, so the code scales `maxBR` by 4 where
Table A-2 gives High 10 Intra the factor 3 of High 10: at level 1, 200 kbit/s is accepted
although `3 · 64000 < 200000`. -/
theorem high10Intra_bitrate_accepted :
    h264ProfileLevelSetter [PROFILE_AVC_HIGH_10_INTRA] avcLevels
        ⟨PROFILE_AVC_HIGH_10_INTRA, LEVEL_AVC_1⟩ ⟨16, 16⟩ (1 : ℕ) 200000 LEVEL_UNUSED =
      ⟨.ok, ⟨PROFILE_AVC_HIGH_10_INTRA, LEVEL_AVC_1⟩, LEVEL_UNUSED⟩ ∧
    ⟨LEVEL_AVC_1, 1485, 99, 64000⟩ ∈ kLimits ∧ 3 * 64000 < 200000 := by
  simp (disch := decide) only [h264ProfileLevelSetter, meetsLimit_natCast]
  decide

/-- `cpbBrVclFactor` of H.264 Table A-2 for the single-layer profiles: a level's bitrate limit
is this factor times its `MaxBR`, which `kLimits` gives in units of 1000 bit/s. -/
def cpbBrVclFactor (profile : Nat) : Option Nat :=
  if profile ∈ [PROFILE_AVC_BASELINE, PROFILE_AVC_CONSTRAINED_BASELINE, PROFILE_AVC_MAIN,
      PROFILE_AVC_EXTENDED] then some 1000
  else if profile ∈ [PROFILE_AVC_HIGH, PROFILE_AVC_PROGRESSIVE_HIGH,
      PROFILE_AVC_CONSTRAINED_HIGH] then some 1250
  else if profile ∈ [PROFILE_AVC_HIGH_10, PROFILE_AVC_PROGRESSIVE_HIGH_10,
      PROFILE_AVC_HIGH_10_INTRA] then some 3000
  else if profile ∈ [PROFILE_AVC_HIGH_422, PROFILE_AVC_HIGH_444_PREDICTIVE,
      PROFILE_AVC_HIGH_422_INTRA, PROFILE_AVC_HIGH_444_INTRA, PROFILE_AVC_CAVLC_444_INTRA] then
    some 4000
  else none

/-- High 10 Intra apart, the threshold scaling is Table A-2 for every single-layer profile. On
the rows of `kLimits` no product wraps in `uint32_t` (`scaledMaxBR_lt`), so there this is the
code's limit. -/
theorem scaledMaxBR_eq_tableA2 {profile factor : Nat} (listed : cpbBrVclFactor profile = some factor)
    (other : profile ≠ PROFILE_AVC_HIGH_10_INTRA) (maxBR : Nat) :
    scaledMaxBR profile maxBR = factor * maxBR / 1000 := by
  have tiers : scaledMaxBR profile maxBR = if profile ≥ 0x5009 then maxBR * 4
      else if profile ≥ 0x5007 then maxBR * 3 else if profile ≥ 0x5004 then maxBR * 5 / 4
      else maxBR := rfl
  unfold cpbBrVclFactor at listed
  simp only [List.mem_cons, List.mem_singleton, List.not_mem_nil, or_false] at listed
  split_ifs at listed with base high high10 high422 <;> cases listed <;> rw [tiers]
  · have : profile < 0x5004 := by rcases base with rfl | rfl | rfl | rfl <;> decide
    rw [if_neg (by omega), if_neg (by omega), if_neg (by omega)]
    omega
  · have : 0x5004 ≤ profile ∧ profile < 0x5007 := by rcases high with rfl | rfl | rfl <;> decide
    rw [if_neg (by omega), if_neg (by omega), if_pos (by omega)]
    omega
  · have : 0x5007 ≤ profile ∧ profile < 0x5009 := by
      rcases high10 with rfl | rfl | rfl
      · decide
      · decide
      · exact absurd rfl other
    rw [if_neg (by omega), if_pos (by omega)]
    omega
  · have : 0x5009 ≤ profile := by rcases high422 with rfl | rfl | rfl | rfl | rfl <;> decide
    rw [if_pos (by omega)]
    omega

end V4L2Codec2.Guarantees
