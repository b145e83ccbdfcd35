import V4L2Codec2.Spec.LevelScan
import V4L2Codec2.Source.Initialize
import Mathlib.Order.WithBot

/-!
# Laws of `H264ProfileLevelSetter`

* idempotence, the recorded level included (`h264ProfileLevelSetter_idempotent`): a second
  call on what an accepted call left, with the same size, frame rate and bitrate, leaves
  everything as it was; a call refused for its level is refused again;
* the static's writes (`h264ProfileLevelSetter_lowestConfigLevel`): only an accepted call that
  moves the level writes `lowestConfigLevel`, and it writes the level the call started from;
* monotonicity (`h264ProfileLevelSetter_monotone`): larger demands never resolve a lower
  level, a refusal counting above every level. The frame size is monotone only below the
  32-bit wrap of `w + 15`, which the theorem assumes of the larger size; the size setter keeps
  every configured size below it (`Reachable.videoSize_unwrapped`).

All three hold for any list of supported levels, drawn from the table or not: they use only
that the rows of `kLimits` have increasing levels.
-/

namespace V4L2Codec2.Guarantees
open Source Spec C2Config

/-- A second call from what an accepted call left changes nothing; a call refused for its
level is refused again. -/
theorem h264ProfileLevelSetter_idempotent (profiles levels : List Nat) (info : ProfileLevel)
    (videoSize : PictureSize) (frameRate : ℚ) (bitrate : UInt32) (lowest : Nat) :
    let first := h264ProfileLevelSetter profiles levels info videoSize frameRate bitrate lowest
    let second := h264ProfileLevelSetter profiles levels first.info videoSize frameRate bitrate
      first.lowestConfigLevel
    (first.result = .ok → second = first) ∧
      (first.result = .badValue .level → second.result = .badValue .level) := by
  intro first second
  cases adoption : adoptMinProfile profiles PROFILE_AVC_BASELINE info.profile with
  | none =>
    have refused : first = ⟨.badValue .profile, info, lowest⟩ :=
      h264ProfileLevelSetter_of_refused adoption
    simp [refused]
  | some profile =>
    have defined : first = _ := h264ProfileLevelSetter_of_adopted adoption
    have repeated : second = _ := h264ProfileLevelSetter_of_adopted (by
      rw [defined, levelOutcome_profile]
      exact adoptMinProfile_adopted adoption)
    cases scan : levelScan (fun l => l ∈ levels) (meetsLimit profile videoSize frameRate bitrate)
        (startLevel lowest info.level) lowest kLimits
        (!decide (startLevel lowest info.level ∈ levels)) with
    | none =>
      simp only [scan, levelOutcome_none] at defined
      simp only [defined, startLevel_startLevel, scan, levelOutcome_none] at repeated
      simp [repeated, defined]
    | some out =>
      have restart := levelScan_restart kLimits_pairwise_level_lt
        (startLevel_startLevel lowest info.level) scan
      simp only [scan, levelOutcome_some] at defined
      simp only [defined, restart, levelOutcome_some] at repeated
      simp [repeated, defined]

/-- The setter writes the static `lowestConfigLevel` only when it accepts and moves the level
away from where it started, and then it records that start. -/
theorem h264ProfileLevelSetter_lowestConfigLevel (profiles levels : List Nat)
    (info : ProfileLevel) (videoSize : PictureSize) (frameRate : ℚ) (bitrate : UInt32)
    (lowest : Nat) :
    let run := h264ProfileLevelSetter profiles levels info videoSize frameRate bitrate lowest
    run.lowestConfigLevel = lowest ∨
      run.result = .ok ∧ run.lowestConfigLevel = startLevel lowest info.level ∧
        run.info.level ≠ startLevel lowest info.level := by
  intro run
  by_cases accepted : run.result = .ok
  · obtain ⟨profile, out, -, scan, defined⟩ := h264ProfileLevelSetter_of_accepted accepted
    simp only [run, defined]
    rcases levelScan_record kLimits_pairwise_level_lt (fun initial => by simpa using initial)
      scan with kept | ⟨recorded, moved⟩
    · exact .inl kept
    · exact .inr ⟨trivial, recorded, moved⟩
  · exact .inl (h264ProfileLevelSetter_lowest_of_refused accepted)

/-- The level a call resolves, a refusal counting above every level. -/
def resolvedLevel (run : SetterRun) : WithTop Nat :=
  if run.result = .ok then WithTop.some run.info.level else ⊤

/-- Larger size, frame rate and bitrate never resolve a lower level. -/
theorem h264ProfileLevelSetter_monotone (profiles levels : List Nat) (info : ProfileLevel)
    (lowest : Nat) (small large : PictureSize) (slow fast : ℚ) (light heavy : UInt32)
    (narrower : small.width ≤ large.width) (shorter : small.height ≤ large.height)
    (slower : slow ≤ fast) (lighter : light ≤ heavy)
    (unwrapped : large.width.toNat < 2 ^ 32 - 15 ∧ large.height.toNat < 2 ^ 32 - 15) :
    resolvedLevel (h264ProfileLevelSetter profiles levels info small slow light lowest) ≤
      resolvedLevel (h264ProfileLevelSetter profiles levels info large fast heavy lowest) := by
  cases adoption : adoptMinProfile profiles PROFILE_AVC_BASELINE info.profile with
  | none =>
    simp [h264ProfileLevelSetter_of_refused adoption, resolvedLevel, C2R.ok, C2R.badValue]
  | some profile =>
    rw [h264ProfileLevelSetter_of_adopted adoption, h264ProfileLevelSetter_of_adopted adoption]
    cases hard : levelScan (fun l => l ∈ levels) (meetsLimit profile large fast heavy)
        (startLevel lowest info.level) lowest kLimits
        (!decide (startLevel lowest info.level ∈ levels)) with
    | none => simp [resolvedLevel, C2R.ok, C2R.badValue]
    | some out' =>
      have fs : targetFS small ≤ targetFS large :=
        Nat.mul_le_mul (macroblocks_mono narrower unwrapped.1) (macroblocks_mono shorter unwrapped.2)
      obtain ⟨out, easy, below⟩ := levelScan_mono kLimits_pairwise_level_lt
        (fun _ => meetsLimit_of_le fs slower lighter) _ _ _ hard
      simpa [easy, resolvedLevel, C2R.ok] using below

/-- From QCIF at 15 fps and 64 kbit/s to VGA at 30 fps and 256 kbit/s, on the levels
`Initialize` declares. -/
theorem h264ProfileLevelSetter_monotone_qcif_vga :
    (176 : UInt32) ≤ 640 ∧ (144 : UInt32) ≤ 480 ∧ ((15 : ℕ) : ℚ) ≤ ((30 : ℕ) : ℚ) ∧
      (64000 : UInt32) ≤ 256000 ∧
      ((640 : UInt32).toNat < 2 ^ 32 - 15 ∧ (480 : UInt32).toNat < 2 ^ 32 - 15) ∧
      resolvedLevel (h264ProfileLevelSetter [PROFILE_AVC_BASELINE] avcLevels
          ⟨PROFILE_AVC_BASELINE, LEVEL_AVC_1⟩ ⟨176, 144⟩ (15 : ℕ) 64000 LEVEL_UNUSED) ≤
        resolvedLevel (h264ProfileLevelSetter [PROFILE_AVC_BASELINE] avcLevels
          ⟨PROFILE_AVC_BASELINE, LEVEL_AVC_1⟩ ⟨640, 480⟩ (30 : ℕ) 256000 LEVEL_UNUSED) := by
  have narrower : (176 : UInt32) ≤ 640 := by decide
  have shorter : (144 : UInt32) ≤ 480 := by decide
  have slower : ((15 : ℕ) : ℚ) ≤ ((30 : ℕ) : ℚ) := Nat.cast_le.mpr (by decide)
  have lighter : (64000 : UInt32) ≤ 256000 := by decide
  have unwrapped : (640 : UInt32).toNat < 2 ^ 32 - 15 ∧ (480 : UInt32).toNat < 2 ^ 32 - 15 := by
    decide
  exact ⟨narrower, shorter, slower, lighter, unwrapped,
    h264ProfileLevelSetter_monotone _ _ _ _ ⟨176, 144⟩ ⟨640, 480⟩ _ _ _ _ narrower shorter slower
      lighter unwrapped⟩

end V4L2Codec2.Guarantees
