import V4L2Codec2.Spec.Resolver
import V4L2Codec2.Source.IntraRefresh
import V4L2Codec2.Guarantees.SharedMemory

/-!
# What `Initialize` declares and every configuration keeps

* errors: `Initialize` leaves `C2_CORRUPTED` exactly when no device was created, and
  `C2_BAD_VALUE` exactly when the name is no encoder's or no device profile is valid for its
  codec (`initializeInterface_eq_error`);
* defaults: each default that a setter of this file sets or reads is a fixed point of that
  setter, and the default key-frame period is 30 frames (`initializeInterface_defaults_fixed`);
* size bound: the declared maximum picture size is the largest width and the largest height
  among the valid device profiles (`initializeInterface_maxSize`);
* invariant: every reachable interface holds a profile the device offers, not below the
  codec's least, and an H.264 interface a level it declares (`Reachable.declared`); from such
  a state a size, frame-rate or bitrate update never changes the profile
  (`configure_dependencies_profile`);
* sizes: every reachable interface holds the default size or one its size setter accepts, so
  on a device reporting non-negative maxima its width and height stay below the 32-bit wrap of
  `w + 15` (`Reachable.videoSize_unwrapped`);
* the VP9 setter only substitutes the profile (`vp9ProfileLevelSetter_outcome`).
-/

namespace V4L2Codec2.Guarantees
open Source Spec System C2Config

/-- The three ways `Initialize` fails, in the order it checks them. -/
theorem initializeInterface_eq_error {deviceCreated : Bool} {name : String}
    {supported : List SupportedEncodeProfile} {status : C2Status} :
    initializeInterface deviceCreated name supported = .error status ↔
      (deviceCreated = false ∧ status = .CORRUPTED) ∨
      (deviceCreated = true ∧ status = .BAD_VALUE ∧
        ∀ codec, getCodecFromComponentName name = some codec → validProfiles codec supported = []) := by
  unfold initializeInterface
  cases deviceCreated
  · simpa using eq_comm
  · cases named : getCodecFromComponentName name with
    | none => simpa using eq_comm
    | some codec =>
      cases least : ((validProfiles codec supported).map SupportedEncodeProfile.profile).min? with
      | none =>
        have nil : validProfiles codec supported = [] :=
          List.map_eq_nil_iff.mp (List.min?_eq_none_iff.mp least)
        simpa [least, nil] using eq_comm
      | some _ =>
        simp only [least, Bool.not_true, Bool.false_eq_true, if_false, reduceCtorEq, false_and,
          true_and, false_or, false_iff, not_and, Option.some.injEq, forall_eq']
        intro _ nil
        simp [nil] at least

/-- The largest value of one coordinate among the valid device profiles, when every value is
non-negative: `maxSize` starts from -1, which any valid profile then lifts. -/
theorem foldl_max_isGreatest (dim : SupportedEncodeProfile → Int) {valid : List SupportedEncodeProfile}
    (nonempty : valid ≠ []) (sized : ∀ p ∈ valid, 0 ≤ dim p) :
    IsGreatest {v | ∃ p ∈ valid, dim p = v} (valid.foldl (fun m p => max m (dim p)) (-1)) := by
  obtain ⟨-, bounds, attained⟩ := foldl_max_bounds dim valid (-1)
  refine ⟨?_, fun v ⟨p, mem, reached⟩ => reached ▸ bounds p mem⟩
  rcases attained with unlifted | lifted
  · obtain ⟨p, mem⟩ := List.exists_mem_of_ne_nil valid nonempty
    have := (sized p mem).trans (bounds p mem)
    omega
  · exact lifted

/-- The picture-size bound `Initialize` declares is the largest width and, separately, the
largest height among the device profiles valid for the codec; profiles of other codecs never
raise it. -/
theorem initializeInterface_maxSize {deviceCreated : Bool} {name : String}
    {supported : List SupportedEncodeProfile} {iface : EncodeInterface}
    (built : initializeInterface deviceCreated name supported = .ok iface)
    (sized : ∀ p ∈ supported, 0 ≤ p.maxWidth ∧ 0 ≤ p.maxHeight) :
    ∃ codec, getCodecFromComponentName name = some codec ∧
      IsGreatest {w | ∃ p ∈ supported, isValidProfileForCodec codec p.profile ∧ p.maxWidth = w}
        iface.maxWidth ∧
      IsGreatest {h | ∃ p ∈ supported, isValidProfileForCodec codec p.profile ∧ p.maxHeight = h}
        iface.maxHeight := by
  obtain ⟨-, codec, minProfile, named, least, rfl⟩ := initializeInterface_eq_ok.mp built
  have nonempty : validProfiles codec supported ≠ [] := fun empty => by simp [empty] at least
  have valid_sized (p) (mem : p ∈ validProfiles codec supported) := sized p (List.mem_filter.mp mem).1
  have width := foldl_max_isGreatest SupportedEncodeProfile.maxWidth nonempty
    fun p mem => (valid_sized p mem).1
  have height := foldl_max_isGreatest SupportedEncodeProfile.maxHeight nonempty
    fun p mem => (valid_sized p mem).2
  simp only [validProfiles, List.mem_filter] at width height
  refine ⟨codec, named, ?_, ?_⟩ <;>
    simp only [defaultInterface, maxSize, foldl_maxSize, exists_prop, and_assoc] at width height ⊢
  · exact width
  · exact height

/-- A device with two H.264 profiles, the wider one not the higher, and a VP9 profile larger in
both dimensions. -/
def mixedDevice : List SupportedEncodeProfile :=
  [⟨PROFILE_AVC_BASELINE, 1920, 1080, by decide, by decide⟩,
    ⟨PROFILE_AVC_MAIN, 1280, 2160, by decide, by decide⟩,
    ⟨PROFILE_VP9_0, 4096, 4096, by decide, by decide⟩]

/-- For H.264 the bound is 1920 wide, from Baseline, and 2160 high, from Main; the VP9 profile
does not raise it. -/
theorem initializeInterface_maxSize_mixedDevice :
    let iface := defaultInterface .H264 (validProfiles .H264 mixedDevice) PROFILE_AVC_BASELINE
    initializeInterface true kH264Encoder mixedDevice = .ok iface ∧
    iface.maxWidth = 1920 ∧ iface.maxHeight = 2160 ∧
    (∀ p ∈ mixedDevice, 0 ≤ p.maxWidth ∧ 0 ≤ p.maxHeight) ∧
    ∃ codec, getCodecFromComponentName kH264Encoder = some codec ∧
      IsGreatest {w | ∃ p ∈ mixedDevice, isValidProfileForCodec codec p.profile ∧ p.maxWidth = w}
        iface.maxWidth ∧
      IsGreatest {h | ∃ p ∈ mixedDevice, isValidProfileForCodec codec p.profile ∧ p.maxHeight = h}
        iface.maxHeight :=
  have built : initializeInterface true kH264Encoder mixedDevice =
      .ok (defaultInterface .H264 (validProfiles .H264 mixedDevice) PROFILE_AVC_BASELINE) := rfl
  have sized : ∀ p ∈ mixedDevice, 0 ≤ p.maxWidth ∧ 0 ≤ p.maxHeight := by decide
  ⟨built, rfl, rfl, sized, initializeInterface_maxSize built sized⟩

/-- Level 4.1, the H.264 default, fits the default size, frame rate and bitrate under every
profile. -/
theorem defaults_feasible (profile : Nat) :
    levelFeasible (meetsLimit profile ⟨320, 240⟩ kDefaultFrameRate kDefaultBitrate)
      LEVEL_AVC_4_1 := by
  rw [levelFeasible_iff]
  refine ⟨⟨LEVEL_AVC_4_1, 245760, 8192, 50000000⟩, by decide, rfl, ?_⟩
  rw [kDefaultFrameRate, meetsLimit_natCast _ _ _ _ (by decide) (by decide)]
  simp only [Bool.and_eq_true, decide_eq_true_eq]
  exact ⟨⟨by decide, by decide⟩,
    (by decide : kDefaultBitrate.toNat ≤ 50000000).trans (le_scaledMaxBR _ _)⟩

/-- Every default a setter of this file sets or reads is a fixed point of that setter: the
H.264 setter accepts the default profile and level and records nothing, the VP9 setter accepts
its default, the intra-refresh setter keeps its default; and the default key-frame period is
30 frames. -/
theorem initializeInterface_defaults_fixed {deviceCreated : Bool} {name : String}
    {supported : List SupportedEncodeProfile} {iface : EncodeInterface}
    (built : initializeInterface deviceCreated name supported = .ok iface) :
    (iface.codec = .H264 →
      h264Run iface LEVEL_UNUSED = ⟨.ok, iface.profileLevel, LEVEL_UNUSED⟩) ∧
    (iface.codec = .VP9 →
      vp9ProfileLevelSetter iface.profiles iface.profileLevel = (.ok, iface.profileLevel)) ∧
    intraRefreshPeriodSetter iface.intraRefresh = (.ok, iface.intraRefresh) ∧
    getKeyFramePeriod iface.keyFramePeriodUs iface.frameRate = 30 := by
  obtain ⟨-, codec, minProfile, -, least, rfl⟩ := initializeInterface_eq_ok.mp built
  obtain ⟨offered, valid⟩ := minProfile_valid least
  refine ⟨fun h264 => ?_, fun vp9 => ?_, if_pos zero_lt_one, getKeyFramePeriod_default⟩
  · obtain rfl : codec = .H264 := h264
    have adoption : adoptMinProfile ((validProfiles .H264 supported).map SupportedEncodeProfile.profile)
        PROFILE_AVC_BASELINE minProfile = some minProfile := by
      simp only [isValidProfileForCodec, decide_eq_true_eq] at valid
      rw [adoptMinProfile_eq, if_pos ⟨offered, valid.1⟩]
    have kept : resolveLevel (levelFeasible (meetsLimit minProfile ⟨320, 240⟩ kDefaultFrameRate
        kDefaultBitrate)) avcLevels LEVEL_AVC_4_1 LEVEL_UNUSED = some (LEVEL_AVC_4_1, LEVEL_UNUSED) :=
      resolveLevel_eq_some.mpr (.inl ⟨by decide, defaults_feasible minProfile, rfl, rfl⟩)
    simp only [h264Run, defaultInterface, profileLevelDefaults,
      h264ProfileLevelSetter_eq_resolve _ _ avcLevels_subset_tableLevels, adoption,
      startLevel_unused, kept, levelOutcome_some]
  · obtain rfl : codec = .VP9 := vp9
    simp only [isValidProfileForCodec, decide_eq_true_eq] at valid
    simp only [vp9ProfileLevelSetter, defaultInterface, profileLevelDefaults, adoptMinProfile_eq,
      if_pos (And.intro offered valid.1)]

/-- The VP9 setter only substitutes the profile: it is accepted exactly when the requested
profile is offered and not below profile 0, or profile 0 is offered; it then holds the requested
profile or profile 0, and it always keeps the requested level. -/
theorem vp9ProfileLevelSetter_outcome (profiles : List Nat) (info : ProfileLevel) :
    let run := vp9ProfileLevelSetter profiles info
    (run.1 = .ok ↔
      info.profile ∈ profiles ∧ PROFILE_VP9_0 ≤ info.profile ∨ PROFILE_VP9_0 ∈ profiles) ∧
    run.2.level = info.level ∧
    (run.1 = .ok → run.2.profile =
      if info.profile ∈ profiles ∧ PROFILE_VP9_0 ≤ info.profile then info.profile else PROFILE_VP9_0) := by
  intro run
  simp only [run, vp9ProfileLevelSetter, adoptMinProfile_eq]
  by_cases keep : info.profile ∈ profiles ∧ PROFILE_VP9_0 ≤ info.profile
  · simp [keep]
  · by_cases fallback : PROFILE_VP9_0 ∈ profiles <;> simp [keep, fallback]

/-! ## The declared profile and level of every reachable interface -/

/-- What every configuration keeps: an H.264 interface holds an offered profile not below
Baseline and a declared level, a VP9 interface an offered profile not below profile 0, and a
VP8 interface its constant. -/
def Declared (iface : EncodeInterface) : Prop :=
  match iface.codec with
  | .H264 => iface.profileLevel.profile ∈ iface.profiles ∧
      PROFILE_AVC_BASELINE ≤ iface.profileLevel.profile ∧ iface.profileLevel.level ∈ iface.levels
  | .VP9 => iface.profileLevel.profile ∈ iface.profiles ∧ PROFILE_VP9_0 ≤ iface.profileLevel.profile
  | .VP8 => iface.profileLevel = ⟨PROFILE_VP8_0, LEVEL_UNUSED⟩

/-- An accepted H.264 run holds an offered profile not below Baseline and a declared level. -/
theorem h264ProfileLevelSetter_declared {profiles levels : List Nat} {info : ProfileLevel}
    {videoSize : PictureSize} {frameRate : ℚ} {bitrate : UInt32} {lowest : Nat}
    (accepted : (h264ProfileLevelSetter profiles levels info videoSize frameRate bitrate
      lowest).result = .ok) :
    let run := h264ProfileLevelSetter profiles levels info videoSize frameRate bitrate lowest
    run.info.profile ∈ profiles ∧ PROFILE_AVC_BASELINE ≤ run.info.profile ∧
      run.info.level ∈ levels := by
  obtain ⟨profile, out, adoption, scan, defined⟩ := h264ProfileLevelSetter_of_accepted accepted
  have supported := levelScan_supported kLimits_pairwise_level_lt
    (fun initial => by simpa using initial) scan
  simp only [defined]
  exact ⟨(adoptMinProfile_usable adoption).1, (adoptMinProfile_usable adoption).2,
    by simpa using supported⟩

/-- An accepted VP9 run holds an offered profile not below profile 0. -/
theorem vp9ProfileLevelSetter_declared {profiles : List Nat} {info : ProfileLevel}
    (accepted : (vp9ProfileLevelSetter profiles info).1 = .ok) :
    (vp9ProfileLevelSetter profiles info).2.profile ∈ profiles ∧
      PROFILE_VP9_0 ≤ (vp9ProfileLevelSetter profiles info).2.profile := by
  unfold vp9ProfileLevelSetter at accepted ⊢
  cases adoption : adoptMinProfile profiles PROFILE_VP9_0 info.profile with
  | none =>
    rw [adoption] at accepted
    exact absurd accepted (C2R.badValue_ne_ok _)
  | some profile => exact adoptMinProfile_usable adoption

/-- A step keeps the invariant: an accepted run installs an offered profile and a declared
level, and a refused run keeps the last ones. -/
theorem declared_configure {iface : EncodeInterface} (lowest : Nat) (step : ConfigStep)
    (declared : Declared iface) : Declared (configure iface lowest step).1 := by
  unfold Declared at declared ⊢
  obtain ⟨_, _, _, _, frame⟩ := configure_frame iface lowest step
  rw [show (configure iface lowest step).1.codec = iface.codec by rw [frame]]
  unfold configure
  cases codec : iface.codec with
  | H264 =>
    simp only [codec] at declared ⊢
    split_ifs with accepted
    · exact h264ProfileLevelSetter_declared accepted
    · cases step <;> exact declared
  | VP9 =>
    simp only [codec] at declared ⊢
    split_ifs with accepted
    · exact vp9ProfileLevelSetter_declared accepted
    · cases step <;> exact declared
  | VP8 =>
    simp only [codec] at declared ⊢
    cases step <;> exact declared

/-- From an offered profile not below Baseline, the H.264 setter keeps the profile, whether it
accepts or refuses the level. -/
theorem h264ProfileLevelSetter_keeps_profile {profiles levels : List Nat} {info : ProfileLevel}
    (usable : info.profile ∈ profiles ∧ PROFILE_AVC_BASELINE ≤ info.profile)
    (videoSize : PictureSize) (frameRate : ℚ) (bitrate : UInt32) (lowest : Nat) :
    (h264ProfileLevelSetter profiles levels info videoSize frameRate bitrate lowest).info.profile =
      info.profile := by
  have adoption : adoptMinProfile profiles PROFILE_AVC_BASELINE info.profile = some info.profile := by
    rw [adoptMinProfile_eq, if_pos usable]
  rw [h264ProfileLevelSetter_of_adopted adoption, levelOutcome_profile]

/-- A size, frame-rate or bitrate update never changes the profile of an interface that holds
what every configuration keeps, and changes the level of an H.264 interface only: the setter it
re-runs adopts the profile the interface already holds. -/
theorem configure_dependencies_profile {iface : EncodeInterface} (declared : Declared iface)
    (lowest : Nat) (videoSize : PictureSize) (frameRate : ℚ) (bitrate : UInt32) :
    let next := (configure iface lowest (.dependencies videoSize frameRate bitrate)).1
    next.profileLevel.profile = iface.profileLevel.profile ∧
      (iface.codec ≠ .H264 → next.profileLevel = iface.profileLevel) := by
  intro next
  unfold Declared at declared
  cases codec : iface.codec with
  | H264 =>
    simp only [codec] at declared
    refine ⟨?_, fun other => absurd rfl other⟩
    simp only [next, configure_of_h264 _ _ _ codec, h264Run_dependencies,
      apply_ite ProfileLevel.profile, h264ProfileLevelSetter_keeps_profile ⟨declared.1, declared.2.1⟩,
      ite_self]
  | VP9 =>
    simp only [codec] at declared
    have kept : next.profileLevel = iface.profileLevel := by
      simp [next, configure, codec, ConfigStep.propose, vp9ProfileLevelSetter, adoptMinProfile_eq,
        declared]
    exact ⟨congrArg ProfileLevel.profile kept, fun _ => kept⟩
  | VP8 =>
    have kept : next.profileLevel = iface.profileLevel := by simp [next, configure, codec]
    exact ⟨congrArg ProfileLevel.profile kept, fun _ => kept⟩

/-- Every reachable interface holds an offered profile not below its codec's least, and an
H.264 interface a level it declares. -/
theorem Reachable.declared {state : EncodeInterface × Nat} (reached : Reachable state) :
    Declared state.1 := by
  induction reached with
  | initial built =>
    obtain ⟨-, codec, minProfile, -, least, rfl⟩ := initializeInterface_eq_ok.mp built
    obtain ⟨offered, valid⟩ := minProfile_valid least
    cases codec <;> simp only [isValidProfileForCodec, decide_eq_true_eq] at valid
    · exact ⟨offered, valid.1, show LEVEL_AVC_4_1 ∈ avcLevels by decide⟩
    · rfl
    · exact ⟨offered, valid.1⟩
  | step _ step declared => exact declared_configure _ step declared
  | record _ _ declared => exact declared

/-- On the Baseline device, a request for level 1 is accepted (at level 1.3), then 1080p at
1000 fps is refused by the H.264 setter, no level fitting `8160 · 1000` macroblocks per second;
its size, frame rate and bitrate pass their own setters and are installed. -/
theorem configure_refused_1080p :
    configure { baselineInterface with profileLevel := ⟨PROFILE_AVC_BASELINE, LEVEL_AVC_1_3⟩ }
      LEVEL_AVC_1 (.dependencies ⟨1920, 1080⟩ (1000 : ℕ) 64000) =
      ({ baselineInterface with
          videoSize := ⟨1920, 1080⟩, frameRate := ((1000 : ℕ) : ℚ),
          profileLevel := ⟨PROFILE_AVC_BASELINE, LEVEL_AVC_1_3⟩ }, LEVEL_AVC_1) ∧
    configureResult { baselineInterface with profileLevel := ⟨PROFILE_AVC_BASELINE, LEVEL_AVC_1_3⟩ }
      LEVEL_AVC_1 (.dependencies ⟨1920, 1080⟩ (1000 : ℕ) 64000) = .badValue .level := by
  have size : sizeSetter 1920 1080 ⟨1920, 1080⟩ = .ok := by decide
  have rate : frameRateSetter (1000 : ℕ) = .ok := by decide
  have bits : bitrateSetter 64000 = .ok := by decide
  have run : h264Run ((ConfigStep.dependencies ⟨1920, 1080⟩ (1000 : ℕ) 64000).propose
      { baselineInterface with profileLevel := ⟨PROFILE_AVC_BASELINE, LEVEL_AVC_1_3⟩ }) LEVEL_AVC_1 =
      ⟨.badValue .level, ⟨PROFILE_AVC_BASELINE, LEVEL_AVC_1⟩, LEVEL_AVC_1⟩ := by
    rw [h264Run_dependencies]
    simp (disch := decide) only [baselineInterface, size, rate, bits, if_true,
      h264ProfileLevelSetter, meetsLimit_natCast]
    decide
  rw [configure_of_h264 _ _ _ rfl, configureResult_of_h264 _ _ _ rfl, run]
  simp only [ConfigStep.propose, ConfigStep.fieldResult, baselineInterface, size, rate, bits,
    if_true]
  decide

/-- After an accepted and a refused step from `Initialize` on the Baseline device. -/
theorem Reachable.declared_refused_1080p :
    let accepted := configure baselineInterface LEVEL_UNUSED
      (.profileLevel ⟨PROFILE_AVC_BASELINE, LEVEL_AVC_1⟩)
    let refused := configure accepted.1 accepted.2 (.dependencies ⟨1920, 1080⟩ (1000 : ℕ) 64000)
    configureResult baselineInterface LEVEL_UNUSED
        (.profileLevel ⟨PROFILE_AVC_BASELINE, LEVEL_AVC_1⟩) = .ok ∧
      configureResult accepted.1 accepted.2 (.dependencies ⟨1920, 1080⟩ (1000 : ℕ) 64000) =
        .badValue .level ∧
      Reachable refused ∧ Declared refused.1 :=
  have reached := Reachable.step (.step (.initial initializeInterface_baselineDevice)
    (.profileLevel ⟨PROFILE_AVC_BASELINE, LEVEL_AVC_1⟩)) (.dependencies ⟨1920, 1080⟩ (1000 : ℕ) 64000)
  ⟨configure_baseline_level1.2, by rw [configure_baseline_level1.1]; exact configure_refused_1080p.2,
    reached, Reachable.declared reached⟩

/-! ## The size of every reachable interface -/

/-- The bounds `Initialize` derives from `int32_t` device maxima are below `2^31`. -/
theorem Reachable.maxSize_int32 {state : EncodeInterface × Nat} (reached : Reachable state) :
    state.1.maxWidth < 2 ^ 31 ∧ state.1.maxHeight < 2 ^ 31 := by
  induction reached with
  | @initial _ _ supported _ built =>
    obtain ⟨-, codec, minProfile, -, -, rfl⟩ := initializeInterface_eq_ok.mp built
    -- `maxSize` is the seed -1 or some profile's `int32_t` maximum.
    have within (dim : SupportedEncodeProfile → Int) (bounded : ∀ p, dim p < 2 ^ 31) :
        (validProfiles codec supported).foldl (fun m p => max m (dim p)) (-1) < 2 ^ 31 := by
      rcases (foldl_max_bounds dim (validProfiles codec supported) (-1)).2.2 with seed | ⟨p, -, top⟩
      · rw [seed]
        decide
      · exact top ▸ bounded p
    simp only [defaultInterface, maxSize, foldl_maxSize]
    exact ⟨within _ fun p => p.maxWidth_int32.2, within _ fun p => p.maxHeight_int32.2⟩
  | @step state _ step bounded =>
    obtain ⟨_, _, _, _, frame⟩ := configure_frame state.1 state.2 step
    rw [frame]
    exact bounded
  | record _ _ bounded => exact bounded

/-- What every configuration keeps of the size: the default, or a size the setter accepts. -/
def SizeDeclared (iface : EncodeInterface) : Prop :=
  iface.videoSize = ⟨320, 240⟩ ∨ sizeSetter iface.maxWidth iface.maxHeight iface.videoSize = .ok

theorem Reachable.sizeDeclared {state : EncodeInterface × Nat} (reached : Reachable state) :
    SizeDeclared state.1 := by
  induction reached with
  | initial built =>
    obtain ⟨-, codec, minProfile, -, -, rfl⟩ := initializeInterface_eq_ok.mp built
    exact .inl rfl
  | @step state _ step declared =>
    obtain ⟨_, _, _, _, frame⟩ := configure_frame state.1 state.2 step
    -- The step installs the proposed size, which the setter accepted or which was kept.
    have installed : (configure state.1 state.2 step).1.videoSize = (step.propose state.1).videoSize := by
      unfold configure
      split <;> rfl
    unfold SizeDeclared
    rw [installed, show (configure state.1 state.2 step).1.maxWidth = state.1.maxWidth by rw [frame],
      show (configure state.1 state.2 step).1.maxHeight = state.1.maxHeight by rw [frame]]
    cases step with
    | profileLevel => exact declared
    | dependencies videoSize =>
      simp only [ConfigStep.propose]
      split_ifs with accepted
      · exact .inr accepted
      · exact declared
  | record _ _ declared => exact declared

/-- On a device whose valid profiles report a non-negative maximum in each dimension, every
reachable interface holds a size below the 32-bit wrap of `w + 15`: the size setter accepts
nothing above the device's `int32_t` maximum. -/
theorem Reachable.videoSize_unwrapped {state : EncodeInterface × Nat} (reached : Reachable state)
    (nonneg : 0 ≤ state.1.maxWidth ∧ 0 ≤ state.1.maxHeight) :
    state.1.videoSize.width.toNat < 2 ^ 32 - 15 ∧ state.1.videoSize.height.toNat < 2 ^ 32 - 15 := by
  have bounded := Reachable.maxSize_int32 reached
  rcases Reachable.sizeDeclared reached with default | accepted
  · rw [default]
    decide
  · have width := toUInt32Bound_of_int32 nonneg.1 bounded.1
    have height := toUInt32Bound_of_int32 nonneg.2 bounded.2
    simp only [sizeSetter_eq_ok, inRange, decide_eq_true_eq] at accepted
    omega

/-- After the refused 1080p step, the 1920x1080 its setter accepted is below the wrap. -/
theorem Reachable.videoSize_unwrapped_refused_1080p :
    let accepted := configure baselineInterface LEVEL_UNUSED
      (.profileLevel ⟨PROFILE_AVC_BASELINE, LEVEL_AVC_1⟩)
    let refused := configure accepted.1 accepted.2 (.dependencies ⟨1920, 1080⟩ (1000 : ℕ) 64000)
    Reachable refused ∧ (0 ≤ refused.1.maxWidth ∧ 0 ≤ refused.1.maxHeight) ∧
      refused.1.videoSize = ⟨1920, 1080⟩ ∧
      (refused.1.videoSize.width.toNat < 2 ^ 32 - 15 ∧
        refused.1.videoSize.height.toNat < 2 ^ 32 - 15) := by
  intro accepted refused
  have reached : Reachable refused := .step (.step (.initial initializeInterface_baselineDevice) _) _
  have installed : refused.1 = { baselineInterface with
      videoSize := ⟨1920, 1080⟩, frameRate := ((1000 : ℕ) : ℚ),
      profileLevel := ⟨PROFILE_AVC_BASELINE, LEVEL_AVC_1_3⟩ } := by
    simp only [refused, accepted, configure_baseline_level1.1, configure_refused_1080p.1]
  have nonneg : 0 ≤ refused.1.maxWidth ∧ 0 ≤ refused.1.maxHeight := by
    rw [installed]
    decide
  exact ⟨reached, nonneg, by rw [installed], Reachable.videoSize_unwrapped reached nonneg⟩

end V4L2Codec2.Guarantees
