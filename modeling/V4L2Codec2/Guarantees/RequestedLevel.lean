import V4L2Codec2.Spec.Resolver
import V4L2Codec2.Guarantees.SharedMemory

/-!
# A requested level is honoured once it fits, unless a lower level is already recorded

On one H.264 interface, a request for a supported level `L` followed by any updates of the
size, frame rate and bitrate ends at level `L` whenever `L` is feasible for the final values,
provided that at the request the recorded `lowestConfigLevel` is unset or not below `L`
(`requested_level_honoured`). The proof is an invariant of the step relation (`Honours`):
either the level is `L` and the record does not lower `L`, or the record is `L` and the level
lies above it, which lasts only while `L` is infeasible.

The proviso is needed. The record is never reset, so a reachable state can hold a lower
record left by an earlier request, and every later request is lowered to it
(`stale_record_counterexample`).
-/

namespace V4L2Codec2.Guarantees
open Source Spec System C2Config

theorem tableLevels_ne_unused {level : Nat} (row : level ∈ tableLevels) : level ≠ LEVEL_UNUSED :=
  (by decide : ∀ l ∈ tableLevels, l ≠ LEVEL_UNUSED) level row

/-- One run from a working level `requested`: accepted with the adopted profile, either
keeping `requested` (feasible) or recording it and moving above it (infeasible); or refused
for the level, with nothing recorded and `requested` infeasible. -/
theorem run_from_requested {profiles levels : List Nat} {info : ProfileLevel}
    {requested profile lowest : Nat} (drawn : levels ⊆ tableLevels) (supported : requested ∈ levels)
    (adoption : adoptMinProfile profiles PROFILE_AVC_BASELINE info.profile = some profile)
    (start : startLevel lowest info.level = requested) (videoSize : PictureSize) (frameRate : ℚ)
    (bitrate : UInt32) :
    let run := h264ProfileLevelSetter profiles levels info videoSize frameRate bitrate lowest
    let feasible := levelFeasible (meetsLimit profile videoSize frameRate bitrate) requested
    (run.result = .ok ∧ run.info.profile = profile ∧
      (run.info.level = requested ∧ run.lowestConfigLevel = lowest ∧ feasible ∨
        run.lowestConfigLevel = requested ∧ requested < run.info.level ∧ ¬feasible)) ∨
    (run.result = .badValue .level ∧ run.lowestConfigLevel = lowest ∧ ¬feasible) := by
  intro run feasible
  have defined : run = _ :=
    h264ProfileLevelSetter_eq_resolve profiles levels drawn info videoSize frameRate bitrate lowest
  simp only [adoption, start] at defined
  cases resolution : resolveLevel (levelFeasible (meetsLimit profile videoSize frameRate bitrate))
      levels requested lowest with
  | none =>
    rw [defined, resolution]
    exact .inr ⟨rfl, rfl, resolveLevel_eq_none.mp resolution requested supported⟩
  | some out =>
    obtain ⟨resolved, lowest'⟩ := out
    rw [defined, resolution]
    rcases resolveLevel_eq_some.mp resolution with ⟨-, fits, rfl, rfl⟩ | ⟨moved, least, rfl⟩
    · exact .inl ⟨rfl, rfl, .inl ⟨rfl, rfl, fits⟩⟩
    · have infeasible : ¬feasible := fun fits => moved ⟨supported, fits⟩
      exact .inl ⟨rfl, rfl, .inr ⟨rfl, lt_of_infeasible (meetsLimit_upward profile videoSize
        frameRate bitrate) (drawn supported) infeasible least.1.2, infeasible⟩⟩

/-- The invariant after `requested` was asked for and accepted with the adopted `profile`:
either the level is `requested` and the record does not lower it, or the record is `requested`
and the level lies above it while `requested` does not fit. -/
structure Honours (requested profile : Nat) (state : EncodeInterface × Nat) : Prop where
  h264 : state.1.codec = .H264
  drawn : state.1.levels ⊆ tableLevels
  supported : requested ∈ state.1.levels
  adopted : state.1.profileLevel.profile = profile
  usable : profile ∈ state.1.profiles ∧ PROFILE_AVC_BASELINE ≤ profile
  level : (state.1.profileLevel.level = requested ∧ ¬(state.2 ≠ LEVEL_UNUSED ∧ state.2 < requested)) ∨
    (state.2 = requested ∧ requested < state.1.profileLevel.level ∧
      ¬levelFeasible (meetsLimit profile state.1.videoSize state.1.frameRate state.1.bitrate)
        requested)

section
variable {requested profile : Nat} {state : EncodeInterface × Nat}

theorem Honours.not_below (inv : Honours requested profile state) :
    ¬(state.2 ≠ LEVEL_UNUSED ∧ state.2 < requested) := by
  rcases inv.level with ⟨-, unrecorded⟩ | ⟨recorded, -, -⟩
  · exact unrecorded
  · rw [recorded]
    exact fun below => Nat.lt_irrefl _ below.2

/-- Another instance may change the record: the invariant survives a new record that is unset
or not below `requested`, provided a set record never rises nor is cleared. -/
theorem Honours.rerecord (inv : Honours requested profile state) {lowest : Nat}
    (unrecorded : ¬(lowest ≠ LEVEL_UNUSED ∧ lowest < requested))
    (kept : state.2 ≠ LEVEL_UNUSED → lowest ≤ state.2 ∧ lowest ≠ LEVEL_UNUSED) :
    Honours requested profile (state.1, lowest) := by
  refine ⟨inv.h264, inv.drawn, inv.supported, inv.adopted, inv.usable, ?_⟩
  rcases inv.level with ⟨same, -⟩ | ⟨recorded, above, infeasible⟩
  · exact .inl ⟨same, unrecorded⟩
  · -- The record was `requested`: it stays there, neither rising nor falling below it.
    have set := tableLevels_ne_unused (inv.drawn inv.supported)
    obtain ⟨lower, stays⟩ := kept (recorded ▸ set)
    exact .inr ⟨by omega, above, infeasible⟩

/-- In either case the next run starts from `requested`. -/
theorem Honours.start (inv : Honours requested profile state) :
    startLevel state.2 state.1.profileLevel.level = requested := by
  rcases inv.level with ⟨same, unrecorded⟩ | ⟨recorded, above, -⟩
  · rw [same, startLevel, if_neg unrecorded]
  · rw [startLevel, if_pos (recorded ▸ ⟨tableLevels_ne_unused (inv.drawn inv.supported), above⟩),
      recorded]

/-- The held profile is usable, so every later run adopts it again. -/
theorem Honours.adoption (inv : Honours requested profile state) :
    adoptMinProfile state.1.profiles PROFILE_AVC_BASELINE state.1.profileLevel.profile =
      some profile := by
  rw [inv.adopted, adoptMinProfile_eq, if_pos inv.usable]

/-- An update of the size, frame rate and bitrate keeps the invariant, whether its run is
accepted or refused. -/
theorem honours_dependencies (inv : Honours requested profile state) (videoSize : PictureSize)
    (frameRate : ℚ) (bitrate : UInt32) :
    Honours requested profile
      (configure state.1 state.2 (.dependencies videoSize frameRate bitrate)) := by
  rw [configure_of_h264 _ _ _ inv.h264, h264Run_dependencies]
  -- The run reads what the field setters installed.
  rcases run_from_requested inv.drawn inv.supported inv.adoption inv.start
      (if sizeSetter state.1.maxWidth state.1.maxHeight videoSize = .ok then videoSize
        else state.1.videoSize)
      (if frameRateSetter frameRate = .ok then frameRate else state.1.frameRate)
      (if bitrateSetter bitrate = .ok then bitrate else state.1.bitrate) with
    ⟨ok, adopted, ⟨kept, unmoved, -⟩ | ⟨recorded, above, infeasible⟩⟩ |
    ⟨refused, unmoved, infeasible⟩
  · rw [if_pos ok]
    exact ⟨inv.h264, inv.drawn, inv.supported, adopted, inv.usable,
      .inl ⟨kept, by rw [unmoved]; exact inv.not_below⟩⟩
  · rw [if_pos ok]
    exact ⟨inv.h264, inv.drawn, inv.supported, adopted, inv.usable,
      .inr ⟨recorded, above, infeasible⟩⟩
  · rw [if_neg (by rw [refused]; decide)]
    refine ⟨inv.h264, inv.drawn, inv.supported, inv.adopted, inv.usable, ?_⟩
    rcases inv.level with ⟨kept, unrecorded⟩ | ⟨recorded, above, -⟩
    · exact .inl ⟨kept, by rw [unmoved]; exact unrecorded⟩
    · exact .inr ⟨unmoved.trans recorded, above, infeasible⟩

/-- An accepted request for a declared level, with no lower level recorded, sets up the
invariant for the profile its run adopts. -/
theorem honours_request (h264 : state.1.codec = .H264) (drawn : state.1.levels ⊆ tableLevels)
    {info : ProfileLevel} (supported : info.level ∈ state.1.levels)
    (unrecorded : ¬(state.2 ≠ LEVEL_UNUSED ∧ state.2 < info.level))
    (accepted : (h264Run ((ConfigStep.profileLevel info).propose state.1) state.2).result = .ok) :
    ∃ profile, Honours info.level profile (configure state.1 state.2 (.profileLevel info)) := by
  rw [h264Run_profileLevel] at accepted
  rw [configure_of_h264 _ _ _ h264, h264Run_profileLevel, if_pos accepted]
  cases adoption : adoptMinProfile state.1.profiles PROFILE_AVC_BASELINE info.profile with
  | none =>
    rw [h264ProfileLevelSetter_of_refused adoption] at accepted
    exact absurd accepted (C2R.badValue_ne_ok _)
  | some profile =>
    have usable := adoptMinProfile_usable adoption
    rcases run_from_requested drawn supported adoption (by rw [startLevel, if_neg unrecorded])
        state.1.videoSize state.1.frameRate state.1.bitrate with
      ⟨-, adopted, ⟨kept, unmoved, -⟩ | ⟨recorded, above, infeasible⟩⟩ | ⟨refused, -, -⟩
    · exact ⟨profile, h264, drawn, supported, adopted, usable,
        .inl ⟨kept, by rw [unmoved]; exact unrecorded⟩⟩
    · exact ⟨profile, h264, drawn, supported, adopted, usable, .inr ⟨recorded, above, infeasible⟩⟩
    · rw [refused] at accepted
      exact absurd accepted (C2R.badValue_ne_ok _)

/-- Once the requested level fits the current values, it is the level held. -/
theorem Honours.level_eq (inv : Honours requested profile state)
    (feasible : levelFeasible (meetsLimit state.1.profileLevel.profile state.1.videoSize
      state.1.frameRate state.1.bitrate) requested) :
    state.1.profileLevel.level = requested := by
  rcases inv.level with ⟨kept, -⟩ | ⟨-, -, infeasible⟩
  · exact kept
  · exact absurd (inv.adopted ▸ feasible) infeasible

end

/-- A request for `requested` followed by updates of the size, frame rate and bitrate. -/
def requestThenUpdate (state : EncodeInterface × Nat) (requested : ProfileLevel)
    (updates : List (PictureSize × ℚ × UInt32)) : EncodeInterface × Nat :=
  configureAll (configure state.1 state.2 (.profileLevel requested))
    (updates.map fun (videoSize, frameRate, bitrate) => .dependencies videoSize frameRate bitrate)

/-- Any updates of the size, frame rate and bitrate keep the invariant. -/
theorem honours_updates {requested profile : Nat} :
    ∀ {state : EncodeInterface × Nat} (updates : List (PictureSize × ℚ × UInt32)),
      Honours requested profile state →
      Honours requested profile (configureAll state
        (updates.map fun (videoSize, frameRate, bitrate) => .dependencies videoSize frameRate bitrate))
  | _, [], inv => inv
  | _, (videoSize, frameRate, bitrate) :: rest, inv =>
    honours_updates rest (honours_dependencies inv videoSize frameRate bitrate)

/-- From an H.264 state whose levels have rows in `kLimits`, with no level below the requested
one recorded, an accepted request for a declared level followed by any updates of the size,
frame rate and bitrate ends at the requested level whenever that level fits the final values. -/
theorem requested_level_honoured {state : EncodeInterface × Nat}
    (drawn : state.1.levels ⊆ tableLevels) (h264 : state.1.codec = .H264) {requested : ProfileLevel}
    (supported : requested.level ∈ state.1.levels)
    (unrecorded : ¬(state.2 ≠ LEVEL_UNUSED ∧ state.2 < requested.level))
    (accepted : (h264Run ((ConfigStep.profileLevel requested).propose state.1) state.2).result = .ok)
    (updates : List (PictureSize × ℚ × UInt32)) :
    let final := requestThenUpdate state requested updates
    levelFeasible (meetsLimit final.1.profileLevel.profile final.1.videoSize final.1.frameRate
        final.1.bitrate) requested.level →
      final.1.profileLevel.level = requested.level := by
  intro final feasible
  obtain ⟨profile, inv⟩ := honours_request h264 drawn supported unrecorded accepted
  exact (honours_updates updates inv).level_eq feasible

/-- At QCIF and 15 fps, 99 macroblocks at 1485 per second, level 1 fits again: from level 1.3
with level 1 recorded, the update, which the field setters accept, brings the level back to 1. -/
theorem configure_recorded_qcif :
    configure { baselineInterface with profileLevel := ⟨PROFILE_AVC_BASELINE, LEVEL_AVC_1_3⟩ }
      LEVEL_AVC_1 (.dependencies ⟨176, 144⟩ (15 : ℕ) 64000) =
      ({ baselineInterface with
          videoSize := ⟨176, 144⟩, frameRate := ((15 : ℕ) : ℚ),
          profileLevel := ⟨PROFILE_AVC_BASELINE, LEVEL_AVC_1⟩ }, LEVEL_AVC_1) := by
  have size : sizeSetter 1920 1080 ⟨176, 144⟩ = .ok := by decide
  have rate : frameRateSetter (15 : ℕ) = .ok := by decide
  have bits : bitrateSetter 64000 = .ok := by decide
  have run : h264Run ((ConfigStep.dependencies ⟨176, 144⟩ (15 : ℕ) 64000).propose
      { baselineInterface with profileLevel := ⟨PROFILE_AVC_BASELINE, LEVEL_AVC_1_3⟩ }) LEVEL_AVC_1 =
      ⟨.ok, ⟨PROFILE_AVC_BASELINE, LEVEL_AVC_1⟩, LEVEL_AVC_1⟩ := by
    rw [h264Run_dependencies]
    simp (disch := decide) only [baselineInterface, size, rate, bits, if_true,
      h264ProfileLevelSetter, meetsLimit_natCast]
    decide
  rw [configure_of_h264 _ _ _ rfl, run]
  simp only [ConfigStep.propose, baselineInterface, size, rate, bits, if_true]
  decide

/-- Level 1 does not fit the defaults, so the request is accepted at 1.3 with level 1
recorded; after the update to QCIF at 15 fps level 1 fits, and it is the level held. -/
theorem requested_level_honoured_qcif :
    let final := requestThenUpdate (baselineInterface, LEVEL_UNUSED)
      ⟨PROFILE_AVC_BASELINE, LEVEL_AVC_1⟩ [(⟨176, 144⟩, (15 : ℕ), 64000)]
    initializeInterface true kH264Encoder baselineDevice = .ok baselineInterface ∧
      baselineInterface.levels ⊆ tableLevels ∧ baselineInterface.codec = .H264 ∧
      LEVEL_AVC_1 ∈ baselineInterface.levels ∧
      ¬(LEVEL_UNUSED ≠ LEVEL_UNUSED ∧ LEVEL_UNUSED < LEVEL_AVC_1) ∧
      (h264Run ((ConfigStep.profileLevel ⟨PROFILE_AVC_BASELINE, LEVEL_AVC_1⟩).propose
        baselineInterface) LEVEL_UNUSED).result = .ok ∧
      levelFeasible (meetsLimit final.1.profileLevel.profile final.1.videoSize final.1.frameRate
        final.1.bitrate) LEVEL_AVC_1 ∧
      final.1.profileLevel.level = LEVEL_AVC_1 := by
  intro final
  have accepted := h264Run_accepted _ _ _ rfl configure_baseline_level1.2
  have feasible : levelFeasible (meetsLimit final.1.profileLevel.profile final.1.videoSize
      final.1.frameRate final.1.bitrate) LEVEL_AVC_1 := by
    simp (disch := decide) only [final, requestThenUpdate, List.map, configureAll,
      configure_baseline_level1.1, configure_recorded_qcif, meetsLimit_natCast]
    decide
  exact ⟨rfl, avcLevels_subset_tableLevels, rfl, by decide, by decide, accepted, feasible,
    requested_level_honoured avcLevels_subset_tableLevels rfl (by decide) (by decide) accepted _
      feasible⟩

/-- A request for level 1 leaves level 1 recorded. A later request on the same interface for
level 4.1, which fits the defaults, is lowered to level 1 and accepted at level 1.3. -/
theorem stale_record_counterexample :
    let state := configure baselineInterface LEVEL_UNUSED
      (.profileLevel ⟨PROFILE_AVC_BASELINE, LEVEL_AVC_1⟩)
    let final := requestThenUpdate state ⟨PROFILE_AVC_BASELINE, LEVEL_AVC_4_1⟩ []
    Reachable state ∧ state.1.codec = .H264 ∧ LEVEL_AVC_4_1 ∈ state.1.levels ∧
      state.2 = LEVEL_AVC_1 ∧
      (h264Run ((ConfigStep.profileLevel ⟨PROFILE_AVC_BASELINE, LEVEL_AVC_4_1⟩).propose state.1)
        state.2).result = .ok ∧
      levelFeasible (meetsLimit final.1.profileLevel.profile final.1.videoSize final.1.frameRate
        final.1.bitrate) LEVEL_AVC_4_1 ∧
      final.1.profileLevel.level = LEVEL_AVC_1_3 := by
  intro state final
  have run : h264Run ((ConfigStep.profileLevel ⟨PROFILE_AVC_BASELINE, LEVEL_AVC_4_1⟩).propose
      { baselineInterface with profileLevel := ⟨PROFILE_AVC_BASELINE, LEVEL_AVC_1_3⟩ })
      LEVEL_AVC_1 = ⟨.ok, ⟨PROFILE_AVC_BASELINE, LEVEL_AVC_1_3⟩, LEVEL_AVC_1⟩ := by
    rw [h264Run_profileLevel]
    simp (disch := decide) only [baselineInterface, kDefaultFrameRate, h264ProfileLevelSetter,
      meetsLimit_natCast]
    decide
  refine ⟨.step (.initial initializeInterface_baselineDevice) _, ?_⟩
  simp only [state, final, configure_baseline_level1.1, requestThenUpdate, List.map, configureAll]
  rw [configure_of_h264 _ _ _ rfl, run]
  simp (disch := decide) only [ConfigStep.propose, baselineInterface, kDefaultFrameRate, if_true,
    meetsLimit_natCast]
  decide

end V4L2Codec2.Guarantees
