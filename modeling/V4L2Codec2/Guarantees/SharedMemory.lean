import V4L2Codec2.System.Process
import V4L2Codec2.Spec.LevelScan

/-!
# Instances share `lowestConfigLevel`

`lowestConfigLevel` is a function-static, so every encoder interface of a process reads and
writes the same value. The H.264 setter reads it only to lower the level it starts from, so
what it decides apart from the level, its result and the profile it leaves, is a function of
the instance's own values (`h264ProfileLevelSetter_decision`). Hence in every interleaving an
instance's steps report the same results and leave it the same profiles as in the run of its
own steps alone (`observe_run_forgetLevel`); only its levels depend on the other instances.

They do, in general: an instance that requested a low level leaves it recorded, and a fresh
instance's later request is lowered to it (`shared_memory_counterexample`). Only the H.264
setter touches the shared value, so a VP8 or VP9 instance, and an H.264 instance beside which
no other H.264 instance steps, see their levels too as when alone (`observe_run_isolated`). A
VP8 or VP9 step also commutes with any other instance's step (`Process.step_comm`), so it can be
postponed past any run of the others without changing the state the process ends in
(`Process.run_postpone`).
-/

namespace V4L2Codec2.Guarantees
open Source Spec System C2Config

/-- What the H.264 setter decides apart from the level: its result and the profile it leaves.
They depend on the profile asked for and on the size, frame rate and bitrate, and neither on
the level asked for nor on `lowestConfigLevel`. -/
def h264Decision (profiles levels : List Nat) (profile : Nat) (videoSize : PictureSize)
    (frameRate : ℚ) (bitrate : UInt32) : C2R × Nat :=
  match adoptMinProfile profiles PROFILE_AVC_BASELINE profile with
  | none => (.badValue .profile, profile)
  | some adopted =>
    (if (kLimits.find? (hit (fun l => l ∈ levels) (meetsLimit adopted videoSize frameRate bitrate))).isSome
      then .ok else .badValue .level, adopted)

theorem h264ProfileLevelSetter_decision (profiles levels : List Nat) (info : ProfileLevel)
    (videoSize : PictureSize) (frameRate : ℚ) (bitrate : UInt32) (lowest : Nat) :
    let run := h264ProfileLevelSetter profiles levels info videoSize frameRate bitrate lowest
    run.result = (h264Decision profiles levels info.profile videoSize frameRate bitrate).1 ∧
      run.info.profile = (h264Decision profiles levels info.profile videoSize frameRate bitrate).2 := by
  intro run
  cases adoption : adoptMinProfile profiles PROFILE_AVC_BASELINE info.profile with
  | none => simp [run, h264ProfileLevelSetter_of_refused adoption, h264Decision, adoption]
  | some profile =>
    simp only [run, h264ProfileLevelSetter_of_adopted adoption, h264Decision, adoption]
    rw [← levelScan_isSome kLimits_pairwise_level_lt (startLevel lowest info.level) lowest
      (!decide (startLevel lowest info.level ∈ levels))]
    cases levelScan (fun l => l ∈ levels) (meetsLimit profile videoSize frameRate bitrate)
      (startLevel lowest info.level) lowest kLimits
      (!decide (startLevel lowest info.level ∈ levels)) <;> exact ⟨rfl, rfl⟩

/-- An interface with its level forgotten. -/
def withoutLevel (iface : EncodeInterface) : EncodeInterface :=
  { iface with profileLevel := { iface.profileLevel with level := LEVEL_UNUSED } }

/-- A step on two interfaces that differ at most in their level, each with its own
`lowestConfigLevel`, reports the same and leaves them differing at most in their level. -/
theorem configure_withoutLevel {x y : EncodeInterface} (agree : withoutLevel x = withoutLevel y)
    (lowest lowest' : Nat) (step : ConfigStep) :
    withoutLevel (configure x lowest step).1 = withoutLevel (configure y lowest' step).1 ∧
      configureResult x lowest step = configureResult y lowest' step := by
  obtain ⟨codec, profiles, levels, maxWidth, maxHeight, videoSize, frameRate, bitrate,
    ⟨profile, level⟩, intraRefresh, keyFramePeriodUs⟩ := x
  obtain ⟨_, _, _, _, _, _, _, _, ⟨_, level'⟩, _, _⟩ := y
  simp only [withoutLevel, EncodeInterface.mk.injEq, ProfileLevel.mk.injEq,
    and_true] at agree
  obtain ⟨rfl, rfl, rfl, rfl, rfl, rfl, rfl, rfl, rfl, rfl, rfl⟩ := agree
  -- The H.264 setter's result and profile read neither the level nor the static.
  have result := fun info lowest videoSize frameRate bitrate =>
    (h264ProfileLevelSetter_decision profiles levels info videoSize frameRate bitrate lowest).1
  have adopted := fun info lowest videoSize frameRate bitrate =>
    (h264ProfileLevelSetter_decision profiles levels info videoSize frameRate bitrate lowest).2
  cases codec
  · cases step <;>
      simp [configure, configureResult, ConfigStep.propose, ConfigStep.fieldResult, withoutLevel,
        h264Run, apply_ite ProfileLevel.profile, result, adopted]
  · cases step <;>
      simp [configure, configureResult, ConfigStep.propose, ConfigStep.fieldResult, withoutLevel]
  · -- The VP9 setter reads the profile only.
    cases adoption : adoptMinProfile profiles PROFILE_VP9_0 profile <;> cases step <;>
      simp [configure, configureResult, ConfigStep.propose, ConfigStep.fieldResult, withoutLevel,
        vp9ProfileLevelSetter, adoption, apply_ite ProfileLevel.profile]

variable {ι : Type} [DecidableEq ι]

/-- What `b` sees of a step with the level left out: the result and the profile. -/
def forgetLevel (seen : C2R × ProfileLevel) : C2R × Nat := (seen.1, seen.2.profile)

/-- Two processes whose interfaces of `b` differ at most in the level show `b` the same
results and profiles, the second running only `b`'s steps, whatever the shared value holds
in each. -/
theorem observe_run_withoutLevel (b : ι) :
    ∀ (p q : Process ι) (trace : List (ι × ConfigStep)),
      withoutLevel (p.interfaces b) = withoutLevel (q.interfaces b) →
      (observe b (p.run trace).2).map forgetLevel =
        (observe b (q.run (trace.filter fun s => s.1 = b)).2).map forgetLevel
  | _, _, [], _ => rfl
  | p, q, (i, step) :: rest, agree => by
    by_cases mine : i = b
    · subst mine
      obtain ⟨stepped, reported⟩ :=
        configure_withoutLevel agree p.lowestConfigLevel q.lowestConfigLevel step
      have profile : (configure (p.interfaces i) p.lowestConfigLevel step).1.profileLevel.profile =
          (configure (q.interfaces i) q.lowestConfigLevel step).1.profileLevel.profile :=
        congrArg (fun iface => iface.profileLevel.profile) stepped
      have ih := observe_run_withoutLevel i (p.step i step) (q.step i step) rest
        (by simpa only [Process.step_interfaces_self] using stepped)
      rw [List.filter_cons_of_pos (by simp), Process.run_log_cons, Process.run_log_cons,
        observe_cons_self, observe_cons_self, List.map_cons, List.map_cons, ih]
      simp only [forgetLevel, Process.step_interfaces_self, reported, profile]
    · have untouched := Process.step_interfaces_of_ne p (Ne.symm mine) step
      rw [List.filter_cons_of_neg (by simpa using mine), Process.run_log_cons,
        observe_cons_of_ne mine,
        observe_run_withoutLevel b (p.step i step) q rest (by rw [untouched, agree])]

/-- In every interleaving, each step of an instance reports what it reports in the run of that
instance's steps alone, and leaves it the same profile. -/
theorem observe_run_forgetLevel (b : ι) (p : Process ι) (trace : List (ι × ConfigStep)) :
    (observe b (p.run trace).2).map forgetLevel =
      (observe b (p.run (trace.filter fun s => s.1 = b)).2).map forgetLevel :=
  observe_run_withoutLevel b p p trace rfl

/-- No step of an instance other than `b` changes the shared `lowestConfigLevel`. -/
def OthersKeepMemory (b : ι) : Process ι → List (ι × ConfigStep) → Prop
  | _, [] => True
  | p, (i, step) :: rest =>
    (i ≠ b → (p.step i step).lowestConfigLevel = p.lowestConfigLevel) ∧
      OthersKeepMemory b (p.step i step) rest

/-- `b` sees the same in two runs, the second of only `b`'s steps, when both start from `b`'s
interface and either they share `lowestConfigLevel` and the other instances keep it, or `b` is
not H.264 and never reads it. -/
theorem observe_run_agree (b : ι) :
    ∀ (p q : Process ι) (trace : List (ι × ConfigStep)),
      p.interfaces b = q.interfaces b →
      (p.lowestConfigLevel = q.lowestConfigLevel ∧ OthersKeepMemory b p trace ∨
        (p.interfaces b).codec ≠ .H264) →
      observe b (p.run trace).2 = observe b (q.run (trace.filter fun s => s.1 = b)).2
  | _, _, [], _, _ => rfl
  | p, q, (i, step) :: rest, same, agree => by
    by_cases mine : i = b
    · subst mine
      have stepped : (configure (p.interfaces i) p.lowestConfigLevel step).1 =
          (configure (q.interfaces i) q.lowestConfigLevel step).1 ∧
          configureResult (p.interfaces i) p.lowestConfigLevel step =
            configureResult (q.interfaces i) q.lowestConfigLevel step := by
        rcases agree with ⟨shared, -⟩ | other
        · rw [same, shared]
          exact ⟨rfl, rfl⟩
        · rw [← same]
          rw [configure_of_ne_h264 _ _ _ other q.lowestConfigLevel]
          exact ⟨rfl, configureResult_of_ne_h264 _ _ _ other _⟩
      have interface : (p.step i step).interfaces i = (q.step i step).interfaces i := by
        simp only [Process.step_interfaces_self, stepped.1]
      have ih := observe_run_agree i (p.step i step) (q.step i step) rest interface (by
        rcases agree with ⟨shared, keep⟩ | other
        · exact .inl ⟨by simp [same, shared], keep.2⟩
        · exact .inr (by rwa [Process.step_codec]))
      rw [List.filter_cons_of_pos (by simp), Process.run_log_cons, Process.run_log_cons,
        observe_cons_self, observe_cons_self, stepped.2, interface, ih]
    · have untouched := Process.step_interfaces_of_ne p (Ne.symm mine) step
      have ih := observe_run_agree b (p.step i step) q rest (by rw [untouched, same]) (by
        rcases agree with ⟨shared, keep⟩ | other
        · exact .inl ⟨(keep.1 mine).trans shared, keep.2⟩
        · exact .inr (by rwa [untouched]))
      rw [List.filter_cons_of_neg (by simpa using mine), Process.run_log_cons,
        observe_cons_of_ne mine, ih]

/-! ## Two instances on one device -/

/-- A device that offers Baseline up to 1920x1080. -/
def baselineDevice : List SupportedEncodeProfile :=
  [⟨PROFILE_AVC_BASELINE, 1920, 1080, by decide, by decide⟩]

/-- The H.264 interface `Initialize` builds on `baselineDevice`. -/
def baselineInterface : EncodeInterface :=
  { codec := .H264, profiles := [PROFILE_AVC_BASELINE], levels := avcLevels, maxWidth := 1920,
    maxHeight := 1080, videoSize := ⟨320, 240⟩, frameRate := kDefaultFrameRate,
    bitrate := kDefaultBitrate, profileLevel := ⟨PROFILE_AVC_BASELINE, LEVEL_AVC_4_1⟩,
    intraRefresh := ⟨.INTRA_REFRESH_DISABLED, 0⟩, keyFramePeriodUs := 1000000 }

theorem initializeInterface_baselineDevice :
    initializeInterface true kH264Encoder baselineDevice = .ok baselineInterface := rfl

/-- On `baselineInterface`, a profile-level request runs the setter at the defaults. -/
theorem h264Run_baselineInterface (requested : ProfileLevel) (lowest : Nat) :
    h264Run ((ConfigStep.profileLevel requested).propose baselineInterface) lowest =
      h264ProfileLevelSetter [PROFILE_AVC_BASELINE] avcLevels requested ⟨320, 240⟩ (30 : ℕ) 64000
        lowest := rfl

/-- At the defaults, 300 macroblocks at 30 fps: level 1 is too small and 1.3 is the least
level that fits, so a request for level 1 is accepted at 1.3 and records level 1. -/
theorem configure_baseline_level1 :
    configure baselineInterface LEVEL_UNUSED (.profileLevel ⟨PROFILE_AVC_BASELINE, LEVEL_AVC_1⟩) =
      ({ baselineInterface with profileLevel := ⟨PROFILE_AVC_BASELINE, LEVEL_AVC_1_3⟩ },
        LEVEL_AVC_1) ∧
    configureResult baselineInterface LEVEL_UNUSED
      (.profileLevel ⟨PROFILE_AVC_BASELINE, LEVEL_AVC_1⟩) = .ok := by
  have run : h264Run ((ConfigStep.profileLevel ⟨PROFILE_AVC_BASELINE, LEVEL_AVC_1⟩).propose
      baselineInterface) LEVEL_UNUSED = ⟨.ok, ⟨PROFILE_AVC_BASELINE, LEVEL_AVC_1_3⟩, LEVEL_AVC_1⟩ := by
    simp (disch := decide) only [h264Run_baselineInterface, h264ProfileLevelSetter,
      meetsLimit_natCast]
    decide
  rw [configure_of_h264 _ _ _ rfl, configureResult_of_h264 _ _ _ rfl, run]
  exact ⟨rfl, rfl⟩

/-- With level 1 recorded, a request for level 4.1 is lowered to level 1 and moves to 1.3. -/
theorem configure_recorded_level4_1 :
    configure baselineInterface LEVEL_AVC_1 (.profileLevel ⟨PROFILE_AVC_BASELINE, LEVEL_AVC_4_1⟩) =
      ({ baselineInterface with profileLevel := ⟨PROFILE_AVC_BASELINE, LEVEL_AVC_1_3⟩ },
        LEVEL_AVC_1) ∧
    configureResult baselineInterface LEVEL_AVC_1
      (.profileLevel ⟨PROFILE_AVC_BASELINE, LEVEL_AVC_4_1⟩) = .ok := by
  have run : h264Run ((ConfigStep.profileLevel ⟨PROFILE_AVC_BASELINE, LEVEL_AVC_4_1⟩).propose
      baselineInterface) LEVEL_AVC_1 = ⟨.ok, ⟨PROFILE_AVC_BASELINE, LEVEL_AVC_1_3⟩, LEVEL_AVC_1⟩ := by
    simp (disch := decide) only [h264Run_baselineInterface, h264ProfileLevelSetter,
      meetsLimit_natCast]
    decide
  rw [configure_of_h264 _ _ _ rfl, configureResult_of_h264 _ _ _ rfl, run]
  exact ⟨rfl, rfl⟩

/-- With nothing recorded, level 4.1 fits the defaults and is kept. -/
theorem configure_fresh_level4_1 :
    configure baselineInterface LEVEL_UNUSED (.profileLevel ⟨PROFILE_AVC_BASELINE, LEVEL_AVC_4_1⟩) =
      (baselineInterface, LEVEL_UNUSED) ∧
    configureResult baselineInterface LEVEL_UNUSED
      (.profileLevel ⟨PROFILE_AVC_BASELINE, LEVEL_AVC_4_1⟩) = .ok := by
  have run : h264Run ((ConfigStep.profileLevel ⟨PROFILE_AVC_BASELINE, LEVEL_AVC_4_1⟩).propose
      baselineInterface) LEVEL_UNUSED = ⟨.ok, ⟨PROFILE_AVC_BASELINE, LEVEL_AVC_4_1⟩, LEVEL_UNUSED⟩ := by
    simp (disch := decide) only [h264Run_baselineInterface, h264ProfileLevelSetter,
      meetsLimit_natCast]
    decide
  rw [configure_of_h264 _ _ _ rfl, configureResult_of_h264 _ _ _ rfl, run]
  exact ⟨rfl, rfl⟩

/-- Two encoder instances of one process. -/
inductive Encoder where
  | A | B
  deriving DecidableEq

/-- A fresh process: both interfaces as `Initialize` builds them on `baselineDevice`. -/
def freshPair : Process Encoder := ⟨fun _ => baselineInterface, LEVEL_UNUSED⟩

/-- `A` asks for level 1, then `B` for level 4.1, both at the default size and rates. -/
def sharedTrace : List (Encoder × ConfigStep) :=
  [(.A, .profileLevel ⟨PROFILE_AVC_BASELINE, LEVEL_AVC_1⟩),
    (.B, .profileLevel ⟨PROFILE_AVC_BASELINE, LEVEL_AVC_4_1⟩)]

/-- `B`'s request for level 4.1, which fits, is accepted at level 1.3 after `A`'s request, and
at 4.1 without it. -/
theorem shared_memory_counterexample :
    initializeInterface true kH264Encoder baselineDevice = .ok baselineInterface ∧
    observe Encoder.B (freshPair.run sharedTrace).2 =
      [(.ok, ⟨PROFILE_AVC_BASELINE, LEVEL_AVC_1_3⟩)] ∧
    observe Encoder.B (freshPair.run (sharedTrace.filter fun s => s.1 = .B)).2 =
      [(.ok, ⟨PROFILE_AVC_BASELINE, LEVEL_AVC_4_1⟩)] := by
  have alone : sharedTrace.filter (fun s => s.1 = .B) =
      [(.B, .profileLevel ⟨PROFILE_AVC_BASELINE, LEVEL_AVC_4_1⟩)] := rfl
  refine ⟨rfl, ?_, ?_⟩
  · simp only [sharedTrace, Process.run_log_cons, Process.run_log_nil, Process.step_eq, freshPair]
    rw [observe_cons_of_ne (by decide), observe_cons_self, observe_nil,
      configure_baseline_level1.1]
    dsimp only
    rw [Function.update_noteq (by decide), Function.update_same, configure_recorded_level4_1.1,
      configure_recorded_level4_1.2]
  · simp only [alone, Process.run_log_cons, Process.run_log_nil, Process.step_eq, freshPair]
    rw [observe_cons_self, observe_nil, configure_fresh_level4_1.1, configure_fresh_level4_1.2]
    rfl

/-! ## Only H.264 instances share -/

/-- Steps of VP8 and VP9 instances never change the shared value. -/
theorem othersKeepMemory_of_ne_h264 (b : ι) :
    ∀ (p : Process ι) (trace : List (ι × ConfigStep)),
      (∀ s ∈ trace, s.1 ≠ b → (p.interfaces s.1).codec ≠ .H264) → OthersKeepMemory b p trace
  | _, [], _ => trivial
  | p, (i, step) :: rest, others =>
    ⟨fun other => by
        rw [Process.step_lowestConfigLevel, configure_of_ne_h264 (p.interfaces i)
          p.lowestConfigLevel step (others _ (List.mem_cons_self _ _) other) 0],
      othersKeepMemory_of_ne_h264 b _ rest fun s mem => by
        simpa using others s (List.mem_cons_of_mem _ mem)⟩

/-- The static couples H.264 instances only. An instance that is not H.264, or one beside which
no other H.264 instance takes a step, sees in every interleaving what it sees running alone. -/
theorem observe_run_isolated (b : ι) (p : Process ι) (trace : List (ι × ConfigStep))
    (isolated : (p.interfaces b).codec ≠ .H264 ∨
      ∀ s ∈ trace, s.1 ≠ b → (p.interfaces s.1).codec ≠ .H264) :
    observe b (p.run trace).2 = observe b (p.run (trace.filter fun s => s.1 = b)).2 :=
  observe_run_agree b p p trace rfl
    (isolated.symm.imp (fun others => ⟨rfl, othersKeepMemory_of_ne_h264 b p trace others⟩) id)

/-- A device that offers VP9 profile 0 up to 1920x1080. -/
def vp9Device : List SupportedEncodeProfile :=
  [⟨PROFILE_VP9_0, 1920, 1080, by decide, by decide⟩]

/-- The VP9 interface `Initialize` builds on `vp9Device`. -/
def vp9Interface : EncodeInterface :=
  { codec := .VP9, profiles := [PROFILE_VP9_0], levels := vp9Levels, maxWidth := 1920,
    maxHeight := 1080, videoSize := ⟨320, 240⟩, frameRate := kDefaultFrameRate,
    bitrate := kDefaultBitrate, profileLevel := ⟨PROFILE_VP9_0, LEVEL_VP9_1⟩,
    intraRefresh := ⟨.INTRA_REFRESH_DISABLED, 0⟩, keyFramePeriodUs := 1000000 }

/-- An H.264 instance `A` and a VP9 instance `B` of one process. -/
def mixedPair : Process Encoder :=
  ⟨fun | .A => baselineInterface | .B => vp9Interface, LEVEL_UNUSED⟩

/-- `A` asks for level 1, which records it, then `B` for VP9 level 2. -/
def mixedTrace : List (Encoder × ConfigStep) :=
  [(.A, .profileLevel ⟨PROFILE_AVC_BASELINE, LEVEL_AVC_1⟩),
    (.B, .profileLevel ⟨PROFILE_VP9_0, LEVEL_VP9_2⟩)]

/-- The VP9 instance of `mixedPair`, as `Initialize` builds it, sees the same beside `A`. -/
theorem observe_run_isolated_mixedPair :
    initializeInterface true kH264Encoder baselineDevice = .ok (mixedPair.interfaces .A) ∧
    initializeInterface true kVP9Encoder vp9Device = .ok (mixedPair.interfaces .B) ∧
    ((mixedPair.interfaces .B).codec ≠ .H264 ∨
      ∀ s ∈ mixedTrace, s.1 ≠ .B → (mixedPair.interfaces s.1).codec ≠ .H264) ∧
    observe Encoder.B (mixedPair.run mixedTrace).2 =
      observe Encoder.B (mixedPair.run (mixedTrace.filter fun s => s.1 = .B)).2 :=
  ⟨rfl, rfl, .inl (by decide), observe_run_isolated .B mixedPair mixedTrace (.inl (by decide))⟩

/-- A step of a VP8 or VP9 instance commutes with a step of any other instance: it neither reads
nor writes `lowestConfigLevel`, and the other step leaves its interface alone. -/
theorem Process.step_comm {p : Process ι} {i j : ι} (distinct : i ≠ j)
    (other : (p.interfaces i).codec ≠ .H264) (a b : ConfigStep) :
    (p.step i a).step j b = (p.step j b).step i a := by
  have kept : (configure (p.interfaces i) p.lowestConfigLevel a).2 = p.lowestConfigLevel := by
    rw [configure_of_ne_h264 _ _ _ other p.lowestConfigLevel]
  have unread := configure_of_ne_h264 (p.interfaces i)
    (configure (p.interfaces j) p.lowestConfigLevel b).2 a other p.lowestConfigLevel
  simp only [Process.step_eq, Function.update_noteq distinct, Function.update_noteq distinct.symm,
    kept, unread, Function.update_comm distinct]

/-- A step of a VP8 or VP9 instance can be postponed past any steps of the other instances: the
process ends in the same state. -/
theorem Process.run_postpone {i : ι} (a : ConfigStep) :
    ∀ (p : Process ι) (trace : List (ι × ConfigStep)), (p.interfaces i).codec ≠ .H264 →
      (∀ s ∈ trace, s.1 ≠ i) → (p.run ((i, a) :: trace)).1 = (p.run (trace ++ [(i, a)])).1
  | _, [], _, _ => rfl
  | p, (j, b) :: rest, other, others => by
    have distinct : i ≠ j := fun same => others _ (List.mem_cons_self _ _) same.symm
    have later := Process.run_postpone a (p.step j b) rest (by simpa using other)
      fun s mem => others s (List.mem_cons_of_mem _ mem)
    rw [Process.run_final_cons, Process.run_final_cons, Process.step_comm distinct other,
      ← Process.run_final_cons, later, List.cons_append, Process.run_final_cons]

/-- `B`'s VP9 request, on the interface `Initialize` builds, moved after `A`'s request for
level 1. -/
theorem Process.run_postpone_mixedPair :
    initializeInterface true kVP9Encoder vp9Device = .ok (mixedPair.interfaces .B) ∧
    (mixedPair.interfaces .B).codec ≠ .H264 ∧
    (∀ s ∈ [(Encoder.A, ConfigStep.profileLevel ⟨PROFILE_AVC_BASELINE, LEVEL_AVC_1⟩)], s.1 ≠ .B) ∧
    (mixedPair.run ((.B, .profileLevel ⟨PROFILE_VP9_0, LEVEL_VP9_2⟩) ::
        [(.A, .profileLevel ⟨PROFILE_AVC_BASELINE, LEVEL_AVC_1⟩)])).1 =
      (mixedPair.run ([(.A, .profileLevel ⟨PROFILE_AVC_BASELINE, LEVEL_AVC_1⟩)] ++
        [(.B, .profileLevel ⟨PROFILE_VP9_0, LEVEL_VP9_2⟩)])).1 :=
  have other : (mixedPair.interfaces .B).codec ≠ .H264 := by decide
  have others : ∀ s ∈ [(Encoder.A, ConfigStep.profileLevel ⟨PROFILE_AVC_BASELINE, LEVEL_AVC_1⟩)],
      s.1 ≠ .B := by decide
  ⟨rfl, other, others, Process.run_postpone _ mixedPair _ other others⟩

end V4L2Codec2.Guarantees
