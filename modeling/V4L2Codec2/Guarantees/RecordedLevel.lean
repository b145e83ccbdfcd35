import V4L2Codec2.Guarantees.Interface
import V4L2Codec2.Guarantees.SetterLaws
import V4L2Codec2.Guarantees.RequestedLevel

/-!
# The shared `lowestConfigLevel` only falls

An H.264 run writes the function-static `lowestConfigLevel` only when it accepts and moves the
level away from where it started, and it then records that start
(`h264ProfileLevelSetter_lowestConfigLevel`). Once a level is recorded the start is never above
it (`startLevel_le_recorded`). So once any instance of a process has recorded a level, no later
step of any instance raises the record or clears it (`Process.run_lowestConfigLevel_le`): every
later request above it is lowered to it, for the life of the process.

This needs that no step asks for `LEVEL_UNUSED` and no H.264 interface holds or declares it;
every interface `Initialize` builds satisfies the second, and every step keeps it
(`Reachable.noUnusedLevel`).

So within a process a request is honoured as on a lone interface, as long as no other instance
records a level below it (`Process.run_level_honoured`): the others' steps can only lower
the record, and a record at the requested level stays there.
-/

namespace V4L2Codec2.Guarantees
open Source Spec System C2Config

/-- An H.264 interface neither holds nor declares `LEVEL_UNUSED`. -/
def NoUnusedLevel (iface : EncodeInterface) : Prop :=
  iface.codec = .H264 → iface.profileLevel.level ≠ LEVEL_UNUSED ∧ LEVEL_UNUSED ∉ iface.levels

/-- A step keeps `LEVEL_UNUSED` out: the levels are kept, and an accepted run installs one of
them. -/
theorem configure_noUnusedLevel {iface : EncodeInterface} (lowest : Nat) (step : ConfigStep)
    (held : NoUnusedLevel iface) : NoUnusedLevel (configure iface lowest step).1 := by
  obtain ⟨_, _, _, _, frame⟩ := configure_frame iface lowest step
  intro h264
  have codec : iface.codec = .H264 := by rwa [frame] at h264
  obtain ⟨level, undeclared⟩ := held codec
  refine ⟨?_, by rwa [frame]⟩
  rw [configure_of_h264 _ _ _ codec]
  dsimp only
  split_ifs with accepted
  · have declared : (h264Run (step.propose iface) lowest).info.level ∈ (step.propose iface).levels :=
      (h264ProfileLevelSetter_declared accepted).2.2
    rw [ConfigStep.propose_levels] at declared
    exact fun unused => undeclared (unused ▸ declared)
  · exact level

theorem Reachable.noUnusedLevel {state : EncodeInterface × Nat} (reached : Reachable state) :
    NoUnusedLevel state.1 := by
  induction reached with
  | initial built =>
    obtain ⟨-, codec, minProfile, -, -, rfl⟩ := initializeInterface_eq_ok.mp built
    intro h264
    obtain rfl : codec = .H264 := h264
    exact ⟨show LEVEL_AVC_4_1 ≠ LEVEL_UNUSED by decide, show LEVEL_UNUSED ∉ avcLevels by decide⟩
  | step _ step held => exact configure_noUnusedLevel _ step held
  | record _ _ held => exact held

/-- One step never raises a recorded `lowestConfigLevel` and never clears it. -/
theorem configure_lowestConfigLevel_le {iface : EncodeInterface} {lowest : Nat} (step : ConfigStep)
    (held : NoUnusedLevel iface) (asked : step.requestedLevel ≠ some LEVEL_UNUSED)
    (recorded : lowest ≠ LEVEL_UNUSED) :
    (configure iface lowest step).2 ≤ lowest ∧ (configure iface lowest step).2 ≠ LEVEL_UNUSED := by
  cases codec : iface.codec with
  | H264 =>
    rw [configure_of_h264 _ _ _ codec]
    let proposed := step.propose iface
    have start : proposed.profileLevel.level ≠ LEVEL_UNUSED := by
      cases step with
      | profileLevel requested => simpa [ConfigStep.requestedLevel] using asked
      | dependencies => exact (held codec).1
    rcases h264ProfileLevelSetter_lowestConfigLevel proposed.profiles proposed.levels
        proposed.profileLevel proposed.videoSize proposed.frameRate proposed.bitrate lowest
      with kept | ⟨-, written, -⟩
    · exact ⟨kept.le, fun unused => recorded (kept.symm.trans unused)⟩
    · exact ⟨written.trans_le (startLevel_le_recorded recorded _),
        fun unused => startLevel_ne_unused recorded start (written.symm.trans unused)⟩
  | VP9 | VP8 =>
    simp only [configure, codec]
    exact ⟨le_rfl, recorded⟩

section
variable {ι : Type} [DecidableEq ι]

/-- A step of any instance keeps every interface of the process clear of `LEVEL_UNUSED`. -/
theorem Process.step_noUnusedLevel {p : Process ι} (held : ∀ j, NoUnusedLevel (p.interfaces j))
    (i : ι) (step : ConfigStep) (j : ι) : NoUnusedLevel ((p.step i step).interfaces j) := by
  by_cases same : j = i
  · subst same
    rw [Process.step_interfaces_self]
    exact configure_noUnusedLevel _ step (held j)
  · rw [Process.step_interfaces_of_ne _ same]
    exact held j

/-- Once recorded, the process-wide `lowestConfigLevel` never rises and is never cleared, over
any interleaving of steps of any instances that asks for no `LEVEL_UNUSED`. -/
theorem Process.run_lowestConfigLevel_le (p : Process ι) (trace : List (ι × ConfigStep))
    (held : ∀ i, NoUnusedLevel (p.interfaces i))
    (asked : ∀ s ∈ trace, s.2.requestedLevel ≠ some LEVEL_UNUSED)
    (recorded : p.lowestConfigLevel ≠ LEVEL_UNUSED) :
    (p.run trace).1.lowestConfigLevel ≤ p.lowestConfigLevel ∧
      (p.run trace).1.lowestConfigLevel ≠ LEVEL_UNUSED := by
  induction trace generalizing p with
  | nil => exact ⟨le_rfl, recorded⟩
  | cons s rest ih =>
    obtain ⟨i, step⟩ := s
    obtain ⟨lower, stays⟩ :=
      configure_lowestConfigLevel_le step (held i) (asked _ (List.mem_cons_self _ _)) recorded
    obtain ⟨final, set⟩ := ih (p.step i step) (Process.step_noUnusedLevel held i step)
      (fun s mem => asked s (List.mem_cons_of_mem _ mem)) stays
    rw [Process.run_final_cons]
    exact ⟨final.trans lower, set⟩

end

/-! ## A request among the steps of other instances -/

section
variable {ι : Type} [DecidableEq ι]

/-- No step of an instance other than `b` leaves a level below `level` recorded. -/
def OthersRecordNotBelow (b : ι) (level : Nat) : Process ι → List (ι × ConfigStep) → Prop
  | _, [] => True
  | p, (i, step) :: rest =>
    (i ≠ b → ¬((p.step i step).lowestConfigLevel ≠ LEVEL_UNUSED ∧
      (p.step i step).lowestConfigLevel < level)) ∧
    OthersRecordNotBelow b level (p.step i step) rest

/-- `b`'s invariant survives any interleaving of its own size, frame-rate and bitrate updates
with steps of the other instances that record no level below the requested one. -/
theorem Process.run_honours {b : ι} {requested profile : Nat} :
    ∀ (p : Process ι) (trace : List (ι × ConfigStep)),
      Honours requested profile (p.interfaces b, p.lowestConfigLevel) →
      (∀ i, NoUnusedLevel (p.interfaces i)) →
      (∀ s ∈ trace, s.2.requestedLevel ≠ some LEVEL_UNUSED) →
      (∀ s ∈ trace, s.1 = b → s.2.requestedLevel = none) →
      OthersRecordNotBelow b requested p trace →
      Honours requested profile ((p.run trace).1.interfaces b, (p.run trace).1.lowestConfigLevel)
  | _, [], inv, _, _, _, _ => inv
  | p, (i, step) :: rest, inv, held, asked, updates, others => by
    have next : Honours requested profile
        ((p.step i step).interfaces b, (p.step i step).lowestConfigLevel) := by
      by_cases mine : i = b
      · subst mine
        cases step with
        | profileLevel =>
          exact absurd (updates _ (List.mem_cons_self _ _) rfl) (by simp [ConfigStep.requestedLevel])
        | dependencies videoSize frameRate bitrate =>
          simpa only [Process.step_interfaces_self, Process.step_lowestConfigLevel] using
            honours_dependencies inv videoSize frameRate bitrate
      · rw [Process.step_interfaces_of_ne _ (Ne.symm mine)]
        exact inv.rerecord (others.1 mine) fun recorded =>
          configure_lowestConfigLevel_le step (held i) (asked _ (List.mem_cons_self _ _)) recorded
    rw [Process.run_final_cons]
    exact Process.run_honours (p.step i step) rest next (Process.step_noUnusedLevel held i step)
      (fun s mem => asked s (List.mem_cons_of_mem _ mem))
      (fun s mem => updates s (List.mem_cons_of_mem _ mem)) others.2

/-- In a process, an accepted request of instance `b` for a declared level, with no lower level
recorded, followed by any interleaving of `b`'s size, frame-rate and bitrate updates with steps
of the other instances, ends at the requested level whenever that level fits `b`'s final
values, as long as no other instance records a level below it. -/
theorem Process.run_level_honoured (p : Process ι) (b : ι) (requested : ProfileLevel)
    (rest : List (ι × ConfigStep)) (h264 : (p.interfaces b).codec = .H264)
    (drawn : (p.interfaces b).levels ⊆ tableLevels)
    (supported : requested.level ∈ (p.interfaces b).levels)
    (unrecorded : ¬(p.lowestConfigLevel ≠ LEVEL_UNUSED ∧ p.lowestConfigLevel < requested.level))
    (accepted : (h264Run ((ConfigStep.profileLevel requested).propose (p.interfaces b))
      p.lowestConfigLevel).result = .ok)
    (held : ∀ i, NoUnusedLevel (p.interfaces i))
    (asked : ∀ s ∈ rest, s.2.requestedLevel ≠ some LEVEL_UNUSED)
    (updates : ∀ s ∈ rest, s.1 = b → s.2.requestedLevel = none)
    (others : OthersRecordNotBelow b requested.level (p.step b (.profileLevel requested)) rest) :
    let final := (p.run ((b, .profileLevel requested) :: rest)).1.interfaces b
    levelFeasible (meetsLimit final.profileLevel.profile final.videoSize final.frameRate
        final.bitrate) requested.level →
      final.profileLevel.level = requested.level := by
  intro final feasible
  obtain ⟨profile, inv⟩ :=
    @honours_request (p.interfaces b, p.lowestConfigLevel) h264 drawn requested supported unrecorded
      accepted
  have start : Honours requested.level profile ((p.step b (.profileLevel requested)).interfaces b,
      (p.step b (.profileLevel requested)).lowestConfigLevel) := by
    simpa only [Process.step_interfaces_self, Process.step_lowestConfigLevel] using inv
  exact (Process.run_honours _ rest start (Process.step_noUnusedLevel held b _) asked updates
    others).level_eq feasible

end

/-- After `A`'s request for level 1, `B` asks for level 4.1, which the record lowers to level 1,
and `A` moves to QCIF at 15 fps. -/
def interleavedTrace : List (Encoder × ConfigStep) :=
  [(.B, .profileLevel ⟨PROFILE_AVC_BASELINE, LEVEL_AVC_4_1⟩),
    (.A, .dependencies ⟨176, 144⟩ (15 : ℕ) 64000)]

/-- `A`'s request for level 1 is accepted at 1.3 with level 1 recorded; `B`'s request leaves the
record at level 1; after `A`'s update level 1 fits, and `A` holds it. -/
theorem Process.run_level_honoured_interleaved :
    let final :=
      (freshPair.run ((.A, .profileLevel ⟨PROFILE_AVC_BASELINE, LEVEL_AVC_1⟩) :: interleavedTrace)).1
        |>.interfaces .A
    (freshPair.interfaces .A).codec = .H264 ∧ (freshPair.interfaces .A).levels ⊆ tableLevels ∧
    LEVEL_AVC_1 ∈ (freshPair.interfaces .A).levels ∧
    ¬(freshPair.lowestConfigLevel ≠ LEVEL_UNUSED ∧ freshPair.lowestConfigLevel < LEVEL_AVC_1) ∧
    (h264Run ((ConfigStep.profileLevel ⟨PROFILE_AVC_BASELINE, LEVEL_AVC_1⟩).propose
      (freshPair.interfaces .A)) freshPair.lowestConfigLevel).result = .ok ∧
    (∀ i, NoUnusedLevel (freshPair.interfaces i)) ∧
    (∀ s ∈ interleavedTrace, s.2.requestedLevel ≠ some LEVEL_UNUSED) ∧
    (∀ s ∈ interleavedTrace, s.1 = .A → s.2.requestedLevel = none) ∧
    OthersRecordNotBelow Encoder.A LEVEL_AVC_1
      (freshPair.step .A (.profileLevel ⟨PROFILE_AVC_BASELINE, LEVEL_AVC_1⟩)) interleavedTrace ∧
    levelFeasible (meetsLimit final.profileLevel.profile final.videoSize final.frameRate
      final.bitrate) LEVEL_AVC_1 ∧
    final.profileLevel.level = LEVEL_AVC_1 := by
  intro final
  have first : freshPair.step .A (.profileLevel ⟨PROFILE_AVC_BASELINE, LEVEL_AVC_1⟩) =
      ⟨Function.update (fun _ => baselineInterface) .A
        { baselineInterface with profileLevel := ⟨PROFILE_AVC_BASELINE, LEVEL_AVC_1_3⟩ },
        LEVEL_AVC_1⟩ := by
    rw [Process.step_eq]
    simp only [freshPair]
    rw [configure_baseline_level1.1]
  have second : (freshPair.step .A (.profileLevel ⟨PROFILE_AVC_BASELINE, LEVEL_AVC_1⟩)).step .B
      (.profileLevel ⟨PROFILE_AVC_BASELINE, LEVEL_AVC_4_1⟩) =
      ⟨Function.update (Function.update (fun _ => baselineInterface) .A
          { baselineInterface with profileLevel := ⟨PROFILE_AVC_BASELINE, LEVEL_AVC_1_3⟩ }) .B
        { baselineInterface with profileLevel := ⟨PROFILE_AVC_BASELINE, LEVEL_AVC_1_3⟩ },
        LEVEL_AVC_1⟩ := by
    rw [first, Process.step_eq]
    simp only [Function.update_noteq (show Encoder.B ≠ .A by decide)]
    rw [configure_recorded_level4_1.1]
  have reached : final = { baselineInterface with
      videoSize := ⟨176, 144⟩, frameRate := ((15 : ℕ) : ℚ),
      profileLevel := ⟨PROFILE_AVC_BASELINE, LEVEL_AVC_1⟩ } := by
    simp only [final, interleavedTrace, Process.run_final_cons, Process.run_final_nil, second,
      Process.step_interfaces_self, Function.update_noteq (show Encoder.A ≠ .B by decide),
      Function.update_same, configure_recorded_qcif]
  have h264 : (freshPair.interfaces .A).codec = .H264 := rfl
  have supported : LEVEL_AVC_1 ∈ (freshPair.interfaces .A).levels := by decide
  have unrecorded : ¬(freshPair.lowestConfigLevel ≠ LEVEL_UNUSED ∧
      freshPair.lowestConfigLevel < LEVEL_AVC_1) := by decide
  have accepted : (h264Run ((ConfigStep.profileLevel ⟨PROFILE_AVC_BASELINE, LEVEL_AVC_1⟩).propose
      (freshPair.interfaces .A)) freshPair.lowestConfigLevel).result = .ok :=
    h264Run_accepted _ _ _ rfl configure_baseline_level1.2
  have held : ∀ i, NoUnusedLevel (freshPair.interfaces i) :=
    fun _ _ => ⟨show LEVEL_AVC_4_1 ≠ LEVEL_UNUSED by decide, show LEVEL_UNUSED ∉ avcLevels by decide⟩
  have asked : ∀ s ∈ interleavedTrace, s.2.requestedLevel ≠ some LEVEL_UNUSED := by decide
  have updates : ∀ s ∈ interleavedTrace, s.1 = .A → s.2.requestedLevel = none := by decide
  have others : OthersRecordNotBelow Encoder.A LEVEL_AVC_1
      (freshPair.step .A (.profileLevel ⟨PROFILE_AVC_BASELINE, LEVEL_AVC_1⟩)) interleavedTrace := by
    refine ⟨fun _ => ?_, fun same => absurd rfl same, trivial⟩
    rw [second]
    decide
  have feasible : levelFeasible (meetsLimit final.profileLevel.profile final.videoSize
      final.frameRate final.bitrate) LEVEL_AVC_1 := by
    rw [reached]
    simp (disch := decide) only [baselineInterface, meetsLimit_natCast]
    decide
  exact ⟨h264, avcLevels_subset_tableLevels, supported, unrecorded, accepted, held, asked, updates,
    others, feasible, Process.run_level_honoured freshPair .A _ interleavedTrace h264
      avcLevels_subset_tableLevels supported unrecorded accepted held asked updates others feasible⟩

/-- Two fresh Baseline instances after `A` recorded level 1: whatever they request next, the
record stays at or below level 1. -/
theorem Process.run_lowestConfigLevel_le_sharedTrace :
    (∀ i, NoUnusedLevel ((⟨fun _ => baselineInterface, LEVEL_AVC_1⟩ : Process Encoder).interfaces i)) ∧
    (∀ s ∈ sharedTrace, s.2.requestedLevel ≠ some LEVEL_UNUSED) ∧
    LEVEL_AVC_1 ≠ LEVEL_UNUSED ∧
    (((⟨fun _ => baselineInterface, LEVEL_AVC_1⟩ : Process Encoder).run sharedTrace).1.lowestConfigLevel
        ≤ LEVEL_AVC_1 ∧
      ((⟨fun _ => baselineInterface, LEVEL_AVC_1⟩ : Process Encoder).run sharedTrace).1.lowestConfigLevel
        ≠ LEVEL_UNUSED) :=
  have held : ∀ i, NoUnusedLevel ((⟨fun _ => baselineInterface, LEVEL_AVC_1⟩ : Process Encoder).interfaces i) :=
    fun _ _ => ⟨show LEVEL_AVC_4_1 ≠ LEVEL_UNUSED by decide, show LEVEL_UNUSED ∉ avcLevels by decide⟩
  have asked : ∀ s ∈ sharedTrace, s.2.requestedLevel ≠ some LEVEL_UNUSED := by decide
  ⟨held, asked, by decide, Process.run_lowestConfigLevel_le _ sharedTrace held asked (by decide)⟩

end V4L2Codec2.Guarantees
