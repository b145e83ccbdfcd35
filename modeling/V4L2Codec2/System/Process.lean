import V4L2Codec2.Source.Initialize

/-!
# Configuring interfaces: one process, one `lowestConfigLevel`

The Codec2 framework re-runs a parameter's setter when the parameter or one of its
dependencies is updated (`Initialize` registers the profile-level setter after the size,
frame rate and bitrate it reads). A configuration step here proposes new values for the
profile and level, or for the three dependencies, and re-runs the codec's profile-level
setter on the interface's current values. A field whose setter refuses its proposed value
keeps its last valid value (spec §7), the profile and level as much as the size, frame rate
and bitrate, which their own setters check first.

`lowestConfigLevel` is a function-static of `H264ProfileLevelSetter`: one value per process,
shared by every interface and never reset. A process is a family of interfaces and that one
value; `Process.run` replays an interleaving of steps and logs, for each step, what the
setters reported and the instance's profile and level after it.
-/

namespace V4L2Codec2.System
open Source C2Config

/-- A configuration request on one interface. -/
inductive ConfigStep where
  | profileLevel (requested : ProfileLevel)
  | dependencies (videoSize : PictureSize) (frameRate : ℚ) (bitrate : UInt32)

/-- The level a step asks for, when it is a profile-level request. -/
def ConfigStep.requestedLevel : ConfigStep → Option Nat
  | .profileLevel requested => some requested.level
  | .dependencies .. => none

/-- Modelled from the spec: the proposed values installed over the current ones. A dependency
update installs each of the size, frame rate and bitrate that its setter accepts, and a field
whose setter refuses keeps its last valid value. -/
def ConfigStep.propose (iface : EncodeInterface) : ConfigStep → EncodeInterface
  | .profileLevel requested => { iface with profileLevel := requested }
  | .dependencies videoSize frameRate bitrate =>
    { iface with
      videoSize := if sizeSetter iface.maxWidth iface.maxHeight videoSize = .ok then videoSize
        else iface.videoSize
      frameRate := if frameRateSetter frameRate = .ok then frameRate else iface.frameRate
      bitrate := if bitrateSetter bitrate = .ok then bitrate else iface.bitrate }

/-- What the setters of a dependency update report, in the order `Initialize` declares the
fields. -/
def ConfigStep.fieldResult (iface : EncodeInterface) : ConfigStep → C2R
  | .profileLevel _ => .ok
  | .dependencies videoSize frameRate bitrate =>
    ((sizeSetter iface.maxWidth iface.maxHeight videoSize).plus (frameRateSetter frameRate)).plus
      (bitrateSetter bitrate)

@[simp] theorem ConfigStep.propose_levels (iface : EncodeInterface) (step : ConfigStep) :
    (step.propose iface).levels = iface.levels := by
  cases step <;> rfl

/-- The H.264 setter on an interface's current values. -/
def h264Run (iface : EncodeInterface) (lowest : Nat) : SetterRun :=
  h264ProfileLevelSetter iface.profiles iface.levels iface.profileLevel iface.videoSize
    iface.frameRate iface.bitrate lowest

/-- One step: the interface after it and the process-wide `lowestConfigLevel` after it.
VP8's profile and level are constant, so its step changes only the dependencies. -/
def configure (iface : EncodeInterface) (lowest : Nat) (step : ConfigStep) :
    EncodeInterface × Nat :=
  let proposed := step.propose iface
  match iface.codec with
  | .H264 =>
    let run := h264Run proposed lowest
    ({ proposed with
        profileLevel := if run.result = .ok then run.info else iface.profileLevel },
      run.lowestConfigLevel)
  | .VP9 =>
    let run := vp9ProfileLevelSetter proposed.profiles proposed.profileLevel
    ({ proposed with profileLevel := if run.1 = .ok then run.2 else iface.profileLevel }, lowest)
  | .VP8 => ({ proposed with profileLevel := iface.profileLevel }, lowest)

/-- What a step reports: the failures of the field setters it ran, then those of the codec's
profile-level setter. VP8's profile and level are a constant parameter, with no setter. -/
def configureResult (iface : EncodeInterface) (lowest : Nat) (step : ConfigStep) : C2R :=
  let proposed := step.propose iface
  (step.fieldResult iface).plus <|
    match iface.codec with
    | .H264 => (h264Run proposed lowest).result
    | .VP9 => (vp9ProfileLevelSetter proposed.profiles proposed.profileLevel).1
    | .VP8 => .ok

section
variable (iface : EncodeInterface) (lowest : Nat) (step : ConfigStep)

/-- A step changes an interface only in its size, frame rate, bitrate, and profile and level:
what `Initialize` declared stays. -/
theorem configure_frame : ∃ videoSize frameRate bitrate profileLevel,
    (configure iface lowest step).1 = { iface with videoSize, frameRate, bitrate, profileLevel } := by
  unfold configure
  cases step <;> split <;> exact ⟨_, _, _, _, rfl⟩

/-- Only the H.264 setter reads or writes `lowestConfigLevel`: a VP8 or VP9 step leaves it as
it found it, and its interface does not depend on it. -/
theorem configure_of_ne_h264 (other : iface.codec ≠ .H264) (lowest' : Nat) :
    configure iface lowest step = ((configure iface lowest' step).1, lowest) := by
  unfold configure
  cases codec : iface.codec
  · exact absurd codec other
  · rfl
  · rfl

/-- Nor does what a VP8 or VP9 step reports depend on it. -/
theorem configureResult_of_ne_h264 (other : iface.codec ≠ .H264) (lowest' : Nat) :
    configureResult iface lowest step = configureResult iface lowest' step := by
  unfold configureResult
  cases codec : iface.codec
  · exact absurd codec other
  · rfl
  · rfl

/-- On an H.264 interface a step re-runs the H.264 setter on the proposal. -/
theorem configure_of_h264 (h264 : iface.codec = .H264) :
    configure iface lowest step =
      ({ step.propose iface with
          profileLevel := if (h264Run (step.propose iface) lowest).result = .ok then
            (h264Run (step.propose iface) lowest).info else iface.profileLevel },
        (h264Run (step.propose iface) lowest).lowestConfigLevel) := by
  simp only [configure, h264]

/-- On an H.264 interface a step reports its field setters' failures, then the H.264 setter's. -/
theorem configureResult_of_h264 (h264 : iface.codec = .H264) :
    configureResult iface lowest step =
      (step.fieldResult iface).plus (h264Run (step.propose iface) lowest).result := by
  simp only [configureResult, h264]

/-- A step on an H.264 interface that reports no failure was accepted by the H.264 setter. -/
theorem h264Run_accepted (h264 : iface.codec = .H264) (ok : configureResult iface lowest step = .ok) :
    (h264Run (step.propose iface) lowest).result = .ok := by
  rw [configureResult_of_h264 _ _ _ h264, C2R.plus_eq_ok] at ok
  exact ok.2

@[simp] theorem h264Run_profileLevel (requested : ProfileLevel) :
    h264Run ((ConfigStep.profileLevel requested).propose iface) lowest =
      h264ProfileLevelSetter iface.profiles iface.levels requested iface.videoSize
        iface.frameRate iface.bitrate lowest := rfl

@[simp] theorem h264Run_dependencies (videoSize : PictureSize) (frameRate : ℚ) (bitrate : UInt32) :
    h264Run ((ConfigStep.dependencies videoSize frameRate bitrate).propose iface) lowest =
      h264ProfileLevelSetter iface.profiles iface.levels iface.profileLevel
        (if sizeSetter iface.maxWidth iface.maxHeight videoSize = .ok then videoSize
          else iface.videoSize)
        (if frameRateSetter frameRate = .ok then frameRate else iface.frameRate)
        (if bitrateSetter bitrate = .ok then bitrate else iface.bitrate) lowest := rfl

/-- A profile-level request the H.264 setter refuses leaves the interface and the shared
`lowestConfigLevel` exactly as they were. -/
theorem configure_refused {requested : ProfileLevel} (h264 : iface.codec = .H264)
    (refused : (h264Run ((ConfigStep.profileLevel requested).propose iface) lowest).result ≠ .ok) :
    configure iface lowest (.profileLevel requested) = (iface, lowest) := by
  rw [configure_of_h264 _ _ _ h264, if_neg refused, h264Run_profileLevel,
    h264ProfileLevelSetter_lowest_of_refused (by rwa [h264Run_profileLevel] at refused)]
  rfl

end

/-- Interfaces of one process, named by `ι`, and the one `lowestConfigLevel`. -/
structure Process (ι : Type) where
  interfaces : ι → EncodeInterface
  lowestConfigLevel : Nat

variable {ι : Type} [DecidableEq ι]

def Process.step (p : Process ι) (i : ι) (step : ConfigStep) : Process ι :=
  let (iface, lowest) := configure (p.interfaces i) p.lowestConfigLevel step
  ⟨Function.update p.interfaces i iface, lowest⟩

theorem Process.step_eq (p : Process ι) (i : ι) (step : ConfigStep) :
    p.step i step =
      ⟨Function.update p.interfaces i (configure (p.interfaces i) p.lowestConfigLevel step).1,
        (configure (p.interfaces i) p.lowestConfigLevel step).2⟩ := rfl

/-- Replay an interleaving; the log holds, for each step, who took it, what the setters
reported, and that instance's profile and level after it. -/
def Process.run : Process ι → List (ι × ConfigStep) →
    Process ι × List (ι × C2R × ProfileLevel)
  | p, [] => (p, [])
  | p, (i, step) :: rest =>
    let next := p.step i step
    let (final, log) := next.run rest
    (final, (i, configureResult (p.interfaces i) p.lowestConfigLevel step,
      (next.interfaces i).profileLevel) :: log)

/-- What instance `b` sees of a run: the result of each of its steps and its profile and level
after it. -/
def observe (b : ι) (log : List (ι × C2R × ProfileLevel)) : List (C2R × ProfileLevel) :=
  (log.filter fun entry => entry.1 = b).map Prod.snd

@[simp] theorem Process.run_final_cons (p : Process ι) (i : ι) (step : ConfigStep)
    (rest : List (ι × ConfigStep)) : (p.run ((i, step) :: rest)).1 = ((p.step i step).run rest).1 :=
  rfl

@[simp] theorem Process.run_final_nil (p : Process ι) : (p.run []).1 = p := rfl

@[simp] theorem Process.run_log_nil (p : Process ι) : (p.run []).2 = [] := rfl

@[simp] theorem Process.run_log_cons (p : Process ι) (i : ι) (step : ConfigStep)
    (rest : List (ι × ConfigStep)) :
    (p.run ((i, step) :: rest)).2 =
      (i, configureResult (p.interfaces i) p.lowestConfigLevel step,
        ((p.step i step).interfaces i).profileLevel) :: ((p.step i step).run rest).2 := rfl

@[simp] theorem observe_nil (b : ι) : observe b [] = [] := rfl

@[simp] theorem observe_cons_self (b : ι) (seen : C2R × ProfileLevel)
    (log : List (ι × C2R × ProfileLevel)) : observe b ((b, seen) :: log) = seen :: observe b log := by
  simp [observe]

@[simp] theorem observe_cons_of_ne {b i : ι} (other : i ≠ b) (seen : C2R × ProfileLevel)
    (log : List (ι × C2R × ProfileLevel)) : observe b ((i, seen) :: log) = observe b log := by
  simp [observe, other]

/-- A step of `i` changes no other interface. -/
@[simp] theorem Process.step_interfaces_of_ne (p : Process ι) {i j : ι} (other : j ≠ i)
    (step : ConfigStep) : (p.step i step).interfaces j = p.interfaces j := by
  simp [Process.step, Function.update_noteq other]

@[simp] theorem Process.step_interfaces_self (p : Process ι) (i : ι) (step : ConfigStep) :
    (p.step i step).interfaces i = (configure (p.interfaces i) p.lowestConfigLevel step).1 := by
  simp [Process.step]

@[simp] theorem Process.step_lowestConfigLevel (p : Process ι) (i : ι) (step : ConfigStep) :
    (p.step i step).lowestConfigLevel =
      (configure (p.interfaces i) p.lowestConfigLevel step).2 := rfl

/-- No step changes any interface's codec. -/
@[simp] theorem Process.step_codec (p : Process ι) (i j : ι) (step : ConfigStep) :
    ((p.step i step).interfaces j).codec = (p.interfaces j).codec := by
  by_cases same : j = i
  · subst same
    obtain ⟨_, _, _, _, frame⟩ := configure_frame (p.interfaces j) p.lowestConfigLevel step
    simp only [Process.step_interfaces_self, frame]
  · simp [same]

/-- The states of one interface and the process-wide static: built by `Initialize` in a fresh
process, then configured step by step, while the steps of other instances may change the
static in between. -/
inductive Reachable : EncodeInterface × Nat → Prop
  | initial {deviceCreated : Bool} {name : String} {supported : List SupportedEncodeProfile}
      {iface : EncodeInterface} (built : initializeInterface deviceCreated name supported = .ok iface) :
      Reachable (iface, LEVEL_UNUSED)
  | step {state : EncodeInterface × Nat} (reached : Reachable state) (step : ConfigStep) :
      Reachable (configure state.1 state.2 step)
  | record {state : EncodeInterface × Nat} (reached : Reachable state) (lowest : Nat) :
      Reachable (state.1, lowest)

/-- Steps on one interface, in order. -/
def configureAll : EncodeInterface × Nat → List ConfigStep → EncodeInterface × Nat
  | state, [] => state
  | state, step :: rest => configureAll (configure state.1 state.2 step) rest

end V4L2Codec2.System
