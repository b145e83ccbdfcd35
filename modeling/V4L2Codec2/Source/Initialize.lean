import V4L2Codec2.Source.ProfileLevelSetter

/-!
# `V4L2EncodeInterface::Initialize`

`V4L2EncodeInterface.cpp:234-452`. `Initialize` creates the device, maps the component name
to a codec, keeps the device profiles valid for that codec (and their largest width and
height), and declares the parameters with their defaults and allowed values. The device is an
input here: whether `V4L2Device::create()` succeeded, and the list
`getSupportedEncodeProfiles()` returned.

Only the parameters that a modelled setter reads are kept. The constant parameters (component
kind, buffer types, media types, allocator ids), the sync-frame request and the output block
pools have no setter of this file and no reader here, and neither has the bitrate mode, whose
setter is the framework's `StrictValueWithNoDeps` and which nothing of this file reads.

The picture size, frame rate and bitrate are checked by their setters against the ranges
`Initialize` declares for them (`sizeSetter`, `frameRateSetter`, `bitrateSetter`).
-/

namespace V4L2Codec2.Source
open C2Config

/-- `V4L2Device::SupportedEncodeProfile`; `max_resolution` is a `ui::Size` of `int32_t`. -/
structure SupportedEncodeProfile where
  profile : Nat
  maxWidth : Int
  maxHeight : Int
  maxWidth_int32 : -2 ^ 31 ≤ maxWidth ∧ maxWidth < 2 ^ 31
  maxHeight_int32 : -2 ^ 31 ≤ maxHeight ∧ maxHeight < 2 ^ 31
  deriving DecidableEq

/-- The `c2_status_t` values `Initialize` leaves in `mInitStatus`. -/
inductive C2Status where
  | OK | BAD_VALUE | CORRUPTED
  deriving DecidableEq, Repr

/-- `C2Config::intra_refresh_mode_t`. -/
inductive IntraRefreshMode where
  | INTRA_REFRESH_DISABLED | INTRA_REFRESH_ARBITRARY
  deriving DecidableEq, Repr

/-- `C2StreamIntraRefreshTuning::output`: a mode and a period in frames (a `float`). -/
structure IntraRefresh where
  mode : IntraRefreshMode
  period : ℚ
  deriving DecidableEq

def kDefaultFrameRate : ℚ := (30 : ℕ)
def kDefaultBitrate : UInt32 := 64000
/-- The bitrate field's upper bound, the maximum bitrate of level 4.1. -/
def kMaxBitrate : UInt32 := 50000000

/-- The level values the H.264 level field declares (`LEVEL_AVC_1` .. `LEVEL_AVC_5_1`). -/
def avcLevels : List Nat :=
  [LEVEL_AVC_1, LEVEL_AVC_1B, LEVEL_AVC_1_1, LEVEL_AVC_1_2, LEVEL_AVC_1_3, LEVEL_AVC_2,
    LEVEL_AVC_2_1, LEVEL_AVC_2_2, LEVEL_AVC_3, LEVEL_AVC_3_1, LEVEL_AVC_3_2, LEVEL_AVC_4,
    LEVEL_AVC_4_1, LEVEL_AVC_4_2, LEVEL_AVC_5, LEVEL_AVC_5_1]

/-- Every declared H.264 level has a row in `kLimits`. -/
theorem avcLevels_subset_tableLevels : avcLevels ⊆ tableLevels := by
  decide

def vp9Levels : List Nat :=
  [LEVEL_VP9_1, LEVEL_VP9_1_1, LEVEL_VP9_2, LEVEL_VP9_2_1, LEVEL_VP9_3, LEVEL_VP9_3_1,
    LEVEL_VP9_4, LEVEL_VP9_4_1, LEVEL_VP9_5, LEVEL_VP9_5_1, LEVEL_VP9_5_2, LEVEL_VP9_6,
    LEVEL_VP9_6_1, LEVEL_VP9_6_2]

/-- The interface `Initialize` leaves: the declared value sets the setters read and the
current parameter values. `levels` is empty for VP8, whose profile and level are constant. -/
structure EncodeInterface where
  codec : VideoCodec
  profiles : List Nat
  levels : List Nat
  maxWidth : Int
  maxHeight : Int
  videoSize : PictureSize
  frameRate : ℚ
  bitrate : UInt32
  profileLevel : ProfileLevel
  intraRefresh : IntraRefresh
  keyFramePeriodUs : Int
  deriving DecidableEq

/-- The device profiles valid for the codec, in device order. -/
def validProfiles (codec : VideoCodec) (supported : List SupportedEncodeProfile) :
    List SupportedEncodeProfile :=
  supported.filter fun p => isValidProfileForCodec codec p.profile

/-- `maxSize`: a default `ui::Size` (width and height -1) raised to each valid profile's
maximum. -/
def maxSize (valid : List SupportedEncodeProfile) : Int × Int :=
  valid.foldl (fun size p => (max size.1 p.maxWidth, max size.2 p.maxHeight)) (-1, -1)

/-- The default profile and level, and the declared levels, for each codec. -/
def profileLevelDefaults (codec : VideoCodec) (minProfile : Nat) : ProfileLevel × List Nat :=
  match codec with
  | .H264 => (⟨minProfile, LEVEL_AVC_4_1⟩, avcLevels)
  | .VP8 => (⟨PROFILE_VP8_0, LEVEL_UNUSED⟩, [])
  | .VP9 => (⟨minProfile, LEVEL_VP9_1⟩, vp9Levels)

/-- The interface `Initialize` declares for `codec` from the valid device profiles, whose
least profile is `minProfile`. -/
def defaultInterface (codec : VideoCodec) (valid : List SupportedEncodeProfile)
    (minProfile : Nat) : EncodeInterface :=
  let defaults := profileLevelDefaults codec minProfile
  { codec, profiles := valid.map SupportedEncodeProfile.profile, levels := defaults.2,
    maxWidth := (maxSize valid).1, maxHeight := (maxSize valid).2, videoSize := ⟨320, 240⟩,
    frameRate := kDefaultFrameRate, bitrate := kDefaultBitrate, profileLevel := defaults.1, intraRefresh := ⟨.INTRA_REFRESH_DISABLED, 0⟩,
    keyFramePeriodUs := 1000000 }

def initializeInterface (deviceCreated : Bool) (name : String)
    (supported : List SupportedEncodeProfile) : Except C2Status EncodeInterface :=
  if !deviceCreated then .error .CORRUPTED
  else match getCodecFromComponentName name with
    | none => .error .BAD_VALUE
    | some codec =>
      let valid := validProfiles codec supported
      match (valid.map SupportedEncodeProfile.profile).min? with
      | none => .error .BAD_VALUE
      | some minProfile => .ok (defaultInterface codec valid minProfile)

/-- A successful `Initialize`: the device exists, the name names a codec, some device profile
is valid for it, and the interface is that codec's default one. -/
theorem initializeInterface_eq_ok {deviceCreated : Bool} {name : String}
    {supported : List SupportedEncodeProfile} {iface : EncodeInterface} :
    initializeInterface deviceCreated name supported = .ok iface ↔
      deviceCreated = true ∧ ∃ codec minProfile, getCodecFromComponentName name = some codec ∧
        ((validProfiles codec supported).map SupportedEncodeProfile.profile).min? =
          some minProfile ∧
        iface = defaultInterface codec (validProfiles codec supported) minProfile := by
  unfold initializeInterface
  cases deviceCreated
  · simp
  · cases getCodecFromComponentName name with
    | none => simp
    | some codec =>
      cases least : ((validProfiles codec supported).map SupportedEncodeProfile.profile).min? <;>
        simp [least, eq_comm]

/-- The two coordinates of `maxSize`'s fold are folds of `max` of their own, from any seed. -/
theorem foldl_maxSize (valid : List SupportedEncodeProfile) (seed : Int × Int) :
    valid.foldl (fun size p => (max size.1 p.maxWidth, max size.2 p.maxHeight)) seed =
      (valid.foldl (fun w p => max w p.maxWidth) seed.1,
        valid.foldl (fun h p => max h p.maxHeight) seed.2) := by
  induction valid generalizing seed with
  | nil => rfl
  | cons p rest ih => exact ih _

/-- A fold of `max` over one coordinate: it is at least the seed and every profile's value, and
it is the seed or some profile's value. -/
theorem foldl_max_bounds (dim : SupportedEncodeProfile → Int) (valid : List SupportedEncodeProfile)
    (seed : Int) :
    let top := valid.foldl (fun m p => max m (dim p)) seed
    seed ≤ top ∧ (∀ p ∈ valid, dim p ≤ top) ∧ (top = seed ∨ ∃ p ∈ valid, dim p = top) := by
  induction valid generalizing seed with
  | nil => exact ⟨le_rfl, by simp, .inl rfl⟩
  | cons p rest ih =>
    obtain ⟨above, bounds, attained⟩ := ih (max seed (dim p))
    refine ⟨(le_max_left _ _).trans above, ?_, ?_⟩
    · simpa using ⟨(le_max_right _ _).trans above, bounds⟩
    · rcases attained with reached | ⟨q, mem, reached⟩
      · rcases max_choice seed (dim p) with first | first
        · exact .inl (reached.trans first)
        · exact .inr ⟨p, List.mem_cons_self _ _, (reached.trans first).symm⟩
      · exact .inr ⟨q, List.mem_cons_of_mem _ mem, reached⟩

/-- The default profile is a valid device profile for the codec. -/
theorem minProfile_valid {codec : VideoCodec} {supported : List SupportedEncodeProfile}
    {minProfile : Nat}
    (least : ((validProfiles codec supported).map SupportedEncodeProfile.profile).min? =
      some minProfile) :
    minProfile ∈ (validProfiles codec supported).map SupportedEncodeProfile.profile ∧
      isValidProfileForCodec codec minProfile := by
  have member := (List.min?_eq_some_iff'.mp least).1
  obtain ⟨p, offered, rfl⟩ := List.mem_map.mp member
  exact ⟨member, (List.mem_filter.mp offered).2⟩

/-! ## The setters of the size, frame rate and bitrate -/

/-- `C2F(field).inRange(min, max, step)` on an integer field: the values from `min` to `max` in
steps of `step`, which `validatePossible` accepts. -/
def inRange (min max step value : Nat) : Bool :=
  min ≤ value ∧ value ≤ max ∧ (value - min) % step = 0

/-- `validatePossible` on one field: no failure when the field's declared values contain its
value, otherwise `BadValue` naming the field. The framework's `validatePossible` is not part of
this repository; it is taken as its name says, and a failed field keeps its last valid value
(`ConfigStep.propose`). Section 4.6 of the spec has sizes and bitrates clamped into the declared
range instead; either way a configured value lies in that range. -/
def validatePossible (field : ParamField) (possible : Bool) : C2R :=
  if possible then .ok else .badValue field

/-- An `int` bound declared for a `uint32_t` field is converted to `uint32_t`. -/
def toUInt32Bound (bound : Int) : Nat := (bound % 2 ^ 32).toNat

/-- `SizeSetter`: the width against `inRange(2, maxSize.width, 2)`, plus the height against
`inRange(2, maxSize.height, 2)`. -/
def sizeSetter (maxWidth maxHeight : Int) (videoSize : PictureSize) : C2R :=
  (validatePossible .width (inRange 2 (toUInt32Bound maxWidth) 2 videoSize.width.toNat)).plus
    (validatePossible .height (inRange 2 (toUInt32Bound maxHeight) 2 videoSize.height.toNat))

/-- `Setter::StrictValueWithNoDeps` on the frame rate, declared `greaterThan(0.)`. -/
def frameRateSetter (frameRate : ℚ) : C2R :=
  validatePossible .frameRate (decide (0 < frameRate))

/-- `Setter::StrictValueWithNoDeps` on the bitrate, declared `inRange(0, kMaxBitrate)`. -/
def bitrateSetter (bitrate : UInt32) : C2R :=
  validatePossible .bitrate (inRange 0 kMaxBitrate.toNat 1 bitrate.toNat)

@[simp] theorem validatePossible_eq_ok {field : ParamField} {possible : Bool} :
    validatePossible field possible = .ok ↔ possible = true := by
  cases possible <;> simp [validatePossible]

/-- An accepted size lies in the declared range in each dimension. -/
theorem sizeSetter_eq_ok {maxWidth maxHeight : Int} {videoSize : PictureSize} :
    sizeSetter maxWidth maxHeight videoSize = .ok ↔
      inRange 2 (toUInt32Bound maxWidth) 2 videoSize.width.toNat ∧
        inRange 2 (toUInt32Bound maxHeight) 2 videoSize.height.toNat := by
  simp [sizeSetter]

/-- A non-negative `int32_t` bound is kept by the conversion. -/
theorem toUInt32Bound_of_int32 {bound : Int} (nonneg : 0 ≤ bound) (small : bound < 2 ^ 31) :
    (toUInt32Bound bound : Int) = bound := by
  rw [toUInt32Bound, Int.toNat_of_nonneg (Int.emod_nonneg _ (by decide)),
    Int.emod_eq_of_lt nonneg (by omega)]

/-- The default frame rate and bitrate pass their setters, and the default size passes its
setter whenever the device allows 320x240. -/
theorem defaults_valid {maxWidth maxHeight : Int} (wide : 320 ≤ maxWidth) (high : 240 ≤ maxHeight)
    (small : maxWidth < 2 ^ 31 ∧ maxHeight < 2 ^ 31) :
    sizeSetter maxWidth maxHeight ⟨320, 240⟩ = .ok ∧ frameRateSetter kDefaultFrameRate = .ok ∧
      bitrateSetter kDefaultBitrate = .ok := by
  have width := toUInt32Bound_of_int32 (by omega) small.1
  have height := toUInt32Bound_of_int32 (by omega) small.2
  refine ⟨sizeSetter_eq_ok.mpr ?_, by simp [frameRateSetter, kDefaultFrameRate], by decide⟩
  simp only [inRange, decide_eq_true_eq, show (320 : UInt32).toNat = 320 from rfl,
    show (240 : UInt32).toNat = 240 from rfl, and_true]
  omega

end V4L2Codec2.Source
