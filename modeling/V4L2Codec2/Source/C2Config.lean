import Mathlib.Order.Basic

/-!
# C2 enumerations and codec selection

`C2Config::profile_t` and `C2Config::level_t` are `uint32_t` enumerations of the Codec2
framework header `C2Config.h`; `VideoCodec` and the component names come from this
repository's common headers. None of these headers is under `src/`, so the values below are
those headers' values. The setters only compare profiles and levels, so what the model uses
is their order; a requested value need not be a declared enumerator, and profiles and levels
are plain `Nat` here.

Source: `V4L2EncodeInterface.cpp:45-67` (`getCodecFromComponentName`,
`IsValidProfileForCodec`).
-/

namespace V4L2Codec2.C2Config

def PROFILE_AVC_BASELINE : Nat := 0x5000
def PROFILE_AVC_CONSTRAINED_BASELINE : Nat := 0x5001
def PROFILE_AVC_MAIN : Nat := 0x5002
def PROFILE_AVC_EXTENDED : Nat := 0x5003
def PROFILE_AVC_HIGH : Nat := 0x5004
def PROFILE_AVC_PROGRESSIVE_HIGH : Nat := 0x5005
def PROFILE_AVC_CONSTRAINED_HIGH : Nat := 0x5006
def PROFILE_AVC_HIGH_10 : Nat := 0x5007
def PROFILE_AVC_PROGRESSIVE_HIGH_10 : Nat := 0x5008
def PROFILE_AVC_HIGH_422 : Nat := 0x5009
def PROFILE_AVC_HIGH_444_PREDICTIVE : Nat := 0x500A
def PROFILE_AVC_HIGH_10_INTRA : Nat := 0x500B
def PROFILE_AVC_HIGH_422_INTRA : Nat := 0x500C
def PROFILE_AVC_HIGH_444_INTRA : Nat := 0x500D
def PROFILE_AVC_CAVLC_444_INTRA : Nat := 0x500E
/-- Last H.264 profile; the scalable and multiview ones lie between it and the above. -/
def PROFILE_AVC_ENHANCED_MULTIVIEW_DEPTH_HIGH : Nat := 0x5400

def PROFILE_VP9_0 : Nat := 0x7000
def PROFILE_VP9_3 : Nat := 0x7003
def PROFILE_VP8_0 : Nat := 0xA000
def PROFILE_VP8_3 : Nat := 0xA003

def LEVEL_UNUSED : Nat := 0

def LEVEL_AVC_1 : Nat := 0x5000
def LEVEL_AVC_1B : Nat := 0x5001
def LEVEL_AVC_1_1 : Nat := 0x5002
def LEVEL_AVC_1_2 : Nat := 0x5003
def LEVEL_AVC_1_3 : Nat := 0x5004
def LEVEL_AVC_2 : Nat := 0x5005
def LEVEL_AVC_2_1 : Nat := 0x5006
def LEVEL_AVC_2_2 : Nat := 0x5007
def LEVEL_AVC_3 : Nat := 0x5008
def LEVEL_AVC_3_1 : Nat := 0x5009
def LEVEL_AVC_3_2 : Nat := 0x500A
def LEVEL_AVC_4 : Nat := 0x500B
def LEVEL_AVC_4_1 : Nat := 0x500C
def LEVEL_AVC_4_2 : Nat := 0x500D
def LEVEL_AVC_5 : Nat := 0x500E
def LEVEL_AVC_5_1 : Nat := 0x500F
def LEVEL_AVC_5_2 : Nat := 0x5010

def LEVEL_VP9_1 : Nat := 0x7000
def LEVEL_VP9_1_1 : Nat := 0x7001
def LEVEL_VP9_2 : Nat := 0x7002
def LEVEL_VP9_2_1 : Nat := 0x7003
def LEVEL_VP9_3 : Nat := 0x7004
def LEVEL_VP9_3_1 : Nat := 0x7005
def LEVEL_VP9_4 : Nat := 0x7006
def LEVEL_VP9_4_1 : Nat := 0x7007
def LEVEL_VP9_5 : Nat := 0x7008
def LEVEL_VP9_5_1 : Nat := 0x7009
def LEVEL_VP9_5_2 : Nat := 0x700A
def LEVEL_VP9_6 : Nat := 0x700B
def LEVEL_VP9_6_1 : Nat := 0x700C
def LEVEL_VP9_6_2 : Nat := 0x700D

end V4L2Codec2.C2Config

namespace V4L2Codec2.Source
open C2Config

inductive VideoCodec where
  | H264 | VP8 | VP9
  deriving DecidableEq, Repr

/-- `V4L2ComponentName` encoder names. -/
def kH264Encoder : String := "c2.v4l2.avc.encoder"
def kVP8Encoder : String := "c2.v4l2.vp8.encoder"
def kVP9Encoder : String := "c2.v4l2.vp9.encoder"

def getCodecFromComponentName (name : String) : Option VideoCodec :=
  if name = kH264Encoder then some .H264
  else if name = kVP8Encoder then some .VP8
  else if name = kVP9Encoder then some .VP9
  else none

/-- Each codec's profiles form one closed interval of the enumeration. -/
def isValidProfileForCodec (codec : VideoCodec) (profile : Nat) : Bool :=
  match codec with
  | .H264 => PROFILE_AVC_BASELINE ≤ profile ∧ profile ≤ PROFILE_AVC_ENHANCED_MULTIVIEW_DEPTH_HIGH
  | .VP8 => PROFILE_VP8_0 ≤ profile ∧ profile ≤ PROFILE_VP8_3
  | .VP9 => PROFILE_VP9_0 ≤ profile ∧ profile ≤ PROFILE_VP9_3

/-- The three encoder names are told apart, and every other name is refused. -/
theorem getCodecFromComponentName_eq_some (name : String) (codec : VideoCodec) :
    getCodecFromComponentName name = some codec ↔
      (codec = .H264 ∧ name = kH264Encoder) ∨ (codec = .VP8 ∧ name = kVP8Encoder) ∨
        (codec = .VP9 ∧ name = kVP9Encoder) := by
  unfold getCodecFromComponentName
  split_ifs with h1 h2 h3 <;> subst_vars <;> cases codec <;> simp_all [kH264Encoder, kVP8Encoder, kVP9Encoder]

/-- A profile valid for one codec is valid for no other: the intervals are disjoint. -/
theorem isValidProfileForCodec_unique (profile : Nat) (c1 c2 : VideoCodec)
    (valid1 : isValidProfileForCodec c1 profile) (valid2 : isValidProfileForCodec c2 profile) :
    c1 = c2 := by
  cases c1 <;> cases c2 <;> simp_all [isValidProfileForCodec, PROFILE_AVC_BASELINE,
    PROFILE_AVC_ENHANCED_MULTIVIEW_DEPTH_HIGH, PROFILE_VP8_0, PROFILE_VP8_3, PROFILE_VP9_0,
    PROFILE_VP9_3] <;> omega

end V4L2Codec2.Source
