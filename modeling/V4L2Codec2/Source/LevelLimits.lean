import V4L2Codec2.Source.C2Config
import Mathlib.Data.List.Pairwise

/-!
# Table A-1: the H.264 level limits

`kLimits` of `H264ProfileLevelSetter` (`V4L2EncodeInterface.cpp:93-118`). `maxMBPS` is a
`float` in the source; every entry is an integer below `2^24`, so it is held exactly as a
`Nat`. The setter scans the rows in order and relies on two facts proved here: the levels
strictly increase, and no limit column ever decreases.
-/

namespace V4L2Codec2.Source
open C2Config

/-- One row: max macroblocks per second, max frame size in macroblocks, max bits per second. -/
structure LevelLimits where
  level : Nat
  maxMBPS : Nat
  maxFS : Nat
  maxBR : Nat
  deriving DecidableEq, Repr

def kLimits : List LevelLimits := [
  ⟨LEVEL_AVC_1, 1485, 99, 64000⟩,
  ⟨LEVEL_AVC_1B, 1485, 99, 128000⟩,
  ⟨LEVEL_AVC_1_1, 3000, 396, 192000⟩,
  ⟨LEVEL_AVC_1_2, 6000, 396, 384000⟩,
  ⟨LEVEL_AVC_1_3, 11880, 396, 768000⟩,
  ⟨LEVEL_AVC_2, 11880, 396, 2000000⟩,
  ⟨LEVEL_AVC_2_1, 19800, 792, 4000000⟩,
  ⟨LEVEL_AVC_2_2, 20250, 1620, 4000000⟩,
  ⟨LEVEL_AVC_3, 40500, 1620, 10000000⟩,
  ⟨LEVEL_AVC_3_1, 108000, 3600, 14000000⟩,
  ⟨LEVEL_AVC_3_2, 216000, 5120, 20000000⟩,
  ⟨LEVEL_AVC_4, 245760, 8192, 20000000⟩,
  ⟨LEVEL_AVC_4_1, 245760, 8192, 50000000⟩,
  ⟨LEVEL_AVC_4_2, 522240, 8704, 50000000⟩,
  ⟨LEVEL_AVC_5, 589824, 22080, 135000000⟩,
  ⟨LEVEL_AVC_5_1, 983040, 36864, 240000000⟩,
  ⟨LEVEL_AVC_5_2, 2073600, 36864, 240000000⟩]

/-- The levels that have a row. -/
def tableLevels : List Nat := kLimits.map LevelLimits.level

/-- Row `b` comes after row `a`: a higher level with no smaller limit. -/
def LevelLimits.Below (a b : LevelLimits) : Prop :=
  a.level < b.level ∧ a.maxMBPS ≤ b.maxMBPS ∧ a.maxFS ≤ b.maxFS ∧ a.maxBR ≤ b.maxBR

instance (a b : LevelLimits) : Decidable (a.Below b) :=
  inferInstanceAs (Decidable (_ ∧ _))

/-- Every earlier row is `Below` every later one. -/
theorem kLimits_pairwise_below : kLimits.Pairwise LevelLimits.Below := by
  decide

theorem kLimits_pairwise_level_lt : kLimits.Pairwise fun a b => a.level < b.level :=
  kLimits_pairwise_below.imp fun below => below.1

/-- No level value has two rows. -/
theorem kLimits_level_inj {a b : LevelLimits} (ha : a ∈ kLimits) (hb : b ∈ kLimits)
    (same : a.level = b.level) : a = b := by
  by_contra different
  exact (kLimits_pairwise_level_lt.imp Nat.ne_of_lt).forall (fun _ _ h => Ne.symm h)
    ha hb different same

end V4L2Codec2.Source
