import V4L2Codec2.Spec.LevelScan

/-!
# The level resolver, and the loop over `kLimits` that implements it

`resolveLevel` states what the level part of `H264ProfileLevelSetter` is for: keep the
proposed level when it is supported and feasible, otherwise move to the least feasible
supported level and remember the proposal; reject when no supported level is feasible.

`levelScan_refines` shows that the source loop over `kLimits` computes exactly this, for any
supported levels drawn from the table and any row test that stays true up the table. The loop
never evaluates the proposed level's own row when it keeps that level; that this is right
rests on both facts of `kLimits_pairwise_below`.
-/

namespace V4L2Codec2.Spec
open Source C2Config

/-- A level is feasible when it has a row the demands meet. -/
def levelFeasible (fits : LevelLimits → Bool) (level : Nat) : Bool :=
  kLimits.any fun r => r.level = level && fits r

/-- The level resolver's contract. `some (level, lowestConfigLevel)` on success. -/
def resolveLevel (feasible : Nat → Bool) (levels : List Nat) (proposed lowest : Nat) :
    Option (Nat × Nat) :=
  (levels.filter feasible).min?.map fun least =>
    if proposed ∈ levels ∧ feasible proposed then (proposed, lowest) else (least, proposed)

theorem levelFeasible_iff {fits : LevelLimits → Bool} {level : Nat} :
    levelFeasible fits level ↔ ∃ r ∈ kLimits, r.level = level ∧ fits r := by
  simp [levelFeasible]

theorem resolveLevel_eq_none {feasible : Nat → Bool} {levels : List Nat} {proposed lowest : Nat} :
    resolveLevel feasible levels proposed lowest = none ↔ ∀ l ∈ levels, ¬feasible l := by
  simp [resolveLevel]

/-- A resolved level is the proposal when that is supported and feasible, and otherwise the
least supported feasible level, with the proposal recorded. -/
theorem resolveLevel_eq_some {feasible : Nat → Bool} {levels : List Nat}
    {proposed lowest level lowest' : Nat} :
    resolveLevel feasible levels proposed lowest = some (level, lowest') ↔
      (proposed ∈ levels ∧ feasible proposed ∧ level = proposed ∧ lowest' = lowest) ∨
        (¬(proposed ∈ levels ∧ feasible proposed) ∧
          IsLeast {l | l ∈ levels ∧ feasible l} level ∧ lowest' = proposed) := by
  simp only [resolveLevel, Option.map_eq_some', List.min?_eq_some_iff', List.mem_filter]
  constructor
  · rintro ⟨least, ⟨member, below⟩, result⟩
    split_ifs at result with keep <;> simp only [Prod.mk.injEq] at result
    · exact .inl ⟨keep.1, keep.2, result.1.symm, result.2.symm⟩
    · refine .inr ⟨keep, ⟨result.1 ▸ member, ?_⟩, result.2.symm⟩
      exact fun l member' => result.1 ▸ below l member'
  · rintro (⟨supported, feasible', rfl, rfl⟩ | ⟨moved, ⟨member, least⟩, rfl⟩)
    · obtain ⟨least, hleast⟩ := Option.isSome_iff_exists.mp (List.isSome_min?_of_mem
        (List.mem_filter.mpr ⟨supported, feasible'⟩))
      obtain ⟨member, below⟩ := List.min?_eq_some_iff'.mp hleast
      exact ⟨least, ⟨List.mem_filter.mp member, fun b hb => below b (List.mem_filter.mpr hb)⟩,
        by simp [supported, feasible']⟩
    · exact ⟨level, ⟨member, fun l member' => least member'⟩,
        by simp [moved]⟩

/-- Of two rows, the one of lower level is `Below` the other. -/
theorem kLimits_below_of_lt {a b : LevelLimits} (ha : a ∈ kLimits) (hb : b ∈ kLimits)
    (lt : a.level < b.level) : a.Below b := by
  have different : a ≠ b := fun h => by subst h; omega
  rcases (kLimits_pairwise_below.imp Or.inl).forall (fun _ _ h => Or.symm h) ha hb different
    with below | above
  · exact below
  · exact absurd above.1 (by omega)

section
variable {fits : LevelLimits → Bool} {levels : List Nat}

/-- The supported levels at which some row is hit are the supported feasible levels. -/
theorem find?_hit_eq_none_iff :
    kLimits.find? (hit (fun l => l ∈ levels) fits) = none ↔ levels.filter (levelFeasible fits) = [] := by
  simp only [List.find?_eq_none, hit, Bool.and_eq_true, decide_eq_true_eq, not_and,
    List.filter_eq_nil_iff, levelFeasible_iff, not_exists]
  constructor
  · intro none l member r row same meets
    exact none r row (same ▸ member) meets
  · intro none r row member meets
    exact none r.level member r row rfl meets

/-- The first hit is at the least supported feasible level. -/
theorem find?_hit_level {r : LevelLimits}
    (found : kLimits.find? (hit (fun l => l ∈ levels) fits) = some r) :
    (levels.filter (levelFeasible fits)).min? = some r.level := by
  obtain ⟨row, hits, least⟩ := (find?_hit_eq_some kLimits_pairwise_level_lt).mp found
  simp only [hit, Bool.and_eq_true, decide_eq_true_eq] at hits
  rw [List.min?_eq_some_iff']
  refine ⟨List.mem_filter.mpr ⟨hits.1, levelFeasible_iff.mpr ⟨r, row, rfl, hits.2⟩⟩, ?_⟩
  intro l member
  obtain ⟨supported, feasible⟩ := List.mem_filter.mp member
  obtain ⟨r', row', rfl, meets⟩ := levelFeasible_iff.mp feasible
  exact least r' row' (by simp [hit, supported, meets])

variable (upward : ∀ a b, a.Below b → fits a → fits b)
include upward

/-- With supported levels from the table and a test that stays true up the table, the loop
passes a supported row at or above a supported `level` exactly when `level` is infeasible. -/
theorem passes_iff_infeasible (drawn : levels ⊆ tableLevels) {level : Nat} {r : LevelLimits}
    (supported : level ∈ levels)
    (found : kLimits.find? (hit (fun l => l ∈ levels) fits) = some r) :
    passes (fun l => l ∈ levels) kLimits level r.level ↔ ¬levelFeasible fits level := by
  obtain ⟨row, -, least⟩ := (find?_hit_eq_some kLimits_pairwise_level_lt).mp found
  have hits := List.find?_some found
  simp only [hit, Bool.and_eq_true, decide_eq_true_eq] at hits
  simp only [passes, List.any_eq_true, Bool.and_eq_true, decide_eq_true_eq, levelFeasible_iff,
    not_exists, not_and]
  constructor
  · rintro ⟨r', -, ⟨-, above⟩, below⟩ r0 row0 rfl meets0
    have := least r0 row0 (by simp [hit, supported, meets0])
    omega
  · intro infeasible
    obtain ⟨r0, row0, rfl⟩ := List.mem_map.mp (drawn supported)
    refine ⟨r0, row0, ⟨supported, le_rfl⟩, ?_⟩
    rcases lt_trichotomy r0.level r.level with lt | same | gt
    · exact lt
    · exact absurd (kLimits_level_inj row0 row same ▸ hits.2) (infeasible r0 row0 rfl)
    · exact absurd (upward r r0 (kLimits_below_of_lt row row0 gt) hits.2)
        (infeasible r0 row0 rfl)

/-- Feasibility carries up the table. -/
theorem levelFeasible_of_le {a b : Nat} (row : b ∈ tableLevels) (le : a ≤ b)
    (feasible : levelFeasible fits a) : levelFeasible fits b := by
  obtain ⟨r, member, rfl, meets⟩ := levelFeasible_iff.mp feasible
  obtain ⟨r', member', rfl⟩ := List.mem_map.mp row
  rcases le.lt_or_eq with lt | same
  · exact levelFeasible_iff.mpr ⟨r', member', rfl, upward r r' (kLimits_below_of_lt member member' lt) meets⟩
  · exact levelFeasible_iff.mpr ⟨r', member', rfl, kLimits_level_inj member member' same ▸ meets⟩

/-- An infeasible level of the table lies below every feasible one. -/
theorem lt_of_infeasible {a b : Nat} (row : a ∈ tableLevels) (infeasible : ¬levelFeasible fits a)
    (feasible : levelFeasible fits b) : a < b :=
  lt_of_not_le fun le => infeasible (levelFeasible_of_le upward row le feasible)

/-- The source loop refines the resolver's contract. -/
theorem levelScan_refines (drawn : levels ⊆ tableLevels) (level lowest : Nat) :
    levelScan (fun l => l ∈ levels) fits level lowest kLimits (!decide (level ∈ levels)) =
      resolveLevel (levelFeasible fits) levels level lowest := by
  rw [levelScan_eq level lowest kLimits kLimits_pairwise_level_lt, resolveLevel]
  cases found : kLimits.find? (hit (fun l => l ∈ levels) fits) with
  | none =>
    rw [find?_hit_eq_none_iff.mp found]
    rfl
  | some r =>
    rw [find?_hit_level found]
    by_cases supported : level ∈ levels
    · have moves := passes_iff_infeasible upward drawn supported found
      by_cases feasible : levelFeasible fits level
      · simp [supported, feasible, moves]
      · simp [supported, feasible, moves.mpr feasible]
    · simp [supported]

end

/-- The row test of the source stays true up any table ordered by `Below`. -/
theorem meetsLimit_upward (profile : Nat) (videoSize : PictureSize) (frameRate : ℚ)
    (bitrate : UInt32) (a b : LevelLimits) (below : a.Below b)
    (meets : meetsLimit profile videoSize frameRate bitrate a) :
    meetsLimit profile videoSize frameRate bitrate b := by
  obtain ⟨-, mbps, fs, br⟩ := below
  rw [meetsLimit_iff] at meets ⊢
  exact ⟨meets.1.trans fs, meets.2.1.trans (by exact_mod_cast mbps),
    meets.2.2.trans (scaledMaxBR_mono profile br)⟩

/-- One call of the H.264 setter is the profile adoption followed by the resolver. -/
theorem h264ProfileLevelSetter_eq_resolve (profiles levels : List Nat)
    (drawn : levels ⊆ tableLevels) (info : ProfileLevel) (videoSize : PictureSize)
    (frameRate : ℚ) (bitrate : UInt32) (lowest : Nat) :
    h264ProfileLevelSetter profiles levels info videoSize frameRate bitrate lowest =
      match adoptMinProfile profiles PROFILE_AVC_BASELINE info.profile with
      | none => ⟨.badValue .profile, info, lowest⟩
      | some profile =>
        levelOutcome profile (startLevel lowest info.level) lowest
          (resolveLevel (levelFeasible (meetsLimit profile videoSize frameRate bitrate)) levels
            (startLevel lowest info.level) lowest) := by
  cases adoption : adoptMinProfile profiles PROFILE_AVC_BASELINE info.profile with
  | none => exact h264ProfileLevelSetter_of_refused adoption
  | some profile =>
    simp only [h264ProfileLevelSetter_of_adopted adoption,
      levelScan_refines (meetsLimit_upward profile videoSize frameRate bitrate) drawn]

end V4L2Codec2.Spec
