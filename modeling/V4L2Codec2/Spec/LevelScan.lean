import V4L2Codec2.Source.ProfileLevelSetter

/-!
# What the level loop computes

For any rows sorted by level, `levelScan` stops at the first row that is supported and meets
the requirements (`hit`), which in a sorted table is the hit of least level. At that row it
moves the level and records the working level exactly when `needsUpdate` was already set or
the loop passed a supported row at or above the working level (`passes`). Nothing here uses
the limit columns of `kLimits` or which levels are supported.
-/

namespace V4L2Codec2.Spec
open Source

section
variable (supportsAtAll : Nat → Bool) (fits : LevelLimits → Bool)

/-- A row the loop stops at. -/
def hit (limit : LevelLimits) : Bool := supportsAtAll limit.level && fits limit

/-- A supported row at or above `level` and below `stop`: the loop sets `needsUpdate` there. -/
def passes (rows : List LevelLimits) (level stop : Nat) : Bool :=
  rows.any fun r => supportsAtAll r.level && decide (level ≤ r.level) && decide (r.level < stop)

variable {supportsAtAll fits}

theorem passes_eq_false {rows : List LevelLimits} {level stop : Nat}
    (above : ∀ r ∈ rows, stop ≤ r.level) : passes supportsAtAll rows level stop = false := by
  simp only [passes, List.any_eq_false, Bool.and_eq_true, decide_eq_true_eq, not_and, not_lt]
  exact fun r member _ => above r member

/-- The loop is the first hit, with the move decided by `needsUpdate` and `passes`. -/
theorem levelScan_eq (level lowest : Nat) :
    ∀ (rows : List LevelLimits), rows.Pairwise (fun a b => a.level < b.level) →
      ∀ needsUpdate : Bool, levelScan supportsAtAll fits level lowest rows needsUpdate =
        (rows.find? (hit supportsAtAll fits)).map fun r =>
          if needsUpdate || passes supportsAtAll rows level r.level then (r.level, level)
          else (level, lowest)
  | [], _, _ => rfl
  | limit :: rest, sorted, needsUpdate => by
    have above := (List.pairwise_cons.mp sorted).1
    have ih := levelScan_eq level lowest rest (List.pairwise_cons.mp sorted).2
    by_cases supported : supportsAtAll limit.level
    · by_cases meets : fits limit
      · have stop : hit supportsAtAll fits limit := by simp [hit, supported, meets]
        simp [levelScan, supported, meets, List.find?_cons_of_pos _ stop, passes_eq_false
          (fun r member => (List.mem_cons.mp member).elim (fun h => h ▸ le_rfl)
            fun h => (above r h).le)]
      · have skip : ¬hit supportsAtAll fits limit := by simp [hit, meets]
        simp only [levelScan, supported, meets, Bool.not_true, Bool.false_eq_true, if_false,
          ih, List.find?_cons_of_neg _ skip]
        cases found : rest.find? (hit supportsAtAll fits) with
        | none => rfl
        | some r =>
          have lt := above r (List.mem_of_find?_eq_some found)
          simp [passes, supported, lt, Bool.or_assoc]
    · have skip : ¬hit supportsAtAll fits limit := by simp [hit, supported]
      simp [levelScan, supported, ih, List.find?_cons_of_neg _ skip, passes]

/-- Whether the loop finds a level depends neither on the working level, nor on the recorded
level, nor on `needsUpdate`: only on whether some supported row fits. -/
theorem levelScan_isSome {rows : List LevelLimits} (sorted : rows.Pairwise (fun a b => a.level < b.level))
    (level lowest : Nat) (needsUpdate : Bool) :
    (levelScan supportsAtAll fits level lowest rows needsUpdate).isSome =
      (rows.find? (hit supportsAtAll fits)).isSome := by
  rw [levelScan_eq level lowest rows sorted needsUpdate, Option.isSome_map']

/-- In sorted rows the first hit is the hit of least level. -/
theorem find?_hit_eq_some {r : LevelLimits} :
    ∀ {rows : List LevelLimits}, rows.Pairwise (fun a b => a.level < b.level) →
      (rows.find? (hit supportsAtAll fits) = some r ↔
        r ∈ rows ∧ hit supportsAtAll fits r ∧
          ∀ r' ∈ rows, hit supportsAtAll fits r' → r.level ≤ r'.level)
  | [], _ => by simp
  | limit :: rest, sorted => by
    have above := (List.pairwise_cons.mp sorted).1
    have ih := find?_hit_eq_some (r := r) (List.pairwise_cons.mp sorted).2
    by_cases stop : hit supportsAtAll fits limit
    · rw [List.find?_cons_of_pos _ stop]
      constructor
      · rintro ⟨⟩
        exact ⟨List.mem_cons_self _ _, stop, fun r' member _ =>
          (List.mem_cons.mp member).elim (fun h => h ▸ le_rfl) fun h => (above r' h).le⟩
      · rintro ⟨member, _, least⟩
        rcases List.mem_cons.mp member with rfl | later
        · rfl
        · exact absurd (least limit (List.mem_cons_self _ _) stop) (not_le.mpr (above r later))
    · rw [List.find?_cons_of_neg _ stop, ih]
      constructor
      · rintro ⟨member, hits, least⟩
        refine ⟨List.mem_cons_of_mem _ member, hits, fun r' member' hits' => ?_⟩
        rcases List.mem_cons.mp member' with rfl | later
        · exact absurd hits' stop
        · exact least r' later hits'
      · rintro ⟨member, hits, least⟩
        rcases List.mem_cons.mp member with rfl | later
        · exact absurd hits stop
        · exact ⟨later, hits, fun r' member' => least r' (List.mem_cons_of_mem _ member')⟩

theorem passes_lt {rows : List LevelLimits} {level stop : Nat}
    (passed : passes supportsAtAll rows level stop) : level < stop := by
  obtain ⟨r, -, found⟩ := List.any_eq_true.mp passed
  simp only [Bool.and_eq_true, decide_eq_true_eq] at found
  omega

theorem passes_mono {rows : List LevelLimits} {level stop stop' : Nat} (le : stop ≤ stop')
    (passed : passes supportsAtAll rows level stop) : passes supportsAtAll rows level stop' := by
  obtain ⟨r, member, found⟩ := List.any_eq_true.mp passed
  simp only [Bool.and_eq_true, decide_eq_true_eq] at found
  exact List.any_eq_true.mpr ⟨r, member, by simp [found.1.1, found.1.2, found.2.trans_le le]⟩

section sorted
variable {rows : List LevelLimits} (sorted : rows.Pairwise fun a b => a.level < b.level)
include sorted

/-- A second loop, started from what the first one left, stops where the first one did. -/
theorem levelScan_restart {level lowest : Nat} {out : Nat × Nat}
    (adjusted : startLevel lowest level = level)
    (first : levelScan supportsAtAll fits level lowest rows (!supportsAtAll level) = some out) :
    levelScan supportsAtAll fits (startLevel out.2 out.1) out.2 rows
      (!supportsAtAll (startLevel out.2 out.1)) = some out := by
  rw [levelScan_eq level lowest rows sorted] at first
  rw [levelScan_eq _ _ rows sorted]
  cases found : rows.find? (hit supportsAtAll fits) with
  | none => simp [found] at first
  | some r =>
    have supported : supportsAtAll r.level := by
      have hits := List.find?_some found
      simp only [hit, Bool.and_eq_true] at hits
      exact hits.1
    rw [found, Option.map_some'] at first
    rw [Option.map_some']
    obtain rfl := Option.some.inj first
    by_cases moved : (!supportsAtAll level || passes supportsAtAll rows level r.level) = true
    · simp only [if_pos moved]
      by_cases low : level ≠ C2Config.LEVEL_UNUSED ∧ level < r.level
      · rw [startLevel, if_pos low, if_pos moved]
      · have unpassed : passes supportsAtAll rows r.level r.level = false :=
          Bool.eq_false_iff.mpr fun passed => lt_irrefl _ (passes_lt passed)
        rw [startLevel, if_neg low, if_neg (by simp [supported, unpassed])]
    · simp only [if_neg moved]
      rw [adjusted, if_neg moved]

/-- The loop stops at a supported level: a row's, or the working level when `needsUpdate` was
never set, which then was supported from the start. -/
theorem levelScan_supported {level lowest : Nat} {needsUpdate : Bool} {out : Nat × Nat}
    (initial : needsUpdate = false → supportsAtAll level)
    (found : levelScan supportsAtAll fits level lowest rows needsUpdate = some out) :
    supportsAtAll out.1 := by
  rw [levelScan_eq level lowest rows sorted] at found
  obtain ⟨r, hits, rfl⟩ := Option.map_eq_some'.mp found
  have supported : supportsAtAll r.level := by
    have hits := List.find?_some hits
    simp only [hit, Bool.and_eq_true] at hits
    exact hits.1
  by_cases moved : (needsUpdate || passes supportsAtAll rows level r.level) = true
  · rw [if_pos moved]
    exact supported
  · rw [if_neg moved]
    exact initial (by simpa using (Bool.or_eq_false_iff.mp (Bool.eq_false_iff.mpr moved)).1)

/-- The loop records the working level only where it moves the level away from it; otherwise
the record stays. -/
theorem levelScan_record {level lowest : Nat} {needsUpdate : Bool} {out : Nat × Nat}
    (initial : needsUpdate = true → supportsAtAll level = false)
    (found : levelScan supportsAtAll fits level lowest rows needsUpdate = some out) :
    out.2 = lowest ∨ out.2 = level ∧ out.1 ≠ level := by
  rw [levelScan_eq level lowest rows sorted] at found
  obtain ⟨r, hits, rfl⟩ := Option.map_eq_some'.mp found
  by_cases moved : (needsUpdate || passes supportsAtAll rows level r.level) = true
  · rw [if_pos moved]
    refine .inr ⟨rfl, fun same => ?_⟩
    change r.level = level at same
    rcases Bool.or_eq_true _ _ ▸ moved with flag | passed
    · have hits := List.find?_some hits
      simp only [hit, Bool.and_eq_true] at hits
      simp [← same, hits.1] at initial
      simp [initial] at flag
    · exact absurd same (passes_lt passed).ne'
  · rw [if_neg moved]
    exact .inl rfl

/-- A harder test moves the loop's level no lower: every stop of the harder loop has a stop
of the easier loop at or below it. -/
theorem levelScan_mono {fits' : LevelLimits → Bool} (easier : ∀ r, fits' r → fits r)
    (level lowest : Nat) (needsUpdate : Bool) {out' : Nat × Nat}
    (hard : levelScan supportsAtAll fits' level lowest rows needsUpdate = some out') :
    ∃ out, levelScan supportsAtAll fits level lowest rows needsUpdate = some out ∧
      out.1 ≤ out'.1 := by
  rw [levelScan_eq level lowest rows sorted] at hard ⊢
  obtain ⟨r', found', rfl⟩ := Option.map_eq_some'.mp hard
  obtain ⟨row', hits', -⟩ := (find?_hit_eq_some sorted).mp found'
  have hits : hit supportsAtAll fits r' := by
    simp only [hit, Bool.and_eq_true] at hits' ⊢
    exact ⟨hits'.1, easier r' hits'.2⟩
  cases found : rows.find? (hit supportsAtAll fits) with
  | none => exact absurd (List.find?_eq_none.mp found r' row') (by simp [hits])
  | some r =>
    have below : r.level ≤ r'.level := ((find?_hit_eq_some sorted).mp found).2.2 r' row' hits
    refine ⟨_, rfl, ?_⟩
    dsimp only
    by_cases moved : (needsUpdate || passes supportsAtAll rows level r.level) = true
    · have moved' : (needsUpdate || passes supportsAtAll rows level r'.level) = true := by
        rcases Bool.or_eq_true _ _ ▸ moved with flag | passed
        · simp [flag]
        · simp [passes_mono below passed]
      rw [if_pos moved, if_pos moved']
      exact below
    · rw [if_neg moved]
      by_cases moved' : (needsUpdate || passes supportsAtAll rows level r'.level) = true
      · have flag : needsUpdate = false := by
          simp only [Bool.or_eq_true, not_or, Bool.not_eq_true] at moved
          exact moved.1
        rw [if_pos moved']
        exact (passes_lt (by simpa [flag] using moved')).le
      · rw [if_neg moved']

end sorted

end

end V4L2Codec2.Spec
