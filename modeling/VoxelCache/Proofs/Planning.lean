import VoxelCache.Residency.Basic
import VoxelCache.TexturePlan
import Mathlib.Tactic.Positivity
import Mathlib.Tactic.Ring

/-!
# Planned textures and the slots in them

A plan takes the least texture size among the halvings of the largest one that needs no
more textures.  Residencies lay their slots out row by row, and refuse textures that are
wider than a packed bucket.  Both computations are compared here, for devices whose
largest texture size is a power of two.

A plan of smaller textures must never be too small for a bucket: as long as one texture
does not hold a bucket, halving it takes more textures, so that the search stops before.

**Results.**
* `TexturePlan.size_le_iff`: which sizes a plan does not exceed.
* `Residency.create_of_plan`: a residency can be created from a plan unless the plan is wider
  than a packed bucket, and it has as many slots as was planned.
-/

namespace VoxelCache

section Planning

variable {size packing required : Nat}

namespace TexturePlan

/-- A count is the least number of textures that hold all voxels. -/
theorem exactTextureCount_le_iff
    {count : Nat}
    (h : 0 < voxelsPerTexture size packing) :
    exactTextureCount size packing required ≤ count ↔
      voxelsOf required ≤ count * voxelsPerTexture size packing := by
  unfold exactTextureCount
  rw [← Nat.lt_succ_iff, Nat.div_lt_iff_lt_mul h, Nat.succ_mul]
  omega

/-- The textures counted hold all voxels. -/
theorem voxelsOf_le
    (required : Nat)
    (h : 0 < voxelsPerTexture size packing) :
    voxelsOf required ≤
      exactTextureCount size packing required * voxelsPerTexture size packing :=
  (exactTextureCount_le_iff h).mp (Nat.le_refl _)

theorem voxelsPerTexture_pos
    (hsize : 0 < size)
    (hpacking : 0 < packing) :
    0 < voxelsPerTexture size packing :=
  Nat.mul_pos (Nat.mul_pos hpacking hsize) hsize

theorem voxelsPerTexture_two_pow
    (p j : Nat) :
    voxelsPerTexture (2 ^ j) (2 ^ p) = 2 ^ (p + 2 * j) := by
  unfold voxelsPerTexture
  ring

/-- Larger textures need no more textures. -/
theorem exactTextureCount_anti
    {size' : Nat}
    (hsize : 0 < size)
    (hpacking : 0 < packing)
    (h : size ≤ size') :
    exactTextureCount size' packing required ≤ exactTextureCount size packing required := by
  have hpos := voxelsPerTexture_pos hsize hpacking
  have hmore : voxelsPerTexture size packing ≤ voxelsPerTexture size' packing :=
    Nat.mul_le_mul (Nat.mul_le_mul_left packing h) h
  rw [exactTextureCount_le_iff (Nat.lt_of_lt_of_le hpos hmore)]
  exact Nat.le_trans (voxelsOf_le required hpos) (Nat.mul_le_mul_left _ hmore)

/-- Halving textures that hold less than the voxels needed takes more textures. -/
theorem exactTextureCount_double_lt
    (hsize : 0 < size)
    (hpacking : 0 < packing)
    (h : 4 * voxelsPerTexture size packing ≤ 3 * voxelsOf required) :
    exactTextureCount (2 * size) packing required < exactTextureCount size packing required := by
  have hpos := voxelsPerTexture_pos hsize hpacking
  have hdouble : voxelsPerTexture (2 * size) packing = 4 * voxelsPerTexture size packing := by
    unfold voxelsPerTexture
    ring
  have henough := voxelsOf_le required hpos
  have hsome : 0 < exactTextureCount size packing required := by
    by_contra hnone
    rw [Nat.eq_zero_of_not_pos hnone, Nat.zero_mul] at henough
    omega
  rw [Nat.lt_iff_le_pred hsome, exactTextureCount_le_iff (by omega), hdouble,
    Nat.mul_left_comm, Nat.sub_mul]
  omega

/-- One step of the search, if the counts that it compares fit their words. -/
theorem shrink_two_mul
    (hsize : 0 < size)
    (hhalf : exactTextureCount size packing required < wordModulus)
    (hwhole : exactTextureCount (2 * size) packing required < wordModulus) :
    shrink packing required (2 * size) =
      if exactTextureCount size packing required ≤ exactTextureCount (2 * size) packing required then
        shrink packing required size
      else
        2 * size := by
  rw [shrink, dif_pos (by omega), Nat.mul_div_cancel_left size (by omega)]
  simp only [textureCount, Nat.mod_eq_of_lt hhalf, Nat.mod_eq_of_lt hwhole]

/-- The search stops at the least power of two that needs no more textures. -/
theorem shrink_two_pow
    {k : Nat}
    (hpacking : 0 < packing)
    (hfits : ∀ size, shrink packing required (2 ^ k) / 2 ≤ size → size ≤ 2 ^ k →
      exactTextureCount size packing required < wordModulus) :
    ∃ j ≤ k,
      shrink packing required (2 ^ k) = 2 ^ j ∧
      exactTextureCount (2 ^ j) packing required = exactTextureCount (2 ^ k) packing required ∧
      ∀ i < j,
        exactTextureCount (2 ^ j) packing required < exactTextureCount (2 ^ i) packing required := by
  induction k with
  | zero => exact ⟨0, Nat.le_refl _, by simp [shrink], rfl, fun i hi => absurd hi (Nat.not_lt_zero i)⟩
  | succ k ih =>
      rw [Nat.pow_succ'] at hfits ⊢
      have hpos : 0 < 2 ^ k := Nat.two_pow_pos k
      have hmost := shrink_le packing required (2 * 2 ^ k)
      have hstep := shrink_two_mul hpos (hfits (2 ^ k) (by omega) (by omega))
        (hfits (2 * 2 ^ k) (by omega) (Nat.le_refl _))
      split at hstep
      case isTrue hless =>
        rw [hstep] at hfits ⊢
        obtain ⟨j, hj, hsize, hcount, hleast⟩ :=
          ih fun size hlow hhigh => hfits size hlow (by omega)
        exact ⟨j, by omega, hsize,
          hcount.trans (Nat.le_antisymm hless (exactTextureCount_anti hpos hpacking (by omega))),
          hleast⟩
      case isFalse hmore =>
        refine ⟨k + 1, Nat.le_refl _, by rw [hstep, Nat.pow_succ'], by rw [Nat.pow_succ'], ?_⟩
        intro i hi
        have hle : (2 : Nat) ^ i ≤ 2 ^ k := Nat.pow_le_pow_right (by omega) (by omega)
        rw [Nat.pow_succ']
        exact Nat.lt_of_lt_of_le (Nat.lt_of_not_le hmore)
          (exactTextureCount_anti (Nat.two_pow_pos i) hpacking hle)

theorem packingOf_cases
    (bytes : Nat) :
    packingOf bytes = 1 ∨ packingOf bytes = 2 ∨ packingOf bytes = 4 := by
  unfold packingOf
  split <;> omega

theorem exists_packingOf
    (bytes : Nat) :
    ∃ i ≤ 2, packingOf bytes = 2 ^ i := by
  unfold packingOf
  split
  · exact ⟨2, by omega, rfl⟩
  · exact ⟨1, by omega, rfl⟩
  · exact ⟨0, by omega, rfl⟩

theorem packingOf_pos
    (bytes : Nat) :
    0 < packingOf bytes := by
  obtain ⟨i, _, hi⟩ := exists_packingOf bytes
  rw [hi]
  exact Nat.two_pow_pos i

/--
No number of textures that the planner compares exceeds its word, and neither does the
number of buckets for which it plans.
-/
structure FitsWords (plan : TexturePlan) (limits : DeviceLimits) (required : Nat) : Prop where
  counts : ∀ size, plan.size / 2 ≤ size → size ≤ limits.textureSize →
    exactTextureCount size plan.packing required < wordModulus
  buckets :
    plan.packing * plan.count * plan.size * plan.size / bucketVoxels < wordModulus

section ForLayer

variable {limits : DeviceLimits} {bytes k : Nat}

/-- Size and number of the textures of a plan. -/
theorem forLayer_two_pow
    (hlimit : limits.textureSize = 2 ^ k)
    (hfits : (forLayer limits bytes required).FitsWords limits required) :
    ∃ j ≤ k,
      forLayer limits bytes required =
        ⟨2 ^ j, exactTextureCount (2 ^ j) (packingOf bytes) required, packingOf bytes⟩ ∧
      exactTextureCount (2 ^ j) (packingOf bytes) required =
        exactTextureCount limits.textureSize (packingOf bytes) required ∧
      ∀ i < j,
        exactTextureCount (2 ^ j) (packingOf bytes) required <
          exactTextureCount (2 ^ i) (packingOf bytes) required := by
  have hmax : max (2 ^ k) 1 = 2 ^ k := Nat.max_eq_left (Nat.two_pow_pos k)
  have hcounts := hfits.counts
  simp only [forLayer, hlimit, hmax] at hcounts
  obtain ⟨j, hj, hsize, hcount, hleast⟩ := shrink_two_pow (packingOf_pos bytes) hcounts
  rw [hsize] at hcounts
  have hle : (2 : Nat) ^ j ≤ 2 ^ k := Nat.pow_le_pow_right (by omega) hj
  refine ⟨j, hj, ?_, by rw [hcount, hlimit], hleast⟩
  simp only [forLayer, hlimit, hmax, hsize, textureCount,
    Nat.mod_eq_of_lt (hcounts (2 ^ j) (Nat.div_le_self _ _) hle)]

/-- A plan exceeds a size exactly if textures of that size would not do. -/
theorem size_le_iff
    {e : Nat}
    (hlimit : limits.textureSize = 2 ^ k)
    (hfits : (forLayer limits bytes required).FitsWords limits required) :
    (forLayer limits bytes required).size ≤ 2 ^ e ↔
      limits.textureSize ≤ 2 ^ e ∨
        exactTextureCount (2 ^ e) (packingOf bytes) required ≤
          exactTextureCount limits.textureSize (packingOf bytes) required := by
  obtain ⟨j, hj, hplan, hcount, hleast⟩ := forLayer_two_pow hlimit hfits
  rw [hplan, ← hcount]
  constructor
  · exact fun h => .inr (exactTextureCount_anti (Nat.two_pow_pos j) (packingOf_pos bytes) h)
  · rintro (h | h)
    · rw [hlimit] at h
      exact Nat.le_trans (Nat.pow_le_pow_right (by omega) hj) h
    · refine Nat.pow_le_pow_right (by omega) ?_
      by_contra hlt
      exact absurd h (Nat.not_le_of_lt (hleast e (by omega)))

/-- The textures of a plan are not too small for a bucket. -/
theorem bucketVoxels_le
    (hlimit : limits.textureSize = 2 ^ k)
    (hminimum : limits.meetsMinimum)
    (hrequired : 1 ≤ required)
    (hfits : (forLayer limits bytes required).FitsWords limits required) :
    let plan := forLayer limits bytes required
    bucketVoxels ≤ voxelsPerTexture plan.size plan.packing := by
  have hpacking := packingOf_pos bytes
  obtain ⟨p, _, hp⟩ := exists_packingOf bytes
  obtain ⟨j, hj, hplan, hcount, -⟩ := forLayer_two_pow hlimit hfits
  have hk : 12 ≤ k := by
    have hleast : 2 ^ 12 ≤ limits.textureSize := by
      simp only [DeviceLimits.meetsMinimum, Bool.and_eq_true, decide_eq_true_eq] at hminimum
      exact hminimum.1
    rwa [hlimit, Nat.pow_le_pow_iff_right (by omega)] at hleast
  have hvoxels : voxelsPerTexture (2 ^ j) (packingOf bytes) = 2 ^ (p + 2 * j) := by
    rw [hp, voxelsPerTexture_two_pow]
  have hbucket : bucketVoxels = 2 ^ 15 := rfl
  rw [hplan]
  dsimp only
  rw [hvoxels, hbucket]
  refine Nat.pow_le_pow_right (by omega) ?_
  by_contra hsmall
  -- Then even textures of twice the size need fewer textures.
  have hdouble : exactTextureCount (2 * 2 ^ j) (packingOf bytes) required <
      exactTextureCount (2 ^ j) (packingOf bytes) required := by
    refine exactTextureCount_double_lt (Nat.two_pow_pos j) hpacking ?_
    have hle : (2 : Nat) ^ (p + 2 * j) ≤ 2 ^ 14 := Nat.pow_le_pow_right (by omega) (by omega)
    rw [hvoxels, voxelsOf, hbucket]
    omega
  have hanti : exactTextureCount limits.textureSize (packingOf bytes) required ≤
      exactTextureCount (2 * 2 ^ j) (packingOf bytes) required := by
    refine exactTextureCount_anti (by positivity) hpacking ?_
    rw [hlimit, ← Nat.pow_succ']
    exact Nat.pow_le_pow_right (by omega) (by omega)
  omega

end ForLayer

end TexturePlan

namespace SlotLayout

variable {width rows slots : Nat}

theorem packedBucket_two_pow
    {p : Nat}
    (h : p ≤ 2) :
    packedBucket (2 ^ p) = 2 ^ (15 - p) := by
  rw [packedBucket, show bucketVoxels = 2 ^ 15 from rfl, Nat.pow_div (by omega) (by omega)]

/-- The rows that a packed bucket takes up divide a texture that is not too narrow. -/
theorem exists_rows
    {bytes j : Nat}
    (hbucket : bucketVoxels ≤ TexturePlan.voxelsPerTexture (2 ^ j) (TexturePlan.packingOf bytes))
    (hwidest : 2 ^ j ≤ packedBucket (TexturePlan.packingOf bytes)) :
    ∃ rows slots,
      packedBucket (TexturePlan.packingOf bytes) = rows * 2 ^ j ∧
      2 ^ j = slots * rows := by
  obtain ⟨p, hp2, hp⟩ := TexturePlan.exists_packingOf bytes
  rw [hp, packedBucket_two_pow hp2] at hwidest ⊢
  rw [hp, TexturePlan.voxelsPerTexture_two_pow, show bucketVoxels = 2 ^ 15 from rfl] at hbucket
  rw [Nat.pow_le_pow_iff_right (by omega)] at hwidest hbucket
  refine ⟨2 ^ (15 - p - j), 2 ^ (p + 2 * j - 15), ?_, ?_⟩
  · rw [← Nat.pow_add, Nat.sub_add_cancel hwidest]
  · rw [← Nat.pow_add]
    congr 1
    omega

/-- Textures whose rows divide a packed bucket hold whole slots. -/
theorem create_of_rows
    (textures : Nat)
    (hpacking : packing = 1 ∨ packing = 2 ∨ packing = 4)
    (hrows : packedBucket packing = rows * width)
    (hslots : width = slots * rows)
    (hpos : 0 < width) :
    create width textures packing = .ok ⟨width, textures, packing, rows, slots⟩ := by
  have hrowsPos : 0 < rows := Nat.pos_of_ne_zero fun h => by simp [hslots, h] at hpos
  have hslotsPos : 0 < slots := Nat.pos_of_ne_zero fun h => by simp [hslots, h] at hpos
  have hdiv : rows * width / width = rows := Nat.mul_div_cancel rows hpos
  have htall : rows ≤ width := hslots ▸ Nat.le_mul_of_pos_left rows hslotsPos
  have hmany : width / rows = slots := by rw [hslots, Nat.mul_div_cancel slots hrowsPos]
  simp only [create, hrows, hdiv, hmany]
  rw [if_neg (by omega), if_neg (by rw [Nat.mul_mod_left]; omega), if_neg (by omega)]

/-- Textures wider than a packed bucket are refused. -/
theorem create_of_wider
    (textures : Nat)
    (hpacking : packing = 1 ∨ packing = 2 ∨ packing = 4)
    (hwider : packedBucket packing < width) :
    create width textures packing = .error (.ragged (packedBucket packing) width) := by
  have hpos : packedBucket packing ≠ 0 := by
    rcases hpacking with rfl | rfl | rfl <;> decide
  simp only [create]
  rw [if_neg (by omega), if_pos (by rw [Nat.mod_eq_of_lt hwider]; omega)]

/-- A bucket takes up as many voxels as it has. -/
theorem packing_mul_packedBucket
    (hpacking : packing = 1 ∨ packing = 2 ∨ packing = 4) :
    packing * packedBucket packing = bucketVoxels := by
  rcases hpacking with rfl | rfl | rfl <;> rfl

/-- The voxels of all textures are those of all slots. -/
theorem voxels_eq
    (textures : Nat)
    (hpacking : packing = 1 ∨ packing = 2 ∨ packing = 4)
    (hrows : packedBucket packing = rows * width)
    (hslots : width = slots * rows) :
    textures * TexturePlan.voxelsPerTexture width packing = slots * textures * bucketVoxels := by
  rw [← packing_mul_packedBucket hpacking, hrows, TexturePlan.voxelsPerTexture]
  calc textures * (packing * width * width)
      = textures * (packing * width * (slots * rows)) := by rw [← hslots]
    _ = slots * textures * (packing * (rows * width)) := by ring

end SlotLayout

namespace Residency

variable {limits : DeviceLimits} {bytes k : Nat} {settings : Settings}

/--
A plan leads to a residency exactly if its textures are not wider than a packed bucket.
They are wider if the largest texture is, and packed-bucket wide textures would be more.
The residency has the planned number of slots, which suffices for the buckets required.
-/
theorem create_of_plan
    (hlimit : limits.textureSize = 2 ^ k)
    (hcheck : limits.check.1 = .ok ())
    (hrequired : 1 ≤ required)
    (hfits : (TexturePlan.forLayer limits bytes required).FitsWords limits required)
    (hsettings : settings.fault? = none)
    (s : Scene) :
    let plan := TexturePlan.forLayer limits bytes required
    let widest := SlotLayout.packedBucket plan.packing
    let created := create s plan.size plan.count plan.packing settings
    (plan.size ≤ widest ↔
      limits.textureSize ≤ widest ∨
        TexturePlan.exactTextureCount widest plan.packing required ≤
          TexturePlan.exactTextureCount limits.textureSize plan.packing required) ∧
    (plan.size ≤ widest →
      ∃ m, created.1 = .ok m ∧ m.capacity = plan.capacity ∧ required ≤ m.capacity) ∧
    (widest < plan.size →
      created = (.error (.layout (.ragged widest plan.size)), s)) := by
  have hminimum : limits.meetsMinimum = true := by
    by_contra hbelow
    rw [DeviceLimits.check, if_neg hbelow] at hcheck
    cases hcheck
  have hpacking := TexturePlan.packingOf_cases bytes
  have hbucket := TexturePlan.bucketVoxels_le hlimit hminimum hrequired hfits
  have hwords := hfits.buckets
  obtain ⟨p, hp2, hp⟩ := TexturePlan.exists_packingOf bytes
  have hsize := TexturePlan.size_le_iff (e := 15 - p) hlimit hfits
  rw [← SlotLayout.packedBucket_two_pow hp2, ← hp] at hsize
  obtain ⟨j, _, hplan, -, -⟩ := TexturePlan.forLayer_two_pow hlimit hfits
  have hvalid : settings.check = .ok settings := Settings.check_eq_ok_iff.mpr hsettings
  dsimp only
  rw [hplan] at hbucket hwords hsize ⊢
  dsimp only [TexturePlan.capacity, TexturePlan.bucketCapacity] at hbucket hwords hsize ⊢
  rw [Nat.mod_eq_of_lt hwords]
  have hcount := TexturePlan.voxelsOf_le required
    (TexturePlan.voxelsPerTexture_pos (Nat.two_pow_pos j) (TexturePlan.packingOf_pos bytes))
  generalize TexturePlan.exactTextureCount (2 ^ j) (TexturePlan.packingOf bytes) required = count
    at hcount ⊢
  refine ⟨hsize, ?_, ?_⟩
  · intro hwidest
    obtain ⟨rows, slots, hrows, hslots⟩ := SlotLayout.exists_rows hbucket hwidest
    have hvoxels := SlotLayout.voxels_eq count hpacking hrows hslots
    rw [create, hvalid, SlotLayout.create_of_rows count hpacking hrows hslots (Nat.two_pow_pos j)]
    refine ⟨_, rfl, ?_, ?_⟩
    · calc slots * count
          = slots * count * bucketVoxels / bucketVoxels :=
            (Nat.mul_div_cancel _ (by decide)).symm
        _ = _ := by
            rw [← hvoxels, TexturePlan.voxelsPerTexture]
            congr 1
            ring
    · rw [hvoxels] at hcount
      exact Nat.le_of_mul_le_mul_right hcount (by decide)
  · intro hwider
    rw [create, hvalid, SlotLayout.create_of_wider count hpacking hwider]

/-- On a device of the least texture size, one texture of half that size holds 512 buckets. -/
theorem create_of_plan_of_512_buckets :
    TexturePlan.forLayer ⟨4096, 8⟩ 1 512 = ⟨2048, 1, 4⟩ ∧
    ∃ m, (create Scene.empty 2048 1 4 .standard).1 = .ok m ∧ m.capacity = 512 := by
  have hplan : TexturePlan.forLayer ⟨4096, 8⟩ 1 512 = ⟨2048, 1, 4⟩ := by
    simp [TexturePlan.forLayer, TexturePlan.shrink, TexturePlan.textureCount,
      TexturePlan.exactTextureCount, TexturePlan.packingOf, TexturePlan.voxelsOf,
      TexturePlan.voxelsPerTexture, bucketVoxels, bucketEdge, wordModulus]
  have hfits : (TexturePlan.forLayer ⟨4096, 8⟩ 1 512).FitsWords ⟨4096, 8⟩ 512 := by
    rw [hplan]
    refine ⟨fun size hleast _ => ?_, by decide⟩
    exact Nat.lt_of_le_of_lt (TexturePlan.exactTextureCount_anti (by decide) (by decide) hleast)
      (by decide)
  have hlimit : (⟨4096, 8⟩ : DeviceLimits).textureSize = 2 ^ 12 := rfl
  have hcheck : (⟨4096, 8⟩ : DeviceLimits).check.1 = .ok () := rfl
  have hsettings : Settings.standard.fault? = none := by decide
  obtain ⟨-, hok, -⟩ := create_of_plan hlimit hcheck (by decide) hfits hsettings Scene.empty
  rw [hplan] at hok
  obtain ⟨m, hm, hcapacity, -⟩ := hok (by decide)
  exact ⟨hplan, m, hm, hcapacity⟩

/-- A plan of one texture that is wider than a packed bucket is refused. -/
theorem create_of_wide_plan :
    let limits : DeviceLimits := ⟨16384, 16⟩
    let plan := TexturePlan.forLayer limits 1 8193
    limits.textureSize = 2 ^ 14 ∧
    limits.check.1 = .ok () ∧
    plan.FitsWords limits 8193 ∧
    Settings.standard.fault? = none ∧
    create Scene.empty plan.size plan.count plan.packing .standard =
      (.error (.layout (.ragged 8192 16384)), Scene.empty) := by
  have hplan : TexturePlan.forLayer ⟨16384, 16⟩ 1 8193 = ⟨16384, 1, 4⟩ := by
    simp [TexturePlan.forLayer, TexturePlan.shrink, TexturePlan.textureCount,
      TexturePlan.exactTextureCount, TexturePlan.packingOf, TexturePlan.voxelsOf,
      TexturePlan.voxelsPerTexture, bucketVoxels, bucketEdge, wordModulus]
  dsimp only
  rw [hplan]
  refine ⟨rfl, rfl, ⟨fun size hleast _ => ?_, by decide⟩, by decide, rfl⟩
  exact Nat.lt_of_le_of_lt (TexturePlan.exactTextureCount_anti (by decide) (by decide) hleast)
    (by decide)

end Residency

end Planning

end VoxelCache
