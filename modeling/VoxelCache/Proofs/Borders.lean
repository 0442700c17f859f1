import VoxelCache.FlightView
import Mathlib.Data.Rat.Floor
import Mathlib.Tactic.Linarith

/-!
# Neighbours behind borders

A sample asks for the bucket that holds it and, on each axis, for the neighbour behind the
border to which it is close.  Read in exact arithmetic, the bucket is found by rounding down,
but the distance is measured by the remainder after whole steps toward zero.

From zero on both agree, and a neighbour is asked for exactly if the border before it is less
than `borderVoxels` voxels away.  Below zero the remainder is never positive, so that the lower
neighbour is always asked for and the upper one never, wherever the sample lies in its bucket.

**Results.**
* `mem_cellsAt_iff`: the cells of a sample are its own one and those behind its borders.
* `border?_of_nonneg`, `border?_of_neg`: the border that the remainder leads to.
* `neighbours_byDistance_fromZero`: which neighbours a sample asks for.
-/

namespace VoxelCache

section Rationals

/-- Exact arithmetic. -/
instance : Scalar ℚ where
  ofInt := fun n => n
  mul := fun a b => a * b
  div := fun a b => a / b
  isBelow := fun a b => decide (a < b)
  fraction := fun t => t - (if t < 0 then ⌈t⌉ else ⌊t⌋ : ℤ)
  cell := fun t => clampCoordinate ⌊t⌋

variable {t : ℚ}

theorem Scalar.fraction_of_nonneg
    (h : 0 ≤ t) :
    Scalar.fraction t = t - ⌊t⌋ := by
  show t - (if t < 0 then ⌈t⌉ else ⌊t⌋ : ℤ) = t - ⌊t⌋
  rw [if_neg (not_lt.mpr h)]

theorem Scalar.fraction_nonpos_of_neg
    (h : t < 0) :
    Scalar.fraction t ≤ 0 := by
  show t - (if t < 0 then ⌈t⌉ else ⌊t⌋ : ℤ) ≤ 0
  rw [if_pos h]
  exact sub_nonpos.mpr (Int.le_ceil t)

end Rationals

namespace FlightView

section Cells

variable {cell : Vec3 Int} {axis axis' : Axis} {border border' : Border}

/-- Steps from a cell to the one behind a border of it. -/
def Border.shift : Border → Int
  | .lower => -1
  | .upper => 1

theorem Border.shift_ne_zero (border : Border) : border.shift ≠ 0 := by
  cases border <;> decide

theorem Border.shift_inj
    (h : border.shift = border'.shift) :
    border = border' := by
  revert h
  cases border <;> cases border' <;> decide

/-- The cell behind a border differs from the cell itself on the axis of the border only. -/
theorem get_behind
    (cell : Vec3 Int) (axis axis' : Axis) (border : Border) :
    (behind cell axis border).get axis' =
      if axis' = axis then cell.get axis + border.shift else cell.get axis' := by
  cases border <;> cases axis <;> cases axis' <;> rfl

theorem get_behind_self
    (cell : Vec3 Int) (axis : Axis) (border : Border) :
    (behind cell axis border).get axis = cell.get axis + border.shift := by
  rw [get_behind, if_pos rfl]

theorem get_behind_self_ne
    (cell : Vec3 Int) (axis : Axis) (border : Border) :
    (behind cell axis border).get axis ≠ cell.get axis := by
  have hshift := border.shift_ne_zero
  rw [get_behind_self]
  omega

/-- Different borders have different cells behind them. -/
theorem behind_inj
    (h : behind cell axis border = behind cell axis' border') :
    axis = axis' ∧ border = border' := by
  have haxis : axis = axis' := by
    by_contra hne
    have hsame := get_behind cell axis' axis border'
    rw [← h, if_neg hne] at hsame
    exact get_behind_self_ne cell axis border hsame
  subst haxis
  refine ⟨rfl, Border.shift_inj ?_⟩
  have hget := congrArg (Vec3.get · axis) h
  simp only [get_behind_self] at hget
  exact Int.add_left_cancel hget

variable {R : Type} [Scalar R] {v : Vec3 R} {c : Vec3 Int}

/-- The cells of a sample are its own one and those behind the borders it is close to. -/
theorem mem_cellsAt_iff :
    c ∈ cellsAt v ↔ c = Pyramid.cellOf v ∨
      ∃ axis border, border? (v.get axis) = some border ∧
        c = behind (Pyramid.cellOf v) axis border := by
  rw [cellsAt, List.mem_cons, List.mem_filterMap]
  refine or_congr_right ⟨?_, ?_⟩
  · rintro ⟨axis, _, hc⟩
    obtain ⟨border, hborder, rfl⟩ := Option.map_eq_some_iff.mp hc
    exact ⟨axis, border, hborder, rfl⟩
  · rintro ⟨axis, border, hborder, rfl⟩
    refine ⟨axis, by cases axis <;> decide, ?_⟩
    rw [hborder, Option.map_some]

theorem behind_mem_cellsAt_iff :
    behind (Pyramid.cellOf v) axis border ∈ cellsAt v ↔ border? (v.get axis) = some border := by
  rw [mem_cellsAt_iff]
  constructor
  · rintro (hself | ⟨axis', border', hborder, hsame⟩)
    · exact absurd (congrArg (Vec3.get · axis) hself) (get_behind_self_ne _ axis border)
    · obtain ⟨rfl, rfl⟩ := behind_inj hsame
      exact hborder
  · exact fun hborder => .inr ⟨axis, border, hborder, rfl⟩

/-- A cell of a sample that leaves the sample's own one on an axis lies behind a border there. -/
theorem eq_behind_of_get_ne
    (hc : c ∈ cellsAt v)
    (hne : c.get axis ≠ (Pyramid.cellOf v).get axis) :
    ∃ border, c = behind (Pyramid.cellOf v) axis border := by
  rcases mem_cellsAt_iff.mp hc with rfl | ⟨axis', border, _, rfl⟩
  · exact absurd rfl hne
  · have haxis : axis = axis' := by
      by_contra hother
      rw [get_behind, if_neg hother] at hne
      exact hne rfl
    exact ⟨border, by rw [haxis]⟩

end Cells

section Distances

variable {t : ℚ}

/-- Voxels between the lower border of a bucket and a position in it. -/
def voxelsAbove (t : ℚ) : ℚ :=
  (t - ⌊t⌋) * bucketEdge

/-- The border that is less than `borderVoxels` voxels away. -/
def nearBorder? (t : ℚ) : Option Border :=
  if voxelsAbove t < borderVoxels then
    some .lower
  else if bucketEdge - borderVoxels < voxelsAbove t then
    some .upper
  else
    none

theorem nearBorder?_eq_lower_iff :
    nearBorder? t = some .lower ↔ voxelsAbove t < borderVoxels := by
  unfold nearBorder?
  split
  · rename_i hlower
    exact iff_of_true rfl hlower
  · rename_i hlower
    split <;> simp [hlower]

/-- No position is close to both borders of its bucket. -/
theorem nearBorder?_eq_upper_iff :
    nearBorder? t = some .upper ↔ (bucketEdge : ℚ) - borderVoxels < voxelsAbove t := by
  have hbuckets : (borderVoxels : ℚ) < bucketEdge - borderVoxels := by
    norm_num [borderVoxels, bucketEdge]
  unfold nearBorder?
  split
  · rename_i hlower
    simp only [Option.some.injEq, reduceCtorEq, false_iff, not_lt]
    exact (hlower.trans hbuckets).le
  · split <;> rename_i hupper <;> simp [hupper]

/-- The border that a remainder leads to. -/
theorem border?_eq_of_fraction
    (t : ℚ) :
    border? t =
      if Scalar.fraction t * bucketEdge < borderVoxels then some .lower
      else if (bucketEdge : ℚ) - borderVoxels < Scalar.fraction t * bucketEdge then some .upper
      else none := by
  have hedge : (Scalar.ofInt (bucketEdge : Int) : ℚ) = bucketEdge := Int.cast_natCast _
  have hrest : (Scalar.ofInt ((bucketEdge : Int) - borderVoxels) : ℚ) =
      bucketEdge - borderVoxels := by
    show (((bucketEdge : Int) - borderVoxels : Int) : ℚ) = _
    rw [Int.cast_sub, Int.cast_natCast]
  unfold border?
  dsimp only
  rw [hedge, hrest]
  show (if decide (_ < (borderVoxels : ℚ)) = true then _ else
    if decide (_ < _) = true then _ else _) = _
  simp only [decide_eq_true_eq]
  rfl

/-- From zero on, the remainder is the distance from the lower border. -/
theorem border?_of_nonneg
    (h : 0 ≤ t) :
    border? t = nearBorder? t := by
  rw [border?_eq_of_fraction, Scalar.fraction_of_nonneg h]
  rfl

/-- Below zero, the remainder always leads to the lower border. -/
theorem border?_of_neg
    (h : t < 0) :
    border? t = some .lower := by
  have hedge : (0 : ℚ) ≤ bucketEdge := Nat.cast_nonneg _
  have hborder : (0 : ℚ) < borderVoxels := by norm_num [borderVoxels]
  have hrest : Scalar.fraction t * bucketEdge ≤ 0 :=
    mul_nonpos_of_nonpos_of_nonneg (Scalar.fraction_nonpos_of_neg h) hedge
  rw [border?_eq_of_fraction, if_pos (hrest.trans_lt hborder)]

/--
Which neighbours a sample asks for on an axis.  From zero on, these are the lower neighbour
exactly if the sample lies less than `borderVoxels` voxels above the lower border of its
bucket, and the upper one exactly if it lies less than that below the upper border.  Below
zero it is the lower neighbour, at any distance.  So the neighbour is the one behind the border
that is close exactly from zero on, and where the lower border is close.
-/
theorem neighbours_byDistance_fromZero
    (v : Vec3 ℚ) (axis : Axis) :
    let t := v.get axis
    let cell := Pyramid.cellOf v
    cell.get axis = clampCoordinate ⌊t⌋ ∧
      (behind cell axis .lower ∈ cellsAt v ↔ t < 0 ∨ voxelsAbove t < borderVoxels) ∧
      (behind cell axis .upper ∈ cellsAt v ↔
        0 ≤ t ∧ (bucketEdge : ℚ) - borderVoxels < voxelsAbove t) ∧
      (∀ c ∈ cellsAt v, c.get axis ≠ cell.get axis →
        c = behind cell axis .lower ∨ c = behind cell axis .upper) ∧
      (border? t = nearBorder? t ↔ 0 ≤ t ∨ voxelsAbove t < borderVoxels) := by
  intro t cell
  have hcell : cell.get axis = clampCoordinate ⌊t⌋ := by cases axis <;> rfl
  have hothers : ∀ c ∈ cellsAt v, c.get axis ≠ cell.get axis →
      c = behind cell axis .lower ∨ c = behind cell axis .upper := by
    intro c hc hne
    obtain ⟨border, hborder⟩ := eq_behind_of_get_ne hc hne
    cases border with
    | lower => exact .inl hborder
    | upper => exact .inr hborder
  rw [behind_mem_cellsAt_iff, behind_mem_cellsAt_iff]
  rcases lt_or_ge t 0 with hneg | hnonneg
  · have hborder : border? (v.get axis) = some .lower := border?_of_neg hneg
    refine ⟨hcell, ?_, ?_, hothers, ?_⟩
    · exact iff_of_true hborder (.inl hneg)
    · rw [hborder]
      exact iff_of_false (by simp) fun hupper => absurd hneg (not_lt.mpr hupper.1)
    · rw [show border? t = some .lower from hborder, eq_comm, nearBorder?_eq_lower_iff]
      exact (or_iff_right (not_le.mpr hneg)).symm
  · have hborder : border? (v.get axis) = nearBorder? t := border?_of_nonneg hnonneg
    refine ⟨hcell, ?_, ?_, hothers, ?_⟩
    · rw [hborder, nearBorder?_eq_lower_iff]
      exact (or_iff_right (not_lt.mpr hnonneg)).symm
    · rw [hborder, nearBorder?_eq_upper_iff]
      exact (and_iff_right hnonneg).symm
    · exact iff_of_true hborder (.inl hnonneg)

end Distances

end FlightView

end VoxelCache
