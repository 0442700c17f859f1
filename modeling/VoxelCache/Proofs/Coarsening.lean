import Mathlib.Data.List.Chain
import Mathlib.Data.Nat.Cast.Field
import Mathlib.Tactic.FieldSimp
import VoxelCache.Proofs.Borders

/-!
# Coarser addresses

Resolutions are **nested** if they are whole numbers and each of them is, on every axis, a
multiple of the finer one before it; the ratios may differ from axis to axis.  An address is
then moved to a coarser zoom step by dividing its coordinates by whole ratios and rounding down,
in exact arithmetic, whatever the signs of the coordinates.

**The argument.**  Rounding down after each of two divisions is the same as dividing once and
rounding down.  So the steps of a chain compose, and a position finds the addresses of the chain
by dividing and rounding down as well.

**Results.**
* `convert_eq_ok_iff_of_le`: coordinates at a coarser zoom step.
* `convert_of_convert`: a detour over a zoom step in between changes nothing.
* `covers_of_convert`: a coarser bucket covers what a finer one covers.
* `convert_finer_and_back`: the way to a finer zoom step and back.
* `coarserChain_composes`: what the chain of coarser addresses consists of.
-/

namespace VoxelCache

section Nesting

/-- Vectors that agree on each axis are equal. -/
theorem Vec3.ext_get
    {R : Type} {v w : Vec3 R}
    (h : ∀ axis, v.get axis = w.get axis) :
    v = w := by
  obtain ⟨x, y, z⟩ := v
  obtain ⟨x', y', z'⟩ := w
  have hx : x = x' := h .x
  have hy : y = y' := h .y
  have hz : z = z' := h .z
  rw [hx, hy, hz]

theorem Address.ext_get
    {a b : Address}
    (hcell : ∀ axis, a.cell.get axis = b.cell.get axis)
    (hzoom : a.zoomStep = b.zoomStep) :
    a = b := by
  rw [← a.ofCell_cell, ← b.ofCell_cell, Vec3.ext_get hcell, hzoom]

/-- Whether one resolution is a multiple of another one on every axis. -/
def IsMultiple (fine coarse : Vec3 Nat) : Prop :=
  ∀ axis, fine.get axis ∣ coarse.get axis

instance : DecidableRel IsMultiple :=
  fun fine coarse => inferInstanceAs (Decidable (∀ axis, fine.get axis ∣ coarse.get axis))

instance : IsTrans (Vec3 Nat) IsMultiple where
  trans _ _ _ h h' axis := (h axis).trans (h' axis)

/-- Whether resolutions are positive and each is a multiple of the finer one before it. -/
structure IsNested (factors : List (Vec3 Nat)) : Prop where
  positive : ∀ r ∈ factors, ∀ axis, 0 < r.get axis
  multiple : factors.IsChain IsMultiple

variable {factors : List (Vec3 Nat)} {fine coarse : Vec3 Nat} {i j : Nat}

namespace IsNested

theorem pos
    (h : IsNested factors)
    (hfine : factors[i]? = some fine)
    (axis : Axis) :
    0 < fine.get axis :=
  h.positive fine (List.mem_of_getElem? hfine) axis

/-- Not only neighbors are multiples of each other. -/
theorem dvd
    (h : IsNested factors)
    (hle : i ≤ j)
    (hfine : factors[i]? = some fine)
    (hcoarse : factors[j]? = some coarse)
    (axis : Axis) :
    fine.get axis ∣ coarse.get axis := by
  obtain ⟨hi, rfl⟩ := List.getElem?_eq_some_iff.mp hfine
  obtain ⟨hj, rfl⟩ := List.getElem?_eq_some_iff.mp hcoarse
  rcases Nat.lt_or_eq_of_le hle with hlt | rfl
  · exact List.pairwise_iff_getElem.mp h.multiple.pairwise i j hi hj hlt axis
  · exact Nat.dvd_refl _

end IsNested

/-- Steps of a fine grid that one step of a coarse grid spans, on an axis. -/
def ratio (fine coarse : Vec3 Nat) (axis : Axis) : Nat :=
  coarse.get axis / fine.get axis

theorem ratio_pos
    (h : IsNested factors)
    (hle : i ≤ j)
    (hfine : factors[i]? = some fine)
    (hcoarse : factors[j]? = some coarse)
    (axis : Axis) :
    0 < ratio fine coarse axis :=
  Nat.div_pos (Nat.le_of_dvd (h.pos hcoarse axis) (h.dvd hle hfine hcoarse axis))
    (h.pos hfine axis)

end Nesting

/-- A resolution in whole numbers, in exact arithmetic. -/
def Vec3.toRat (r : Vec3 Nat) : Vec3 ℚ :=
  r.map Nat.cast

theorem Vec3.get_toRat (r : Vec3 Nat) (axis : Axis) : r.toRat.get axis = r.get axis := by
  cases axis <;> rfl

namespace Pyramid

/-- Resolutions in whole numbers, in exact arithmetic. -/
def ofFactors (factors : List (Vec3 Nat)) : Pyramid ℚ :=
  factors.map Vec3.toRat

section Conversions

variable {factors : List (Vec3 Nat)} {own other coarse fine : Vec3 Nat} {a b : Address}
  {target between m n : Nat} {x : Int}

@[simp] theorem length_ofFactors (factors : List (Vec3 Nat)) :
    (ofFactors factors).length = factors.length :=
  List.length_map _

theorem resolution_ofFactors
    (hown : factors[target]? = some own) :
    (ofFactors factors).resolution target = .ok own.toRat := by
  rw [resolution_eq_ok_iff, ofFactors, List.getElem?_map, hown, Option.map_some]

theorem get_convertCell (r s : Vec3 ℚ) (cell : Vec3 Int) (axis : Axis) :
    (convertCell r s cell).get axis =
      clampCoordinate ⌊(cell.get axis : ℚ) / (s.get axis / r.get axis)⌋ := by
  cases axis <;> rfl

/-- An address can be moved to every zoom step that exists. -/
theorem exists_convert
    (hown : factors[a.zoomStep]? = some own)
    (hother : factors[target]? = some other) :
    ∃ b, (ofFactors factors).convert a target = .ok b ∧ b.zoomStep = target ∧
      ∀ axis, b.cell.get axis =
        clampCoordinate ⌊(a.cell.get axis : ℚ) / ((other.get axis : ℚ) / own.get axis)⌋ := by
  refine ⟨.ofCell (convertCell own.toRat other.toRat a.cell) target, ?_, rfl, ?_⟩
  · rw [convert, resolution_ofFactors hown, resolution_ofFactors hother]
  · intro axis
    rw [Address.cell_ofCell, get_convertCell, Vec3.get_toRat, Vec3.get_toRat]

/-- There is no way to a zoom step behind the coarsest one. -/
theorem convert_of_length_le
    (hzoom : a.zoomStep < factors.length)
    (h : factors.length ≤ target) :
    (ofFactors factors).convert a target = .error (.zoomStep target factors.length) := by
  have htarget : (ofFactors factors).resolution target =
      .error (.zoomStep target factors.length) := by
    rw [resolution_eq_error_iff, length_ofFactors]
    exact ⟨h, rfl⟩
  rw [convert, resolution_ofFactors (List.getElem?_eq_getElem hzoom), htarget]

/-- Wherever an address is moved to, its coordinates are in range. -/
theorem isInRange_of_convert
    {p : Pyramid ℚ}
    (h : p.convert a target = .ok b) :
    b.IsInRange := by
  unfold convert at h
  split at h
  · cases h
  · split at h
    · cases h
    · cases h
      intro axis
      rw [Address.cell_ofCell, get_convertCell]
      exact isCoordinate_clamp _

/-- What is left of a coordinate after division is a coordinate. -/
theorem isCoordinate_ediv
    (h : IsCoordinate x)
    (hn : 0 < n) :
    IsCoordinate (x / n) := by
  obtain ⟨hlow, hhigh⟩ := h
  have hn' : (0 : Int) < n := Int.natCast_pos.mpr hn
  rcases Int.le_total 0 x with hx | hx
  · have hquotient := Int.ediv_nonneg hx (Int.le_of_lt hn')
    exact ⟨Int.le_trans (by decide) hquotient, Int.le_trans (Int.ediv_le_self _ hx) hhigh⟩
  · have hquotient := Int.ediv_nonpos_of_nonpos_of_neg hx hn'
    exact ⟨Int.le_trans hlow (Int.self_le_ediv_of_nonpos_of_nonneg hx (Int.le_of_lt hn')),
      Int.le_trans hquotient (by decide)⟩

theorem floor_div_ratio
    (hdvd : m ∣ n)
    (hm : 0 < m)
    (x : Int) :
    ⌊(x : ℚ) / ((n : ℚ) / m)⌋ = x / (n / m : Nat) := by
  rw [← Nat.cast_div hdvd (Nat.cast_ne_zero.mpr (Nat.ne_of_gt hm))]
  exact Rat.floor_intCast_div_natCast x (n / m)

theorem floor_mul_ratio
    (hdvd : m ∣ n)
    (hm : 0 < m)
    (x : Int) :
    ⌊(x : ℚ) / ((m : ℚ) / n)⌋ = x * (n / m : Nat) := by
  have hwhole : (x : ℚ) / ((m : ℚ) / n) = (x * (n / m : Nat) : Int) := by
    rw [div_div_eq_mul_div, mul_div_assoc,
      ← Nat.cast_div hdvd (Nat.cast_ne_zero.mpr (Nat.ne_of_gt hm)), Int.cast_mul,
      Int.cast_natCast]
  rw [hwhole, Int.floor_intCast]

/-- At a coarser zoom step the coordinates are divided and rounded down. -/
theorem convert_eq_ok_iff_of_le
    (hnested : IsNested factors)
    (hrange : a.IsInRange)
    (hle : a.zoomStep ≤ target)
    (hown : factors[a.zoomStep]? = some own)
    (hcoarse : factors[target]? = some coarse) :
    (ofFactors factors).convert a target = .ok b ↔
      b.zoomStep = target ∧ ∀ axis, b.cell.get axis = a.cell.get axis / ratio own coarse axis := by
  obtain ⟨c, hconvert, hzoom, hclamped⟩ := exists_convert hown hcoarse
  have hcell : ∀ axis, c.cell.get axis = a.cell.get axis / ratio own coarse axis := by
    intro axis
    have hcoordinate := isCoordinate_ediv (hrange axis) (ratio_pos hnested hle hown hcoarse axis)
    rw [hclamped, floor_div_ratio (hnested.dvd hle hown hcoarse axis) (hnested.pos hown axis)]
    exact clampCoordinate_of_mem hcoordinate.1 hcoordinate.2
  rw [hconvert, Except.ok.injEq]
  constructor
  · rintro rfl
    exact ⟨hzoom, hcell⟩
  · rintro ⟨hzoom', hcell'⟩
    exact Address.ext_get (fun axis => (hcell axis).trans (hcell' axis).symm)
      (hzoom.trans hzoom'.symm)

/-- At a finer zoom step the coordinates are multiplied, if that does not lead out of range. -/
theorem exists_convert_of_ge
    (hnested : IsNested factors)
    (hle : target ≤ a.zoomStep)
    (hown : factors[a.zoomStep]? = some own)
    (hfine : factors[target]? = some fine)
    (hfits : ∀ axis, IsCoordinate (a.cell.get axis * ratio fine own axis)) :
    ∃ b, (ofFactors factors).convert a target = .ok b ∧ b.zoomStep = target ∧
      ∀ axis, b.cell.get axis = a.cell.get axis * ratio fine own axis := by
  obtain ⟨b, hconvert, hzoom, hclamped⟩ := exists_convert hown hfine
  refine ⟨b, hconvert, hzoom, ?_⟩
  intro axis
  rw [hclamped, floor_mul_ratio (hnested.dvd hle hfine hown axis) (hnested.pos hfine axis)]
  exact clampCoordinate_of_mem (hfits axis).1 (hfits axis).2

end Conversions

section Chains

variable {factors : List (Vec3 Nat)} {own coarse fine : Vec3 Nat} {a b c : Address}
  {target between : Nat}

theorem ratio_self
    (hnested : IsNested factors)
    (hown : factors[target]? = some own)
    (axis : Axis) :
    ratio own own axis = 1 :=
  Nat.div_self (hnested.pos hown axis)

/-- The ratios of two steps multiply to that of both steps together. -/
theorem ratio_mul_ratio
    {i j k : Nat} {middle : Vec3 Nat}
    (hnested : IsNested factors)
    (hij : i ≤ j)
    (hjk : j ≤ k)
    (hfine : factors[i]? = some fine)
    (hmiddle : factors[j]? = some middle)
    (hcoarse : factors[k]? = some coarse)
    (axis : Axis) :
    ratio fine middle axis * ratio middle coarse axis = ratio fine coarse axis := by
  have hpos := hnested.pos hfine axis
  unfold ratio
  obtain ⟨m, hm⟩ := hnested.dvd hij hfine hmiddle axis
  obtain ⟨n, hn⟩ := hnested.dvd hjk hmiddle hcoarse axis
  have hmiddlePos := hnested.pos hmiddle axis
  rw [hn, Nat.mul_div_cancel_left n hmiddlePos, hm, Nat.mul_div_cancel_left m hpos,
    Nat.mul_assoc, Nat.mul_div_cancel_left _ hpos]

/-- At its own zoom step an address stays what it is. -/
theorem convert_self
    (hnested : IsNested factors)
    (hzoom : a.zoomStep < factors.length)
    (hrange : a.IsInRange) :
    (ofFactors factors).convert a a.zoomStep = .ok a := by
  have hown := List.getElem?_eq_getElem hzoom
  rw [convert_eq_ok_iff_of_le hnested hrange (Nat.le_refl _) hown hown]
  refine ⟨rfl, fun axis => ?_⟩
  rw [ratio_self hnested hown, Nat.cast_one, Int.ediv_one]

/-- A detour over a zoom step in between changes nothing. -/
theorem convert_of_convert
    (hnested : IsNested factors)
    (hrange : a.IsInRange)
    (hb : (ofFactors factors).convert a between = .ok b)
    (hbetween : a.zoomStep ≤ between)
    (htarget : between ≤ target) :
    (ofFactors factors).convert b target = (ofFactors factors).convert a target := by
  have hlength : between < factors.length := by
    simpa using lt_length_of_convert hb
  have hzoom := zoomStep_of_convert hb
  subst hzoom
  rcases Nat.lt_or_ge target factors.length with hlt | hge
  · have hown := List.getElem?_eq_getElem (Nat.lt_of_le_of_lt hbetween hlength)
    have hmiddle := List.getElem?_eq_getElem hlength
    have hcoarse := List.getElem?_eq_getElem hlt
    obtain ⟨_, hcell⟩ := (convert_eq_ok_iff_of_le hnested hrange hbetween hown hmiddle).mp hb
    obtain ⟨c, hc, _⟩ := exists_convert (a := a) hown hcoarse
    obtain ⟨hzoom', hcell'⟩ :=
      (convert_eq_ok_iff_of_le hnested hrange (hbetween.trans htarget) hown hcoarse).mp hc
    rw [hc, convert_eq_ok_iff_of_le hnested (isInRange_of_convert hb) htarget hmiddle hcoarse]
    refine ⟨hzoom', fun axis => ?_⟩
    rw [hcell', hcell, Int.ediv_ediv_of_nonneg (Int.natCast_nonneg _), ← Nat.cast_mul,
      ratio_mul_ratio hnested hbetween htarget hown hmiddle hcoarse]
  · rw [convert_of_length_le hlength hge,
      convert_of_length_le (Nat.lt_of_le_of_lt hbetween hlength) hge]

theorem eq_ok_of_toOption_eq_some
    {ε α : Type} {x : Except ε α} {c : α}
    (h : x.toOption = some c) :
    x = .ok c := by
  cases x with
  | error _ => cases h
  | ok d => exact congrArg Except.ok (Option.some.inj h)

/-- The chain consists of what the address itself is moved to. -/
theorem getElem?_coarserChain
    (hnested : IsNested factors)
    (hzoom : a.zoomStep < factors.length)
    (hrange : a.IsInRange)
    (k : Nat) :
    (a :: (ofFactors factors).coarserChain a)[k]? =
      ((ofFactors factors).convert a (a.zoomStep + k)).toOption := by
  induction k generalizing a with
  | zero =>
      rw [Nat.add_zero, convert_self hnested hzoom hrange]
      rfl
  | succ k ih =>
      rw [List.getElem?_cons_succ]
      cases hcoarser : (ofFactors factors).coarser? a with
      | none =>
          have hlast : factors.length ≤ a.zoomStep + 1 := by
            refine Nat.not_lt.mp fun hlt => ?_
            rw [← length_ofFactors, ← isSome_coarser?_iff, hcoarser] at hlt
            cases hlt
          rw [coarserChain_of_eq_none hcoarser, convert_of_length_le hzoom (by omega)]
          rfl
      | some c =>
          obtain ⟨hstep, hlt⟩ := zoomStep_of_coarser? hcoarser
          rw [length_ofFactors] at hlt
          have hc : (ofFactors factors).convert a (a.zoomStep + 1) = .ok c :=
            eq_ok_of_toOption_eq_some hcoarser
          rw [coarserChain_of_eq_some hcoarser, ih (by omega) (isInRange_of_convert hc),
            convert_of_convert hnested hrange hc (by omega) (by omega), hstep, Nat.add_assoc,
            Nat.add_comm 1 k]

/-- What stands in the chain is what the address itself is moved to. -/
theorem exists_convert_of_mem_coarserChain
    (hnested : IsNested factors)
    (hzoom : a.zoomStep < factors.length)
    (hrange : a.IsInRange)
    (hc : c ∈ (ofFactors factors).coarserChain a) :
    ∃ target, a.zoomStep ≤ target ∧ (ofFactors factors).convert a target = .ok c := by
  obtain ⟨k, hk⟩ := List.mem_iff_getElem?.mp hc
  refine ⟨a.zoomStep + (k + 1), Nat.le_add_right _ _, eq_ok_of_toOption_eq_some ?_⟩
  rw [← getElem?_coarserChain hnested hzoom hrange, List.getElem?_cons_succ, hk]

/-- The way to a finer zoom step and back leads to where it began. -/
theorem convert_finer_and_back
    (hnested : IsNested factors)
    (hle : target ≤ a.zoomStep)
    (hown : factors[a.zoomStep]? = some own)
    (hfine : factors[target]? = some fine)
    (hfits : ∀ axis, IsCoordinate (a.cell.get axis * ratio fine own axis)) :
    ∃ b, (ofFactors factors).convert a target = .ok b ∧
      (∀ axis, b.cell.get axis = a.cell.get axis * ratio fine own axis) ∧
      (ofFactors factors).convert b a.zoomStep = .ok a := by
  obtain ⟨b, hconvert, hzoom, hcell⟩ := exists_convert_of_ge hnested hle hown hfine hfits
  refine ⟨b, hconvert, hcell, ?_⟩
  subst hzoom
  rw [convert_eq_ok_iff_of_le hnested (isInRange_of_convert hconvert) hle hfine hown]
  refine ⟨rfl, fun axis => ?_⟩
  have hratio := ratio_pos hnested hle hfine hown axis
  rw [hcell, Int.mul_ediv_cancel _ (Int.natCast_ne_zero.mpr (Nat.ne_of_gt hratio))]

end Chains

section Regions

/-- Whether a bucket covers a position: its voxels reach from its first corner to the next one. -/
def Covers (p : Pyramid ℚ) (a : Address) (position : Vec3 ℚ) : Prop :=
  ∃ r, p.resolution a.zoomStep = .ok r ∧
    ∀ axis,
      a.cell.get axis * (r.get axis * bucketEdge) ≤ position.get axis ∧
      position.get axis < (a.cell.get axis + 1) * (r.get axis * bucketEdge)

variable {factors : List (Vec3 Nat)} {own coarse : Vec3 Nat} {a b : Address}
  {target : Nat} {position : Vec3 ℚ}

/-- A position belongs to the bucket that division and rounding down lead to. -/
theorem covers_iff
    (hnested : IsNested factors)
    (hown : factors[a.zoomStep]? = some own) :
    (ofFactors factors).Covers a position ↔
      ∀ axis, ⌊position.get axis / (own.get axis * bucketEdge)⌋ = a.cell.get axis := by
  have hiff : (ofFactors factors).Covers a position ↔
      ∀ axis, a.cell.get axis * ((own.get axis : ℚ) * bucketEdge) ≤ position.get axis ∧
        position.get axis < (a.cell.get axis + 1) * ((own.get axis : ℚ) * bucketEdge) := by
    unfold Covers
    rw [resolution_ofFactors hown]
    simp only [Except.ok.injEq, exists_eq_left', Vec3.get_toRat]
  rw [hiff]
  refine forall_congr' fun axis => ?_
  have hedge : (0 : ℚ) < own.get axis * bucketEdge :=
    mul_pos (Nat.cast_pos.mpr (hnested.pos hown axis)) (by norm_num [bucketEdge])
  rw [Int.floor_eq_iff, le_div_iff₀ hedge, div_lt_iff₀ hedge]

/-- A coarser bucket covers what a finer one covers. -/
theorem covers_of_convert
    (hnested : IsNested factors)
    (hrange : a.IsInRange)
    (hle : a.zoomStep ≤ target)
    (hb : (ofFactors factors).convert a target = .ok b)
    (hcovers : (ofFactors factors).Covers a position) :
    (ofFactors factors).Covers b position := by
  have hlength : target < factors.length := by
    simpa using lt_length_of_convert hb
  have hown := List.getElem?_eq_getElem (Nat.lt_of_le_of_lt hle hlength)
  have hcoarse := List.getElem?_eq_getElem hlength
  obtain ⟨rfl, hcell⟩ := (convert_eq_ok_iff_of_le hnested hrange hle hown hcoarse).mp hb
  rw [covers_iff hnested hown] at hcovers
  rw [covers_iff hnested hcoarse]
  intro axis
  generalize factors[a.zoomStep] = own at *
  generalize factors[b.zoomStep] = coarse at *
  have hpos : (own.get axis : ℚ) ≠ 0 :=
    Nat.cast_ne_zero.mpr (Nat.ne_of_gt (hnested.pos hown axis))
  have hscale : (coarse.get axis : ℚ) * bucketEdge =
      own.get axis * bucketEdge * ratio own coarse axis := by
    rw [ratio, Nat.cast_div (hnested.dvd hle hown hcoarse axis) hpos]
    field_simp
  rw [hscale, ← div_div, Int.floor_div_natCast, hcovers, hcell]

/-- A position is looked up in the bucket that covers it. -/
theorem addressAt_of_covers
    (hnested : IsNested factors)
    (hrange : a.IsInRange)
    (hown : factors[a.zoomStep]? = some own)
    (hcovers : (ofFactors factors).Covers a position) :
    (ofFactors factors).addressAt position a.zoomStep = .ok a := by
  rw [covers_iff hnested hown] at hcovers
  rw [addressAt, bucketPositionAt, resolution_ofFactors hown]
  refine congrArg Except.ok (Address.ext_get (fun axis => ?_) rfl)
  have hget : (cellOf (bucketPosition position own.toRat)).get axis =
      clampCoordinate ⌊position.get axis / (own.get axis * bucketEdge)⌋ := by
    cases axis <;> rfl
  rw [Address.cell_ofCell, hget, hcovers]
  exact clampCoordinate_of_mem (hrange axis).1 (hrange axis).2

end Regions

section Law

variable {factors : List (Vec3 Nat)} {a : Address}

/--
The chain above an address reaches the coarsest zoom step, and each of its addresses is what the
first address itself is moved to.  They cover whatever that address covers, and such positions
are looked up there.  An address that is moved to a finer zoom step, in range, is found again by
moving back.
-/
theorem coarserChain_composes
    (hnested : IsNested factors)
    (hzoom : a.zoomStep < factors.length)
    (hrange : a.IsInRange) :
    let p := ofFactors factors
    (p.coarserChain a).length = factors.length - (a.zoomStep + 1) ∧
    (∀ k, (a :: p.coarserChain a)[k]? = (p.convert a (a.zoomStep + k)).toOption) ∧
    (∀ c ∈ p.coarserChain a, ∀ position, p.Covers a position →
      p.Covers c position ∧ p.addressAt position c.zoomStep = .ok c) ∧
    (∀ target own fine, target ≤ a.zoomStep →
      factors[a.zoomStep]? = some own →
      factors[target]? = some fine →
      (∀ axis, IsCoordinate (a.cell.get axis * ratio fine own axis)) →
      ∃ b, p.convert a target = .ok b ∧
        (∀ axis, b.cell.get axis = a.cell.get axis * ratio fine own axis) ∧
        p.convert b a.zoomStep = .ok a) := by
  intro p
  refine ⟨?_, getElem?_coarserChain hnested hzoom hrange, ?_, ?_⟩
  · rw [length_coarserChain, length_ofFactors]
  · intro c hc position hcovers
    obtain ⟨target, hle, hconvert⟩ :=
      exists_convert_of_mem_coarserChain hnested hzoom hrange hc
    have hcoarse := covers_of_convert hnested hrange hle hconvert hcovers
    have hlength : c.zoomStep < factors.length := by
      rw [zoomStep_of_convert hconvert]
      simpa using lt_length_of_convert hconvert
    exact ⟨hcoarse, addressAt_of_covers hnested (isInRange_of_convert hconvert)
      (List.getElem?_eq_getElem hlength) hcoarse⟩
  · exact fun target own fine hle hown hfine => convert_finer_and_back hnested hle hown hfine

/-- Below zero, and with ratios that differ from axis to axis. -/
theorem coarserChain_composes_of_anisotropic :
    let factors : List (Vec3 Nat) := [⟨1, 1, 1⟩, ⟨2, 2, 1⟩, ⟨4, 4, 2⟩, ⟨8, 4, 4⟩]
    let p := ofFactors factors
    let a : Address := ⟨5, -3, 7, 1⟩
    let corner : Vec3 ℚ := ⟨320, -192, 224⟩
    IsNested factors ∧ a.zoomStep < factors.length ∧ a.IsInRange ∧
      (p.coarserChain a).length = 2 ∧
      (p.coarserChain a)[0]? = some ⟨2, -2, 3, 2⟩ ∧
      (p.coarserChain a)[1]? = some ⟨1, -2, 1, 3⟩ ∧
      p.Covers a corner ∧
      p.Covers ⟨1, -2, 1, 3⟩ corner ∧
      p.convert a 0 = .ok ⟨10, -6, 7, 0⟩ ∧
      p.convert ⟨10, -6, 7, 0⟩ 1 = .ok a := by
  intro factors p a corner
  have hnested : IsNested factors := ⟨by decide, by decide⟩
  have hrange : a.IsInRange := by decide
  have hzoom : a.zoomStep < factors.length := by decide
  obtain ⟨hlength, hchain, hcovered, hback⟩ := coarserChain_composes hnested hzoom hrange
  have hfirst : (p.coarserChain a)[0]? = some ⟨2, -2, 3, 2⟩ := (hchain 1).trans (by decide +kernel)
  have hsecond : (p.coarserChain a)[1]? = some ⟨1, -2, 1, 3⟩ := (hchain 2).trans (by decide +kernel)
  have hcovers : p.Covers a corner := by
    exact ⟨Vec3.toRat ⟨2, 2, 1⟩, rfl, by decide +kernel⟩
  refine ⟨hnested, hzoom, hrange, hlength, hfirst, hsecond, hcovers,
    (hcovered _ (List.mem_of_getElem? hsecond) corner hcovers).1, ?_⟩
  obtain ⟨b, hb, _, hagain⟩ := hback 0 ⟨2, 2, 1⟩ ⟨1, 1, 1⟩ (by decide) rfl rfl (by decide)
  have hfound : p.convert a 0 = .ok ⟨10, -6, 7, 0⟩ := by decide +kernel
  rw [hfound] at hb
  cases hb
  exact ⟨hfound, hagain⟩

end Law

end Pyramid

end VoxelCache
