import Std.Data.HashSet
import VoxelCache.Grid
import VoxelCache.Journal

/-!
# Buckets in view of a flight camera

**Input.**  A pyramid, the radius of a spherical cap in front of the camera, the
map from camera space to the volume, and a zoom step.

**Algorithm.**  A regular grid of screen samples is projected onto the cap and
moved into the volume.  Each sample asks for the bucket that holds it and, on
each axis on which it lies close to the border of that bucket, for the
neighbour behind the border.  If the pyramid has a coarser zoom step, a box of
coarser buckets around the projected screen is added behind these.

**Result.**  The addresses in order, fine ones once each and before the coarse
ones; a limit cuts the list.
-/

namespace VoxelCache

section FlightView

namespace FlightView

/-- Half the edge of the square screen, in screen units. -/
def halfScreen : Int := 188

/-- Screen units between two samples of a row, and between two rows. -/
def sampleStride : Int := 8

/-- A sample closer than this number of voxels to a border asks for the neighbour too. -/
def borderVoxels : Int := 3

/-- Coarse buckets added on each side of the box. -/
def boxMargin : Int := 1

/-- All buckets in view are equally urgent. -/
def priority : Int := 0

/-- The integers from `first` to `last`, a stride apart. -/
def strides (first last stride : Int) : List Int :=
  (List.range ((last - first) / stride + 1).toNat).map fun k : Nat => first + stride * k

/-- The integers from `first` to `last`. -/
def interval (first last : Int) : List Int :=
  strides first last 1

theorem mem_strides
    {first last stride k : Int}
    (hstride : 0 < stride) :
    k ∈ strides first last stride ↔ first ≤ k ∧ k ≤ last ∧ stride ∣ k - first := by
  have hlast : ∀ n : Int, n ≤ (last - first) / stride ↔ first + stride * n ≤ last := by
    intro n
    rw [Int.le_ediv_iff_mul_le hstride, Int.mul_comm n]
    omega
  simp only [strides, List.mem_map, List.mem_range]
  constructor
  · rintro ⟨n, hn, rfl⟩
    have hsteps : 0 ≤ stride * (n : Int) := Int.mul_nonneg (Int.le_of_lt hstride) (by omega)
    exact ⟨by omega, (hlast n).mp (by omega), n, by omega⟩
  · rintro ⟨hfirst, hle, n, hn⟩
    have hpos : 0 ≤ n := Int.nonneg_of_mul_nonneg_right (by omega) hstride
    have hcount := (hlast n).mpr (by omega)
    refine ⟨n.toNat, by omega, ?_⟩
    rw [Int.toNat_of_nonneg hpos, ← hn]
    omega

theorem mem_interval
    {first last k : Int} :
    k ∈ interval first last ↔ first ≤ k ∧ k ≤ last := by
  rw [interval, mem_strides Int.one_pos]
  exact and_congr_right fun _ => and_iff_left (Int.one_dvd _)

/-- Samples of one row; rows are shifted against each other. -/
def rowSamples (y : Int) : List (Int × Int) :=
  let shift := y.tmod sampleStride
  (strides (-halfScreen - shift) (halfScreen + shift) sampleStride).map fun x => (x, y)

/-- All screen samples, row by row. -/
def samples : List (Int × Int) :=
  (strides (-halfScreen) halfScreen sampleStride).flatMap rowSamples

/-- Corners and center of the screen. -/
def landmarks : List (Int × Int) :=
  [(-halfScreen, -halfScreen), (halfScreen, -halfScreen), (0, 0),
    (-halfScreen, halfScreen), (halfScreen, halfScreen)]

/-- The point of the cap behind a point of the screen. -/
def ontoCap (radius : Float) (point : Vec3 Float) : Vec3 Float :=
  let vertex : Vec3 Float := ⟨0, 0, -radius⟩
  let offset := point.sub vertex
  (offset.scale (radius / offset.norm)).add vertex

/-- The point of the volume that a screen sample sees. -/
def target (radius : Float) (view : Affine) (sample : Int × Int) : Vec3 Float :=
  view.apply (ontoCap radius ⟨Float.ofInt sample.1, Float.ofInt sample.2, 0⟩)

/-- The border of a bucket to which a sample is close. -/
inductive Border where
  | lower
  | upper
deriving DecidableEq

section Neighbours

variable {R : Type} [Scalar R]

/-- The border that a coordinate, in units of buckets, is close to. -/
def border? (t : R) : Option Border :=
  let rest := Scalar.mul (Scalar.fraction t) (Scalar.ofInt bucketEdge)
  if Scalar.isBelow rest (Scalar.ofInt borderVoxels) then
    some .lower
  else if Scalar.isBelow (Scalar.ofInt (bucketEdge - borderVoxels)) rest then
    some .upper
  else
    none

/-- The cell behind a border. -/
def behind (cell : Vec3 Int) (axis : Axis) : Border → Vec3 Int
  | .lower => cell.modify axis (· - 1)
  | .upper => cell.modify axis (· + 1)

/-- The cells that a sample asks for. -/
def cellsAt (bucketPosition : Vec3 R) : List (Vec3 Int) :=
  let cell := Pyramid.cellOf bucketPosition
  cell :: Axis.all.filterMap fun axis =>
    (border? (bucketPosition.get axis)).map (behind cell axis)

end Neighbours

/-- Note an address unless it was met before; the one noted last stands first. -/
def note
    (state : Std.HashSet Address × List Address) (a : Address) :
    Std.HashSet Address × List Address :=
  let (met, noted) := state
  if met.contains a then (met, noted) else (met.insert a, a :: noted)

/-- The first occurrences of a list's addresses, in order. -/
def firstOccurrences (addresses : List Address) : List Address :=
  (addresses.foldl note (∅, [])).2.reverse

/-- Every address is noted exactly once. -/
theorem noted_of_met
    (addresses : List Address)
    (met : Std.HashSet Address) (noted : List Address)
    (hmet : ∀ a, met.contains a = true ↔ a ∈ noted)
    (hnodup : noted.Nodup) :
    (addresses.foldl note (met, noted)).2.Nodup ∧
      ∀ a, a ∈ (addresses.foldl note (met, noted)).2 ↔ a ∈ noted ∨ a ∈ addresses := by
  induction addresses generalizing met noted with
  | nil => simpa using hnodup
  | cons b rest ih =>
      rw [List.foldl_cons]
      cases hb : met.contains b with
      | true =>
          have hnote : note (met, noted) b = (met, noted) := by
            simp [note, hb]
          rw [hnote]
          refine ⟨(ih met noted hmet hnodup).1, ?_⟩
          intro a
          have hmem := (hmet b).mp hb
          rw [(ih met noted hmet hnodup).2, List.mem_cons]
          constructor
          · rintro (ha | ha)
            · exact .inl ha
            · exact .inr (.inr ha)
          · rintro (ha | rfl | ha)
            · exact .inl ha
            · exact .inl hmem
            · exact .inr ha
      | false =>
          have hnote : note (met, noted) b = (met.insert b, b :: noted) := by
            simp [note, hb]
          have hmet' : ∀ a, (met.insert b).contains a = true ↔ a ∈ b :: noted := by
            intro a
            rw [Std.HashSet.contains_insert, Bool.or_eq_true, beq_iff_eq, hmet,
              List.mem_cons, eq_comm]
          have hfresh : b ∉ noted := by
            rw [← hmet, hb]
            simp
          have hnodup' : (b :: noted).Nodup :=
            List.nodup_cons.mpr ⟨hfresh, hnodup⟩
          rw [hnote]
          refine ⟨(ih (met.insert b) (b :: noted) hmet' hnodup').1, ?_⟩
          intro a
          rw [(ih (met.insert b) (b :: noted) hmet' hnodup').2, List.mem_cons, List.mem_cons,
            or_assoc, or_left_comm]

theorem nodup_firstOccurrences
    (addresses : List Address) :
    (firstOccurrences addresses).Nodup := by
  have h := noted_of_met addresses ∅ [] (by simp) .nil
  exact (List.reverse_perm _).nodup_iff.mpr h.1

theorem mem_firstOccurrences
    {addresses : List Address} {a : Address} :
    a ∈ firstOccurrences addresses ↔ a ∈ addresses := by
  have h := noted_of_met addresses ∅ [] (by simp) .nil
  unfold firstOccurrences
  rw [List.mem_reverse, h.2]
  simp

/-- The fine addresses in view. -/
def fine
    (resolution : Vec3 Float) (radius : Float) (view : Affine) (zoomStep : Nat) :
    List Address :=
  firstOccurrences <| samples.flatMap fun sample =>
    (cellsAt (Pyramid.bucketPosition (target radius view sample) resolution)).map
      fun cell => .ofCell cell zoomStep

/-- All addresses of a zoom step from one corner to another. -/
def box (low high : Vec3 Int) (zoomStep : Nat) : List Address :=
  (interval low.x high.x).flatMap fun x =>
    (interval low.y high.y).flatMap fun y =>
      (interval low.z high.z).map fun z => ⟨x, y, z, zoomStep⟩

/-- Least and greatest coordinates of a list of cells. -/
def bounds (first : Vec3 Int) (rest : List (Vec3 Int)) : Vec3 Int × Vec3 Int :=
  (rest.foldl (Vec3.zipWith min) first, rest.foldl (Vec3.zipWith max) first)

/-- The box of coarse addresses around the projected screen. -/
def coarse
    (fineResolution coarseResolution : Vec3 Float)
    (radius : Float) (view : Affine) (zoomStep : Nat) :
    List Address :=
  let cells := landmarks.map fun sample =>
    Pyramid.cellOf (Pyramid.bucketPosition (target radius view sample) fineResolution)
  match cells with
  | [] => []
  | first :: rest =>
      let (low, high) := bounds first rest
      let convert := Pyramid.convertCell fineResolution coarseResolution
      box ((convert low).map (· - boxMargin)) ((convert high).map (· + boxMargin)) zoomStep

/-- All addresses in view. -/
def unlimited
    (p : Pyramid Float) (radius : Float) (view : Affine) (zoomStep : Nat) :
    Except Fault (List Address) :=
  (p.resolution zoomStep).map fun fineResolution =>
    let behindFine :=
      match p[zoomStep + 1]? with
      | some coarseResolution =>
          coarse fineResolution coarseResolution radius view (zoomStep + 1)
      | none => []
    fine fineResolution radius view zoomStep ++ behindFine

/-- The first addresses in view, as many as the limit allows. -/
def addresses
    (p : Pyramid Float) (radius : Float) (view : Affine) (zoomStep : Nat)
    (limit : Option Nat) :
    Except Fault (List Address) :=
  (unlimited p radius view zoomStep).map fun all =>
    match limit with
    | some n => all.take n
    | none => all

theorem zoomStep_of_mem_fine
    {resolution : Vec3 Float} {radius : Float} {view : Affine} {zoomStep : Nat} {a : Address}
    (h : a ∈ fine resolution radius view zoomStep) :
    a.zoomStep = zoomStep := by
  obtain ⟨sample, _, ha⟩ := List.mem_flatMap.mp (mem_firstOccurrences.mp h)
  obtain ⟨cell, _, rfl⟩ := List.mem_map.mp ha
  rfl

theorem zoomStep_of_mem_coarse
    {fineResolution coarseResolution : Vec3 Float} {radius : Float} {view : Affine}
    {zoomStep : Nat} {a : Address}
    (h : a ∈ coarse fineResolution coarseResolution radius view zoomStep) :
    a.zoomStep = zoomStep := by
  unfold coarse at h
  dsimp only at h
  split at h
  · cases h
  · obtain ⟨x, _, h⟩ := List.mem_flatMap.mp h
    obtain ⟨y, _, h⟩ := List.mem_flatMap.mp h
    obtain ⟨z, _, rfl⟩ := List.mem_map.mp h
    rfl

section Selections

variable {p : Pyramid Float} {radius : Float} {view : Affine} {zoomStep : Nat}
  {selection : List Address}

/-- All addresses in view belong to zoom steps of the pyramid. -/
theorem zoomStep_lt_of_mem_unlimited
    (h : unlimited p radius view zoomStep = .ok selection) :
    zoomStep < p.length ∧ ∀ a ∈ selection, a.zoomStep < p.length := by
  cases hfine : p.resolution zoomStep with
  | error fault =>
      rw [unlimited, hfine] at h
      cases h
  | ok fineResolution =>
      have hlt : zoomStep < p.length :=
        (List.getElem?_eq_some_iff.mp (Pyramid.resolution_eq_ok_iff.mp hfine)).1
      rw [unlimited, hfine] at h
      cases h
      refine ⟨hlt, ?_⟩
      intro a ha
      rcases List.mem_append.mp ha with ha | ha
      · rw [zoomStep_of_mem_fine ha]
        exact hlt
      · split at ha
        · rename_i coarseResolution hcoarse
          rw [zoomStep_of_mem_coarse ha]
          exact (List.getElem?_eq_some_iff.mp hcoarse).1
        · cases ha

theorem zoomStep_lt_of_mem_addresses
    {limit : Option Nat}
    (h : addresses p radius view zoomStep limit = .ok selection) :
    zoomStep < p.length ∧ ∀ a ∈ selection, a.zoomStep < p.length := by
  cases hall : unlimited p radius view zoomStep with
  | error fault =>
      rw [addresses, hall] at h
      cases h
  | ok all =>
      obtain ⟨hlt, hzoom⟩ := zoomStep_lt_of_mem_unlimited hall
      rw [addresses, hall] at h
      cases h
      refine ⟨hlt, ?_⟩
      intro a ha
      cases limit with
      | some n => exact hzoom a (List.mem_of_mem_take ha)
      | none => exact hzoom a ha

theorem length_addresses_le
    {limit : Nat}
    (h : addresses p radius view zoomStep (some limit) = .ok selection) :
    selection.length ≤ limit := by
  cases hall : unlimited p radius view zoomStep with
  | error fault =>
      rw [addresses, hall] at h
      cases h
  | ok all =>
      rw [addresses, hall] at h
      cases h
      exact List.length_take_le limit all

end Selections

/-- What the journal says about a selection. -/
def report (selection : List Address) (zoomStep : Nat) : Line :=
  ⟨.trace, s!"[flight_bucket_picker::determine] Enqueued {selection.length} buckets " ++
    s!"at zoom step {zoomStep}"⟩

end FlightView

end FlightView

end VoxelCache
