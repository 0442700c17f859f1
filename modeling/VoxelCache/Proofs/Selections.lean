import VoxelCache.FlightView
import Mathlib.Data.List.Nodup

/-!
# Shape of a selection

The addresses in view are those of the buckets that samples ask for, each at its first
occurrence, and behind them a box of addresses of the next coarser zoom step, if there is one.
A box lists its points in three nested loops, so that each of them comes once.  Its corners are
the converted corners of the least box of cells around five landmarks of the screen, moved
outwards.

**Results.**
* `mem_samples_iff`: the samples are the points of shifted rows on the screen.
* `encloses_bounds`: the bounds of some cells are those of the least box around them.
* `mem_box_iff`, `nodup_box`: a box lists exactly the points between its corners, each once.
* `cell_mem_fine`: the bucket of every sample is among the fine addresses.
* `addresses_fine_then_box`: what a selection consists of, and what a limit leaves of it.
-/

namespace VoxelCache
namespace FlightView

section Samples

/--
Whether a point of the screen is sampled.  Rows are a stride apart, and so are the samples of a
row; a row starts and ends within the screen, shifted outwards or inwards on both sides.
-/
structure IsSample (x y : Int) : Prop where
  row : -halfScreen ≤ y ∧ y ≤ halfScreen ∧ sampleStride ∣ y - -halfScreen
  column : -halfScreen - y.tmod sampleStride ≤ x ∧ x ≤ halfScreen + y.tmod sampleStride ∧
    sampleStride ∣ x - (-halfScreen - y.tmod sampleStride)

theorem mem_samples_iff
    {x y : Int} :
    (x, y) ∈ samples ↔ IsSample x y := by
  have hstride : 0 < sampleStride := by decide
  simp only [samples, rowSamples, List.mem_flatMap, List.mem_map]
  constructor
  · rintro ⟨row, hrow, column, hcolumn, hpoint⟩
    cases hpoint
    exact ⟨(mem_strides hstride).mp hrow, (mem_strides hstride).mp hcolumn⟩
  · intro h
    exact ⟨y, (mem_strides hstride).mpr h.row, x, (mem_strides hstride).mpr h.column, rfl⟩

end Samples

section Boxes

variable {low high : Vec3 Int} {zoomStep : Nat} {a : Address}

/-- Whether an address of a zoom step lies between two corners. -/
structure LiesBetween (low high : Vec3 Int) (zoomStep : Nat) (a : Address) : Prop where
  zoomStep : a.zoomStep = zoomStep
  x : low.x ≤ a.x ∧ a.x ≤ high.x
  y : low.y ≤ a.y ∧ a.y ≤ high.y
  z : low.z ≤ a.z ∧ a.z ≤ high.z

theorem mem_box_iff :
    a ∈ box low high zoomStep ↔ LiesBetween low high zoomStep a := by
  simp only [box, List.mem_flatMap, List.mem_map, mem_interval]
  constructor
  · rintro ⟨x, hx, y, hy, z, hz, rfl⟩
    exact ⟨rfl, hx, hy, hz⟩
  · rintro ⟨rfl, hx, hy, hz⟩
    exact ⟨a.x, hx, a.y, hy, a.z, hz, rfl⟩

theorem nodup_interval (first last : Int) : (interval first last).Nodup := by
  refine List.Nodup.map ?_ List.nodup_range
  intro k k' h
  dsimp only at h
  omega

/-- Lists that are put in a row repeat nothing if each entry tells which list it belongs to. -/
theorem nodup_flatMap_of_key
    {keys : List Int} {f : Int → List Address}
    (key : Address → Int)
    (hkeys : keys.Nodup)
    (hnodup : ∀ k, (f k).Nodup)
    (hkey : ∀ k, ∀ b ∈ f k, key b = k) :
    (keys.flatMap f).Nodup := by
  refine List.nodup_flatMap.mpr ⟨fun k _ => hnodup k, hkeys.imp ?_⟩
  intro k k' hne b hb hb'
  exact hne ((hkey k b hb).symm.trans (hkey k' b hb'))

/-- Every point of a box is listed once. -/
theorem nodup_box (low high : Vec3 Int) (zoomStep : Nat) : (box low high zoomStep).Nodup := by
  refine nodup_flatMap_of_key Address.x (nodup_interval _ _) (fun x => ?_) ?_
  · refine nodup_flatMap_of_key Address.y (nodup_interval _ _) (fun y => ?_) ?_
    · refine List.Nodup.map ?_ (nodup_interval _ _)
      intro z z' h
      exact congrArg Address.z h
    · intro y b hb
      obtain ⟨z, _, rfl⟩ := List.mem_map.mp hb
      rfl
  · intro x b hb
    obtain ⟨y, _, hb⟩ := List.mem_flatMap.mp hb
    obtain ⟨z, _, rfl⟩ := List.mem_map.mp hb
    rfl

end Boxes

section Bounds

variable {low high : Vec3 Int} {cells : List (Vec3 Int)}

/-- Whether two corners are those of the least box around some cells. -/
structure Encloses (low high : Vec3 Int) (cells : List (Vec3 Int)) : Prop where
  mem : ∀ c ∈ cells, ∀ axis, low.get axis ≤ c.get axis ∧ c.get axis ≤ high.get axis
  low : ∀ axis, ∃ c ∈ cells, c.get axis = low.get axis
  high : ∀ axis, ∃ c ∈ cells, c.get axis = high.get axis

theorem get_zipWith
    (f : Int → Int → Int) (v w : Vec3 Int) (axis : Axis) :
    (Vec3.zipWith f v w).get axis = f (v.get axis) (w.get axis) := by
  cases axis <;> rfl

/-- Choosing a coordinate of two cells over and over chooses the extreme one of them all. -/
theorem foldl_zipWith_extreme
    {choose : Int → Int → Int} {r : Int → Int → Prop}
    (hrefl : ∀ m, r m m)
    (htrans : ∀ {k m n}, r k m → r m n → r k n)
    (hchoose : ∀ m n, choose m n = m ∨ choose m n = n)
    (hleft : ∀ m n, r (choose m n) m)
    (hright : ∀ m n, r (choose m n) n)
    (first : Vec3 Int) (rest : List (Vec3 Int)) (axis : Axis) :
    let chosen := (rest.foldl (Vec3.zipWith choose) first).get axis
    (∀ c ∈ first :: rest, r chosen (c.get axis)) ∧ ∃ c ∈ first :: rest, c.get axis = chosen := by
  induction rest generalizing first with
  | nil =>
      refine ⟨?_, first, List.mem_singleton_self _, rfl⟩
      intro c hc
      rw [List.mem_singleton.mp hc]
      exact hrefl _
  | cons second rest ih =>
      intro chosen
      obtain ⟨hextreme, c, hc, hchosen⟩ := ih (Vec3.zipWith choose first second)
      have hmet := hextreme _ List.mem_cons_self
      rw [get_zipWith] at hmet
      constructor
      · intro d hd
        rcases List.mem_cons.mp hd with rfl | hd
        · exact htrans hmet (hleft _ _)
        · rcases List.mem_cons.mp hd with rfl | hd
          · exact htrans hmet (hright _ _)
          · exact hextreme d (List.mem_cons_of_mem _ hd)
      · rcases List.mem_cons.mp hc with rfl | hc
        · rw [get_zipWith] at hchosen
          rcases hchoose (first.get axis) (second.get axis) with hsame | hsame
          · exact ⟨first, List.mem_cons_self, hsame.symm.trans hchosen⟩
          · exact ⟨second, List.mem_cons_of_mem _ List.mem_cons_self, hsame.symm.trans hchosen⟩
        · exact ⟨c, List.mem_cons_of_mem _ (List.mem_cons_of_mem _ hc), hchosen⟩

/-- The bounds of some cells are the corners of the least box around them. -/
theorem encloses_bounds (first : Vec3 Int) (rest : List (Vec3 Int)) :
    Encloses (bounds first rest).1 (bounds first rest).2 (first :: rest) := by
  have hleast := foldl_zipWith_extreme (r := (· ≤ ·)) Int.le_refl Int.le_trans (fun m n => by omega)
    Int.min_le_left Int.min_le_right first rest
  have hgreatest := foldl_zipWith_extreme (r := (· ≥ ·)) Int.le_refl (fun h h' => Int.le_trans h' h)
    (fun m n => by omega) Int.le_max_left Int.le_max_right first rest
  refine ⟨fun c hc axis => ⟨(hleast axis).1 c hc, (hgreatest axis).1 c hc⟩, ?_, ?_⟩
  · exact fun axis => (hleast axis).2
  · exact fun axis => (hgreatest axis).2

/-- The cells of the landmarks of the screen. -/
def landmarkCells (resolution : Vec3 Float) (radius : Float) (view : Affine) : List (Vec3 Int) :=
  landmarks.map fun landmark =>
    Pyramid.cellOf (Pyramid.bucketPosition (target radius view landmark) resolution)

/-- The coarse addresses in view make up a box around the landmarks. -/
theorem exists_coarse_eq_box
    (fineResolution coarseResolution : Vec3 Float) (radius : Float) (view : Affine)
    (zoomStep : Nat) :
    ∃ low high, Encloses low high (landmarkCells fineResolution radius view) ∧
      coarse fineResolution coarseResolution radius view zoomStep =
        box ((Pyramid.convertCell fineResolution coarseResolution low).map (· - boxMargin))
          ((Pyramid.convertCell fineResolution coarseResolution high).map (· + boxMargin))
          zoomStep :=
  ⟨_, _, encloses_bounds _ _, rfl⟩

end Bounds

section Selections

variable {p : Pyramid Float} {radius : Float} {view : Affine} {zoomStep : Nat}

/-- The bucket of every sample is among the fine addresses. -/
theorem cell_mem_fine
    {resolution : Vec3 Float} {sample : Int × Int}
    (h : sample ∈ samples) :
    .ofCell (Pyramid.cellOf (Pyramid.bucketPosition (target radius view sample) resolution))
      zoomStep ∈ fine resolution radius view zoomStep := by
  refine mem_firstOccurrences.mpr (List.mem_flatMap.mpr ⟨sample, h, ?_⟩)
  exact List.mem_map_of_mem List.mem_cons_self

/-- A zoom step that the pyramid does not have is refused, whatever the limit. -/
theorem addresses_of_length_le
    (h : p.length ≤ zoomStep)
    (limit : Option Nat) :
    addresses p radius view zoomStep limit = .error (.zoomStep zoomStep p.length) := by
  have hfault : p.resolution zoomStep = .error (.zoomStep zoomStep p.length) :=
    Pyramid.resolution_eq_error_iff.mpr ⟨h, rfl⟩
  rw [addresses, unlimited, hfault]
  rfl

/-- What a limit leaves of a list. -/
def cut (limit : Option Nat) (selection : List Address) : List Address :=
  match limit with
  | some n => selection.take n
  | none => selection

theorem addresses_of_unlimited
    {all : List Address}
    (h : unlimited p radius view zoomStep = .ok all)
    (limit : Option Nat) :
    addresses p radius view zoomStep limit = .ok (cut limit all) := by
  rw [addresses, h]
  cases limit <;> rfl

/--
The parts of a selection: fine addresses and, where the pyramid goes on, the points of a box of
coarser ones around the landmarks, none of them twice.
-/
structure IsSelection
    (p : Pyramid Float) (resolution : Vec3 Float) (radius : Float) (view : Affine)
    (zoomStep : Nat) (fine coarse : List Address) : Prop where
  nodup : (fine ++ coarse).Nodup
  fine : ∀ a ∈ fine, a.zoomStep = zoomStep
  coarse_nil : p.length ≤ zoomStep + 1 → coarse = []
  coarse : zoomStep + 1 < p.length → ∃ low high least greatest,
    Encloses low high (landmarkCells resolution radius view) ∧
    p.convert (.ofCell low zoomStep) (zoomStep + 1) = .ok least ∧
    p.convert (.ofCell high zoomStep) (zoomStep + 1) = .ok greatest ∧
    ∀ a, a ∈ coarse ↔ LiesBetween (least.cell.map (· - boxMargin))
      (greatest.cell.map (· + boxMargin)) (zoomStep + 1) a

section Parts

variable {resolution : Vec3 Float}

/-- The fine addresses alone, if the pyramid ends. -/
theorem isSelection_nil
    (resolution : Vec3 Float) (radius : Float) (view : Affine)
    (h : p.length ≤ zoomStep + 1) :
    IsSelection p resolution radius view zoomStep (fine resolution radius view zoomStep) [] where
  nodup := by
    rw [List.append_nil]
    exact nodup_firstOccurrences _
  fine _ ha := zoomStep_of_mem_fine ha
  coarse_nil _ := rfl
  coarse hmore := absurd hmore (Nat.not_lt.mpr h)

/-- The points of a box are of another zoom step than the fine addresses. -/
theorem isSelection_coarse
    {coarseResolution : Vec3 Float}
    (radius : Float) (view : Affine)
    (hfine : p.resolution zoomStep = .ok resolution)
    (hcoarse : p.resolution (zoomStep + 1) = .ok coarseResolution) :
    IsSelection p resolution radius view zoomStep (fine resolution radius view zoomStep)
      (coarse resolution coarseResolution radius view (zoomStep + 1)) := by
  obtain ⟨low, high, hencloses, hbox⟩ :=
    exists_coarse_eq_box resolution coarseResolution radius view (zoomStep + 1)
  have hconvert : ∀ cell, p.convert (.ofCell cell zoomStep) (zoomStep + 1) =
      .ok (.ofCell (Pyramid.convertCell resolution coarseResolution cell) (zoomStep + 1)) := by
    intro cell
    rw [Pyramid.convert, show (Address.ofCell cell zoomStep).zoomStep = zoomStep from rfl, hfine,
      hcoarse]
    rfl
  rw [hbox]
  refine ⟨?_, fun _ ha => zoomStep_of_mem_fine ha, ?_, fun _ => ?_⟩
  · refine List.nodup_append.mpr ⟨nodup_firstOccurrences _, nodup_box _ _ _, ?_⟩
    rintro a ha b hb rfl
    have hsame := (zoomStep_of_mem_fine ha).symm.trans (mem_box_iff.mp hb).zoomStep
    omega
  · intro hlast
    have hmore := (List.getElem?_eq_some_iff.mp (Pyramid.resolution_eq_ok_iff.mp hcoarse)).1
    exact absurd hmore (Nat.not_lt.mpr hlast)
  · exact ⟨low, high, _, _, hencloses, hconvert low, hconvert high, fun _ => mem_box_iff⟩

/-- At a zoom step of the pyramid there is a selection, with the fine addresses in front. -/
theorem exists_unlimited_eq
    (radius : Float) (view : Affine)
    (h : p.resolution zoomStep = .ok resolution) :
    ∃ coarse,
      IsSelection p resolution radius view zoomStep (fine resolution radius view zoomStep) coarse ∧
      unlimited p radius view zoomStep =
        .ok (fine resolution radius view zoomStep ++ coarse) := by
  cases hcoarser : p[zoomStep + 1]? with
  | none =>
      refine ⟨[], isSelection_nil _ _ _ (List.getElem?_eq_none_iff.mp hcoarser), ?_⟩
      rw [unlimited, h]
      simp only [hcoarser]
      rfl
  | some coarseResolution =>
      refine ⟨_, isSelection_coarse radius view h (Pyramid.resolution_eq_ok_iff.mpr hcoarser), ?_⟩
      rw [unlimited, h]
      simp only [hcoarser]
      rfl

end Parts

/--
What is in view.  A zoom step that the pyramid does not have is refused.  Otherwise the
selection succeeds: it lists fine addresses, among them the bucket of every sample, and then
the points of a box of the next coarser zoom step if there is one, and no address twice.  A
limit leaves the first addresses of the same list.
-/
theorem addresses_fine_then_box
    (p : Pyramid Float) (radius : Float) (view : Affine) (zoomStep : Nat) :
    (p.length ≤ zoomStep → ∀ limit,
      addresses p radius view zoomStep limit = .error (.zoomStep zoomStep p.length)) ∧
    (zoomStep < p.length → ∃ resolution fine coarse,
      p.resolution zoomStep = .ok resolution ∧
      IsSelection p resolution radius view zoomStep fine coarse ∧
      (∀ limit, addresses p radius view zoomStep limit = .ok (cut limit (fine ++ coarse))) ∧
      ∀ x y, IsSample x y →
        ∃ a ∈ fine, p.addressAt (target radius view (x, y)) zoomStep = .ok a) := by
  refine ⟨addresses_of_length_le, ?_⟩
  intro hlt
  obtain ⟨resolution, hresolution⟩ : ∃ resolution, p.resolution zoomStep = .ok resolution :=
    ⟨_, Pyramid.resolution_eq_ok_iff.mpr (List.getElem?_eq_getElem hlt)⟩
  obtain ⟨coarse, hselection, hall⟩ := exists_unlimited_eq radius view hresolution
  refine ⟨resolution, _, coarse, hresolution, hselection, addresses_of_unlimited hall, ?_⟩
  intro x y hsample
  refine ⟨_, cell_mem_fine (mem_samples_iff.mpr hsample), ?_⟩
  rw [Pyramid.addressAt, Pyramid.bucketPositionAt, hresolution]
  rfl

/-- A pyramid of two zoom steps has no third one, and shows the corner of the screen. -/
theorem addresses_fine_then_box_of_two_zoomSteps :
    let p : Pyramid Float := [.splat 1, .splat 2]
    let view : Affine := ⟨⟨1, 0, 0, 0⟩, ⟨0, 1, 0, 0⟩, ⟨0, 0, 1, 0⟩, ⟨0, 0, 0, 1⟩⟩
    addresses p 140 view 2 (some 5) = .error (.zoomStep 2 2) ∧
      ∃ all a, addresses p 140 view 0 none = .ok all ∧ all.Nodup ∧
        addresses p 140 view 0 (some 5) = .ok (all.take 5) ∧
        p.addressAt (target 140 view (-184, -188)) 0 = .ok a ∧ a ∈ all := by
  intro p view
  refine ⟨(addresses_fine_then_box p 140 view 2).1 (by decide) (some 5), ?_⟩
  obtain ⟨_, fine, coarse, _, hselection, haddresses, hsamples⟩ :=
    (addresses_fine_then_box p 140 view 0).2 (by decide)
  obtain ⟨a, ha, haddress⟩ := hsamples (-184) (-188) ⟨by decide, by decide⟩
  exact ⟨fine ++ coarse, a, haddresses none, hselection.nodup, haddresses (some 5), haddress,
    List.mem_append_left _ ha⟩

end Selections

end FlightView
end VoxelCache
