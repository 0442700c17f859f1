import VoxelCache.Digest
import VoxelCache.Fault
import VoxelCache.Space

/-!
# The bucket grid

A volume is stored at several resolutions.  A **pyramid** lists them: entry `k`
gives, per axis, the extent of one voxel of zoom step `k`, and larger zoom steps
are coarser.  Voxels are grouped into cubes, the **buckets**; the **address** of
a bucket is its position in the grid of its zoom step.

**Conversions.**  A position belongs to the bucket whose region holds it.  An
address is moved to another zoom step by dividing its coordinates by the ratio
of the two resolutions and rounding down, so a coarser address covers the finer
ones that lead to it.
-/

namespace VoxelCache

section Grid

/-- Voxels along one edge of a bucket. -/
def bucketEdge : Nat := 32

/-- Voxels in a bucket. -/
def bucketVoxels : Nat := bucketEdge * bucketEdge * bucketEdge

/-- Position of a bucket in the grid of one zoom step. -/
structure Address where
  x : Int
  y : Int
  z : Int
  zoomStep : Nat
deriving DecidableEq, Hashable

namespace Address

/-- The address in brackets, the zoom step set off by a semicolon. -/
def display (a : Address) : String :=
  s!"[{a.x}, {a.y}, {a.z}; {a.zoomStep}]"

instance : ToString Address where
  toString := display

/-- The four numbers of an address as 32-bit words. -/
def bytes (a : Address) : ByteArray :=
  Digest.word32 a.x ++ Digest.word32 a.y ++ Digest.word32 a.z ++ Digest.word32 a.zoomStep

/-- Order by coordinates, then by zoom step. -/
def isAtMost (a b : Address) : Bool :=
  if a.x ≠ b.x then a.x < b.x
  else if a.y ≠ b.y then a.y < b.y
  else if a.z ≠ b.z then a.z < b.z
  else a.zoomStep ≤ b.zoomStep

/-- The address of a cell at a zoom step. -/
def ofCell (cell : Vec3 Int) (zoomStep : Nat) : Address :=
  ⟨cell.x, cell.y, cell.z, zoomStep⟩

/-- The cell of an address in the grid of its zoom step. -/
def cell (a : Address) : Vec3 Int :=
  ⟨a.x, a.y, a.z⟩

@[simp] theorem cell_ofCell
    (cell : Vec3 Int) (zoomStep : Nat) :
    (ofCell cell zoomStep).cell = cell := by
  rfl

@[simp] theorem ofCell_cell
    (a : Address) :
    ofCell a.cell a.zoomStep = a := by
  rfl

/-- Whether the coordinates of an address are cell coordinates. -/
def IsInRange (a : Address) : Prop :=
  ∀ axis, IsCoordinate (a.cell.get axis)

instance (a : Address) : Decidable a.IsInRange :=
  inferInstanceAs (Decidable (∀ axis, IsCoordinate (a.cell.get axis)))

/-- The addresses of a list in order. -/
def sort (addresses : List Address) : List Address :=
  addresses.mergeSort isAtMost

/-- Number of different addresses in a list. -/
def countDistinct (addresses : List Address) : Nat :=
  addresses.eraseDups.length

end Address

/-- Resolutions of a volume, the finest first. -/
abbrev Pyramid (R : Type) := List (Vec3 R)

namespace Pyramid

variable {R : Type}

/-- The resolution of a zoom step. -/
def resolution (p : Pyramid R) (zoomStep : Nat) : Except Fault (Vec3 R) :=
  match p[zoomStep]? with
  | some r => .ok r
  | none => .error (.zoomStep zoomStep p.length)

theorem resolution_eq_ok_iff
    {p : Pyramid R} {zoomStep : Nat} {r : Vec3 R} :
    p.resolution zoomStep = .ok r ↔ p[zoomStep]? = some r := by
  unfold resolution
  cases p[zoomStep]? <;> simp

/-- There is a resolution for each zoom step below the length of the pyramid. -/
theorem resolution_eq_error_iff
    {p : Pyramid R} {zoomStep : Nat} {fault : Fault} :
    p.resolution zoomStep = .error fault ↔
      p.length ≤ zoomStep ∧ fault = .zoomStep zoomStep p.length := by
  unfold resolution
  cases h : p[zoomStep]? with
  | none =>
      simp [List.getElem?_eq_none_iff.mp h, eq_comm]
  | some r =>
      have := (List.getElem?_eq_some_iff.mp h).1
      simp
      omega

variable [Scalar R]

/-- Position in units of buckets of one resolution. -/
def bucketPosition (position resolution : Vec3 R) : Vec3 R :=
  position.div (resolution.scale (Scalar.ofInt bucketEdge))

/-- The cell that holds a position given in units of buckets. -/
def cellOf (bucketPosition : Vec3 R) : Vec3 Int :=
  bucketPosition.map Scalar.cell

/-- A position in units of buckets of one zoom step. -/
def bucketPositionAt
    (p : Pyramid R) (position : Vec3 R) (zoomStep : Nat) :
    Except Fault (Vec3 R) :=
  (p.resolution zoomStep).map (bucketPosition position)

/-- The address of the bucket that holds a position. -/
def addressAt
    (p : Pyramid R) (position : Vec3 R) (zoomStep : Nat) :
    Except Fault Address :=
  (p.bucketPositionAt position zoomStep).map fun b =>
    .ofCell (cellOf b) zoomStep

/-- Move a cell between the grids of two resolutions. -/
def convertCell (current target : Vec3 R) (cell : Vec3 Int) : Vec3 Int :=
  ((cell.map Scalar.ofInt).div (target.div current)).map Scalar.cell

/-- The address of the bucket that holds a bucket's first corner at another zoom step. -/
def convert (p : Pyramid R) (a : Address) (target : Nat) : Except Fault Address :=
  match p.resolution a.zoomStep with
  | .error fault => .error fault
  | .ok currentResolution =>
      match p.resolution target with
      | .error fault => .error fault
      | .ok targetResolution =>
          .ok (.ofCell (convertCell currentResolution targetResolution a.cell) target)

/-- The address one zoom step coarser, where the pyramid has one. -/
def coarser? (p : Pyramid R) (a : Address) : Option Address :=
  (p.convert a (a.zoomStep + 1)).toOption

theorem zoomStep_of_convert
    {p : Pyramid R} {a b : Address} {target : Nat}
    (h : p.convert a target = .ok b) :
    b.zoomStep = target := by
  unfold convert at h
  split at h
  · cases h
  · split at h
    · cases h
    · cases h
      rfl

theorem lt_length_of_convert
    {p : Pyramid R} {a b : Address} {target : Nat}
    (h : p.convert a target = .ok b) :
    target < p.length := by
  unfold convert resolution at h
  grind

theorem zoomStep_of_coarser?
    {p : Pyramid R} {a b : Address}
    (h : p.coarser? a = some b) :
    b.zoomStep = a.zoomStep + 1 ∧ a.zoomStep + 1 < p.length := by
  unfold coarser? at h
  cases hc : p.convert a (a.zoomStep + 1) with
  | error fault => simp [hc, Except.toOption] at h
  | ok c =>
      simp only [hc, Except.toOption, Option.some.injEq] at h
      subst h
      exact ⟨zoomStep_of_convert hc, lt_length_of_convert hc⟩

/-- An address has a coarser one exactly below the coarsest zoom step. -/
theorem isSome_coarser?_iff
    {p : Pyramid R} {a : Address} :
    (p.coarser? a).isSome = true ↔ a.zoomStep + 1 < p.length := by
  constructor
  · intro h
    obtain ⟨b, hb⟩ := Option.isSome_iff_exists.mp h
    exact (zoomStep_of_coarser? hb).2
  · intro h
    have hcurrent := List.getElem?_eq_getElem (l := p) (i := a.zoomStep) (by omega)
    have htarget := List.getElem?_eq_getElem (l := p) (i := a.zoomStep + 1) h
    simp [coarser?, convert, resolution, hcurrent, htarget, Except.toOption]

/-- All coarser addresses, each one zoom step coarser than the one before it. -/
def coarserChain (p : Pyramid R) (a : Address) : List Address :=
  match h : p.coarser? a with
  | none => []
  | some c =>
      have := zoomStep_of_coarser? h
      c :: p.coarserChain c
termination_by p.length - a.zoomStep

theorem coarserChain_of_eq_none
    {p : Pyramid R} {a : Address}
    (h : p.coarser? a = none) :
    p.coarserChain a = [] := by
  rw [coarserChain]
  split
  · rfl
  · rename_i hsome
    rw [h] at hsome
    cases hsome

theorem coarserChain_of_eq_some
    {p : Pyramid R} {a c : Address}
    (h : p.coarser? a = some c) :
    p.coarserChain a = c :: p.coarserChain c := by
  rw [coarserChain]
  split
  · rename_i hnone
    rw [h] at hnone
    cases hnone
  · rename_i d hsome
    rw [h] at hsome
    cases hsome
    rfl

/-- The chain above an address becomes coarser step by step. -/
theorem pairwise_coarserChain
    (p : Pyramid R) (a : Address) :
    (a :: p.coarserChain a).Pairwise fun b c => b.zoomStep < c.zoomStep := by
  fun_induction coarserChain p a with
  | case1 a h => exact List.pairwise_singleton _ _
  | case2 a c h _ ih =>
      obtain ⟨hstep, _⟩ := zoomStep_of_coarser? h
      refine List.pairwise_cons.mpr ⟨?_, ih⟩
      intro b hb
      rcases List.mem_cons.mp hb with rfl | hb
      · omega
      · have := (List.pairwise_cons.mp ih).1 b hb
        omega

theorem nodup_coarserChain
    (p : Pyramid R) (a : Address) :
    (a :: p.coarserChain a).Nodup := by
  refine (p.pairwise_coarserChain a).imp ?_
  rintro b c hlt rfl
  omega

/-- The chain of coarser addresses reaches the coarsest zoom step. -/
theorem length_coarserChain
    (p : Pyramid R) (a : Address) :
    (p.coarserChain a).length = p.length - (a.zoomStep + 1) := by
  fun_induction coarserChain p a with
  | case1 a h =>
      have hnone : ¬ (p.coarser? a).isSome = true := by
        simp [h]
      rw [isSome_coarser?_iff] at hnone
      simp
      omega
  | case2 a c h _ ih =>
      obtain ⟨hstep, hlt⟩ := zoomStep_of_coarser? h
      simp only [List.length_cons, ih, hstep]
      omega

end Pyramid

end Grid

end VoxelCache
