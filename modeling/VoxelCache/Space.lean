import VoxelCache.Scalar

/-!
# Vectors, rotations and affine maps

Positions are triples.  Componentwise operations are available for every
scalar type; lengths, rotations and affine maps are floating-point only.

**Evaluation order.**  Floating-point sums are evaluated from left to right and
no product is fused with a sum, so each operation below is one fixed expression.
-/

namespace VoxelCache

section Space

/-- One of the three axes. -/
inductive Axis where
  | x
  | y
  | z
deriving DecidableEq

namespace Axis

/-- All axes, in order. -/
def all : List Axis := [x, y, z]

/-- What holds on each of the three axes holds on every axis. -/
theorem forall_iff {P : Axis → Prop} : (∀ axis, P axis) ↔ P x ∧ P y ∧ P z := by
  constructor
  · intro h
    exact ⟨h x, h y, h z⟩
  · rintro ⟨hx, hy, hz⟩ axis
    cases axis with
    | x => exact hx
    | y => exact hy
    | z => exact hz

instance {P : Axis → Prop} [DecidablePred P] : Decidable (∀ axis, P axis) :=
  decidable_of_decidable_of_iff forall_iff.symm

end Axis

/-- A triple with one component per axis. -/
structure Vec3 (R : Type) where
  x : R
  y : R
  z : R
deriving DecidableEq

namespace Vec3

variable {R S T : Type}

/-- The triple with equal components. -/
def splat (a : R) : Vec3 R :=
  ⟨a, a, a⟩

/-- Component on one axis. -/
def get (v : Vec3 R) : Axis → R
  | .x => v.x
  | .y => v.y
  | .z => v.z

/-- Change the component on one axis. -/
def modify (v : Vec3 R) (axis : Axis) (f : R → R) : Vec3 R :=
  match axis with
  | .x => { v with x := f v.x }
  | .y => { v with y := f v.y }
  | .z => { v with z := f v.z }

def map (f : R → S) (v : Vec3 R) : Vec3 S :=
  ⟨f v.x, f v.y, f v.z⟩

def zipWith (f : R → S → T) (v : Vec3 R) (w : Vec3 S) : Vec3 T :=
  ⟨f v.x w.x, f v.y w.y, f v.z w.z⟩

/-- Quotient on each axis. -/
def div [Scalar R] (v w : Vec3 R) : Vec3 R :=
  zipWith Scalar.div v w

/-- Product with a scalar on each axis. -/
def scale [Scalar R] (v : Vec3 R) (a : R) : Vec3 R :=
  v.map fun c => Scalar.mul c a

def add (v w : Vec3 Float) : Vec3 Float :=
  zipWith (fun a b => a + b) v w

def sub (v w : Vec3 Float) : Vec3 Float :=
  zipWith (fun a b => a - b) v w

def dot (v w : Vec3 Float) : Float :=
  v.x * w.x + v.y * w.y + v.z * w.z

def cross (v w : Vec3 Float) : Vec3 Float :=
  ⟨v.y * w.z - w.y * v.z,
    v.z * w.x - w.z * v.x,
    v.x * w.y - w.x * v.y⟩

/-- Euclidean length. -/
def norm (v : Vec3 Float) : Float :=
  (dot v v).sqrt

end Vec3

/-- A rotation, as a quaternion. -/
structure Rotation where
  x : Float
  y : Float
  z : Float
  w : Float

namespace Rotation

def identity : Rotation :=
  ⟨0, 0, 0, 1⟩

/-- Rotation by an angle about one axis. -/
def about (axis : Axis) (angle : Float) : Rotation :=
  let s := (angle * 0.5).sin
  let c := (angle * 0.5).cos
  match axis with
  | .x => ⟨s, 0, 0, c⟩
  | .y => ⟨0, s, 0, c⟩
  | .z => ⟨0, 0, s, c⟩

/-- Composition: the right factor acts first. -/
def mul (p q : Rotation) : Rotation :=
  ⟨p.w * q.x + p.x * q.w + p.y * q.z - p.z * q.y,
    p.w * q.y - p.x * q.z + p.y * q.w + p.z * q.x,
    p.w * q.z + p.x * q.y - p.y * q.x + p.z * q.w,
    p.w * q.w - p.x * q.x - p.y * q.y - p.z * q.z⟩

/-- The rotation scaled to unit length. -/
def normalize (q : Rotation) : Rotation :=
  let k := 1 / (q.x * q.x + q.y * q.y + q.z * q.z + q.w * q.w).sqrt
  ⟨q.x * k, q.y * k, q.z * k, q.w * k⟩

/-- Rotate a vector. -/
def apply (q : Rotation) (v : Vec3 Float) : Vec3 Float :=
  let b : Vec3 Float := ⟨q.x, q.y, q.z⟩
  let along := v.scale (q.w * q.w - b.dot b)
  let onto := b.scale (v.dot b * 2)
  (along.add onto).add ((b.cross v).scale (q.w * 2))

end Rotation

/-- One column of an affine map: a direction or the image of the origin. -/
structure Column where
  x : Float
  y : Float
  z : Float
  w : Float

namespace Column

def scale (c : Column) (a : Float) : Column :=
  ⟨c.x * a, c.y * a, c.z * a, c.w * a⟩

def add (c d : Column) : Column :=
  ⟨c.x + d.x, c.y + d.y, c.z + d.z, c.w + d.w⟩

end Column

/-- An affine map of space, given by its four columns. -/
structure Affine where
  xAxis : Column
  yAxis : Column
  zAxis : Column
  origin : Column

namespace Affine

/-- Scale, then rotate, then shift. -/
def ofScaleRotationShift
    (s : Vec3 Float) (q : Rotation) (t : Vec3 Float) : Affine :=
  let x2 := q.x + q.x
  let y2 := q.y + q.y
  let z2 := q.z + q.z
  let xx := q.x * x2
  let xy := q.x * y2
  let xz := q.x * z2
  let yy := q.y * y2
  let yz := q.y * z2
  let zz := q.z * z2
  let wx := q.w * x2
  let wy := q.w * y2
  let wz := q.w * z2
  { xAxis := Column.scale ⟨1 - (yy + zz), xy + wz, xz - wy, 0⟩ s.x
    yAxis := Column.scale ⟨xy - wz, 1 - (xx + zz), yz + wx, 0⟩ s.y
    zAxis := Column.scale ⟨xz + wy, yz - wx, 1 - (xx + yy), 0⟩ s.z
    origin := ⟨t.x, t.y, t.z, 1⟩ }

/-- Image of a point. -/
def apply (m : Affine) (p : Vec3 Float) : Vec3 Float :=
  let alongX := m.xAxis.scale p.x
  let alongY := (m.yAxis.scale p.y).add alongX
  let alongZ := (m.zAxis.scale p.z).add alongY
  let image := m.origin.add alongZ
  ⟨image.x, image.y, image.z⟩

end Affine

end Space

end VoxelCache
