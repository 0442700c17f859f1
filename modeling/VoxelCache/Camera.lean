import VoxelCache.Space

/-!
# Flight camera

A camera has a position, a rotation and a continuous zoom factor; at factor one,
a voxel fills one screen unit.  It looks along its own third axis.

Every operation returns a new camera.  The zoom factor given to `create` and
`setZoom` is held above zero; a factor that is no number becomes the least one.
-/

namespace VoxelCache

section Camera

/-- A free flight camera. -/
structure Camera where
  position : Vec3 Float
  rotation : Rotation
  zoom : Float

namespace Camera

/-- Camera at the origin with zoom factor one. -/
def start : Camera :=
  ⟨.splat 0, .identity, 1⟩

/-- The least normal positive floating-point number. -/
def leastZoom : Float := Float.ofBits 0x0010000000000000

/-- The zoom factor that is at least `leastZoom`. -/
def boundedZoom (zoom : Float) : Float :=
  if leastZoom < zoom then zoom else leastZoom

/-- An upright camera at a position. -/
def create (position : Vec3 Float) (zoom : Float) : Camera :=
  ⟨position, .identity, boundedZoom zoom⟩

/-- Direction of view. -/
def forward (camera : Camera) : Vec3 Float :=
  camera.rotation.apply ⟨0, 0, 1⟩

/-- Move along the direction of view. -/
def moveForward (camera : Camera) (distance : Float) : Camera :=
  { camera with position := camera.position.add (camera.forward.scale distance) }

/-- Move along the axes of the camera. -/
def moveLocal (camera : Camera) (offset : Vec3 Float) : Camera :=
  { camera with position := camera.position.add (camera.rotation.apply offset) }

/-- Turn about an axis of the camera. -/
def turn (camera : Camera) (axis : Axis) (angle : Float) : Camera :=
  { camera with
    rotation := (camera.rotation.mul (.about axis angle)).normalize }

def setZoom (camera : Camera) (zoom : Float) : Camera :=
  { camera with zoom := boundedZoom zoom }

/-- The map from camera space to the volume, scaled by the zoom factor. -/
def query (camera : Camera) : Affine :=
  .ofScaleRotationShift (.splat camera.zoom) camera.rotation camera.position

/-- The zoom step whose voxels fit the zoom factor, among the first `count` zoom steps. -/
def requestZoomStep (camera : Camera) (count : Nat) : Nat :=
  let last := Float.ofNat (count - 1)
  let step := camera.zoom.log2.ceil
  let atLeastZero := if step < 0 then 0 else step
  let bounded := if last < atLeastZero then last else atLeastZero
  bounded.toUInt32.toNat

end Camera

end Camera

end VoxelCache
