import VoxelCache.Fault
import VoxelCache.Grid
import VoxelCache.Journal
import VoxelCache.Word

/-!
# Texture plans

**Input.**  The texture limits of a graphics device, the byte width of the
voxels of each layer, and the number of buckets that each layer must hold.

**Algorithm.**  Narrow voxels share a texel.  Starting from the largest texture
size, the size is halved as long as this does not need more textures.  Counts
are 32-bit words and wrap at their width.

**Result.**  Size and number of textures per layer, and which features the
device has textures for.
-/

namespace VoxelCache

section TexturePlan

/-- Texture limits of a graphics device. -/
structure DeviceLimits where
  textureSize : Nat
  textureUnits : Nat
deriving DecidableEq

namespace DeviceLimits

/-- Least texture size a device must offer. -/
def leastTextureSize : Nat := 4096

/-- Least number of texture units a device must offer. -/
def leastTextureUnits : Nat := 8

/-- The limits of an adapter; without an adapter there is nothing to query. -/
def ofAdapter (adapter : Option DeviceLimits) : Except Fault DeviceLimits :=
  match adapter with
  | some limits => .ok limits
  | none => .error .noAdapter

def meetsMinimum (limits : DeviceLimits) : Bool :=
  leastTextureSize ≤ limits.textureSize && leastTextureUnits ≤ limits.textureUnits

/-- Refuse a device below the minimum. -/
def check (limits : DeviceLimits) : Except Fault Unit × Journal :=
  if limits.meetsMinimum then
    (.ok (), [])
  else
    (.error (.belowMinimum limits.textureSize limits.textureUnits
        leastTextureSize leastTextureUnits),
      [⟨.error,
        "[texture_setup::validate_minimum_requirements] GPU below minimum spec: GpuSpecs " ++
          s!"\x7b supported_texture_size: {limits.textureSize}, " ++
          s!"max_texture_count: {limits.textureUnits} \x7d"⟩])

end DeviceLimits

/-- Textures of one layer. -/
structure TexturePlan where
  size : Nat
  count : Nat
  /-- Voxels in a texel. -/
  packing : Nat
deriving DecidableEq

namespace TexturePlan

/-- Voxels that share a texel, by the byte width of a voxel. -/
def packingOf : Nat → Nat
  | 1 => 4
  | 2 => 2
  | _ => 1

/-- Voxels that a texture holds. -/
def voxelsPerTexture (size packing : Nat) : Nat :=
  packing * size * size

/-- Voxels of a number of buckets. -/
def voxelsOf (buckets : Nat) : Nat :=
  buckets * bucketVoxels

/-- Textures needed for a number of voxels, not yet held in a word. -/
def exactTextureCount (size packing required : Nat) : Nat :=
  (voxelsOf required + (voxelsPerTexture size packing - 1)) / voxelsPerTexture size packing

/-- Textures needed for a number of buckets. -/
def textureCount (size packing required : Nat) : Nat :=
  exactTextureCount size packing required % wordModulus

/-- Buckets that the textures hold. -/
def bucketCapacity (count size packing : Nat) : Nat :=
  packing * count * size * size / bucketVoxels % wordModulus

/-- Halve a texture size as long as this does not need more textures. -/
def shrink (packing required size : Nat) : Nat :=
  if h : 1 < size then
    if textureCount (size / 2) packing required ≤ textureCount size packing required then
      shrink packing required (size / 2)
    else
      size
  else
    size
termination_by size
decreasing_by omega

theorem shrink_le
    (packing required size : Nat) :
    shrink packing required size ≤ size := by
  fun_induction shrink packing required size with
  | case1 size _ _ ih => omega
  | case2 => exact Nat.le_refl _
  | case3 => exact Nat.le_refl _

theorem shrink_pos
    {packing required size : Nat}
    (h : 0 < size) :
    0 < shrink packing required size := by
  fun_induction shrink packing required size with
  | case1 size hlt _ ih => exact ih (by omega)
  | case2 => exact h
  | case3 => exact h

/-- The plan of a layer with the given voxel width. -/
def forLayer (limits : DeviceLimits) (bytes required : Nat) : TexturePlan :=
  let packing := packingOf bytes
  let size := shrink packing required (max limits.textureSize 1)
  ⟨size, textureCount size packing required, packing⟩

/-- Buckets that the plan's textures hold. -/
def capacity (plan : TexturePlan) : Nat :=
  bucketCapacity plan.count plan.size plan.packing

end TexturePlan

/-- One layer of data. -/
structure Layer where
  name : String
  bytes : Nat
deriving DecidableEq

/-- Plans of all layers, in layer order, and what the device can do with them. -/
structure TextureSetup where
  supportsRendering : Bool
  supportsMapping : Bool
  layers : List (Layer × TexturePlan)
  /-- Buckets that every layer can hold; there is none without layers. -/
  commonCapacity : Option Nat
deriving DecidableEq

namespace TextureSetup

/-- Each layer has one look-up texture. -/
def lookUpTexturesPerLayer : Nat := 1

/-- A mapping needs a look-up, a data and a color texture. -/
def mappingTextures : Nat := 3

/-- Texture units that the plans take up together. -/
def neededUnits (plans : List TexturePlan) : Nat :=
  (plans.length * lookUpTexturesPerLayer + (plans.map (·.count)).foldl (· + ·) 0) % wordModulus

def describeCapacity : Option Nat → String
  | some capacity => s!"Some({capacity})"
  | none => "None"

/-- Plan all layers. -/
def compute
    (limits : DeviceLimits) (layers : List Layer)
    (hasSegmentation : Bool) (required : Nat) :
    TextureSetup × Journal :=
  let planned := layers.map fun layer =>
    (layer, TexturePlan.forLayer limits layer.bytes required)
  let plans := planned.map (·.2)
  let needed := neededUnits plans
  let supportsRendering := needed ≤ limits.textureUnits
  let lacksMapping := limits.textureUnits < (needed + mappingTextures) % wordModulus
  let supportsMapping := !(hasSegmentation && lacksMapping)
  let common := (plans.map (·.capacity)).min?
  let warnings : Journal :=
    if !supportsRendering then
      [⟨.warn, s!"[texture_setup::compute] {needed} textures needed but GPU offers " ++
        s!"{limits.textureUnits}; basic rendering unsupported"⟩]
    else if !supportsMapping then
      [⟨.warn, "[texture_setup::compute] Not enough textures left for mappings; disabling them"⟩]
    else
      []
  let summary : Line :=
    ⟨.info, s!"[texture_setup::compute] Planned {plans.length} layers, " ++
      "smallest common bucket capacity " ++ describeCapacity common⟩
  (⟨supportsRendering, supportsMapping, planned, common⟩, warnings ++ [summary])

end TextureSetup

end TexturePlan

end VoxelCache
