import VoxelCache.Grid
import VoxelCache.Texture

/-!
# Slots of the data textures

Each data texture is cut into slots that hold one bucket each.  A slot is as wide
as the texture, slots lie below each other, and the slots of all textures are
numbered through.

A layout exists only for textures whose rows divide a packed bucket and in which
at least one bucket fits.
-/

namespace VoxelCache

section SlotLayout

/-- How buckets are laid out in the data textures. -/
structure SlotLayout where
  /-- Edge of a data texture. -/
  width : Nat
  /-- Number of data textures. -/
  textures : Nat
  /-- Voxels in a texel. -/
  packing : Nat
  /-- Texture rows of a slot. -/
  slotRows : Nat
  slotsPerTexture : Nat
deriving DecidableEq

namespace SlotLayout

/-- Texels that a bucket takes up. -/
def packedBucket (packing : Nat) : Nat :=
  bucketVoxels / packing

/-- The layout of some textures, or why there is none. -/
def create (width textures packing : Nat) : Except LayoutFault SlotLayout :=
  let texels := packedBucket packing
  let rows := texels / width
  if packing ≠ 1 ∧ packing ≠ 2 ∧ packing ≠ 4 then
    .error (.packing packing)
  else if width = 0 ∨ texels % width ≠ 0 then
    .error (.ragged texels width)
  else if width < rows then
    .error (.tooTall rows width)
  else
    .ok ⟨width, textures, packing, rows, width / rows⟩

/-- Number of slots. -/
def capacity (layout : SlotLayout) : Nat :=
  layout.slotsPerTexture * layout.textures

/-- The data texture in which a slot lies. -/
def textureOf (layout : SlotLayout) (slot : Nat) : Nat :=
  slot / layout.slotsPerTexture

/-- The rectangle that a slot takes up in its texture. -/
def rectOf (layout : SlotLayout) (slot : Nat) : Rect where
  x := 0
  y := layout.slotRows * (slot % layout.slotsPerTexture)
  width := layout.width
  height := layout.slotRows

end SlotLayout

end SlotLayout

end VoxelCache
