import VoxelCache.Digest
import VoxelCache.Grid
import VoxelCache.Single

/-!
# Look-up entries

The look-up texture tells, for each address of a window of the grid, which slot
holds the data to be shown there.  The window starts at an anchor and extends
along the axes; its addresses are numbered with the first axis running fastest.

An entry is uploaded as two single-precision numbers, the slot and the zoom step
of the data.  Negative slots mark entries without data.
-/

namespace VoxelCache

section LookUp

namespace LookUp

/-- What the look-up texture says about one address. -/
inductive Entry where
  /-- Nothing is to be shown here. -/
  | outside
  /-- Something is to be shown here, but no data for it is resident. -/
  | pending (zoomStep : Nat)
  /-- A slot holds data for this address. -/
  | resident (slot zoomStep : Nat)
deriving DecidableEq

namespace Entry

instance : Inhabited Entry where
  default := outside

/-- Slot and zoom step as uploaded. -/
def values : Entry → Int × Int
  | outside => (-2, -2)
  | pending zoomStep => (-1, Single.round zoomStep)
  | resident slot zoomStep => (Single.round slot, Single.round zoomStep)

/-- The bytes of an entry. -/
def bytes (entry : Entry) : ByteArray :=
  Digest.word32 (Single.bits entry.values.1) ++ Digest.word32 (Single.bits entry.values.2)

end Entry

/-- Channels of the look-up texture. -/
def channels : Nat := 2

/-- All entries of a look-up texture. -/
abbrev Buffer := Array Entry

namespace Buffer

/-- A buffer that shows nothing. -/
def blank (entries : Nat) : Buffer :=
  Array.replicate entries .outside

/-- What is uploaded for all entries, in order; different entries may round to the same. -/
def values (buffer : Buffer) : Array (Int × Int) :=
  buffer.map Entry.values

/-- The bytes of all entries, in order. -/
def bytes (buffer : Buffer) : ByteArray :=
  buffer.foldl (fun bytes entry => bytes ++ entry.bytes) ByteArray.empty

end Buffer

/-- The number of an address in the window that starts at an anchor. -/
def index? (extent : Vec3 Nat) (anchor a : Address) : Option Nat :=
  let x := a.x - anchor.x
  let y := a.y - anchor.y
  let z := a.z - anchor.z
  if x < 0 ∨ y < 0 ∨ z < 0 ∨
      (extent.x : Int) ≤ x ∨ (extent.y : Int) ≤ y ∨ (extent.z : Int) ≤ z then
    none
  else
    some (extent.x * extent.y * z.toNat + extent.x * y.toNat + x.toNat)

end LookUp

end LookUp

end VoxelCache
