import VoxelCache.Texel
import VoxelCache.Word

/-!
# Textures

A texture is a square of texels; rectangles of it can be overwritten.

**Rasters.**  A raster keeps its texels in main memory, row by row, each texel
padded to its stored size.  A write must bring exactly the bytes of its
rectangle and must stay inside the square; a rejected write changes nothing.
Bytes are counted in 64-bit words.  A raster is ready when the switch it was
created with is on.

**Tapes.**  A taped texture checks nothing and stores nothing: its writes are
recorded on a tape that it may share with others.  It is always ready.  A tape
can be told to fail one later write or one later creation.

**Devices.**  All textures ever created live on one device, together with the
switches and tapes; a texture is named by its place on the device.
-/

namespace VoxelCache

section Texture

/-- A rectangle of texels. -/
structure Rect where
  x : Nat
  y : Nat
  width : Nat
  height : Nat
deriving DecidableEq

/-- A texture kept in main memory. -/
structure Raster where
  width : Nat
  /-- Bytes of a texel in the data of a write. -/
  texelBytes : Nat
  /-- Bytes of a texel in memory. -/
  storedBytes : Nat
  texels : ByteArray
  updateCount : Nat

namespace Raster

/--
A texture of zeros.  Bytes that a word does not count get no memory, so that the
largest textures have too little of it, or none at all.
-/
def create (width channels : Nat) (component : Component) : Except Fault Raster :=
  (TexelFormat.choose component channels).map fun format =>
    { width := width
      texelBytes := channels * component.bytes
      storedBytes := format.bytes
      texels := zeroBytes (width * width * format.bytes % longModulus)
      updateCount := 0 }

/-- Why a write is rejected, if it is. -/
def objection? (m : Raster) (length : Nat) (r : Rect) : Option UpdateFault :=
  let expected := r.width * r.height * m.texelBytes % longModulus
  if length ≠ expected then
    some (.length expected length)
  else if m.width < r.x + r.width ∨ m.width < r.y + r.height then
    some (.outOfBounds r.x r.y r.width r.height m.width)
  else
    none

/-- Copy one row of padded texels to its place. -/
def writeRow (width storedBytes : Nat) (r : Rect) (padded texels : ByteArray) (row : Nat) :
    ByteArray :=
  let rowBytes := r.width * storedBytes
  let start := ((r.y + row) * width + r.x) * storedBytes
  padded.copySlice (row * rowBytes) texels start rowBytes

/-- Overwrite a rectangle. -/
def write : Raster → ByteArray → Rect → Raster
  | ⟨width, texelBytes, storedBytes, texels, updateCount⟩, data, r =>
      let padded := padTexels texelBytes storedBytes data
      { width := width
        texelBytes := texelBytes
        storedBytes := storedBytes
        texels := (List.range r.height).foldl (writeRow width storedBytes r padded) texels
        updateCount := updateCount + 1 }

/-- Overwrite a rectangle, unless the write has to be rejected. -/
def update (m : Raster) (data : ByteArray) (r : Rect) : Except UpdateFault Raster :=
  match m.objection? data.size r with
  | some cause => .error cause
  | none => .ok (m.write data r)

end Raster

/-- A failure that waits: after `n` successes one attempt fails. -/
abbrev Fuse := Option Nat

namespace Fuse

/-- One attempt: whether it fails, and the fuse after it. -/
def burn : Fuse → Bool × Fuse
  | none => (false, none)
  | some 0 => (true, none)
  | some (n + 1) => (false, some n)

end Fuse

/-- A write as it is recorded. -/
structure Recording where
  textureWidth : Nat
  rect : Rect
  data : ByteArray

/-- Recorded writes, the earliest first, and the failures to come. -/
structure Tape where
  recordings : List Recording
  updateFuse : Fuse
  createFuse : Fuse

instance : Inhabited Tape where
  default := ⟨[], none, none⟩

/-- A texture of either kind. -/
inductive Texture where
  | kept (raster : Raster) (switch : Nat)
  | taped (width texelBytes : Nat) (tape : Nat)

instance : Inhabited Texture where
  default := .taped 0 0 0

namespace Texture

def width : Texture → Nat
  | kept raster _ => raster.width
  | taped width _ _ => width

/-- Bytes of a texel in the data of a write. -/
def texelBytes : Texture → Nat
  | kept raster _ => raster.texelBytes
  | taped _ texelBytes _ => texelBytes

def isRaster : Texture → Bool
  | kept _ _ => true
  | taped _ _ _ => false

end Texture

/-- Place of a texture on the device. -/
abbrev TextureRef := Nat

/-- What new textures are made of. -/
inductive Factory where
  | rasters (switch : Nat)
  | tapes (tape : Nat)
deriving DecidableEq

/-- All textures with their switches and tapes. -/
structure Device where
  textures : Array Texture
  switches : Array Bool
  tapes : Array Tape

namespace Device

def empty : Device :=
  ⟨#[], #[], #[]⟩

def texture (d : Device) (ref : TextureRef) : Texture :=
  d.textures.getD ref default

def tape (d : Device) (index : Nat) : Tape :=
  d.tapes.getD index default

/-- Whether a texture can be written to. -/
def isReady (d : Device) (ref : TextureRef) : Bool :=
  match d.texture ref with
  | .kept _ switch => d.switches.getD switch false
  | .taped _ _ _ => true

/-- A new switch. -/
def addSwitch (d : Device) (isOn : Bool) : Nat × Device :=
  (d.switches.size, { d with switches := d.switches.push isOn })

/-- Turn a switch on or off. -/
def setSwitch (d : Device) (switch : Nat) (isOn : Bool) : Device :=
  { d with switches := d.switches.setIfInBounds switch isOn }

/-- A new tape. -/
def addTape (d : Device) : Nat × Device :=
  (d.tapes.size, { d with tapes := d.tapes.push default })

def setTape (d : Device) (index : Nat) (tape : Tape) : Device :=
  { d with tapes := d.tapes.setIfInBounds index tape }

/-- Put a texture on the device. -/
def add (d : Device) (texture : Texture) : TextureRef × Device :=
  (d.textures.size, { d with textures := d.textures.push texture })

/-- Create a texture. -/
def create
    (d : Device) (factory : Factory) (width channels : Nat) (component : Component) :
    Except Fault TextureRef × Device :=
  match factory with
  | .rasters switch =>
      match Raster.create width channels component with
      | .error fault => (.error fault, d)
      | .ok raster =>
          let (ref, d) := d.add (.kept raster switch)
          (.ok ref, d)
  | .tapes index =>
      let tape := d.tape index
      let (fails, fuse) := tape.createFuse.burn
      let d := d.setTape index { tape with createFuse := fuse }
      if fails then
        (.error (.layout .outOfMemory), d)
      else
        let (ref, d) := d.add (.taped width (channels * component.bytes) index)
        (.ok ref, d)

/-- Write to a texture. -/
def update (d : Device) (ref : TextureRef) (data : ByteArray) (r : Rect) :
    Except Fault Unit × Device :=
  match d.texture ref with
  | .kept raster switch =>
      match raster.update data r with
      | .error cause => (.error (.update cause), d)
      | .ok raster =>
          (.ok (),
            { d with textures := d.textures.setIfInBounds ref (.kept raster switch) })
  | .taped width _ index =>
      let tape := d.tape index
      let (fails, fuse) := tape.updateFuse.burn
      if fails then
        (.error (.update .deviceLost), d.setTape index { tape with updateFuse := fuse })
      else
        (.ok (),
          d.setTape index
            { tape with
              recordings := tape.recordings ++ [⟨width, r, data⟩]
              updateFuse := fuse })

/-- A write fails for no other reason than that the texture rejects it. -/
theorem update_fst (d : Device) (ref : TextureRef) (data : ByteArray) (r : Rect) :
    (d.update ref data r).1 = .ok () ∨
      ∃ cause, (d.update ref data r).1 = .error (.update cause) := by
  unfold update
  split
  · split
    · rename_i cause _
      exact .inr ⟨cause, rfl⟩
    · exact .inl rfl
  · dsimp only
    split
    · exact .inr ⟨.deviceLost, rfl⟩
    · exact .inl rfl

/-- The rasters created with a switch, in order of creation. -/
def rastersOf (d : Device) (switch : Nat) : List Raster :=
  d.textures.toList.filterMap fun texture =>
    match texture with
    | .kept raster s => if s = switch then some raster else none
    | .taped _ _ _ => none

end Device

end Texture

end VoxelCache
